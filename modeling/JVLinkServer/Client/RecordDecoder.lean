import JVLinkServer.Client.MasterDecoders
import JVLinkServer.Records.RecordParser

namespace JVLinkServer.Client

open JVLinkServer.Records

/-! # Records of the domain

`RecordDecoder` looks up the decoder of the type of a row and applies it to the data.
-/

/-- A record of a type without a decoder keeps its data. -/
inductive DomainRecord
  | known (type : Bytes) (attributes : List (String × AttributeValue))
  | unknown (type : Bytes) (data : Json)

abbrev DecodeFn := Json → Converted DomainRecord

structure DomainEnvelope where
  type : Bytes
  record : DomainRecord
  raw : Option Json

structure RecordDecoder where
  knownRecordTypes : List Bytes
  registry : List (Bytes × DecodeFn)

section Decoding

variable (python : PythonStr)

/-- The decoder of a type as it stands in the registry. -/
def Decoder.fn (type : String) (decoder : Decoder) : DecodeFn := fun payload => do
  return .known (utf8 type) (← decoder.decode python payload)

namespace RecordDecoder

/-- `RecordDecoder(registry, known_record_types)`; the last decoder for a type counts. -/
def create (registry : Option (List (Bytes × DecodeFn)))
    (knownRecordTypes : Option (List Bytes)) : RecordDecoder :=
  let normalize (type : Bytes) : Bytes := normalizeRecordType python (some (.string type))
  let types := match knownRecordTypes with
    | some types => types.map normalize
    | none => recordTypes.map utf8
  let own := (registry.getD []).map fun entry => (normalize entry.1, entry.2)
  let defaults := (defaultDecoderMap.map fun entry =>
    (utf8 entry.1, Decoder.fn python entry.1 entry.2)).filter fun entry => types.contains entry.1
  { knownRecordTypes := types ++ own.map Prod.fst
    registry := own.reverse ++ defaults }

/-- `RecordDecoder()` -/
def default : RecordDecoder := create python none none

variable (decoder : RecordDecoder)

def decode (recordType payload : Option Json) : Converted DomainRecord :=
  let normalized := normalizeRecordType python recordType
  let normalizedPayload := toDict payload
  if !decoder.knownRecordTypes.contains normalized then .ok (.unknown normalized normalizedPayload)
  else
    match decoder.registry.lookup normalized with
    | none => .ok (.unknown normalized normalizedPayload)
    | some decodeFn => decodeFn normalizedPayload

def decodeEnvelope (envelope : RecordEnvelope) : Converted DomainEnvelope := do
  let recordType := normalizeRecordType python (some (.string envelope.type))
  let payload := toDict (some envelope.record)
  let record ← decoder.decode python (some (.string recordType)) (some payload)
  return { type := recordType, record, raw := envelope.raw }

end RecordDecoder

end Decoding

/-! ## The default decoders -/

/-- The decoder that the default registry has for a type. -/
def decoderOf : RecordType → Decoder
  | .ra => decodeRA | .se => decodeSE | .hr => decodeHR | .wh => decodeWH | .o1 => decodeO1
  | .tk => decodeTK | .h1 => decodeH1 | .h6 => decodeH6 | .o2 => decodeO2 | .o3 => decodeO3
  | .o4 => decodeO4 | .o5 => decodeO5 | .o6 => decodeO6 | .wf => decodeWF | .jg => decodeJG
  | .dm => decodeDM | .tm => decodeTM | .ck => decodeCK | .we => decodeWE | .av => decodeAV
  | .jc => decodeJC | .tc => decodeTC | .cc => decodeCC | .um => decodeUM | .ks => decodeKS
  | .ch => decodeCH | .br => decodeBR | .bn => decodeBN | .rc => decodeRC | .hn => decodeHN
  | .sk => decodeSK | .bt => decodeBT | .hc => decodeHC | .ys => decodeYS | .hs => decodeHS
  | .hy => decodeHY | .cs => decodeCS | .wc => decodeWC
  | .unknown => { prologue := .header, attributes := [] }

theorem decoderOf_mem {type : RecordType} (known : type ≠ .unknown) :
    (type.name, decoderOf type) ∈ defaultDecoderMap := by
  cases type with
  | unknown => exact absurd rfl known
  | _ => repeat first | exact List.mem_cons_self | apply List.mem_cons_of_mem

/-- Both tables have the types of the server. -/
theorem defaultDecoderMap_types : (defaultDecoderMap.map Prod.fst = recordTypes) ∧
    (recordTypes.map utf8).Nodup ∧
    ∀ name ∈ recordTypes, ∃ type ∈ RecordType.known, type.name = name := by
  refine ⟨rfl, by decide +kernel, ?_⟩
  decide +kernel

section Default

variable (python : PythonStr)

theorem default_types : (RecordDecoder.default python).knownRecordTypes = recordTypes.map utf8 :=
  List.append_nil _

theorem default_registry : (RecordDecoder.default python).registry =
    defaultDecoderMap.map fun entry => (utf8 entry.1, Decoder.fn python entry.1 entry.2) := by
  change [] ++ List.filter _ _ = _
  rw [List.nil_append, List.filter_eq_self]
  intro entry member
  obtain ⟨own, inside, rfl⟩ := List.mem_map.mp member
  have listed : own.1 ∈ recordTypes := by
    rw [← defaultDecoderMap_types.1]
    exact List.mem_map_of_mem inside
  exact List.contains_iff_mem.mpr (List.mem_map_of_mem listed)

variable {python} {recordType payload : Option Json}

theorem decode_known {type : RecordType} (known : type ≠ .unknown)
    (is : normalizeRecordType python recordType = utf8 type.name) :
    (RecordDecoder.default python).decode python recordType payload =
      (decoderOf type).fn python type.name (toDict payload) := by
  have member := decoderOf_mem known
  have listed : type.name ∈ recordTypes := by
    rw [← defaultDecoderMap_types.1]
    exact List.mem_map_of_mem member
  have found : (RecordDecoder.default python).registry.lookup (utf8 type.name) =
      some ((decoderOf type).fn python type.name) := by
    obtain ⟨before, after, split⟩ := List.append_of_mem member
    rw [default_registry, List.lookup_eq_some_iff, split, List.map_append, List.map_cons]
    refine ⟨_, _, rfl, ?_⟩
    have distinct := defaultDecoderMap_types.2.1
    rw [← defaultDecoderMap_types.1, split, List.map_append, List.map_append] at distinct
    intro entry inside
    obtain ⟨own, earlier, rfl⟩ := List.mem_map.mp inside
    have apart := (List.nodup_append.mp distinct).2.2 (utf8 own.1)
      (List.mem_map_of_mem (List.mem_map_of_mem earlier)) (utf8 type.name) List.mem_cons_self
    simpa using apart.symm
  unfold RecordDecoder.decode
  dsimp only
  rw [is, default_types, found]
  simp [List.mem_map_of_mem listed]

theorem decode_unknown
    (other : ∀ type ∈ RecordType.known, normalizeRecordType python recordType ≠ utf8 type.name) :
    (RecordDecoder.default python).decode python recordType payload =
      .ok (.unknown (normalizeRecordType python recordType) (toDict payload)) := by
  unfold RecordDecoder.decode
  dsimp only
  rw [default_types]
  have absent : normalizeRecordType python recordType ∉ recordTypes.map utf8 := by
    intro listed
    obtain ⟨name, inside, same⟩ := List.mem_map.mp listed
    obtain ⟨type, known, rfl⟩ := defaultDecoderMap_types.2.2 name inside
    exact other type known same.symm
  simp [absent]

end Default

end JVLinkServer.Client
