import JVLinkServer.JsonRoundTrip

namespace JVLinkServer.Json

/-! # Documents on one line

A printed document holds no newline: the newlines in its strings are escaped.
-/

mutual

/-- No number is written with a newline. -/
def OneLine : Json → Prop
  | .float literal => newline ∉ literal
  | .array items => OneLineItems items
  | .object members => OneLineMembers members
  | _ => True

def OneLineItems : List Json → Prop
  | [] => True
  | item :: rest => OneLine item ∧ OneLineItems rest

def OneLineMembers : List (Bytes × Json) → Prop
  | [] => True
  | (_, value) :: rest => OneLine value ∧ OneLineMembers rest

end

theorem shortEscape_ne_newline {byte letter : UInt8} (escaped : shortEscape byte = some letter) :
    letter ≠ newline := by
  unfold shortEscape at escaped
  grind [newline]

theorem hexDigit_ne_newline {byte : UInt8} (digit : byte < 16) : hexDigit byte ≠ newline := by
  unfold hexDigit newline
  grind

theorem newline_not_mem_escape (byte : UInt8) : newline ∉ escape byte := by
  unfold escape
  cases short : shortEscape byte with
  | some letter =>
      have other := shortEscape_ne_newline short
      simp only [List.mem_cons, List.not_mem_nil, or_false, not_or]
      exact ⟨by decide, other.symm⟩
  | none =>
      by_cases control : byte < 32
      · have high : hexDigit (byte / 16) ≠ newline := hexDigit_ne_newline (by grind)
        have low : hexDigit (byte % 16) ≠ newline := hexDigit_ne_newline (by grind)
        simp only [if_pos control, List.mem_cons, List.not_mem_nil, or_false, not_or]
        exact ⟨by decide, by decide, by decide, by decide, high.symm, low.symm⟩
      · simp only [if_neg control, List.mem_singleton]
        rintro rfl
        simp [newline, shortEscape] at short

theorem newline_not_mem_renderString (value : Bytes) : newline ∉ renderString value := by
  unfold renderString
  simp only [List.mem_cons, List.mem_append, List.mem_flatMap, List.not_mem_nil, or_false, not_or]
  exact ⟨by decide, fun ⟨byte, _, inside⟩ => newline_not_mem_escape byte inside, by decide⟩

theorem newline_not_mem_decimal (value : Int) : newline ∉ decimal value := by
  have digits (value : Nat) : newline ∉ decimalNat value := by
    intro inside
    exact absurd (decimalNat_digits value newline inside) (by decide)
  cases value with
  | ofNat value => exact digits value
  | negSucc value =>
      simp only [decimal, List.mem_cons, not_or]
      exact ⟨by decide, digits _⟩

mutual

theorem newline_not_mem_render (value : Json) (oneLine : value.OneLine) : newline ∉ value.render := by
  cases value with
  | null => decide
  | bool value => cases value <;> decide
  | integer value => exact newline_not_mem_decimal value
  | float literal => exact oneLine
  | string value => exact newline_not_mem_renderString value
  | array items =>
      cases items with
      | nil => decide
      | cons item rest =>
          simp only [render, List.mem_cons, List.mem_append, not_or]
          exact ⟨by decide, newline_not_mem_render item oneLine.1,
            newline_not_mem_renderItems rest oneLine.2⟩
  | object members =>
      cases members with
      | nil => decide
      | cons member rest =>
          obtain ⟨key, value⟩ := member
          simp only [render, List.mem_cons, List.mem_append, not_or]
          exact ⟨by decide, newline_not_mem_renderString key, by decide,
            newline_not_mem_render value oneLine.1, newline_not_mem_renderMembers rest oneLine.2⟩

theorem newline_not_mem_renderItems (items : List Json) (oneLine : OneLineItems items) :
    newline ∉ renderItems items := by
  cases items with
  | nil => decide
  | cons item rest =>
      simp only [renderItems, List.mem_cons, List.mem_append, not_or]
      exact ⟨by decide, newline_not_mem_render item oneLine.1,
        newline_not_mem_renderItems rest oneLine.2⟩

theorem newline_not_mem_renderMembers (members : List (Bytes × Json))
    (oneLine : OneLineMembers members) : newline ∉ renderMembers members := by
  cases members with
  | nil => decide
  | cons member rest =>
      obtain ⟨key, value⟩ := member
      simp only [renderMembers, List.mem_cons, List.mem_append, not_or]
      exact ⟨by decide, newline_not_mem_renderString key, by decide,
        newline_not_mem_render value oneLine.1, newline_not_mem_renderMembers rest oneLine.2⟩

end

theorem oneLine_insertMember {key : Bytes} {value : Json} {members : List (Bytes × Json)}
    (oneLine : value.OneLine) (kept : OneLineMembers members) :
    OneLineMembers (insertMember key value members) := by
  induction members with
  | nil => exact ⟨oneLine, trivial⟩
  | cons first rest ih =>
      unfold insertMember
      split
      · exact ⟨oneLine, kept.2⟩
      · split
        · exact ⟨oneLine, kept⟩
        · exact ⟨kept.1, ih kept.2⟩

theorem oneLine_record {members : List (String × Json)}
    (oneLine : ∀ member ∈ members, member.2.OneLine) : (record members).OneLine := by
  apply record_induction OneLine
  · exact trivial
  · intro member inside built kept
    exact oneLine_insertMember (oneLine member inside) kept

theorem render_ne_nil {value : Json} (object : value.isObject = true) : value.render ≠ [] := by
  cases value with
  | object members =>
      cases members with
      | nil => decide
      | cons member rest => simp [render]
  | null | bool | integer | float | string | array => cases object

end JVLinkServer.Json
