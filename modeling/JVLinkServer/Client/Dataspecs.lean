import JVLinkServer.Client.Errors
import JVLinkServer.Client.Fanout
import JVLinkServer.PythonText

namespace JVLinkServer.Client

/-! # Dataspecs

The codes that JV-Link knows, and where they may be used.
-/

inductive JVDataSpec
  | toku | race | diff | difn | blod | bldn | ming | snap | snpn | slop | ysch | hose
  | hosn | hoyu | comm | wood | tcov | tcvn | rcov | rcvn | batai | sokhoRaceResult
  | sokhoDataMining | sokhoKaisaiBatch | sokhoRaceUma | sokhoKaisaiShitei | sokhoDmTaisen
  | sokhoHyosuAll | sokhoOddsAll | sokhoOddsTanfuku | sokhoOddsUmaren | sokhoOddsWide
  | sokhoOddsUmatan | sokhoOddsSanrenpuku | sokhoOddsSanrentan | jikeiOddsTanfuku
  | jikeiOddsUmaren | sokhoWin5
  deriving DecidableEq, Repr

namespace JVDataSpec

def value : JVDataSpec → String
  | toku => "TOKU" | race => "RACE" | diff => "DIFF" | difn => "DIFN" | blod => "BLOD"
  | bldn => "BLDN" | ming => "MING" | snap => "SNAP" | snpn => "SNPN" | slop => "SLOP"
  | ysch => "YSCH" | hose => "HOSE" | hosn => "HOSN" | hoyu => "HOYU" | comm => "COMM"
  | wood => "WOOD" | tcov => "TCOV" | tcvn => "TCVN" | rcov => "RCOV" | rcvn => "RCVN"
  | batai => "0B11" | sokhoRaceResult => "0B12" | sokhoDataMining => "0B13"
  | sokhoKaisaiBatch => "0B14" | sokhoRaceUma => "0B15" | sokhoKaisaiShitei => "0B16"
  | sokhoDmTaisen => "0B17" | sokhoHyosuAll => "0B20" | sokhoOddsAll => "0B30"
  | sokhoOddsTanfuku => "0B31" | sokhoOddsUmaren => "0B32" | sokhoOddsWide => "0B33"
  | sokhoOddsUmatan => "0B34" | sokhoOddsSanrenpuku => "0B35" | sokhoOddsSanrentan => "0B36"
  | jikeiOddsTanfuku => "0B41" | jikeiOddsUmaren => "0B42" | sokhoWin5 => "0B51"

/-- The codes in the order of the enumeration. -/
def all : List JVDataSpec :=
  [.toku, .race, .diff, .difn, .blod, .bldn, .ming, .snap, .snpn, .slop, .ysch, .hose, .hosn,
    .hoyu, .comm, .wood, .tcov, .tcvn, .rcov, .rcvn, .batai, .sokhoRaceResult, .sokhoDataMining,
    .sokhoKaisaiBatch, .sokhoRaceUma, .sokhoKaisaiShitei, .sokhoDmTaisen, .sokhoHyosuAll,
    .sokhoOddsAll, .sokhoOddsTanfuku, .sokhoOddsUmaren, .sokhoOddsWide, .sokhoOddsUmatan,
    .sokhoOddsSanrenpuku, .sokhoOddsSanrentan, .jikeiOddsTanfuku, .jikeiOddsUmaren, .sokhoWin5]

/-- `JVDataSpec(code)` -/
def ofValue? (code : List Char) : Option JVDataSpec := all.find? (·.value.toList == code)

theorem ofValue?_value (spec : JVDataSpec) : ofValue? spec.value.toList = some spec := by
  cases spec <;> decide

theorem ofValue?_eq_some {code : List Char} {spec : JVDataSpec} :
    ofValue? code = some spec ↔ code = spec.value.toList := by
  constructor
  · intro found
    have same := List.find?_some found
    exact (eq_of_beq same).symm
  · rintro rfl
    exact ofValue?_value spec

theorem value_injective : Function.Injective value := by
  intro first second same
  have read := ofValue?_value first
  rw [same, ofValue?_value] at read
  exact (Option.some.inj read).symm

theorem value_length (spec : JVDataSpec) : spec.value.toList.length = 4 := by
  cases spec <;> rfl

/-- `DATASPEC_TO_RECORDS` -/
def records (spec : JVDataSpec) : List String := (dataspecToRecords.lookup spec.value).getD []

/-- `REALTIME_DATASPECS` -/
def realtime : List JVDataSpec :=
  [.batai, .sokhoRaceResult, .sokhoDataMining, .sokhoKaisaiBatch, .sokhoRaceUma,
    .sokhoKaisaiShitei, .sokhoDmTaisen, .sokhoHyosuAll, .sokhoOddsAll, .sokhoOddsTanfuku,
    .sokhoOddsUmaren, .sokhoOddsWide, .sokhoOddsUmatan, .sokhoOddsSanrenpuku, .sokhoOddsSanrentan,
    .jikeiOddsTanfuku, .jikeiOddsUmaren, .sokhoWin5]

/-- `VALID_DATASPECS_BY_OPTION` -/
def validByOption : Int → Option (List JVDataSpec)
  | 1 | 3 | 4 => some
      [.toku, .race, .diff, .difn, .blod, .bldn, .snap, .snpn, .slop, .wood, .ysch, .hose, .hosn,
        .hoyu, .comm, .ming]
  | 2 => some [.toku, .race, .tcov, .tcvn, .rcov, .rcvn, .snap, .snpn]
  | _ => none

/-- `_NO_END_DATE_SPECS` -/
def noEndDate : List String :=
  ["TOKU", "DIFF", "DIFN", "HOSE", "HOSN", "HOYU", "COMM"]

/-- `_REALTIME_DATE_ONLY_DATASPECS` -/
def realtimeDateOnly : List JVDataSpec :=
  [.sokhoKaisaiBatch, .sokhoWin5]

/-- `_REALTIME_RACE_ONLY_DATASPECS` -/
def realtimeRaceOnly : List JVDataSpec :=
  [.sokhoRaceResult, .sokhoHyosuAll, .sokhoOddsAll, .sokhoOddsTanfuku, .sokhoOddsUmaren,
    .sokhoOddsWide, .sokhoOddsUmatan, .sokhoOddsSanrenpuku, .sokhoOddsSanrentan,
    .jikeiOddsTanfuku, .jikeiOddsUmaren]

/-- `_REALTIME_DATE_OR_RACE_DATASPECS` -/
def realtimeDateOrRace : List JVDataSpec :=
  [.batai, .sokhoDataMining, .sokhoRaceUma, .sokhoDmTaisen]

/-- `_REALTIME_EVENT_ONLY_DATASPECS` -/
def realtimeEventOnly : List JVDataSpec :=
  [.sokhoKaisaiShitei]

end JVDataSpec

end JVLinkServer.Client
