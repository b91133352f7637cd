import Mathlib

namespace JVLinkServer

/-! # Slices of a list

A record of a fixed width is read by slices, each a start and a size.  Slices that lie one
after the other determine the items between the first start and the last end, gaps apart.
-/

/-- The items from a start on, of which there are `size`, if there are so many. -/
def slice {α : Type} (start size : Nat) (items : List α) : List α := (items.drop start).take size

structure Extent where
  start : Nat
  size : Nat
  deriving DecidableEq, Repr

namespace Extent

def stop (extent : Extent) : Nat := extent.start + extent.size

def Covers (extent : Extent) (index : Nat) : Prop := extent.start ≤ index ∧ index < extent.stop

def shift (offset : Nat) (extent : Extent) : Extent :=
  { extent with start := offset + extent.start }

/-- What is between the extents, which follow each other from `start` to `stop`. -/
def gaps (start stop : Nat) : List Extent → List Extent
  | [] => if start = stop then [] else [{ start, size := stop - start }]
  | extent :: rest =>
      if start = extent.start then gaps extent.stop stop rest
      else { start, size := extent.start - start } :: gaps extent.stop stop rest

/-- Each begins where the one before it ends, or later. -/
def ascending (start stop : Nat) : List Extent → Bool
  | [] => start ≤ stop
  | extent :: rest => start ≤ extent.start && ascending extent.stop stop rest

end Extent

/-- The lists have the same items inside the extent. -/
def AgreeOn {α : Type} (first second : List α) (extent : Extent) : Prop :=
  ∀ index, extent.Covers index → first[index]? = second[index]?

section Slices

variable {α : Type} {start size stop index : Nat} {items first second : List α}
  {extent : Extent} {extents : List Extent}

theorem length_slice (fits : start + size ≤ items.length) :
    (slice start size items).length = size := by
  rw [slice, List.length_take, List.length_drop]
  omega

theorem getElem?_slice (index : Nat) :
    (slice start size items)[index]? = if index < size then items[start + index]? else none := by
  rw [slice, List.getElem?_take]
  split
  · rw [List.getElem?_drop]
  · rfl

/-- A slice is read from its own items only. -/
theorem slice_eq_iff :
    slice start size first = slice start size second ↔ AgreeOn first second ⟨start, size⟩ := by
  constructor
  · intro same index covered
    obtain ⟨after, before⟩ := covered
    have inside : index - start < size := by
      change index < start + size at before
      change start ≤ index at after
      omega
    have found := congrArg (fun taken => taken[index - start]?) same
    simp only [getElem?_slice, if_pos inside] at found
    rwa [Nat.add_sub_cancel' after] at found
  · intro agree
    apply List.ext_getElem?
    intro index
    rw [getElem?_slice, getElem?_slice]
    split
    · next inside =>
        exact agree (start + index) ⟨Nat.le_add_right _ _, Nat.add_lt_add_left inside start⟩
    · rfl

/-- Slices that follow each other. -/
theorem slice_append (start size more : Nat) (items : List α) :
    slice start size items ++ slice (start + size) more items =
      slice start (size + more) items := by
  rw [slice, slice, slice, List.take_add, List.drop_drop]

/-- Every place between the ends is in one of the extents or in a gap. -/
theorem covered_or_gap (ordered : Extent.ascending start stop extents = true)
    (after : start ≤ index)
    (before : index < stop) :
    (∃ extent ∈ extents, extent.Covers index) ∨
      ∃ gap ∈ Extent.gaps start stop extents, gap.Covers index := by
  induction extents generalizing start with
  | nil =>
      right
      have apart : start ≠ stop := by omega
      refine ⟨⟨start, stop - start⟩, by simp [Extent.gaps, apart], after, ?_⟩
      change index < start + (stop - start)
      omega
  | cons extent extents ih =>
      obtain ⟨later, ordered⟩ := (Bool.and_eq_true _ _).mp ordered
      have later := of_decide_eq_true later
      by_cases inside : index < extent.stop
      · by_cases early : index < extent.start
        · right
          have apart : start ≠ extent.start := by omega
          refine ⟨⟨start, extent.start - start⟩, by simp [Extent.gaps, apart], after, ?_⟩
          change index < start + (extent.start - start)
          omega
        · exact .inl ⟨extent, List.mem_cons_self, by omega, inside⟩
      · obtain ⟨other, member, covers⟩ | ⟨gap, member, covers⟩ := ih ordered (by omega)
        · exact .inl ⟨other, List.mem_cons_of_mem _ member, covers⟩
        · refine .inr ⟨gap, ?_, covers⟩
          unfold Extent.gaps
          split
          · exact member
          · exact List.mem_cons_of_mem _ member

theorem within_of_ascending (ordered : Extent.ascending start stop extents = true) :
    start ≤ stop ∧ ∀ extent ∈ extents, start ≤ extent.start ∧ extent.stop ≤ stop := by
  induction extents generalizing start with
  | nil => exact ⟨of_decide_eq_true ordered, by simp⟩
  | cons extent extents ih =>
      obtain ⟨later, ordered⟩ := (Bool.and_eq_true _ _).mp ordered
      have later := of_decide_eq_true later
      obtain ⟨bounded, inside⟩ := ih ordered
      have size : extent.start ≤ extent.stop := Nat.le_add_right _ _
      refine ⟨by omega, ?_⟩
      intro other member
      obtain rfl | member := List.mem_cons.mp member
      · exact ⟨later, bounded⟩
      · obtain ⟨after, before⟩ := inside other member
        exact ⟨by omega, before⟩

theorem gap_after (ordered : Extent.ascending start stop extents = true) {gap : Extent}
    (between : gap ∈ Extent.gaps start stop extents) : start ≤ gap.start := by
  induction extents generalizing start with
  | nil =>
      unfold Extent.gaps at between
      split at between
      · cases between
      · rw [List.mem_singleton.mp between]
  | cons extent extents ih =>
      obtain ⟨later, ordered⟩ := (Bool.and_eq_true _ _).mp ordered
      have later := of_decide_eq_true later
      have size : extent.start ≤ extent.stop := Nat.le_add_right _ _
      have rest (between : gap ∈ Extent.gaps extent.stop stop extents) : start ≤ gap.start :=
        Nat.le_trans (Nat.le_trans later size) (ih ordered between)
      unfold Extent.gaps at between
      split at between
      · exact rest between
      · obtain rfl | between := List.mem_cons.mp between
        · exact Nat.le_refl _
        · exact rest between

/-- A gap has no place in an extent. -/
theorem gap_apart (ordered : Extent.ascending start stop extents = true) {gap : Extent}
    (between : gap ∈ Extent.gaps start stop extents) (inside : extent ∈ extents)
    (covers : extent.Covers index) : ¬ gap.Covers index := by
  induction extents generalizing start with
  | nil => cases inside
  | cons first extents ih =>
      obtain ⟨-, follows⟩ := (Bool.and_eq_true _ _).mp ordered
      have firstStop : first.start ≤ first.stop := Nat.le_add_right _ _
      have least : first.start ≤ extent.start := by
        obtain rfl | inside := List.mem_cons.mp inside
        · exact Nat.le_refl _
        · exact Nat.le_trans firstStop ((within_of_ascending follows).2 extent inside).1
      have rest (between : gap ∈ Extent.gaps first.stop stop extents) : ¬ gap.Covers index := by
        obtain rfl | inside := List.mem_cons.mp inside
        · intro within
          have after := gap_after follows between
          have before := covers.2
          have inner := within.1
          omega
        · exact ih follows between inside
      unfold Extent.gaps at between
      split at between
      · exact rest between
      · obtain rfl | between := List.mem_cons.mp between
        · intro within
          have before : index < start + (first.start - start) := within.2
          have inner : start ≤ index := within.1
          have after := covers.1
          omega
        · exact rest between

/-- Lists that agree on extents agree outside of the gaps. -/
theorem agree_outside_gaps (ordered : Extent.ascending start stop extents = true)
    (agree : ∀ extent ∈ extents, AgreeOn first second extent) (after : start ≤ index)
    (before : index < stop) (outside : ∀ gap ∈ Extent.gaps start stop extents, ¬ gap.Covers index) :
    first[index]? = second[index]? := by
  obtain ⟨extent, member, covers⟩ | ⟨gap, member, covers⟩ := covered_or_gap ordered after before
  · exact agree extent member index covers
  · exact absurd covers (outside gap member)

theorem agree_of_gapless (ordered : Extent.ascending start stop extents = true)
    (gapless : Extent.gaps start stop extents = [])
    (agree : ∀ extent ∈ extents, AgreeOn first second extent) :
    AgreeOn first second ⟨start, stop - start⟩ := by
  intro index covers
  obtain ⟨after, before⟩ := covers
  change start ≤ index at after
  change index < start + (stop - start) at before
  apply agree_outside_gaps ordered agree after (by omega)
  rw [gapless]
  simp

theorem AgreeOn.mono {outer inner : Extent} (agree : AgreeOn first second outer)
    (after : outer.start ≤ inner.start) (before : inner.stop ≤ outer.stop) :
    AgreeOn first second inner :=
  fun index covers =>
    agree index ⟨Nat.le_trans after covers.1, Nat.lt_of_lt_of_le covers.2 before⟩

/-- The extents that follow each other do not meet. -/
theorem disjoint_of_ascending (ordered : Extent.ascending start stop extents = true) :
    extents.Pairwise fun earlier later => earlier.stop ≤ later.start := by
  induction extents generalizing start with
  | nil => exact List.Pairwise.nil
  | cons extent extents ih =>
      obtain ⟨-, ordered⟩ := (Bool.and_eq_true _ _).mp ordered
      exact List.pairwise_cons.mpr
        ⟨fun other member => ((within_of_ascending ordered).2 other member).1, ih ordered⟩

variable (start size) in
/-- The place of an item among items of one size. -/
theorem repeated_within {count i : Nat} (inside : i < count) :
    start + i * size + size ≤ start + count * size := by
  have most := Nat.mul_le_mul_right size (Nat.succ_le_of_lt inside)
  rw [Nat.succ_mul] at most
  omega

/-- Items of one size, without a gap. -/
theorem agree_repeated {count : Nat}
    (agree : ∀ i < count, AgreeOn first second ⟨start + i * size, size⟩) :
    AgreeOn first second ⟨start, count * size⟩ := by
  intro index covers
  obtain ⟨after, before⟩ := covers
  change start ≤ index at after
  change index < start + count * size at before
  have positive : 0 < size := by
    by_contra none
    have zero : size = 0 := by omega
    rw [zero, Nat.mul_zero] at before
    omega
  have inside : (index - start) / size < count := by
    rw [Nat.div_lt_iff_lt_mul positive]
    omega
  apply agree ((index - start) / size) inside
  have lower := Nat.div_mul_le_self (index - start) size
  have upper := Nat.lt_div_mul_add positive (a := index - start)
  constructor
  · change start + (index - start) / size * size ≤ index
    omega
  · change index < start + (index - start) / size * size + size
    omega

end Slices

end JVLinkServer
