import JVLinkServer.AsyncGenerators

namespace JVLinkServer.AsyncGenerators

/-! # Generators that pass items on

A loop over another iterator that no `finally` clause guards: closing the generator
leaves the other iterator where it is.
-/

variable {σ ε α β : Type}

/-- The turns of `async for item in inner:` up to the next `yield`.  An item may be passed
over. -/
def relayNext (convert : α → Except ε (Option β)) (inner : AsyncIterator σ ε α) :
    (fuel : Nat) → σ → Pulled ε β × σ
  | 0, state => (.ends, state)
  | fuel + 1, state =>
      match inner.anext state with
      | (.yields item, after) =>
          match convert item with
          | .ok (some value) => (.yields value, after)
          | .ok none => relayNext convert inner fuel after
          | .error exception => (.raises exception, after)
      | (.ends, after) => (.ends, after)
      | (.raises exception, after) => (.raises exception, after)

/-- The generator of such a loop, over an iterator that has at most so many items left. -/
def relaying (convert : α → Except ε (Option β)) (inner : AsyncIterator σ ε α)
    (left : σ → Nat) : AsyncIterator (Frame × σ) ε β :=
  let next (state : σ) := relayNext convert inner (left state + 1) state
  generator { start := next, resume := next, exit := id }

/-- The event loop closes a generator that was suspended when its relay ended, and with it what
that one drops, as far as it gets. -/
def finalized (inner : AsyncIterator σ ε α) (behind : Nat → σ → σ) :
    (count : Nat) → Frame × σ → Frame × σ
  | count + 1, (.finished, state) => (.finished, behind count (inner.aclose state))
  | _, outer => outer

/-- What comes out of some items, and whether all of them can be converted. -/
def converted (convert : α → Except ε (Option β)) : List α → List β × Bool
  | [] => ([], true)
  | item :: items =>
      match convert item with
      | .ok (some value) => (value :: (converted convert items).1, (converted convert items).2)
      | .ok none => converted convert items
      | .error _ => ([], false)

theorem converted_whole {convert : α → Except ε (Option β)} {items : List α} :
    (converted convert items).2 = true ↔ ∀ item ∈ items, ∃ value, convert item = .ok value := by
  induction items with
  | nil => simp [converted]
  | cons item items ih =>
      rw [converted]
      cases conversion : convert item with
      | error exception => simp [conversion]
      | ok value => cases value <;> simpa [conversion] using ih

theorem converted_values {convert : α → Except ε (Option β)} {items : List α}
    (whole : (converted convert items).2 = true) :
    (converted convert items).1 = items.filterMap fun item => (convert item).toOption.join := by
  induction items with
  | nil => rfl
  | cons item items ih =>
      rw [converted] at whole ⊢
      rw [List.filterMap_cons]
      cases conversion : convert item with
      | error exception => simp [conversion] at whole
      | ok value =>
          have rest : (converted convert items).2 = true := by
            cases value <;> simpa [conversion] using whole
          cases value <;> simpa [Except.toOption] using ih rest

/-- The items that an iterator has left.  It is not idle at any of them, and at its end if
and only if that is clean. -/
inductive Feeds (iterator : AsyncIterator σ ε α) (left : σ → Nat) (idle : σ → Prop) :
    σ → List α → Bool → Prop
  | ends {state after pulled clean} (called : iterator.anext state = (pulled, after))
      (stops : pulled.isYield = false) (settled : iterator.anext after = (.ends, after))
      (released : idle after ↔ clean = true) : Feeds iterator left idle state [] clean
  | yields {state after item items clean} (called : iterator.anext state = (.yields item, after))
      (busy : ¬ idle after) (shrinks : left after < left state)
      (rest : Feeds iterator left idle after items clean) :
      Feeds iterator left idle state (item :: items) clean

variable {inner : AsyncIterator σ ε α} {left : σ → Nat} {idle : σ → Prop} {state : σ}
  {items : List α} {clean : Bool}

theorem Feeds.length_le (feeds : Feeds inner left idle state items clean) :
    items.length ≤ left state := by
  induction feeds with
  | ends called stops settled released => exact Nat.zero_le _
  | yields called busy shrinks rest ih => exact Nat.lt_of_le_of_lt ih shrinks

/-- After some calls the iterator is idle if they went past the last item to a clean end. -/
theorem Feeds.idle_pull (feeds : Feeds inner left idle state items clean) (count : Nat) :
    idle (inner.pull (count + 1) state) ↔ items.length < count + 1 ∧ clean = true := by
  induction feeds generalizing count with
  | ends called stops settled released =>
      rw [AsyncIterator.pull, called, AsyncIterator.pull_ended settled, released]
      simp
  | yields called busy shrinks rest ih =>
      rw [AsyncIterator.pull, called]
      cases count with
      | zero => simpa [AsyncIterator.pull] using busy
      | succ count =>
          rw [ih]
          simp

/-- The values of some calls are the first items. -/
theorem Feeds.values (feeds : Feeds inner left idle state items clean) (count : Nat) :
    inner.values count state = items.take count := by
  induction feeds generalizing count with
  | @ends state after pulled clean called stops settled released =>
      cases count with
      | zero => rfl
      | succ count =>
          rw [AsyncIterator.values, called]
          cases pulled with
          | yields item => cases stops
          | ends => exact AsyncIterator.values_ended settled count
          | raises exception => exact AsyncIterator.values_ended settled count
  | yields called busy shrinks rest ih =>
      cases count with
      | zero => rfl
      | succ count =>
          rw [AsyncIterator.values, called, List.take_succ_cons]
          exact congrArg _ (ih count)

/-! ## The items of a relay -/

section Relays

variable {convert : α → Except ε (Option β)}

variable (convert) in
/-- One call of a relay comes to the first item that is converted, or to the end. -/
theorem relayNext_feeds {fuel : Nat} (feeds : Feeds inner left idle state items clean)
    (enough : items.length < fuel) :
    match converted convert items with
    | ([], whole) => ∃ pulled after, relayNext convert inner fuel state = (pulled, after) ∧
        pulled.isYield = false ∧ (idle after ↔ (clean && whole) = true)
    | (value :: values, whole) => ∃ after rest,
        relayNext convert inner fuel state = (.yields value, after) ∧ ¬ idle after ∧
          left after < left state ∧ Feeds inner left idle after rest clean ∧
          converted convert rest = (values, whole) := by
  induction feeds generalizing fuel with
  | @ends state after pulled clean called stops settled released =>
      obtain ⟨fuel, rfl⟩ : ∃ more, fuel = more + 1 := ⟨fuel - 1, by omega⟩
      cases pulled with
      | yields item => cases stops
      | ends => exact ⟨.ends, after, by simp [relayNext, called, Pulled.isYield, released]⟩
      | raises exception =>
          exact ⟨.raises exception, after, by simp [relayNext, called, Pulled.isYield, released]⟩
  | @yields state after item items clean called busy shrinks rest ih =>
      obtain ⟨fuel, rfl⟩ : ∃ more, fuel = more + 1 := ⟨fuel - 1, by omega⟩
      simp only [List.length_cons] at enough
      cases conversion : convert item with
      | error exception =>
          simp only [converted, conversion]
          exact ⟨.raises exception, after, by simp [relayNext, called, conversion], rfl,
            by simp [busy]⟩
      | ok value =>
          cases value with
          | some value =>
              simp only [converted, conversion]
              exact ⟨after, items, by simp [relayNext, called, conversion], busy, shrinks, rest, rfl⟩
          | none =>
              have later := @ih fuel (by omega)
              simp only [converted, conversion, relayNext, called]
              generalize converted convert items = found at later
              obtain ⟨values, whole⟩ := found
              cases values with
              | nil => exact later
              | cons value values =>
                  obtain ⟨next, following, pulled, busyNext, shrinksNext, feeds, same⟩ := later
                  exact ⟨next, following, pulled, busyNext, Nat.lt_trans shrinksNext shrinks, feeds, same⟩

theorem relaying_anext {frame : Frame} (live : frame ≠ .finished) :
    (relaying convert inner left).anext (frame, state) =
      settle (relayNext convert inner (left state + 1) state) := by
  cases frame with
  | finished => exact absurd rfl live
  | created => rfl
  | suspended => rfl

variable (convert) in
/-- A relay has the converted items left, and is idle when the iterator behind it is. -/
theorem Feeds.relaying (feeds : Feeds inner left idle state items clean) {frame : Frame}
    (live : frame ≠ .finished) :
    Feeds (AsyncGenerators.relaying convert inner left) (fun outer => left outer.2)
      (fun outer => idle outer.2) (frame, state) (converted convert items).1
      (clean && (converted convert items).2) := by
  obtain ⟨values, whole, found⟩ : ∃ values whole, converted convert items = (values, whole) :=
    ⟨_, _, rfl⟩
  rw [found]
  induction values generalizing state items frame with
  | nil =>
      have next := relayNext_feeds convert feeds (Nat.lt_succ_of_le feeds.length_le)
      rw [found] at next
      obtain ⟨pulled, after, called, stops, released⟩ := next
      cases pulled with
      | yields value => cases stops
      | ends =>
          exact .ends (by rw [relaying_anext live, called]; rfl) rfl generator_anext_finished released
      | raises exception =>
          exact .ends (by rw [relaying_anext live, called]; rfl) rfl generator_anext_finished released
  | cons value values ih =>
      have next := relayNext_feeds convert feeds (Nat.lt_succ_of_le feeds.length_le)
      rw [found] at next
      obtain ⟨after, rest, called, busy, shrinks, later, same⟩ := next
      exact .yields (by rw [relaying_anext live, called]; rfl) busy shrinks
        (ih later (by simp) same)

/-- What every call of the iterator behind a relay keeps. -/
theorem relayNext_keeps {kept : σ → Prop} (anext : ∀ state, kept state → kept (inner.anext state).2)
    (fuel : Nat) (holds : kept state) : kept (relayNext convert inner fuel state).2 := by
  induction fuel generalizing state with
  | zero => exact holds
  | succ fuel ih =>
      have next := anext state holds
      rw [relayNext]
      generalize inner.anext state = turn at next
      obtain ⟨pulled, after⟩ := turn
      cases pulled with
      | ends => exact next
      | raises exception => exact next
      | yields item =>
          dsimp only
          cases convert item with
          | error exception => exact next
          | ok value =>
              cases value with
              | none => exact ih next
              | some value => exact next

theorem relaying_keeps {kept : σ → Prop} (anext : ∀ state, kept state → kept (inner.anext state).2)
    (outer : Frame × σ) (holds : kept outer.2) :
    kept ((relaying convert inner left).anext outer).2.2 := by
  obtain ⟨frame, state⟩ := outer
  by_cases live : frame = .finished
  · subst live
    exact holds
  · have next : kept (relayNext convert inner (left state + 1) state).2 :=
      relayNext_keeps anext _ holds
    rw [relaying_anext live]
    generalize relayNext convert inner (left state + 1) state = turn at next
    obtain ⟨pulled, after⟩ := turn
    cases pulled <;> exact next

/-- The calls of `anext` before the first of `aclose`. -/
def pulls (calls : List AsyncIterator.Call) : Nat :=
  (calls.takeWhile (· = .anext)).length

theorem relaying_aclose (outer : Frame × σ) :
    (relaying convert inner left).aclose outer = (.finished, outer.2) := by
  obtain ⟨frame, state⟩ := outer
  cases frame <;> rfl

/-- Closing a relay changes nothing behind it. -/
theorem relaying_after (calls : List AsyncIterator.Call) (outer : Frame × σ) :
    ((relaying convert inner left).after calls outer).2 =
      ((relaying convert inner left).pull (pulls calls) outer).2 := by
  induction calls generalizing outer with
  | nil => rfl
  | cons call calls ih =>
      cases call with
      | anext => simpa [AsyncIterator.after, AsyncIterator.pull, pulls] using ih _
      | aclose =>
          have stays : ∀ calls, (relaying convert inner left).after calls (.finished, outer.2) =
              (.finished, outer.2) := by
            intro calls
            induction calls with
            | nil => rfl
            | cons call calls ih => cases call <;> exact ih
          simp [AsyncIterator.after, relaying_aclose, stays, pulls, AsyncIterator.pull]

variable (idle) in
/-- A relay that is used and closed, over an iterator that is idle before its first call. -/
theorem relaying_idle_iff {outer : Frame × σ} {values : List β} {size : Frame × σ → Nat}
    (feeds : Feeds (relaying convert inner left) size (fun outer => idle outer.2) outer values clean)
    (unstarted : idle outer.2) (calls : List AsyncIterator.Call) :
    idle ((relaying convert inner left).aclose
        ((relaying convert inner left).after calls outer)).2 ↔
      pulls calls = 0 ∨ values.length < pulls calls ∧ clean = true := by
  rw [relaying_aclose, relaying_after]
  cases pulls calls with
  | zero => exact iff_of_true unstarted (.inl rfl)
  | succ count => simpa using feeds.idle_pull count

end Relays

end JVLinkServer.AsyncGenerators
