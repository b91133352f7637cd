import Mathlib

namespace JVLinkServer.History

/-! # Records of events

A record grows at its end, so a property of every event and of what came before it
is proved along the growth.
-/

variable {α : Type} {holds : List α → α → Prop} {events : List α}

def EachEvent (holds : List α → α → Prop) (events : List α) : Prop :=
  ∀ before event after, events = before ++ event :: after → holds before event

theorem eachEvent_nil : EachEvent holds [] := by
  intro before event after split
  simp at split

theorem eachEvent_concat {event : α} :
    EachEvent holds (events ++ [event]) ↔ EachEvent holds events ∧ holds events event := by
  constructor
  · intro each
    refine ⟨fun before earlier after split => ?_, each events event [] rfl⟩
    exact each before earlier (after ++ [event]) (by simp [split])
  · rintro ⟨each, last⟩ before earlier after split
    rcases List.eq_nil_or_concat after with rfl | ⟨after, final, rfl⟩
    · have ends := List.append_inj' split rfl
      obtain ⟨rfl, same⟩ := ends
      obtain rfl := List.singleton_inj.mp same
      exact last
    · have longer : events ++ [event] = (before ++ earlier :: after) ++ [final] := by
        simpa using split
      exact each before earlier after (List.append_inj' longer rfl).1

end JVLinkServer.History
