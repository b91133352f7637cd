import JVLinkServer.Core.ComCallRules
import JVLinkServer.Core.StreamPhases

namespace JVLinkServer.Core

open Effects

/-! # The phases of a query in the state of its client

Only the callbacks reach the code behind them: what the client says about them is
enough for the whole query.
-/

section ClientPhases

variable {κ ρ α : Type} {jv : JVLink κ} {client : StreamClient ρ} {query : StoredQuery}

structure ClientPhases (client : StreamClient ρ) (opening reading : ρ → Prop)
    (thrown : Exception → ρ → Prop) : Prop where
  pollsOpening : Ensures opening client.cancelRequested (fun _ => opening) thrown
  describes result : result.success = true →
    Ensures opening (client.metaCallback result) (fun _ => reading) thrown
  records record : Ensures reading (client.recordCallback record) (fun _ => reading) thrown
  pollsReading : Ensures reading client.cancelRequested (fun _ => reading) thrown
  leaves exception state : exception ≠ .clientDisconnected → opening state ∨ reading state →
    thrown exception state

/-- What holds of the client, in the world around it. -/
def AtClient (kept : ρ → Prop) (world : World κ ρ) : Prop := kept world.client

theorem atClient_beside (kept : ρ → Prop) : Beside (AtClient (κ := κ) kept) := by
  intro before after alike holds
  rwa [AtClient, alike.client]

theorem callBack_atClient {action : EStateM Exception ρ α} {pre : ρ → Prop} {post : α → ρ → Prop}
    {thrown : Exception → ρ → Prop} (ensured : Ensures pre action post thrown) :
    Ensures (AtClient (κ := κ) pre) (callBack action) (fun value => AtClient (post value))
      (fun exception => AtClient (thrown exception)) := by
  intro world holds
  have ended := ensured world.client holds
  unfold callBack
  cases run : action world.client with
  | ok value after =>
      rw [run] at ended
      exact ended
  | error exception after =>
      rw [run] at ended
      exact ended

variable {kept : ρ → Prop} {thrown : Exception → World κ ρ → Prop}

theorem recordFile_atClient (event : FileEvent) :
    Ensures (AtClient (κ := κ) kept) (recordFile event) (fun _ => AtClient kept) thrown :=
  Ensures.update fun _ holds => holds

theorem jvGets_atClient (attemptsLeft : Nat) (filename : Bytes) :
    Ensures (AtClient kept) (jvGets jv attemptsLeft none filename) (fun _ => AtClient kept)
      thrown := by
  refine Ensures.bind Ensures.peek fun world => ?_
  refine Ensures.ite (fun _ => Ensures.pure fun _ holds => holds) fun _ => ?_
  refine Ensures.bind ((atClient_beside kept).anyEnv.ask _) fun reply => ?_
  exact Ensures.bind (recordFile_atClient _) fun _ => Ensures.pure fun _ holds => holds

theorem jvGetsAttempts_atClient (attemptsLeft : Nat) (filename : Bytes) :
    Ensures (AtClient kept) (jvGetsAttempts jv attemptsLeft filename) (fun _ => AtClient kept)
      thrown := by
  induction attemptsLeft generalizing filename with
  | zero => exact jvGets_atClient 0 filename
  | succ attemptsLeft ih =>
      refine Ensures.bind (jvGets_atClient (attemptsLeft + 1) filename) fun result => ?_
      refine Ensures.ite (fun _ => ?_) fun _ => Ensures.pure fun _ holds => holds
      refine Ensures.bind (Ensures.bind (recordFile_atClient _) fun _ => ?_)
        fun _ => ih result.filename
      exact (atClient_beside kept).anyEnv.reads _

/-- A COM call of a query leaves the client alone. -/
theorem comCall_atClient {callable : Action κ ρ α}
    (runs : Ensures (AtClient kept) callable (fun _ => AtClient kept) fun _ _ => False)
    (operationName : String) (timeout : TimeoutConfig → Nat) :
    Ensures (AtClient kept) (invokeComCall jv operationName timeout callable)
      (fun _ => AtClient kept) (fun exception world => exception.isFault = true ∧ kept world.client) :=
  (atClient_beside kept).invokeComCall runs operationName timeout

/-- The destructor of the guard does not reach the client either. -/
theorem closeSession_atClient {world : World κ ρ} (holds : kept world.client) :
    kept (finalState (closeSession jv world)).client :=
  (((atClient_beside kept).closeSession).mono (fun _ before => before)
    (fun _ _ after => after) (fun _ _ none => none.elim) world holds :
      Ends (fun _ => AtClient kept) (fun _ => AtClient kept) _).finalState

section Callbacks

variable {post : Bool → ρ → Prop} {raised : Exception → ρ → Prop}

theorem shouldCancel_atClient (polls : Ensures kept client.cancelRequested post raised) :
    Ensures (AtClient (κ := κ) kept) (shouldCancel client) (fun answer => AtClient (post answer))
      (fun exception => AtClient (raised exception)) :=
  Ensures.bind (atClient_beside kept).observe fun _ => callBack_atClient polls

theorem metaCallback_atClient {result : JVQueryResult} {post : Unit → ρ → Prop}
    (describes : Ensures kept (client.metaCallback result) post raised) :
    Ensures (AtClient (κ := κ) kept) (metaCallback client result) (fun value => AtClient (post value))
      (fun exception => AtClient (raised exception)) :=
  Ensures.bind (atClient_beside kept).observe fun _ => callBack_atClient describes

theorem recordCallback_atClient {record : Bytes} {post : Unit → ρ → Prop}
    (records : Ensures kept (client.recordCallback record) post raised) :
    Ensures (AtClient (κ := κ) kept) (recordCallback client record)
      (fun value => AtClient (post value)) (fun exception => AtClient (raised exception)) :=
  Ensures.bind (atClient_beside kept).observe fun _ => callBack_atClient records

end Callbacks

theorem Exception.isFault_ne {exception : Exception} (fault : exception.isFault = true) :
    exception ≠ .clientDisconnected := by
  rintro rfl
  cases fault

namespace ClientPhases

variable {opening reading : ρ → Prop} {thrown : Exception → ρ → Prop}
  (phases : ClientPhases client opening reading thrown)
include phases

theorem streamPhases : StreamPhases jv client query (AtClient opening) (AtClient reading)
    (fun exception => AtClient (κ := κ) (thrown exception)) where
  status := (comCall_atClient (atClient_beside opening).anyEnv.performJVStatus _ _).raise
    fun exception world failed => phases.leaves exception _ (Exception.isFault_ne failed.1) (.inl failed.2)
  abandons := Ensures.attempt ((comCall_atClient ((atClient_beside opening).anyEnv.reads _) _ _).raise
    fun _ _ failed => failed.2)
  pollsOpening := shouldCancel_atClient phases.pollsOpening
  describes result succeeded := metaCallback_atClient (phases.describes result succeeded)
  gets filename :=
    (comCall_atClient (Ensures.bind Ensures.peek fun _ => jvGetsAttempts_atClient _ filename)
      _ _).raise fun exception world failed =>
        phases.leaves exception _ (Exception.isFault_ne failed.1) (.inr failed.2)
  skips := (comCall_atClient ((atClient_beside reading).anyEnv.reads _) _ _).raise
    fun exception world failed => phases.leaves exception _ (Exception.isFault_ne failed.1) (.inr failed.2)
  records record := recordCallback_atClient (phases.records record)
  pollsReading := shouldCancel_atClient phases.pollsReading
  cancels _ _ := phases.leaves _ _ (by simp)
  breaks _ _ _ holds := phases.leaves _ _ (by simp) (.inr holds)
  goesOn _ holds := phases.leaves _ _ (by simp) (.inr holds)

theorem openAndStream {refused : ρ → Prop}
    (fails : ∀ result : JVQueryResult, result.success = false → result.errorCode < 0 →
      Ensures opening (client.metaCallback result) (fun _ => refused) thrown) (fuel : Nat) :
    Ensures (AtClient opening) (openAndStream jv client query fuel)
      (EndedFor (AtClient refused) (AtClient reading))
      (fun exception => AtClient (κ := κ) (thrown exception)) := by
  rw [openAndStream_eq]
  refine Ensures.bind ((comCall_atClient ((atClient_beside opening).anyEnv.performJVOpen _ _ _)
    _ _).raise fun exception world failed =>
      phases.leaves exception _ (Exception.isFault_ne failed.1) (.inl failed.2)) fun reply => ?_
  exact phases.streamPhases.streamOpened
    (fun result failed negative => metaCallback_atClient (fails result failed negative))
    (fun _ _ holds => holds) fuel reply

theorem queryStored {refused : ρ → Prop}
    (fails : ∀ result : JVQueryResult, result.success = false →
      Ensures opening (client.metaCallback result) (fun _ => refused) thrown) (fuel : Nat) :
    Ensures (AtClient opening) (queryStored jv client query fuel)
      (EndedFor (AtClient refused) (AtClient reading))
      (fun exception => AtClient (κ := κ) (thrown exception)) := by
  refine Ensures.bind Ensures.peek fun world => ?_
  refine Ensures.ite (fun _ => ?_) fun _ => ?_
  · refine Ensures.bind (metaCallback_atClient (fails _ rfl)) fun _ => Ensures.pure fun _ holds => ?_
    exact holds
  · refine Ensures.afterwards (phases.openAndStream (fun result failed _ => fails result failed) fuel)
      (fun reason world ended => ?_) fun exception world raised => ?_
    · unfold EndedFor at ended ⊢
      split
      next normal => exact closeSession_atClient (by simpa [normal, AtClient] using ended)
      next failed => exact closeSession_atClient (by simpa [failed, AtClient] using ended)
    · split
      · exact closeSession_atClient raised
      · exact raised

end ClientPhases

end ClientPhases

end JVLinkServer.Core
