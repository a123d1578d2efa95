import Raiko2.Prover.Sp1Request

/-!
# Histories of proof requests

All runs of `request_network_proof` for one engine task, one after the other. A run ends by itself or is cut off
anywhere, except between the acceptance of a request and its durable checkpoint; the next run finds the checkpoint that
was durable last.
-/

namespace Raiko2.Prover

open Lib Raiko2.Engine Raiko2.Server List

abbrev Exchange (Raw P : Type) := Sigma (Call.Ans Raw P)

inductive Moment (Raw P : Type) where
  | started
  | asked (exchange : Exchange Raw P)
  | ended (result : Option (Except RunError (NetworkProofRequestResult P)))

section Readings

variable {Raw P : Type}

def Moment.acceptedRequest : Moment Raw P → Option B256
  | asked ⟨.request _, .ok requestId⟩ => some requestId
  | _ => none

def Moment.durableReport : Moment Raw P → Option Sp1NetworkSubmissionProgress
  | asked ⟨.onProgress progress, .saved⟩ => some progress
  | asked ⟨.onProgress progress, .retryable _ true⟩ => some progress
  | _ => none

/-- The request whose wait has ended in a state that can be retried. -/
def Moment.retryable : Moment Raw P → Option String
  | asked ⟨.terminal requestId, .ok (.timedOut _)⟩ => some requestId
  | asked ⟨.terminal requestId, .ok (.expired _)⟩ => some requestId
  | asked ⟨.terminalOutcome requestId, .ok (some .unfulfillable)⟩ => some requestId
  | asked ⟨.terminalOutcome requestId, .ok (some .timedOut)⟩ => some requestId
  | asked ⟨.terminalOutcome requestId, .ok (some .auctionTimedOut)⟩ => some requestId
  | _ => none

def Moment.waited : Moment Raw P → Option String
  | asked ⟨.register requestId _, .ok ()⟩ => some requestId
  | _ => none

def Moment.found : Moment Raw P → Option (PendingProofCheckpoint Raw)
  | asked ⟨.loadPendingProofCheckpoint _, .ok checkpoint⟩ => checkpoint
  | _ => none

def Moment.proof : Moment Raw P → Option (B256 × P)
  | asked ⟨.getProofStatus requestId, .ok (_, some proof)⟩ => some (requestId, proof)
  | _ => none

def Moment.isStarted : Moment Raw P → Bool
  | started => true
  | _ => false

def acceptedRequests (moments : List (Moment Raw P)) : List B256 := moments.filterMap Moment.acceptedRequest

def durableReports (moments : List (Moment Raw P)) : List Sp1NetworkSubmissionProgress :=
  moments.filterMap Moment.durableReport

def durable (moments : List (Moment Raw P)) : Option Sp1NetworkSubmissionProgress := (durableReports moments).getLast?

def since (test : Moment Raw P → Bool) (moments : List (Moment Raw P)) : List (Moment Raw P) :=
  (moments.reverse.takeWhile (!test ·)).reverse

def currentRun (moments : List (Moment Raw P)) : List (Moment Raw P) := since Moment.isStarted moments

/-- What has happened in this run since the last request was accepted. -/
def currentWait (moments : List (Moment Raw P)) : List (Moment Raw P) :=
  since (fun moment => moment.isStarted || moment.acceptedRequest.isSome) moments

def unsaved : List (Moment Raw P) → Bool :=
  foldl (fun pending moment => (pending || moment.acceptedRequest.isSome) && moment.durableReport.isNone) false

variable {moments : List (Moment Raw P)} {moment : Moment Raw P}

theorem acceptedRequests_concat :
    acceptedRequests (moments ++ [moment]) = acceptedRequests moments ++ moment.acceptedRequest.toList := by
  rw [acceptedRequests, filterMap_append]
  cases h : moment.acceptedRequest <;> simp [h, acceptedRequests]

theorem durableReports_concat :
    durableReports (moments ++ [moment]) = durableReports moments ++ moment.durableReport.toList := by
  rw [durableReports, filterMap_append]
  cases h : moment.durableReport <;> simp [h, durableReports]

theorem durable_concat : durable (moments ++ [moment]) = moment.durableReport.or (durable moments) := by
  rw [durable, durableReports_concat]
  cases h : moment.durableReport <;> simp [durable]

theorem since_concat_of_test {test : Moment Raw P → Bool} (h : test moment = true) :
    since test (moments ++ [moment]) = [] := by
  simp [since, h]

theorem since_concat {test : Moment Raw P → Bool} (h : test moment = false) :
    since test (moments ++ [moment]) = since test moments ++ [moment] := by
  simp [since, h]

theorem unsaved_concat :
    unsaved (moments ++ [moment]) =
      ((unsaved moments || moment.acceptedRequest.isSome) && moment.durableReport.isNone) := by
  rw [unsaved, foldl_concat]

end Readings

section Claims

variable {Raw P : Type} (ids : RequestIdFormat) (config : Sp1Config) (codec : PayloadCodec Raw)

def attemptNumber : Option Sp1NetworkSubmissionProgress → Nat
  | none => 0
  | some progress => progress.attempt.toNat

/-- The run that found this checkpoint has begun to wait for its request. -/
def ResumedIn (moments : List (Moment Raw P)) (checkpoint : PendingProofCheckpoint Raw) : Prop :=
  ∃ progress, IsCheckpointOf codec .sp1 progress checkpoint ∧
    ∃ moment ∈ currentRun moments, moment.waited = some progress.providerRequestId

/-- When a request, a report of progress or a result may come, given what came before. -/
def Justified (past : List (Moment Raw P)) : Moment Raw P → Prop
  | .asked ⟨.request _, _⟩ =>
    (acceptedRequests past).length < config.networkRequestMaxAttempts.toNat ∧
    (acceptedRequests past = [] ∧ durable past = none ∨
      ∃ last, durable past = some last ∧ last.attempt.toNat = (acceptedRequests past).length ∧
        ∃ moment ∈ currentWait past, moment.retryable = some last.providerRequestId) ∧
    ∀ moment ∈ currentRun past, ∀ checkpoint, moment.found = some checkpoint → ResumedIn codec past checkpoint
  | .asked ⟨.onProgress progress, _⟩ =>
    durable past = some progress ∨ progress.attempt.toNat = attemptNumber (durable past) + 1 ∧
      ∃ requestId, (acceptedRequests past).getLast? = some requestId ∧
        progress.providerRequestId = ids.toText requestId
  | .ended (some (.ok result)) =>
    ∃ last requestId, durable past = some last ∧ result.requestId = last.providerRequestId ∧
      ids.fromText result.requestId = .ok requestId ∧
      ∃ moment, past.getLast? = some moment ∧ moment.proof = some (requestId, result.proof)
  | _ => True

/-- What the observer answers when it is asked for the checkpoint. -/
def Faithful (moments : List (Moment Raw P)) : Exchange Raw P → Prop
  | ⟨.loadPendingProofCheckpoint _, .ok none⟩ => durable moments = none
  | ⟨.loadPendingProofCheckpoint _, .ok (some checkpoint)⟩ =>
    ∃ progress, durable moments = some progress ∧ IsCheckpointOf codec .sp1 progress checkpoint
  | _ => True

/-- The histories of one engine task, with the run that is going on. -/
inductive History (proofMode : RecursionMode) (stage : String) : List (Moment Raw P) →
    Option (Program Call (Call.Ans Raw P) (Except RunError (NetworkProofRequestResult P))) → Prop where
  | nil : History proofMode stage [] none
  | start {moments} (bound rounds : Nat) (h : History proofMode stage moments none) :
      History proofMode stage (moments ++ [.started])
        (some (requestNetworkProof ids config proofMode stage bound codec rounds).run)
  | answer {moments} {call : Call} {next} (answer : call.Ans Raw P)
      (h : History proofMode stage moments (some (.ask call next))) (hFaithful : Faithful codec moments ⟨call, answer⟩) :
      History proofMode stage (moments ++ [.asked ⟨call, answer⟩]) (some (next answer))
  | finish {moments result} (h : History proofMode stage moments (some (.done result)))
      (hSaved : unsaved moments = false) : History proofMode stage (moments ++ [.ended (some result)]) none
  | stop {moments run} (h : History proofMode stage moments (some run)) (hSaved : unsaved moments = false) :
      History proofMode stage (moments ++ [.ended none]) none

end Claims

section Soundness

variable {Raw P : Type} (ids : RequestIdFormat) (config : Sp1Config) (codec : PayloadCodec Raw)

/-- A history in which everything is justified, and whose attempts count the accepted requests. -/
structure Sound (moments : List (Moment Raw P)) : Prop where
  justified : JustifiedLog (Justified ids config codec) moments
  counted : (acceptedRequests moments).length = attemptNumber (durable moments) + (unsaved moments).toNat
  bounded : (acceptedRequests moments).length ≤ config.networkRequestMaxAttempts.toNat
  first : ∀ progress, (durableReports moments).head? = some progress → progress.attempt = 1
  inOrder : (durableReports moments).IsChain fun p q => q = p ∨ q.attempt.toNat = p.attempt.toNat + 1

variable {ids config codec} {moments : List (Moment Raw P)} {moment : Moment Raw P}

theorem sound_nil : Sound ids config codec ([] : List (Moment Raw P)) where
  justified := .nil
  counted := rfl
  bounded := Nat.zero_le _
  first := nofun
  inOrder := .nil

section Extending

variable (h : Sound ids config codec moments) (hJustified : Justified ids config codec moments moment)

include h hJustified

theorem Sound.quiet (hAccepted : moment.acceptedRequest = none) (hDurable : moment.durableReport = none) :
    Sound ids config codec (moments ++ [moment]) where
  justified := h.justified.concat hJustified
  counted := by
    rw [acceptedRequests_concat, durable_concat, unsaved_concat, hAccepted, hDurable]
    simpa using h.counted
  bounded := by
    rw [acceptedRequests_concat, hAccepted]
    simpa using h.bounded
  first := by
    rw [durableReports_concat, hDurable]
    simpa using h.first
  inOrder := by
    rw [durableReports_concat, hDurable]
    simpa using h.inOrder

theorem Sound.accept
    {requestId : B256} (hAccepted : moment.acceptedRequest = some requestId) (hDurable : moment.durableReport = none)
    (hSaved : unsaved moments = false)
    (hBound : (acceptedRequests moments).length < config.networkRequestMaxAttempts.toNat) :
    Sound ids config codec (moments ++ [moment]) where
  justified := h.justified.concat hJustified
  counted := by
    rw [acceptedRequests_concat, durable_concat, unsaved_concat, hAccepted, hDurable]
    simpa [hSaved] using h.counted
  bounded := by
    rw [acceptedRequests_concat, hAccepted, Option.toList_some, length_append, length_singleton]
    exact hBound
  first := by
    rw [durableReports_concat, hDurable]
    simpa using h.first
  inOrder := by
    rw [durableReports_concat, hDurable]
    simpa using h.inOrder

theorem Sound.report {progress : Sp1NetworkSubmissionProgress} (hAccepted : moment.acceptedRequest = none)
    (hDurable : moment.durableReport = some progress)
    (hReport : durable moments = some progress ∧ unsaved moments = false ∨
      progress.attempt.toNat = attemptNumber (durable moments) + 1 ∧ unsaved moments = true) :
    Sound ids config codec (moments ++ [moment]) where
  justified := h.justified.concat hJustified
  counted := by
    have hCounted := h.counted
    rw [acceptedRequests_concat, durable_concat, unsaved_concat, hAccepted, hDurable]
    rcases hReport with ⟨hSame, hSaved⟩ | ⟨hNext, hUnsaved⟩
    · rw [hSame, hSaved] at hCounted
      simpa using hCounted
    · rw [hUnsaved, Bool.toNat_true, ← hNext] at hCounted
      simpa [attemptNumber] using hCounted
  bounded := by
    rw [acceptedRequests_concat, hAccepted]
    simpa using h.bounded
  first := by
    rw [durableReports_concat, hDurable]
    cases hReports : durableReports moments with
    | cons first rest =>
      intro p hp
      exact h.first p (by rw [hReports]; exact hp)
    | nil =>
      rintro _ ⟨⟩
      have hNone : durable moments = none := by rw [durable, hReports]; rfl
      rcases hReport with ⟨hSame, -⟩ | ⟨hNext, -⟩
      · cases hNone.symm.trans hSame
      · rw [hNone] at hNext
        exact UInt32.toNat_inj.mp hNext
  inOrder := by
    rw [durableReports_concat, hDurable, Option.toList_some, isChain_append]
    refine ⟨h.inOrder, isChain_singleton _, ?_⟩
    intro last hLast p hp
    obtain rfl : progress = p := by simpa using hp
    have hLast : durable moments = some last := hLast
    rcases hReport with ⟨hSame, -⟩ | ⟨hNext, -⟩
    · exact .inl (Option.some.inj (hSame.symm.trans hLast))
    · rw [hLast] at hNext
      exact .inr hNext

end Extending

end Soundness

section Assertions

variable {Raw P : Type} (codec : PayloadCodec Raw)

structure Free (moments : List (Moment Raw P)) : Prop where
  durable : Prover.durable moments = none
  saved : unsaved moments = false
  nothing : ∀ moment ∈ currentRun moments, moment.found = none

/-- There is a durable checkpoint. What the run has found was resumed, or is that checkpoint. -/
structure Held (last : Sp1NetworkSubmissionProgress) (moments : List (Moment Raw P)) : Prop where
  durable : Prover.durable moments = some last
  saved : unsaved moments = false
  resumable : ∀ moment ∈ currentRun moments, ∀ checkpoint, moment.found = some checkpoint →
    ResumedIn codec moments checkpoint ∨ IsCheckpointOf codec .sp1 last checkpoint

def Resumed (moments : List (Moment Raw P)) : Prop :=
  ∀ moment ∈ currentRun moments, ∀ checkpoint, moment.found = some checkpoint → ResumedIn codec moments checkpoint

structure Waiting (last : Sp1NetworkSubmissionProgress) (moments : List (Moment Raw P)) : Prop where
  durable : Prover.durable moments = some last
  saved : unsaved moments = false
  resumed : Resumed codec moments

structure Retry (last : Sp1NetworkSubmissionProgress) (moments : List (Moment Raw P)) : Prop extends
    Waiting codec last moments where
  ended : ∃ moment ∈ currentWait moments, moment.retryable = some last.providerRequestId

/-- A request has been accepted and its checkpoint is not durable. -/
structure Submitted (requestId : B256) (moments : List (Moment Raw P)) : Prop where
  pending : unsaved moments = true
  accepted : (acceptedRequests moments).getLast? = some requestId
  resumed : Resumed codec moments

/-- A moment that accepts nothing, makes nothing durable and finds no checkpoint. -/
structure Neutral (moment : Moment Raw P) : Prop where
  running : moment.isStarted = false
  acceptedRequest : moment.acceptedRequest = none
  durableReport : moment.durableReport = none
  found : moment.found = none

variable {codec} {moments : List (Moment Raw P)} {moment : Moment Raw P} {last : Sp1NetworkSubmissionProgress}

theorem ResumedIn.concat {checkpoint : PendingProofCheckpoint Raw} (hRunning : moment.isStarted = false)
    (h : ResumedIn codec moments checkpoint) : ResumedIn codec (moments ++ [moment]) checkpoint := by
  obtain ⟨progress, hIs, waited, hMem, hWaited⟩ := h
  refine ⟨progress, hIs, waited, ?_, hWaited⟩
  rw [currentRun, since_concat hRunning]
  exact mem_append_left _ hMem

theorem Resumed.concat (h : Resumed codec moments) (hRunning : moment.isStarted = false) (hFound : moment.found = none) :
    Resumed codec (moments ++ [moment]) := by
  intro other hOther checkpoint hCheckpoint
  rw [currentRun, since_concat hRunning] at hOther
  rcases mem_append.mp hOther with hOld | hNew
  · exact (h other hOld checkpoint hCheckpoint).concat hRunning
  · rw [mem_singleton.mp hNew, hFound] at hCheckpoint
    cases hCheckpoint

theorem Neutral.durable (h : Neutral moment) : Prover.durable (moments ++ [moment]) = Prover.durable moments := by
  rw [durable_concat, h.durableReport, Option.none_or]

theorem Neutral.unsaved (h : Neutral moment) : Prover.unsaved (moments ++ [moment]) = Prover.unsaved moments := by
  rw [unsaved_concat, h.acceptedRequest, h.durableReport, Option.isSome_none, Option.isNone_none, Bool.or_false,
    Bool.and_true]

theorem Free.neutral (h : Free moments) (hMoment : Neutral moment) : Free (moments ++ [moment]) where
  durable := hMoment.durable.trans h.durable
  saved := hMoment.unsaved.trans h.saved
  nothing := by
    intro other hOther
    rw [currentRun, since_concat hMoment.running] at hOther
    rcases mem_append.mp hOther with hOld | hNew
    · exact h.nothing other hOld
    · rw [mem_singleton.mp hNew]
      exact hMoment.found

theorem Held.neutral (h : Held codec last moments) (hMoment : Neutral moment) : Held codec last (moments ++ [moment]) where
  durable := hMoment.durable.trans h.durable
  saved := hMoment.unsaved.trans h.saved
  resumable := by
    intro other hOther checkpoint hCheckpoint
    rw [currentRun, since_concat hMoment.running] at hOther
    rcases mem_append.mp hOther with hOld | hNew
    · exact (h.resumable other hOld checkpoint hCheckpoint).imp_left (ResumedIn.concat hMoment.running)
    · rw [mem_singleton.mp hNew, hMoment.found] at hCheckpoint
      cases hCheckpoint

theorem Waiting.neutral (h : Waiting codec last moments) (hMoment : Neutral moment) :
    Waiting codec last (moments ++ [moment]) :=
  ⟨hMoment.durable.trans h.durable, hMoment.unsaved.trans h.saved, h.resumed.concat hMoment.running hMoment.found⟩

theorem Neutral.currentWait (h : Neutral moment) :
    Prover.currentWait (moments ++ [moment]) = Prover.currentWait moments ++ [moment] := by
  rw [Prover.currentWait, since_concat (by rw [h.running, h.acceptedRequest]; rfl)]
  rfl

theorem Retry.neutral (h : Retry codec last moments) (hMoment : Neutral moment) :
    Retry codec last (moments ++ [moment]) where
  toWaiting := h.toWaiting.neutral hMoment
  ended := by
    obtain ⟨ending, hMem, hOver⟩ := h.ended
    exact ⟨ending, by rw [hMoment.currentWait]; exact mem_append_left _ hMem, hOver⟩

theorem Submitted.neutral {requestId : B256} (h : Submitted codec requestId moments) (hMoment : Neutral moment) :
    Submitted codec requestId (moments ++ [moment]) where
  pending := hMoment.unsaved.trans h.pending
  accepted := by
    rw [acceptedRequests_concat, hMoment.acceptedRequest, Option.toList_none, append_nil]
    exact h.accepted
  resumed := h.resumed.concat hMoment.running hMoment.found

end Assertions

end Raiko2.Prover
