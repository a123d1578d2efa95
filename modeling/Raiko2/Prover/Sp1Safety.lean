import Raiko2.Prover.Sp1History
import Raiko2.Server.CheckpointScan

/-!
# Proof requests are neither duplicated nor abandoned

Each function of a run, with what holds of the history before and after it, and from that every history of runs.
-/

namespace Raiko2.Prover

open Lib Raiko2.Engine Raiko2.Server Contract

section Runs

variable {Raw P : Type} (ids : RequestIdFormat) (config : Sp1Config) (codec : PayloadCodec Raw)

/-- One run on the history of the engine task; nothing else adds to the history while it is going on. -/
def runContract : Contract (List (Moment Raw P)) Unit Call (Call.Ans Raw P) where
  Step _ moments call answer next :=
    next = moments ++ [.asked ⟨call, answer⟩] ∧ Faithful codec moments ⟨call, answer⟩
  Inv := Sound ids config codec
  Rely _ moments next := next = moments
  Guar _ _ _ := True
  rely_refl _ _ := rfl
  rely_trans h h' := h'.trans h
  guar_rely {i j} _ _ hNe := absurd (Subsingleton.elim i j) hNe

variable {ids config codec} {moments : List (Moment Raw P)} {last : Sp1NetworkSubmissionProgress} {α : Type}

theorem safeOk_call {request : Call} {Q : request.Ans Raw P → List (Moment Raw P) → Prop}
    (h : Sound ids config codec moments → ∀ answer, Faithful codec moments ⟨request, answer⟩ →
      Sound ids config codec (moments ++ [.asked ⟨request, answer⟩]) ∧ Q answer (moments ++ [.asked ⟨request, answer⟩])) :
    (runContract ids config codec).SafeOk () (call request) Q moments := by
  refine Safe.bind_done (g := Except.ok) (Safe.request ?_)
  rintro _ rfl hSound answer _ ⟨rfl, hFaithful⟩
  obtain ⟨hNext, hQ⟩ := h hSound answer hFaithful
  refine ⟨hNext, trivial, ?_⟩
  rintro _ rfl - _ ⟨⟩
  exact hQ

theorem safeOk_pure {a : α} {Q : α → List (Moment Raw P) → Prop} (h : Sound ids config codec moments → Q a moments) :
    (runContract ids config codec).SafeOk () (pure a : RequestRun Raw P α) Q moments := by
  apply SafeOk.pure
  rintro _ rfl hSound
  exact h hSound

theorem safeOk_neutral {request : Call} {Q : request.Ans Raw P → List (Moment Raw P) → Prop}
    (hNeutral : ∀ answer, Neutral (.asked ⟨request, answer⟩ : Moment Raw P))
    (hJustified : ∀ answer, Justified ids config codec moments (.asked ⟨request, answer⟩))
    (h : ∀ answer, Neutral (.asked ⟨request, answer⟩ : Moment Raw P) → Q answer (moments ++ [.asked ⟨request, answer⟩])) :
    (runContract ids config codec).SafeOk () (call request) Q moments := by
  apply safeOk_call
  intro hSound answer _
  exact ⟨hSound.quiet (hJustified answer) (hNeutral answer).acceptedRequest (hNeutral answer).durableReport, h answer (hNeutral answer)⟩

theorem safeOk_sleep {Q : Unit → List (Moment Raw P) → Prop} (h : Q () (moments ++ [.asked ⟨.sleep, ()⟩])) :
    (runContract ids config codec).SafeOk () (call .sleep : RequestRun Raw P Unit) Q moments :=
  safeOk_neutral (fun _ => ⟨rfl, rfl, rfl, rfl⟩) (fun _ => trivial) fun _ _ => h

theorem safeOk_permit {Q : Unit → List (Moment Raw P) → Prop}
    (h : ∀ answer, Q () (moments ++ [.asked ⟨.acquireSubmissionCheckpointPermit, answer⟩])) :
    (runContract ids config codec).SafeOk () (acquireSubmissionCheckpointPermit : RequestRun Raw P Unit) Q moments := by
  apply SafeOk.bind
  refine safeOk_neutral (fun _ => ⟨rfl, rfl, rfl, rfl⟩) (fun _ => trivial) fun answer _ => ?_
  cases answer with
  | ok _ => exact safeOk_pure fun _ => h _
  | error error => exact SafeOk.throw

theorem Held.report (h : Held codec last moments) (answer : ProgressAnswer) :
    Held codec last (moments ++ [.asked ⟨.onProgress last, answer⟩]) := by
  have hDurable : (Moment.asked ⟨.onProgress last, answer⟩ : Moment Raw P).durableReport.or (Prover.durable moments) =
      some last := by
    rw [h.durable]
    rcases answer with _ | ⟨_, _ | _⟩ | _ <;> rfl
  refine ⟨durable_concat.trans hDurable, ?_, ?_⟩
  · rw [unsaved_concat, h.saved]
    rfl
  · intro other hOther checkpoint hCheckpoint
    rw [currentRun, since_concat rfl] at hOther
    rcases List.mem_append.mp hOther with hOld | hNew
    · exact (h.resumable other hOld checkpoint hCheckpoint).imp_left (ResumedIn.concat rfl)
    · rw [List.mem_singleton.mp hNew] at hCheckpoint
      cases hCheckpoint

theorem safeOk_persist_held (h : Held codec last moments) (bound : Nat) :
    (runContract ids config codec).SafeOk () (persistProverProgress last bound : RequestRun Raw P Unit)
      (fun _ => Held codec last) moments := by
  induction bound generalizing moments with
  | zero => exact SafeOk.throw
  | succ bound ih =>
    apply SafeOk.bind
    apply safeOk_call
    intro hSound answer _
    have hJustified : Justified ids config codec moments (.asked ⟨.onProgress last, answer⟩) := .inl h.durable
    rcases answer with _ | ⟨error, durable | durable⟩ | error
    · exact ⟨hSound.report hJustified rfl rfl (.inl ⟨h.durable, h.saved⟩), safeOk_pure fun _ => h.report _⟩
    · refine ⟨hSound.quiet hJustified rfl rfl, SafeOk.bind (safeOk_sleep ?_)⟩
      exact ih ((h.report _).neutral ⟨rfl, rfl, rfl, rfl⟩)
    · refine ⟨hSound.report hJustified rfl rfl (.inl ⟨h.durable, h.saved⟩), SafeOk.bind (safeOk_sleep ?_)⟩
      exact ih ((h.report _).neutral ⟨rfl, rfl, rfl, rfl⟩)
    · exact ⟨hSound.quiet hJustified rfl rfl, SafeOk.throw⟩

theorem Submitted.saved {requestId : B256} {progress : Sp1NetworkSubmissionProgress} {answer : ProgressAnswer}
    (h : Submitted codec requestId moments)
    (hReport : (Moment.asked ⟨.onProgress progress, answer⟩ : Moment Raw P).durableReport = some progress) :
    Held codec progress (moments ++ [.asked ⟨.onProgress progress, answer⟩]) where
  durable := by rw [durable_concat, hReport, Option.some_or]
  saved := by rw [unsaved_concat, hReport, Option.isNone_some, Bool.and_false]
  resumable moment hMem checkpoint hFound := .inl (h.resumed.concat rfl rfl moment hMem checkpoint hFound)

theorem safeOk_persist_submitted {requestId : B256} {progress : Sp1NetworkSubmissionProgress}
    (h : Submitted codec requestId moments) (hId : progress.providerRequestId = ids.toText requestId)
    (hAttempt : progress.attempt.toNat = attemptNumber (durable moments) + 1) (bound : Nat) :
    (runContract ids config codec).SafeOk () (persistProverProgress progress bound : RequestRun Raw P Unit)
      (fun _ => Held codec progress) moments := by
  induction bound generalizing moments with
  | zero => exact SafeOk.throw
  | succ bound ih =>
    apply SafeOk.bind
    apply safeOk_call
    intro hSound answer _
    have hJustified : Justified ids config codec moments (.asked ⟨.onProgress progress, answer⟩) :=
      .inr ⟨hAttempt, requestId, h.accepted, hId⟩
    rcases answer with _ | ⟨error, durable | durable⟩ | error
    · exact ⟨hSound.report hJustified rfl rfl (.inr ⟨hAttempt, h.pending⟩), safeOk_pure fun _ => h.saved rfl⟩
    · refine ⟨hSound.quiet hJustified rfl rfl, SafeOk.bind (safeOk_sleep ?_)⟩
      refine ih ((h.neutral ⟨rfl, rfl, rfl, rfl⟩).neutral ⟨rfl, rfl, rfl, rfl⟩) ?_
      rw [durable_concat, durable_concat]
      exact hAttempt
    · -- the report has come through, although the answer was an error
      refine ⟨hSound.report hJustified rfl rfl (.inr ⟨hAttempt, h.pending⟩), SafeOk.bind (safeOk_sleep ?_)⟩
      exact safeOk_persist_held ((h.saved rfl).neutral ⟨rfl, rfl, rfl, rfl⟩) bound
    · exact ⟨hSound.quiet hJustified rfl rfl, SafeOk.throw⟩

variable {proofMode : RecursionMode} {stage : String} {bound : Nat} {requestAttempt : UInt64}

theorem safeOk_resume (h : Held codec last moments) :
    (runContract ids config codec).SafeOk ()
      (submitOrResumeSp1Request ids config proofMode stage bound requestAttempt (some last) : RequestRun Raw P _)
      (fun result moments => result = (last.providerRequestId, true) ∧ Held codec last moments) moments := by
  refine SafeOk.bind (safeOk_permit fun answer => ?_)
  refine SafeOk.bind ((safeOk_persist_held (h.neutral ⟨rfl, rfl, rfl, rfl⟩) bound).mono ?_)
  intro _ moments _ hHeld
  exact safeOk_pure fun _ => ⟨rfl, hHeld⟩

/-- When a run may submit a request: it has found no checkpoint, or the last wait has ended. -/
def MaySubmit (codec : PayloadCodec Raw) (moments : List (Moment Raw P)) : Prop :=
  Free moments ∨ ∃ last, Retry codec last moments

section Submitting

variable (h : MaySubmit codec moments)

include h

theorem MaySubmit.neutral {moment : Moment Raw P} (hMoment : Neutral moment) : MaySubmit codec (moments ++ [moment]) :=
  h.imp (·.neutral hMoment) fun ⟨last, hRetry⟩ => ⟨last, hRetry.neutral hMoment⟩

theorem MaySubmit.saved : unsaved moments = false := by
  rcases h with h | ⟨_, h⟩
  · exact h.saved
  · exact h.saved

theorem MaySubmit.resumed : Resumed codec moments := by
  rcases h with h | ⟨_, h⟩
  · intro moment hMem checkpoint hFound
    rw [h.nothing moment hMem] at hFound
    cases hFound
  · exact h.resumed

theorem MaySubmit.counted (hSound : Sound ids config codec moments) :
    (acceptedRequests moments).length = attemptNumber (durable moments) := by
  rw [hSound.counted, h.saved, Bool.toNat_false, Nat.add_zero]

theorem MaySubmit.justified (hSound : Sound ids config codec moments)
    (hBound : attemptNumber (durable moments) < config.networkRequestMaxAttempts.toNat) (order : Sp1ProofOrder)
    (answer : Except String B256) : Justified ids config codec moments (.asked ⟨.request order, answer⟩) := by
  have hCounted := h.counted hSound
  refine ⟨hCounted ▸ hBound, ?_, h.resumed⟩
  rcases h with h | ⟨last, h⟩
  · rw [h.durable] at hCounted
    exact .inl ⟨List.eq_nil_of_length_eq_zero hCounted, h.durable⟩
  · rw [h.durable] at hCounted
    exact .inr ⟨last, h.durable, hCounted.symm, h.ended⟩

theorem MaySubmit.submitted (order : Sp1ProofOrder) (requestId : B256) :
    Submitted codec requestId (moments ++ [.asked ⟨.request order, .ok requestId⟩]) where
  pending := by
    rw [unsaved_concat]
    simp [Moment.acceptedRequest, Moment.durableReport]
  accepted := by
    rw [acceptedRequests_concat]
    exact List.getLast?_concat
  resumed := h.resumed.concat rfl rfl

end Submitting

theorem toNat_attemptU32 (h : requestAttempt.toNat ≤ config.networkRequestMaxAttempts.toNat) :
    (attemptU32 requestAttempt).toNat = requestAttempt.toNat := by
  have hLt : requestAttempt.toNat < 2 ^ 32 := lt_of_le_of_lt h config.networkRequestMaxAttempts.toNat_lt
  rw [attemptU32, if_pos hLt, UInt64.toNat_toUInt32, Nat.mod_eq_of_lt hLt]

theorem safeOk_submit (h : MaySubmit codec moments)
    (hAttempt : requestAttempt.toNat = attemptNumber (durable moments) + 1)
    (hBound : requestAttempt.toNat ≤ config.networkRequestMaxAttempts.toNat) :
    (runContract ids config codec).SafeOk ()
      (submitOrResumeSp1Request ids config proofMode stage bound requestAttempt none : RequestRun Raw P _)
      (fun result moments => ∃ progress, result = (progress.providerRequestId, false) ∧ Held codec progress moments ∧
        progress.attempt.toNat = requestAttempt.toNat) moments := by
  refine SafeOk.bind (safeOk_permit fun permit => ?_)
  have hPermit : Neutral (.asked ⟨.acquireSubmissionCheckpointPermit, permit⟩ : Moment Raw P) := ⟨rfl, rfl, rfl, rfl⟩
  have hMay := h.neutral hPermit
  rw [← hPermit.durable] at hAttempt
  generalize moments ++ [.asked ⟨.acquireSubmissionCheckpointPermit, permit⟩] = moments at hMay hAttempt ⊢
  have hLess : attemptNumber (durable moments) < config.networkRequestMaxAttempts.toNat := by omega
  refine SafeOk.bind (safeOk_call fun hSound answer _ => ?_)
  cases answer with
  | error error => exact ⟨hSound.quiet (hMay.justified hSound hLess _ _) rfl rfl, SafeOk.throw⟩
  | ok requestId =>
    refine ⟨hSound.accept (hMay.justified hSound hLess _ _) rfl rfl hMay.saved (hMay.counted hSound ▸ hLess), ?_⟩
    refine SafeOk.bind (safeOk_neutral (fun _ => ⟨rfl, rfl, rfl, rfl⟩) (fun _ => trivial) fun now hClock => ?_)
    refine SafeOk.bind
      ((safeOk_persist_submitted ((hMay.submitted _ requestId).neutral hClock) rfl ?_ bound).mono ?_)
    · rw [durable_concat, durable_concat]
      exact (toNat_attemptU32 hBound).trans hAttempt
    · intro _ moments _ hHeld
      exact safeOk_pure fun _ => ⟨_, rfl, hHeld, toNat_attemptU32 hBound⟩

def Obtained (requestId : B256) (proof : P) (moments : List (Moment Raw P)) : Prop :=
  ∃ moment, moments.getLast? = some moment ∧ moment.proof = some (requestId, proof)

theorem obtained_concat {requestId : B256} {status : FulfillmentStatus} {proof : P} :
    Obtained requestId proof (moments ++ [.asked ⟨.getProofStatus requestId, .ok (status, some proof)⟩]) :=
  ⟨_, List.getLast?_concat, rfl⟩

variable {requestId : B256} {requestIdString : String}

theorem safeOk_checkExpired (h : Held codec last moments) (checkBeforeWait : Bool) :
    (runContract ids config codec).SafeOk ()
      (checkExpired stage checkBeforeWait requestId requestIdString : RequestRun Raw P (Option P))
      (fun result moments => Held codec last moments ∧ ∀ proof, result = some proof → Obtained requestId proof moments)
      moments := by
  cases checkBeforeWait with
  | false => exact safeOk_pure fun _ => ⟨h, nofun⟩
  | true =>
    refine SafeOk.bind (safeOk_neutral (fun _ => ⟨rfl, rfl, rfl, rfl⟩) (fun _ => trivial) fun answer hStatus => ?_)
    have hHeld := h.neutral hStatus
    rcases answer with error | ⟨status, proof⟩
    · exact SafeOk.throw
    · refine safeOk_pure fun _ => ⟨hHeld, ?_⟩
      intro found hFound
      split at hFound
      · rw [hFound]
        exact obtained_concat
      · cases hFound

theorem safeOk_fetch (h : Waiting codec last moments) :
    (runContract ids config codec).SafeOk ()
      (fetchSp1NetworkProof stage requestId requestIdString : RequestRun Raw P (Except String P))
      (fun result moments => Waiting codec last moments ∧ ∀ proof, result = .ok proof → Obtained requestId proof moments)
      moments := by
  refine SafeOk.bind (safeOk_neutral (fun _ => ⟨rfl, rfl, rfl, rfl⟩) (fun _ => trivial) fun answer hStatus => ?_)
  have hWaiting := h.neutral hStatus
  rcases answer with error | ⟨status, _ | proof⟩
  · exact safeOk_pure fun _ => ⟨hWaiting, nofun⟩
  · exact safeOk_pure fun _ => ⟨hWaiting, nofun⟩
  · refine safeOk_pure fun _ => ⟨hWaiting, ?_⟩
    rintro _ ⟨⟩
    exact obtained_concat

theorem safeOk_fetchUntil (h : Waiting codec last moments) (bound : Nat) :
    (runContract ids config codec).SafeOk ()
      (fetchSp1NetworkProofUntil stage requestId requestIdString bound : RequestRun Raw P P)
      (fun proof moments => Waiting codec last moments ∧ Obtained requestId proof moments) moments := by
  induction bound generalizing moments with
  | zero => exact SafeOk.throw
  | succ bound ih =>
    refine SafeOk.bind ((safeOk_fetch h).mono ?_)
    rintro result moments - ⟨hWaiting, hObtained⟩
    cases result with
    | ok proof => exact safeOk_pure fun _ => ⟨hWaiting, hObtained proof rfl⟩
    | error error =>
      refine SafeOk.bind (safeOk_neutral (fun _ => ⟨rfl, rfl, rfl, rfl⟩) (fun _ => trivial) fun early hClock => ?_)
      cases early with
      | false => exact SafeOk.throw
      | true => exact SafeOk.bind (safeOk_sleep (ih ((hWaiting.neutral hClock).neutral ⟨rfl, rfl, rfl, rfl⟩)))

theorem Held.wait (h : Held codec last moments) (timeoutSecs : UInt64) :
    Waiting codec last (moments ++ [.asked ⟨.register last.providerRequestId timeoutSecs, .ok ()⟩]) := by
  have hMoment : Neutral (.asked ⟨.register last.providerRequestId timeoutSecs, .ok ()⟩ : Moment Raw P) :=
    ⟨rfl, rfl, rfl, rfl⟩
  have hNext := h.neutral hMoment
  refine ⟨hNext.durable, hNext.saved, ?_⟩
  intro moment hMem checkpoint hFound
  rcases hNext.resumable moment hMem checkpoint hFound with hResumed | hIs
  · exact hResumed
  · refine ⟨last, hIs, .asked ⟨.register last.providerRequestId timeoutSecs, .ok ()⟩, ?_, rfl⟩
    rw [currentRun, since_concat rfl]
    exact List.mem_append_right _ (List.mem_singleton.mpr rfl)

theorem Waiting.retry {moment : Moment Raw P} (h : Waiting codec last moments) (hMoment : Neutral moment)
    (hOver : moment.retryable = some last.providerRequestId) : Retry codec last (moments ++ [moment]) where
  toWaiting := h.neutral hMoment
  ended := ⟨moment, by rw [hMoment.currentWait]; exact List.mem_append_right _ (List.mem_singleton.mpr rfl), hOver⟩

def Waited (codec : PayloadCodec Raw) (last : Sp1NetworkSubmissionProgress) (requestId : B256)
    (outcome : Sp1NetworkWaitOutcome P) (moments : List (Moment Raw P)) : Prop :=
  match outcome with
  | .fulfilled proof => Waiting codec last moments ∧ Obtained requestId proof moments
  | .retryRequest _ => Retry codec last moments

theorem safeOk_wait (h : Held codec last moments) {timeoutSecs : UInt64} {auctionTimeout : Option UInt64} :
    (runContract ids config codec).SafeOk ()
      (waitSp1NetworkProof stage bound requestId timeoutSecs auctionTimeout last.providerRequestId : RequestRun Raw P _)
      (Waited codec last requestId) moments := by
  refine SafeOk.bind (safeOk_neutral (fun _ => ⟨rfl, rfl, rfl, rfl⟩) (fun _ => trivial) fun inserted hInsert => ?_)
  cases inserted with
  | error error => exact SafeOk.throw
  | ok _ =>
  refine SafeOk.bind (safeOk_neutral (fun _ => ⟨rfl, rfl, rfl, rfl⟩) (fun _ => trivial) fun registered _ => ?_)
  cases registered with
  | error error => exact SafeOk.throw
  | ok _ =>
  have hWaiting := (h.neutral hInsert).wait timeoutSecs
  refine SafeOk.bind (safeOk_neutral (fun _ => ⟨rfl, rfl, rfl, rfl⟩) (fun _ => trivial) fun terminal hMoment => ?_)
  rcases terminal with error | result
  · exact SafeOk.throw
  cases result with
  | fulfilled =>
    refine SafeOk.bind ((safeOk_fetchUntil (hWaiting.neutral hMoment) bound).mono ?_)
    intro proof moments _ hProof
    exact safeOk_pure fun _ => hProof
  | failed reason =>
    refine SafeOk.bind (safeOk_neutral (fun _ => ⟨rfl, rfl, rfl, rfl⟩) (fun _ => trivial) fun outcome hOutcome => ?_)
    rcases outcome with error | _ | _ | _ | _ | _
    · exact SafeOk.throw
    · exact SafeOk.throw
    · exact safeOk_pure fun _ => (hWaiting.neutral hMoment).retry hOutcome rfl
    · exact safeOk_pure fun _ => (hWaiting.neutral hMoment).retry hOutcome rfl
    · exact safeOk_pure fun _ => (hWaiting.neutral hMoment).retry hOutcome rfl
    · exact SafeOk.throw
  | timedOut reason => exact safeOk_pure fun _ => hWaiting.retry hMoment rfl
  | expired reason => exact safeOk_pure fun _ => hWaiting.retry hMoment rfl
  | unrecoverable reason => exact SafeOk.throw

def Returned (ids : RequestIdFormat) (result : NetworkProofRequestResult P) (moments : List (Moment Raw P)) : Prop :=
  ∃ last requestId, durable moments = some last ∧ result.requestId = last.providerRequestId ∧
    ids.fromText result.requestId = .ok requestId ∧ Obtained requestId result.proof moments

def RoundStart (config : Sp1Config) (codec : PayloadCodec Raw) (requestAttempt : UInt64)
    (storedSubmission : Option Sp1NetworkSubmissionProgress) (moments : List (Moment Raw P)) : Prop :=
  match storedSubmission with
  | some last => Held codec last moments ∧ requestAttempt.toNat = last.attempt.toNat
  | none => MaySubmit codec moments ∧ requestAttempt.toNat = attemptNumber (durable moments) + 1 ∧
      requestAttempt.toNat ≤ config.networkRequestMaxAttempts.toNat

theorem safeOk_submitOrResume {storedSubmission : Option Sp1NetworkSubmissionProgress}
    (h : RoundStart config codec requestAttempt storedSubmission moments) :
    (runContract ids config codec).SafeOk ()
      (submitOrResumeSp1Request ids config proofMode stage bound requestAttempt storedSubmission : RequestRun Raw P _)
      (fun result moments => ∃ last, result.1 = last.providerRequestId ∧ Held codec last moments ∧
        last.attempt.toNat = requestAttempt.toNat) moments := by
  cases storedSubmission with
  | some last =>
    refine (safeOk_resume h.1).mono ?_
    rintro _ moments - ⟨rfl, hHeld⟩
    exact ⟨last, rfl, hHeld, h.2.symm⟩
  | none =>
    refine (safeOk_submit h.1 h.2.1 h.2.2).mono ?_
    rintro _ moments - ⟨progress, rfl, hHeld, hAttempt⟩
    exact ⟨progress, rfl, hHeld, hAttempt⟩

theorem safeOk_requestLoop {resumedDeadlineSecs : Option UInt64} (rounds : Nat) (requestAttempt : UInt64)
    (storedSubmission : Option Sp1NetworkSubmissionProgress)
    (h : RoundStart config codec requestAttempt storedSubmission moments) :
    (runContract ids config codec).SafeOk ()
      (requestLoop ids config proofMode stage bound resumedDeadlineSecs rounds requestAttempt storedSubmission :
        RequestRun Raw P (NetworkProofRequestResult P)) (Returned ids) moments := by
  induction rounds generalizing requestAttempt storedSubmission moments with
  | zero => exact SafeOk.throw
  | succ rounds ih =>
    refine SafeOk.bind ((safeOk_submitOrResume h).mono ?_)
    rintro ⟨requestIdString, resuming⟩ moments - ⟨last, hId, hHeld, hAttempt⟩
    dsimp only at hId
    subst hId
    dsimp only
    split
    · exact SafeOk.throw
    rename_i requestId hParse
    refine SafeOk.bind (safeOk_neutral (fun _ => ⟨rfl, rfl, rfl, rfl⟩) (fun _ => trivial) fun now hClock => ?_)
    have hHeld := hHeld.neutral hClock
    refine SafeOk.bind ((safeOk_checkExpired hHeld _).mono ?_)
    rintro expired moments - ⟨hHeld, hExpired⟩
    cases expired with
    | some proof => exact safeOk_pure fun _ => ⟨last, requestId, hHeld.durable, rfl, hParse, hExpired proof rfl⟩
    | none =>
    refine SafeOk.bind ((safeOk_wait hHeld).mono ?_)
    rintro outcome moments - hWaited
    cases outcome with
    | fulfilled proof => exact safeOk_pure fun _ => ⟨last, requestId, hWaited.1.durable, rfl, hParse, hWaited.2⟩
    | retryRequest reason =>
      dsimp only
      split
      · exact SafeOk.throw
      · rename_i hMore
        have hSleep : Neutral (.asked ⟨.sleep, ()⟩ : Moment Raw P) := ⟨rfl, rfl, rfl, rfl⟩
        have hLess : requestAttempt.toNat < config.networkRequestMaxAttempts.toNat := by
          rw [ge_iff_le, UInt64.le_iff_toNat_le, UInt32.toNat_toUInt64] at hMore
          omega
        have hNext : (U64.saturatingAdd requestAttempt 1).toNat = requestAttempt.toNat + 1 := by
          have hMax := config.networkRequestMaxAttempts.toNat_lt
          rw [U64.toNat_saturatingAdd, UInt64.toNat_one]
          omega
        refine SafeOk.bind (safeOk_sleep (ih _ none ⟨.inr ⟨last, Retry.neutral hWaited hSleep⟩, ?_, ?_⟩))
        · rw [hNext, hSleep.durable, hWaited.durable, attemptNumber, hAttempt]
        · omega

theorem loadSp1Resume_eq_ok {checkpoint : PendingProofCheckpoint Raw} {progress : Sp1NetworkSubmissionProgress}
    {resume : Sp1Resume} (hCodec : codec.RoundTrips) (hIs : IsCheckpointOf codec .sp1 progress checkpoint)
    (h : loadSp1Resume codec (some checkpoint) config = .ok resume) :
    ∃ deadline, resume = ⟨progress.attempt.toUInt64, deadline, some progress⟩ := by
  rw [loadSp1Resume, hIs.decodePayloadFor hCodec, hIs.attempt] at h
  simp only [except_bind_eq_ok_iff] at h
  obtain ⟨_, -, _, ⟨⟩, _, -, _, -, _, -, _, -, ⟨⟩⟩ := h
  exact ⟨_, rfl⟩

theorem safeOk_requestNetworkProof (hAttempts : 0 < config.networkRequestMaxAttempts.toNat) (hCodec : codec.RoundTrips)
    (hStarted : currentRun moments = []) (hSaved : unsaved moments = false) (rounds : Nat) :
    (runContract ids config codec).SafeOk ()
      (requestNetworkProof ids config proofMode stage bound codec rounds :
        RequestRun Raw P (NetworkProofRequestResult P)) (Returned ids) moments := by
  refine SafeOk.bind (safeOk_call fun hSound answer hFaithful => ⟨?_, ?_⟩)
  · exact hSound.quiet trivial rfl rfl
  have hDurable : durable (moments ++ [.asked ⟨.loadPendingProofCheckpoint .sp1, answer⟩]) = durable moments := by
    rw [durable_concat]
    rfl
  have hUnsaved : unsaved (moments ++ [.asked ⟨.loadPendingProofCheckpoint .sp1, answer⟩]) = false := by
    rw [unsaved_concat, hSaved]
    rfl
  have hRun : currentRun (moments ++ [.asked ⟨.loadPendingProofCheckpoint .sp1, answer⟩]) =
      [.asked ⟨.loadPendingProofCheckpoint .sp1, answer⟩] := by
    rw [currentRun, since_concat rfl, ← currentRun, hStarted, List.nil_append]
  rcases answer with error | _ | checkpoint
  · exact SafeOk.throw
  · refine safeOk_requestLoop rounds 1 none ⟨.inl ⟨hDurable.trans hFaithful, hUnsaved, ?_⟩, ?_, ?_⟩
    · rw [hRun]
      rintro moment hMem
      rw [List.mem_singleton.mp hMem]
      rfl
    · rw [hDurable, show durable moments = none from hFaithful]
      rfl
    · exact hAttempts
  · obtain ⟨progress, hProgress, hIs⟩ := hFaithful
    dsimp only
    split
    · exact SafeOk.throw
    rename_i resume hResume
    obtain ⟨deadline, rfl⟩ := loadSp1Resume_eq_ok hCodec hIs hResume
    refine safeOk_requestLoop rounds _ (some progress) ⟨⟨hDurable.trans hProgress, hUnsaved, ?_⟩, ?_⟩
    · rw [hRun]
      rintro moment hMem found hFound
      rw [List.mem_singleton.mp hMem] at hFound
      cases hFound
      exact .inr hIs
    · exact UInt32.toNat_toUInt64 _

variable {run : Option (Program Call (Call.Ans Raw P) (Except RunError (NetworkProofRequestResult P)))}

theorem History.running (hAttempts : 0 < config.networkRequestMaxAttempts.toNat) (hCodec : codec.RoundTrips)
    (h : History ids config codec proofMode stage moments run) :
    (runContract ids config codec).Running
        (fun _ result moments => ∀ r, result = .ok r → Returned ids r moments) (fun _ => run) moments ∧
      (run = none → unsaved moments = false) := by
  induction h with
  | nil => exact ⟨⟨sound_nil, nofun⟩, fun _ => rfl⟩
  | @start moments bound rounds _ ih =>
    have hSound : Sound ids config codec (moments ++ [.started]) := ih.1.1.quiet trivial rfl rfl
    have hUnsaved : unsaved (moments ++ [.started]) = false := by
      rw [unsaved_concat, ih.2 rfl]
      rfl
    refine ⟨ih.1.change hSound ?_, nofun⟩
    rintro _ _ ⟨⟩
    exact .inr (safeOk_requestNetworkProof hAttempts hCodec (since_concat_of_test rfl) hUnsaved rounds)
  | answer answer _ hFaithful ih =>
    exact ⟨(ih.1.turn (i := ()) rfl ⟨rfl, hFaithful⟩ rfl fun j hj => absurd (Subsingleton.elim j ()) hj).1, nofun⟩
  | @finish moments result _ hSaved ih =>
    have hReturned := ih.1.value (i := ()) rfl
    have hJustified : Justified ids config codec moments (.ended (some result)) := by
      cases result with
      | error error => trivial
      | ok result => exact hReturned result rfl
    refine ⟨ih.1.change (ih.1.1.quiet hJustified rfl rfl) nofun, fun _ => ?_⟩
    rw [unsaved_concat, hSaved]
    rfl
  | stop _ hSaved ih =>
    refine ⟨ih.1.change (ih.1.1.quiet trivial rfl rfl) nofun, fun _ => ?_⟩
    rw [unsaved_concat, hSaved]
    rfl

theorem History.reply {run : Program Call (Call.Ans Raw P) (Except RunError (NetworkProofRequestResult P))}
    (h : History ids config codec proofMode stage moments (some run)) (call : Call) (answer : call.Ans Raw P)
    {next : call.Ans Raw P → Program Call (Call.Ans Raw P) (Except RunError (NetworkProofRequestResult P))}
    (hRun : run = .ask call next) (hFaithful : Faithful codec moments ⟨call, answer⟩) :
    History ids config codec proofMode stage (moments ++ [.asked ⟨call, answer⟩]) (some (next answer)) := by
  subst hRun
  exact .answer answer h hFaithful

/-- In every history of runs for one engine task: no more requests are accepted than attempts are configured, the
durable attempts are counted up from one, a request is submitted only when there was none or after the wait on the last
one in the same run, a checkpoint that was found is resumed first, and a proof that is returned was given for the
durable request. -/
theorem sp1_requests_are_neither_duplicated_nor_abandoned {parsesUrl parsesAddress : String → Bool}
    (hConfig : config.validate parsesUrl parsesAddress = .ok ()) (hCodec : codec.RoundTrips)
    (h : History ids config codec proofMode stage moments run) :
    (acceptedRequests moments).length ≤ config.networkRequestMaxAttempts.toNat ∧
    (∀ progress, (durableReports moments).head? = some progress → progress.attempt = 1) ∧
    ((durableReports moments).IsChain fun p q => q = p ∨ q.attempt.toNat = p.attempt.toNat + 1) ∧
    JustifiedLog (Justified ids config codec) moments := by
  have hSound := (h.running (config.attempts_pos hConfig) hCodec).1.1
  exact ⟨hSound.bounded, hSound.first, hSound.inOrder, hSound.justified⟩

end Runs

section Samples

def sampleIds : RequestIdFormat where
  toText requestId := if requestId = 7 then "0x07" else "0x08"
  fromText
    | "0x07" => .ok 7
    | "0x08" => .ok 8
    | _ => .error "invalid digit"

def sampleConfig : Sp1Config where
  prover := .network
  mode := .prove
  networkMode := .mainnet
  fulfillmentStrategy := .auction
  skipSimulation := true
  cycleLimit := 1000
  timeoutSecs := 60
  networkRequestMaxAttempts := 2

abbrev SampleHistory := History (P := Nat) sampleIds sampleConfig plainCodec .compressed "proposal"

def sampleSubmission : Sp1NetworkSubmissionProgress := sp1NetworkSubmissionProgress "0x07" 100 sampleConfig 1

def secondSubmission : Sp1NetworkSubmissionProgress := sp1NetworkSubmissionProgress "0x08" 165 sampleConfig 2

def sampleOrder : Sp1ProofOrder := ⟨.compressed, .auction, true, 1000, 60, none⟩

/-- A run that is stopped after its submission, and one that resumes it, waits in vain and makes the second request. -/
def sampleMoments : List (Moment Sp1NetworkSubmissionProgress Nat) :=
  [.started,
    .asked ⟨.loadPendingProofCheckpoint .sp1, .ok none⟩,
    .asked ⟨.acquireSubmissionCheckpointPermit, .ok ()⟩,
    .asked ⟨.request sampleOrder, .ok 7⟩,
    .asked ⟨.nowSecs, (100 : UInt64)⟩,
    .asked ⟨.onProgress sampleSubmission, .saved⟩,
    .ended none,
    .started,
    .asked ⟨.loadPendingProofCheckpoint .sp1, .ok (some ⟨.sp1, ⟨1, by decide⟩, 100, 160, sampleSubmission⟩)⟩,
    .asked ⟨.acquireSubmissionCheckpointPermit, .ok ()⟩,
    .asked ⟨.onProgress sampleSubmission, .saved⟩,
    .asked ⟨.nowSecs, (120 : UInt64)⟩,
    .asked ⟨.insertStatus none, .ok ()⟩,
    .asked ⟨.register "0x07" 40, .ok ()⟩,
    .asked ⟨.terminal "0x07", .ok (.timedOut "no bid")⟩,
    .asked ⟨.sleep, ()⟩,
    .asked ⟨.acquireSubmissionCheckpointPermit, .ok ()⟩,
    .asked ⟨.request sampleOrder, .ok 8⟩,
    .asked ⟨.nowSecs, (165 : UInt64)⟩,
    .asked ⟨.onProgress secondSubmission, .saved⟩,
    .asked ⟨.nowSecs, (166 : UInt64)⟩,
    .asked ⟨.insertStatus none, .ok ()⟩,
    .asked ⟨.register "0x08" 60, .ok ()⟩,
    .asked ⟨.terminal "0x08", .ok .fulfilled⟩,
    .asked ⟨.getProofStatus 8, .ok (.fulfilled, some 42)⟩,
    .ended (some (.ok ⟨"0x08", 42⟩))]

theorem sampleMoments_history : SampleHistory sampleMoments none := by
  have hLoad : SampleHistory _ _ := .start 1 1 .nil
  have hPermit := hLoad.reply (.loadPendingProofCheckpoint .sp1) (.ok none) rfl rfl
  have hRequest := hPermit.reply .acquireSubmissionCheckpointPermit (.ok ()) rfl trivial
  have hClock := hRequest.reply (.request sampleOrder) (.ok 7) rfl trivial
  have hReport := hClock.reply .nowSecs (100 : UInt64) rfl trivial
  have hWait := hReport.reply (.onProgress sampleSubmission) .saved rfl trivial
  have hLoad := (hWait.stop rfl).start 1 2
  have hPermit := hLoad.reply (.loadPendingProofCheckpoint .sp1)
    (.ok (some ⟨.sp1, ⟨1, by decide⟩, 100, 160, sampleSubmission⟩)) rfl ⟨_, rfl, rfl, rfl, rfl, rfl, rfl⟩
  have hReport := hPermit.reply .acquireSubmissionCheckpointPermit (.ok ()) rfl trivial
  have hClock := hReport.reply (.onProgress sampleSubmission) .saved rfl trivial
  have hStatus := hClock.reply .nowSecs (120 : UInt64) rfl trivial
  have hRegister := hStatus.reply (.insertStatus none) (.ok ()) rfl trivial
  have hTerminal := hRegister.reply (.register "0x07" 40) (.ok ()) rfl trivial
  have hRetry := hTerminal.reply (.terminal "0x07") (.ok (.timedOut "no bid")) rfl trivial
  have hPermit := hRetry.reply .sleep () rfl trivial
  have hRequest := hPermit.reply .acquireSubmissionCheckpointPermit (.ok ()) rfl trivial
  have hClock := hRequest.reply (.request sampleOrder) (.ok 8) rfl trivial
  have hReport := hClock.reply .nowSecs (165 : UInt64) rfl trivial
  have hClock := hReport.reply (.onProgress secondSubmission) .saved rfl trivial
  have hStatus := hClock.reply .nowSecs (166 : UInt64) rfl trivial
  have hRegister := hStatus.reply (.insertStatus none) (.ok ()) rfl trivial
  have hTerminal := hRegister.reply (.register "0x08" 60) (.ok ()) rfl trivial
  have hFetch := hTerminal.reply (.terminal "0x08") (.ok .fulfilled) rfl trivial
  have hDone := hFetch.reply (.getProofStatus 8) (.ok (.fulfilled, some 42)) rfl trivial
  exact hDone.finish rfl

theorem sampleMoments_requests_are_resumed :
    sampleConfig.validate (fun _ => true) (fun _ => true) = .ok () ∧ SampleHistory sampleMoments none ∧
      (acceptedRequests sampleMoments).length ≤ 2 ∧ (durableReports sampleMoments).map (·.attempt) = [1, 1, 2] ∧
      JustifiedLog (Justified sampleIds sampleConfig plainCodec) sampleMoments := by
  have hConfig : sampleConfig.validate (fun _ => true) (fun _ => true) = .ok () := rfl
  have hSafe := sp1_requests_are_neither_duplicated_nor_abandoned hConfig (fun progress => ⟨progress, rfl, rfl⟩)
    sampleMoments_history
  exact ⟨hConfig, sampleMoments_history, hSafe.1, rfl, hSafe.2.2.2⟩

end Samples

end Raiko2.Prover
