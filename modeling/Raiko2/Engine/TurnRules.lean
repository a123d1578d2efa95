import Raiko2.Engine.RunOne
import Raiko2.Lib.Monitor

/-!
# What a worker asks for in its turn

Whatever the observer, the prover and the queue answer: a worker invokes the prover only if its lease carries no proof
and it has not checkpointed one, it puts a task back with the proof that was checkpointed last, and it asks for a
failure that is final only once the observer has taken it down.
-/

namespace Raiko2.Engine

open Lib Queue Monitor

variable {I Proof : Type}

abbrev Exchange (I Proof : Type) := Sigma fun r : Request I Proof => r.Ans

section Log

def acceptedCheckpoint : Exchange I Proof → Option (EngineTask Proof × TaskExecutionPolicy)
  | ⟨.checkpointPayload _ payload policy, accepted⟩ => if accepted = true then some (payload, policy) else none
  | _ => none

/-- What the queue holds for the task of a lease as far as the worker knows: its last checkpoint or the lease. -/
def held (lease : EngineLease Proof) (log : List (Exchange I Proof)) : EngineTask Proof × TaskExecutionPolicy :=
  (log.findSome? acceptedCheckpoint).getD (lease.payload, lease.executionPolicy)

def invalidates : Exchange I Proof → Bool
  | ⟨.acquireTaskExecutionPermit _ _, .error (.proofInvalidated _)⟩ => true
  | ⟨.checkpointCompletedProof _ _ _, .error (.proofInvalidated _)⟩ => true
  | ⟨.onTaskSucceeded _ _ _, .error (.proofInvalidated _)⟩ => true
  | _ => false

def failedToPersist : List (Exchange I Proof) → Bool
  | ⟨.acquireTerminalFailurePermit _ _, .error _⟩ :: _ => true
  | ⟨.onTaskFailed _ _ _, .error _⟩ :: _ => true
  | _ => false

def Calm (_ : Unit) (log : List (Exchange I Proof)) : Prop := failedToPersist log = false

/-- The observer has just taken a final failure down, with a permit and after the lease was renewed under it. -/
def Persisted (lease : EngineLease Proof) (log : List (Exchange I Proof)) : Prop :=
  ∃ task error owners earlier, log = ⟨.onTaskFailed lease.id task error, .ok owners⟩ :: ⟨.renewLease lease, true⟩ ::
    ⟨.acquireTerminalFailurePermit lease.id task, .ok ()⟩ :: earlier

/-- A lease for giving the task back: with the proof that is held, and not for good but for a reason. -/
structure Returnable (own : EngineLease Proof) (log : List (Exchange I Proof)) (lease : EngineLease Proof)
    (error : String) : Prop where
  payload : ∀ task proof, (held own log).1 = .publishProof task proof → ∃ task', lease.payload = .publishProof task' proof
  retry : lease.executionPolicy.retry = durabilityRetryPolicy ∨
    lease.executionPolicy.retry = (held own log).2.retry ∨
    lease.executionPolicy.retry = .none ∧ (error = taskLeaseLostError ∨ log.any invalidates = true)

structure GivesBack (observer : Bool) (own : EngineLease Proof) (log : List (Exchange I Proof))
    (lease : EngineLease Proof) (error : String) : Prop extends Returnable own log lease error where
  final : observer = true → lease.executionPolicy.failureIsTerminal lease.attempt = true → Persisted lease log ∨
    failedToPersist log = true ∧ lease.executionPolicy.retry = durabilityRetryPolicy

/-- A proof may be made: none is on the lease and none has been checkpointed. -/
def MayProve (own : EngineLease Proof) (log : List (Exchange I Proof)) : Prop :=
  own.payload.isPublishProof = false ∧ ∀ exchange ∈ log, acceptedCheckpoint exchange = none

def Meets (observer : Bool) (own : EngineLease Proof) (log : List (Exchange I Proof)) : Request I Proof → Prop
  | .prove _ _ => MayProve own log
  | .aggregate _ _ => MayProve own log
  | .leaseInterruption lease => lease.SameGrant own
  | .renewLease lease => lease.SameGrant own
  | .checkpointPayload lease payload policy => lease.SameGrant own ∧ policy.retry = durabilityRetryPolicy ∧
      ∃ task proof, payload = .publishProof task proof
  | .complete lease result => lease.SameGrant own ∧ ∀ error, result = .error error → GivesBack observer own log lease error
  | .detach _ mode => mode = .remove
  | _ => True

/-- The requests of a worker. One that follows a refusal of the observer puts the task back. -/
def Requestable (observer : Bool) (own : EngineLease Proof) (log : List (Exchange I Proof)) (r : Request I Proof) :
    Prop :=
  Meets observer own log r ∧ (failedToPersist log = true →
    ∃ lease error, r = .complete lease (.error error) ∧ lease.executionPolicy.retry = durabilityRetryPolicy)

def turnMonitor (observer : Bool) (own : EngineLease Proof) :
    Monitor (List (Exchange I Proof)) (Request I Proof) Request.Ans :=
  .logging (Requestable observer own)

end Log

section Executing

variable {α β : Type} {own : EngineLease Proof}

def Harmless (own : EngineLease Proof) : Request I Proof → Prop
  | .prove _ _ => own.payload.isPublishProof = false
  | .aggregate _ _ => own.payload.isPublishProof = false
  | .leaseInterruption lease => lease = own
  | .onTaskStarted _ _ _ | .loadCompletedProof _ _ | .loadProofArtifact _ | .onTaskSucceeded _ _ _ => True
  | .preflight _ | .validate _ _ | .encode _ _ | .getView _ => True
  | _ => False

def executing (own : EngineLease Proof) : Monitor Bool (Request I Proof) Request.Ans :=
  ⟨fun seen r answer => seen || invalidates ⟨r, answer⟩, fun _ => Harmless own⟩

/-- An execution fails for an invalid proof only if the observer says so, and never for a failed publication. -/
def Earned (seen : Bool) : TaskExecutionError Proof → Prop
  | .proofInvalidated _ => seen = true
  | .proofPublication _ _ => False
  | _ => True

def Executed (result : Except (TaskExecutionError Proof) α) (seen : Bool) : Prop :=
  ∀ error, result = .error error → Earned seen error

def Steady (own : EngineLease Proof) (p : Execution I Proof α) : Prop :=
  ∀ seen, (executing own).Obeys p.run Executed seen

theorem Steady.pure (a : α) : Steady (I := I) own (pure a) := by
  rintro seen _ ⟨⟩

theorem Steady.throw {error : TaskExecutionError Proof} (h : ∀ seen, Earned seen error) :
    Steady own (throw error : Execution I Proof α) := by
  rintro seen _ ⟨⟩
  exact h seen

theorem Steady.bind {p : Execution I Proof α} {f : α → Execution I Proof β} (h : Steady own p)
    (hNext : ∀ a, Steady own (f a)) : Steady own (p >>= f) := by
  intro seen
  apply Obeys.bindExcept
  apply Obeys.mono (h seen)
  intro result seen' hResult
  constructor
  · rintro a ⟨⟩
    exact hNext a seen'
  · rintro error rfl _ ⟨⟩
    exact hResult error rfl

theorem Steady.lift {p : Turn I Proof α} {f : α → Execution I Proof β} {Q : α → Bool → Prop}
    (h : ∀ seen, (executing own).Obeys p Q seen) (hNext : ∀ a seen, Q a seen → (executing own).Obeys (f a).run Executed seen) :
    Steady own (ExceptT.lift p >>= f) := by
  intro seen
  apply Obeys.liftBind
  exact Obeys.mono (h seen) hNext

theorem Steady.call {r : Request I Proof} {f : r.Ans → Execution I Proof β} (hHarmless : Harmless own r)
    (hNext : ∀ answer, Steady own (f answer)) : Steady own (ExceptT.lift (call r) >>= f) := by
  apply Steady.lift (Q := fun _ _ => True)
  · exact fun seen => Obeys.request hHarmless fun _ => trivial
  · exact fun answer seen _ => hNext answer seen

theorem steady_orRetryable (answer : Except String α) : Steady own (orRetryable (I := I) answer) := by
  cases answer with
  | error error => exact Steady.throw fun _ => trivial
  | ok a => exact Steady.pure a

variable (observer : Bool) (id : EngineTaskKey) (worker : String) (task : EngineTask Proof)

theorem obeys_notifyStageStarted (seen : Bool) :
    (executing own).Obeys (notifyStageStarted (I := I) observer id worker task) (fun _ _ => True) seen := by
  cases observer with
  | true => exact Obeys.request trivial fun _ => trivial
  | false => exact trivial

theorem obeys_notifyStageSucceeded (success : EngineTaskSuccess Proof) (seen : Bool) :
    (executing own).Obeys (notifyStageSucceeded (I := I) observer id task success)
      (fun answer seen => ∀ error, answer = .error error → Earned seen (.ofObserver error : TaskExecutionError Proof)) seen := by
  cases observer with
  | false => rintro error ⟨⟩
  | true =>
    apply Obeys.request trivial
    rintro answer error rfl
    cases error with
    | proofInvalidated error => exact Bool.or_true seen
    | _ => exact trivial

theorem steady_executeProposalStage {T : Type} (stage : PipelineStage) {execute : Turn I Proof (Except String T)}
    (h : ∀ seen, (executing own).Obeys execute (fun _ _ => True) seen) :
    Steady own (executeProposalStage observer id worker task stage execute) := by
  apply Steady.lift (obeys_notifyStageStarted observer id worker task)
  intro _ seen _
  revert seen
  apply Steady.lift h
  intro answer seen _
  revert seen
  cases answer with
  | error error => exact Steady.throw fun _ => trivial
  | ok output =>
    dsimp only
    cases (stageSuccess stage : Option (EngineTaskSuccess Proof)) with
    | none => exact Steady.throw fun _ => trivial
    | some success =>
      apply Steady.lift (obeys_notifyStageSucceeded observer id task success)
      intro answer seen hAnswer
      cases answer with
      | error error =>
        rintro _ ⟨⟩
        exact hAnswer error rfl
      | ok _ => exact Steady.pure output seen

theorem steady_proveProposalEncoded (request : ProposalTaskRequest) (inputTask : EngineTaskKey)
    (encoded : EncodedGuestInput) (hOwn : own.payload.isPublishProof = false) :
    Steady own (proveProposalEncoded (I := I) observer id worker request inputTask encoded) := by
  apply Steady.lift (obeys_notifyStageStarted observer id worker _)
  intro _ seen _
  revert seen
  apply Steady.call (r := .prove request encoded) hOwn
  intro answer
  cases answer with
  | error error => exact Steady.throw fun _ => trivial
  | ok proof => exact Steady.pure _

theorem steady_executeProposal (request : ProposalTaskRequest) (hOwn : own.payload.isPublishProof = false) :
    Steady own (executeProposal (I := I) observer id worker request) := by
  have hCall : ∀ (r : Request I Proof), Harmless own r → ∀ seen, (executing own).Obeys (call r) (fun _ _ => True) seen :=
    fun r hr seen => Obeys.request hr fun _ => trivial
  apply Steady.bind (steady_executeProposalStage observer id worker _ _ (hCall (.preflight request) trivial))
  intro preflight
  apply Steady.bind
    (steady_executeProposalStage observer id worker _ _ (hCall (.validate request preflight.output) trivial))
  intro validated
  apply Steady.bind
    (steady_executeProposalStage observer id worker _ _ (hCall (.encode request validated.output) trivial))
  intro encoded
  exact steady_proveProposalEncoded observer id worker request id encoded hOwn

theorem steady_outputOf (task : EngineTaskKey) (taskName : String) (read : EngineOutput I Proof → Except String α) :
    Steady own (outputOf task taskName read) := by
  apply Steady.call (r := .getView task) trivial
  intro view
  split
  · exact Steady.throw fun _ => trivial
  · exact steady_orRetryable _
  · exact Steady.throw fun _ => trivial

theorem steady_getProofArtifact (artifact : ProofArtifactRef) :
    Steady own (getProofArtifact observer artifact : Execution I Proof Proof) := by
  cases observer with
  | false => exact Steady.throw fun _ => trivial
  | true =>
    apply Steady.call (r := .loadProofArtifact artifact) trivial
    intro answer
    apply Steady.bind (steady_orRetryable answer)
    rintro (_ | proof)
    · exact Steady.throw fun _ => trivial
    · exact Steady.pure proof

theorem steady_resolveAggregationSource (source : List AggregateProofInput) :
    Steady own (resolveAggregationSource observer source : Execution I Proof (List Proof)) := by
  induction source with
  | nil => exact Steady.pure []
  | cons input inputs ih =>
    apply Steady.bind (steady_getProofArtifact observer input.artifact)
    intro proof
    exact Steady.bind ih fun proofs => Steady.pure _

theorem steady_execute {task : EngineTask Proof} (hTask : own.payload = task) :
    Steady own (execute observer id worker task : Execution I Proof _) := by
  cases task with
  | proposal request => exact steady_executeProposal observer id worker request (by rw [hTask]; rfl)
  | preflight request =>
    apply Steady.call (r := .preflight request) trivial
    intro answer
    exact Steady.bind (steady_orRetryable answer) fun _ => Steady.pure _
  | validate request preflightTask =>
    apply Steady.bind (steady_outputOf preflightTask _ _)
    intro input
    apply Steady.call (r := .validate request input) trivial
    intro answer
    exact Steady.bind (steady_orRetryable answer) fun _ => Steady.pure _
  | encode request inputTask =>
    apply Steady.bind (steady_outputOf inputTask _ _)
    intro input
    apply Steady.call (r := .encode request input) trivial
    intro answer
    exact Steady.bind (steady_orRetryable answer) fun _ => Steady.pure _
  | proveProposal request inputTask =>
    apply Steady.bind (steady_outputOf inputTask _ _)
    intro encoded
    apply Steady.call (r := .prove request encoded)
    · change own.payload.isPublishProof = false
      rw [hTask]
      rfl
    · intro answer
      exact Steady.bind (steady_orRetryable answer) fun _ => Steady.pure _
  | aggregate request source =>
    apply Steady.bind (steady_resolveAggregationSource observer source)
    intro proofs
    apply Steady.call (r := .aggregate request proofs)
    · change own.payload.isPublishProof = false
      rw [hTask]
      rfl
    · intro answer
      exact Steady.bind (steady_orRetryable answer) fun _ => Steady.pure _
  | publishProof task proof => exact Steady.pure _

theorem obeys_interruptible {p : Turn I Proof (Except (TaskExecutionError Proof) α)} {seen : Bool}
    (h : (executing own).Obeys p Executed seen) : (executing own).Obeys (interruptible own p) Executed seen := by
  have hWait : ∀ (answer : Option LeaseInterruption) (seen : Bool),
      (executing own).next seen (.leaseInterruption own : Request I Proof) answer = seen :=
    fun _ seen => Bool.or_false seen
  have hInterrupted : ∀ (interruption : LeaseInterruption) (seen : Bool),
      Executed (.error (interruptionError interruption) : Except (TaskExecutionError Proof) α) seen := by
    rintro (_ | _) seen _ ⟨⟩ <;> exact trivial
  induction p generalizing seen with
  | done result =>
    refine ⟨rfl, ?_⟩
    rintro (_ | interruption)
    · rw [hWait]
      exact h
    · exact hInterrupted interruption _
  | ask r next ih =>
    rw [interruptible]
    refine ⟨rfl, ?_⟩
    rintro (_ | interruption)
    · rw [hWait]
      exact ⟨h.1, fun answer => ih answer (h.2 answer)⟩
    · exact hInterrupted interruption _

theorem steady_recoverCompletedOutput :
    Steady own (recoverCompletedOutput observer id task : Execution I Proof _) := by
  cases observer with
  | false => exact Steady.pure none
  | true =>
    apply Steady.call (r := .loadCompletedProof id task) trivial
    intro answer
    apply Steady.bind (steady_orRetryable answer)
    rintro (_ | proof)
    · exact Steady.pure none
    · exact Steady.pure _

theorem obeys_executeLeasedTask (startTask : EngineTask Proof) {permitError : Option EngineObserverError} {seen : Bool}
    (hPermit : ∀ error, permitError = some error → Earned seen (.ofObserver error : TaskExecutionError Proof)) :
    (executing own).Obeys (executeLeasedTask (I := I) observer own own.payload startTask permitError)
      (fun outcome => Executed outcome.1) seen := by
  cases permitError with
  | some error =>
    rintro _ ⟨⟩
    exact hPermit error rfl
  | none =>
    unfold executeLeasedTask
    dsimp only
    split
    on_goal 1 =>
      refine Obeys.requestThen (r := Request.onTaskStarted own.id startTask own.worker) trivial fun _ => ?_
    all_goals
      apply Obeys.andThen (steady_recoverCompletedOutput observer own.id own.payload _)
      rintro (error | _ | output) seen' hRecovered
      · rintro _ ⟨⟩
        exact hRecovered error rfl
      · apply Obeys.andThen (obeys_interruptible (steady_execute observer own.id own.worker rfl seen'))
        exact fun _ _ hExecuted => hExecuted
      · rintro _ ⟨⟩

end Executing

section Completing

variable {observer : Bool} {own lease : EngineLease Proof} {log : List (Exchange I Proof)} {exchange : Exchange I Proof}
  {error : String}

theorem held_cons (h : acceptedCheckpoint exchange = none) : held own (exchange :: log) = held own log := by
  rw [held, held, List.findSome?_cons, h]

theorem held_of_accepted {payload : EngineTask Proof} {policy : TaskExecutionPolicy}
    (h : acceptedCheckpoint exchange = some (payload, policy)) : held own (exchange :: log) = (payload, policy) := by
  rw [held, List.findSome?_cons, h]
  rfl

structure Unsettled (log : List (Exchange I Proof)) : Prop where
  unchecked : ∀ exchange ∈ log, acceptedCheckpoint exchange = none
  calm : failedToPersist log = false

theorem Unsettled.held_eq (h : Unsettled log) : held own log = (own.payload, own.executionPolicy) := by
  rw [held, List.findSome?_eq_none_iff.mpr h.unchecked]
  rfl

theorem Unsettled.cons (h : Unsettled log) (hCheckpoint : acceptedCheckpoint exchange = none)
    (hCalm : failedToPersist (exchange :: log) = false) : Unsettled (exchange :: log) :=
  ⟨List.forall_mem_cons.mpr ⟨hCheckpoint, h.unchecked⟩, hCalm⟩

variable {r : Request I Proof}

theorem requestable_of_calm (h : Meets observer own log r) (hCalm : failedToPersist log = false) :
    Requestable observer own log r :=
  ⟨h, fun hFailed => absurd (hCalm.symm.trans hFailed) Bool.false_ne_true⟩

theorem Harmless.requestable (hHarmless : Harmless own r) (h : Unsettled log) :
    Requestable observer own log r := by
  apply requestable_of_calm _ h.calm
  cases r with
  | prove => exact ⟨hHarmless, h.unchecked⟩
  | aggregate => exact ⟨hHarmless, h.unchecked⟩
  | leaseInterruption lease =>
    obtain rfl : lease = own := hHarmless
    exact ⟨rfl, rfl, rfl, rfl⟩
  | renewLease | checkpointPayload | complete | detach => exact hHarmless.elim
  | _ => exact trivial

theorem Harmless.unsettled (hHarmless : Harmless own r) (h : Unsettled log) (answer : r.Ans) :
    Unsettled (⟨r, answer⟩ :: log) := by
  cases r with
  | renewLease | checkpointPayload | complete | acquireTerminalFailurePermit | onTaskFailed => exact hHarmless.elim
  | _ => exact h.cons rfl rfl

theorem Earned.mono {seen seen' : Bool} {error : TaskExecutionError Proof} (h : Earned seen error)
    (hSeen : seen = true → seen' = true) : Earned seen' error := by
  cases error with
  | proofInvalidated error => exact hSeen h
  | proofPublication error proof => exact h.elim
  | _ => exact trivial

theorem turn_executeLeasedTask (startTask : EngineTask Proof) {permitError : Option EngineObserverError}
    (hLog : Unsettled log) (hPermit : ∀ error, permitError = some error →
      Earned (log.any invalidates) (.ofObserver error : TaskExecutionError Proof)) :
    (turnMonitor observer own).Obeys (executeLeasedTask observer own own.payload startTask permitError)
      (fun outcome log => Unsettled log ∧ Executed outcome.1 (log.any invalidates)) log := by
  apply Obeys.simulate (m := executing own) (Q := fun outcome => Executed outcome.1)
    (fun seen log => Unsettled log ∧ (seen = true → log.any invalidates = true))
  · rintro seen log r ⟨hLog, -⟩ hHarmless
    exact Harmless.requestable hHarmless hLog
  · rintro seen log r answer ⟨hLog, hSeen⟩ hHarmless
    refine ⟨Harmless.unsettled hHarmless hLog answer, ?_⟩
    intro hNext
    change (seen || invalidates ⟨r, answer⟩) = true at hNext
    change (invalidates ⟨r, answer⟩ || log.any invalidates) = true
    rw [Bool.or_eq_true] at hNext ⊢
    exact hNext.symm.imp_right hSeen
  · rintro outcome seen log ⟨hLog, hSeen⟩ hExecuted
    exact ⟨hLog, fun error hError => (hExecuted error hError).mono hSeen⟩
  · exact ⟨hLog, id⟩
  · exact obeys_executeLeasedTask observer startTask hPermit

/-- What is known of the lease and the result from the checkpoint of the proof to the completion. -/
structure Ready (own lease : EngineLease Proof) (result : ExecutionResult I Proof) (log : List (Exchange I Proof)) :
    Prop where
  grant : lease.SameGrant own
  current : held own log = (lease.payload, lease.executionPolicy)
  calm : failedToPersist log = false
  invalid : ∀ error, result = .error (.proofInvalidated error) → log.any invalidates = true
  published : ∀ proof, (∃ error, result = .error (.proofPublication error proof)) ∨
    (∃ stage, result = .ok (.proof ⟨stage, proof⟩)) → lease.payload = own.payload.withPendingPublication proof

variable {result : ExecutionResult I Proof}

theorem Unsettled.ready (h : Unsettled log) (hResult : Executed result (log.any invalidates))
    (hProof : ∀ proof, result ≠ .ok (.proof proof)) :
    Ready own own result log where
  grant := ⟨rfl, rfl, rfl, rfl⟩
  current := h.held_eq
  calm := h.calm
  invalid error hError := hResult _ hError
  published := by
    rintro proof (⟨error, hError⟩ | ⟨stage, hOk⟩)
    · exact (hResult _ hError).elim
    · exact absurd hOk (hProof _)

variable (task : EngineTask Proof)

theorem withPendingPublication_eq (proof : Proof) :
    ∃ source, task.withPendingPublication proof = .publishProof source proof := by
  cases task <;> exact ⟨_, rfl⟩

theorem turn_checkpointCompletedProof (hLog : Unsettled log) (hResult : Executed result (log.any invalidates)) :
    (turnMonitor observer own).Obeys (checkpointCompletedProof observer own own.payload task result)
      (fun checkpointed => Ready own checkpointed.lease checkpointed.result) log := by
  obtain error | output := result
  · exact hLog.ready hResult (by rintro _ ⟨⟩)
  obtain input | input | proof := output
  · exact hLog.ready hResult (by rintro _ ⟨⟩)
  · exact hLog.ready hResult (by rintro _ ⟨⟩)
  apply Obeys.requestThen
  · apply requestable_of_calm _ hLog.calm
    obtain ⟨source, hSource⟩ := withPendingPublication_eq own.payload proof.output
    exact ⟨⟨rfl, rfl, rfl, rfl⟩, rfl, source, proof.output, hSource⟩
  rintro (_ | _)
  · apply (hLog.cons rfl rfl).ready
    · rintro _ ⟨⟩
      exact trivial
    · rintro _ ⟨⟩
  cases observer with
  | false =>
    refine ⟨⟨rfl, rfl, rfl, rfl⟩, rfl, rfl, by rintro _ ⟨⟩, ?_⟩
    rintro _ (⟨_, ⟨⟩⟩ | ⟨_, ⟨⟩⟩)
    rfl
  | true =>
    apply Obeys.requestThen
    · exact requestable_of_calm trivial rfl
    rintro (error | _)
    · cases error with
      | proofInvalidated error =>
        refine ⟨⟨rfl, rfl, rfl, rfl⟩, rfl, rfl, fun _ _ => rfl, ?_⟩
        rintro _ (⟨_, ⟨⟩⟩ | ⟨_, ⟨⟩⟩)
      | _ =>
        refine ⟨⟨rfl, rfl, rfl, rfl⟩, rfl, rfl, by rintro _ ⟨⟩, ?_⟩
        rintro _ (⟨_, ⟨⟩⟩ | ⟨_, ⟨⟩⟩)
        rfl
    · refine ⟨⟨rfl, rfl, rfl, rfl⟩, rfl, rfl, by rintro _ ⟨⟩, ?_⟩
      rintro _ (⟨_, ⟨⟩⟩ | ⟨_, ⟨⟩⟩)
      rfl

theorem turn_notifyExecutionSuccess (id : EngineTaskKey) (task : EngineTask Proof) (h : Ready own lease result log) :
    (turnMonitor observer own).Obeys (notifyExecutionSuccess observer id task result) (Ready own lease) log := by
  obtain error | output := result
  · exact h
  cases observer with
  | false => exact h
  | true =>
    apply Obeys.requestThen
    · exact requestable_of_calm trivial h.calm
    have hCurrent {answer} : held own (⟨.onTaskSucceeded id task (taskSuccessFromOutput output), answer⟩ :: log) =
        (lease.payload, lease.executionPolicy) := h.current
    rintro (error | _)
    · -- A proof stays pending unless it is invalid; for the other outputs the execution failed.
      cases output with
      | proof proof =>
        cases error with
        | proofInvalidated error =>
          refine ⟨h.grant, hCurrent, rfl, fun _ _ => rfl, ?_⟩
          rintro _ (⟨_, ⟨⟩⟩ | ⟨_, ⟨⟩⟩)
        | _ =>
          refine ⟨h.grant, hCurrent, rfl, by rintro _ ⟨⟩, ?_⟩
          rintro _ (⟨_, ⟨⟩⟩ | ⟨_, ⟨⟩⟩)
          exact h.published _ (.inr ⟨_, rfl⟩)
      | _ =>
        cases error with
        | proofInvalidated error =>
          refine ⟨h.grant, hCurrent, rfl, fun _ _ => rfl, ?_⟩
          rintro _ (⟨_, ⟨⟩⟩ | ⟨_, ⟨⟩⟩)
        | _ =>
          refine ⟨h.grant, hCurrent, rfl, by rintro _ ⟨⟩, ?_⟩
          rintro _ (⟨_, ⟨⟩⟩ | ⟨_, ⟨⟩⟩)
    · exact ⟨h.grant, hCurrent, rfl, by rintro _ ⟨⟩, h.published⟩

theorem Returnable.cons (h : Returnable own log lease error) (hCheckpoint : acceptedCheckpoint exchange = none) :
    Returnable own (exchange :: log) lease error where
  payload := by
    rw [held_cons hCheckpoint]
    exact h.payload
  retry := by
    rw [held_cons hCheckpoint]
    refine h.retry.imp_right (Or.imp_right (And.imp_right (Or.imp_right ?_)))
    intro hInvalid
    rw [List.any_cons, hInvalid, Bool.or_true]

theorem Returnable.durable (h : Returnable own log lease error) (error' : String) :
    Returnable own log (withRetry lease durabilityRetryPolicy) error' :=
  ⟨h.payload, .inl rfl⟩

theorem turn_retryAfterTerminalObserverError (observerError : EngineObserverError)
    (hGrant : lease.SameGrant own) (h : Returnable own log lease error) (hFailed : failedToPersist log = true) :
    (turnMonitor observer own).Obeys (retryAfterTerminalObserverError lease error observerError) Calm
      log := by
  apply Obeys.requestThen
  · refine ⟨⟨hGrant, ?_⟩, fun _ => ⟨_, _, rfl, rfl⟩⟩
    rintro _ ⟨⟩
    exact ⟨h.durable _, fun _ _ => .inr ⟨hFailed, rfl⟩⟩
  · exact fun _ => rfl

theorem turn_detachTerminalFailureProjection (owners : List RootOwner) (hCalm : failedToPersist log = false) :
    (turnMonitor observer own).Obeys (detachTerminalFailureProjection owners) Calm log := by
  induction owners generalizing log with
  | nil => exact hCalm
  | cons owner owners ih =>
    apply Obeys.requestThen
    · exact requestable_of_calm rfl hCalm
    · exact fun _ => ih rfl

theorem turn_completeTerminalFailure (hGrant : lease.SameGrant own) (h : Returnable own log lease error)
    (hCalm : failedToPersist log = false) :
    (turnMonitor observer own).Obeys (completeTerminalFailure observer lease task error) Calm log := by
  cases observer with
  | false =>
    apply Obeys.requestThen
    · refine requestable_of_calm ⟨hGrant, ?_⟩ hCalm
      rintro _ ⟨⟩
      exact ⟨h, by rintro ⟨⟩⟩
    · exact fun _ => rfl
  | true =>
    apply Obeys.requestThen
    · exact requestable_of_calm trivial hCalm
    rintro (observerError | _)
    · exact turn_retryAfterTerminalObserverError observerError hGrant (h.cons rfl) rfl
    apply Obeys.requestThen
    · exact requestable_of_calm hGrant rfl
    rintro (_ | _)
    · exact rfl
    apply Obeys.requestThen
    · exact requestable_of_calm trivial rfl
    rintro (observerError | owners)
    · exact turn_retryAfterTerminalObserverError observerError hGrant (((h.cons rfl).cons rfl).cons rfl) rfl
    apply Obeys.requestThen
    · refine requestable_of_calm ⟨hGrant, ?_⟩ rfl
      rintro _ ⟨⟩
      exact ⟨((h.cons rfl).cons rfl).cons rfl, fun _ _ => .inl ⟨_, _, _, _, rfl⟩⟩
    · exact fun _ => turn_detachTerminalFailureProjection owners rfl

theorem Ready.payload (h : Ready own lease result log) (task : EngineTask Proof) (proof : Proof)
    (hHeld : (held own log).1 = .publishProof task proof) :
    ∃ task', lease.payload = .publishProof task' proof := by
  rw [h.current] at hHeld
  exact ⟨task, hHeld⟩

theorem Ready.returnable {failure : TaskExecutionError Proof} (h : Ready own lease (.error failure) log) :
    Returnable own log (applyExecutionFailurePolicy lease own.payload (.error failure : ExecutionResult I Proof))
      failure.message := by
  have hSame : Returnable own log lease failure.message := by
    refine ⟨h.payload, .inr (.inl ?_)⟩
    rw [h.current]
  cases failure with
  | retryable error => exact hSame
  | stage error task => exact hSame
  | coordination error => exact hSame.durable _
  | proofInvalidated error => exact ⟨h.payload, .inr (.inr ⟨rfl, .inr (h.invalid error rfl)⟩)⟩
  | proofPublication error proof =>
    refine ⟨?_, .inl rfl⟩
    change ∀ task proof', _ → ∃ task', own.payload.withPendingPublication proof = .publishProof task' proof'
    rw [← h.published proof (.inl ⟨error, rfl⟩)]
    exact h.payload

theorem sameGrant_applyExecutionFailurePolicy (payload : EngineTask Proof) (result : ExecutionResult I Proof)
    (h : lease.SameGrant own) : (applyExecutionFailurePolicy lease payload result).SameGrant own := by
  obtain (_ | _ | _ | _ | _) | _ := result <;> exact h

theorem turn_completeTurn (h : Ready own lease result log) :
    (turnMonitor observer own).Obeys
      (completeTurn observer (applyExecutionFailurePolicy lease own.payload result) task result) Calm
      log := by
  have hGrant := sameGrant_applyExecutionFailurePolicy own.payload result h.grant
  cases result with
  | ok output =>
    apply Obeys.requestThen
    · exact requestable_of_calm ⟨hGrant, by rintro _ ⟨⟩⟩ h.calm
    · exact fun _ => rfl
  | error failure =>
    unfold completeTurn
    dsimp only
    split
    · exact turn_completeTerminalFailure task hGrant h.returnable h.calm
    · rename_i hRetry
      apply Obeys.requestThen
      · refine requestable_of_calm ⟨hGrant, ?_⟩ h.calm
        rintro _ ⟨⟩
        exact ⟨h.returnable, fun _ hFinal => absurd hFinal hRetry⟩
      · exact fun _ => rfl

theorem turn_finishTurn {checkpointed : Checkpointed I Proof} (recoveredOutput : Bool)
    (h : Ready own checkpointed.lease checkpointed.result log) :
    (turnMonitor observer own).Obeys (finishTurn observer own.payload recoveredOutput checkpointed) Calm
      log := by
  obtain ⟨lease, task, result⟩ := checkpointed
  unfold finishTurn
  dsimp only at h ⊢
  split
  · have hGrant : (withRetry lease .none).SameGrant own := h.grant
    exact turn_completeTerminalFailure task hGrant ⟨h.payload, .inr (.inr ⟨rfl, .inl rfl⟩)⟩ h.calm
  · split
    · exact Obeys.andThen (turn_notifyExecutionSuccess lease.id task h) fun _ _ => turn_completeTurn task
    · exact turn_completeTurn task h

theorem turn_acquireCurrentExecutionPermit :
    (turnMonitor observer own).Obeys (acquireCurrentExecutionPermit (I := I) observer own own.payload)
      (fun permit log => Unsettled log ∧ ∀ error, permit = some (some error) →
        Earned (log.any invalidates) (.ofObserver error : TaskExecutionError Proof)) [] := by
  have hEmpty : Unsettled ([] : List (Exchange I Proof)) := ⟨by rintro _ ⟨⟩, rfl⟩
  cases observer with
  | false =>
    apply Obeys.requestThen
    · exact requestable_of_calm ⟨rfl, rfl, rfl, rfl⟩ rfl
    rintro (_ | _) <;> exact ⟨hEmpty.cons rfl rfl, by rintro _ ⟨⟩⟩
  | true =>
    apply Obeys.requestThen
    · exact requestable_of_calm trivial rfl
    intro permit
    apply Obeys.requestThen
    · exact requestable_of_calm ⟨rfl, rfl, rfl, rfl⟩ rfl
    have hLog (renewed : Bool) :
        Unsettled [⟨.renewLease own, renewed⟩, ⟨.acquireTaskExecutionPermit own.id own.payload, permit⟩] :=
      (hEmpty.cons rfl rfl).cons rfl rfl
    rintro (_ | _)
    · exact ⟨hLog false, by rintro _ ⟨⟩⟩
    · cases permit with
      | ok _ => exact ⟨hLog true, by rintro _ ⟨⟩⟩
      | error error =>
        refine ⟨hLog true, ?_⟩
        rintro _ ⟨⟩
        cases error with
        | proofInvalidated error => exact (rfl : (false || (true || false)) = true)
        | _ => exact trivial

theorem turn_runLeased (observer : Bool) (own : EngineLease Proof) :
    (turnMonitor observer own).Obeys (runLeased observer own) Calm ([] : List (Exchange I Proof)) := by
  apply Obeys.andThen turn_acquireCurrentExecutionPermit
  rintro (_ | permitError) log ⟨hLog, hPermit⟩
  · exact hLog.calm
  apply Obeys.andThen (turn_executeLeasedTask _ hLog fun error hError => hPermit error (congrArg some hError))
  rintro ⟨result, recoveredOutput⟩ log ⟨hLog, hResult⟩
  apply Obeys.andThen (turn_checkpointCompletedProof _ hLog hResult)
  intro checkpointed log hReady
  exact turn_finishTurn recoveredOutput hReady

end Completing

end Raiko2.Engine
