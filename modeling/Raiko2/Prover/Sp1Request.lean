import Raiko2.Lib.Process
import Raiko2.Lib.Text
import Raiko2.Server.PendingCheckpoint

/-!
# Proof requests to the SP1 network

`request_network_proof` as a program: every call of the observer, the network client, the status poller and the clock is
a request, and a run can be cut off at any of them. The request of the durable checkpoint is resumed first; a new one is
made when the wait on the last one has ended in a state that can be retried.
-/

namespace Raiko2.Prover

open Lib Raiko2.Engine Raiko2.Server

structure Sp1Config where
  prover : ProverMode
  mode : ExecutionMode
  networkMode : Sp1NetworkMode
  fulfillmentStrategy : Sp1FulfillmentStrategy
  skipSimulation : Bool
  cycleLimit : UInt64
  proposalCycleLimit : Option UInt64 := none
  aggregationCycleLimit : Option UInt64 := none
  timeoutSecs : UInt64
  networkRequestMaxAttempts : UInt32
  maxPricePerPgu : Option UInt64 := none
  auctionTimeoutSecs : Option UInt64 := none
  rpcUrl : Option String := none
  remoteVerify : Option Sp1RemoteVerifyConfig := none
  deriving DecidableEq, Repr

inductive Sp1ConfigError where
  | cycleLimitMustBePositive
  | proposalCycleLimitMustBePositive
  | aggregationCycleLimitMustBePositive
  | timeoutSecsMustBePositive
  | networkRequestAttemptsMustBePositive
  | maxPricePerPguMustBePositive
  | auctionTimeoutSecsMustBePositive
  | rpcUrlMustNotBeEmpty
  | rpcUrlInvalid (url : String)
  | remoteVerifyRpcUrlMustNotBeEmpty
  | remoteVerifyRpcUrlInvalid (url : String)
  | remoteVerifyAddressMustNotBeEmpty
  | remoteVerifyAddressInvalid (address : String)
  | executeModeDoesNotSupportNetworkProver
  | mainnetRequiresAuction (strategy : Sp1FulfillmentStrategy)
  | reservedRequiresReservedOrHosted (strategy : Sp1FulfillmentStrategy)
  deriving DecidableEq, Repr

def refuseIf {ε : Type} (condition : Prop) [Decidable condition] (error : ε) : Except ε Unit :=
  if condition then .error error else .ok ()

@[simp]
theorem refuseIf_eq_ok_iff {ε : Type} {condition : Prop} [Decidable condition] {error : ε} {done : Unit} :
    refuseIf condition error = .ok done ↔ ¬condition := by
  rw [refuseIf]
  split <;> simp_all

section Validate

variable (parsesUrl parsesAddress : String → Bool)

def validateRpcUrl : Option String → Except Sp1ConfigError Unit
  | none => .ok ()
  | some rpcUrl => do
    refuseIf (isBlank rpcUrl) .rpcUrlMustNotBeEmpty
    refuseIf (rpcUrl ≠ trim rpcUrl) (.rpcUrlInvalid rpcUrl)
    refuseIf (¬parsesUrl rpcUrl) (.rpcUrlInvalid rpcUrl)

def validateRemoteVerify : Option Sp1RemoteVerifyConfig → Except Sp1ConfigError Unit
  | none => .ok ()
  | some ⟨rpcUrl, verifierAddress⟩ => do
    refuseIf (isBlank rpcUrl) .remoteVerifyRpcUrlMustNotBeEmpty
    refuseIf (¬parsesUrl rpcUrl) (.remoteVerifyRpcUrlInvalid rpcUrl)
    refuseIf (isBlank verifierAddress) .remoteVerifyAddressMustNotBeEmpty
    refuseIf (¬parsesAddress verifierAddress) (.remoteVerifyAddressInvalid verifierAddress)

def validateTarget : Sp1NetworkMode → Sp1FulfillmentStrategy → Except Sp1ConfigError Unit
  | .mainnet, .auction | .reserved, .reserved | .reserved, .hosted => .ok ()
  | .mainnet, strategy => .error (.mainnetRequiresAuction strategy)
  | .reserved, strategy => .error (.reservedRequiresReservedOrHosted strategy)

/-- `validate`, with the parsers of `Url` and `Address`; a configuration that fails one of the checks is not used. -/
def Sp1Config.validate (config : Sp1Config) : Except Sp1ConfigError Unit := do
  refuseIf (config.cycleLimit = 0) .cycleLimitMustBePositive
  refuseIf (config.proposalCycleLimit = some 0) .proposalCycleLimitMustBePositive
  refuseIf (config.aggregationCycleLimit = some 0) .aggregationCycleLimitMustBePositive
  refuseIf (config.timeoutSecs = 0) .timeoutSecsMustBePositive
  refuseIf (config.networkRequestMaxAttempts = 0) .networkRequestAttemptsMustBePositive
  refuseIf (config.maxPricePerPgu = some 0) .maxPricePerPguMustBePositive
  refuseIf (config.auctionTimeoutSecs = some 0) .auctionTimeoutSecsMustBePositive
  validateRpcUrl parsesUrl config.rpcUrl
  validateRemoteVerify parsesUrl parsesAddress config.remoteVerify
  refuseIf (config.mode = .execute ∧ config.prover = .network) .executeModeDoesNotSupportNetworkProver
  if config.prover = .network then validateTarget config.networkMode config.fulfillmentStrategy else .ok ()

variable {parsesUrl parsesAddress}

theorem Sp1Config.attempts_pos {config : Sp1Config} (h : config.validate parsesUrl parsesAddress = .ok ()) :
    0 < config.networkRequestMaxAttempts.toNat := by
  simp only [Sp1Config.validate, except_bind_eq_ok_iff, refuseIf_eq_ok_iff, exists_const] at h
  obtain ⟨-, -, -, -, hAttempts, -⟩ := h
  exact Nat.pos_of_ne_zero fun hZero => hAttempts (UInt32.toNat_inj.mp hZero)

end Validate

structure Sp1ProofOrder where
  proofMode : RecursionMode
  strategy : Sp1FulfillmentStrategy
  skipSimulation : Bool
  cycleLimit : UInt64
  timeoutSecs : UInt64
  maxPricePerPgu : Option UInt64
  deriving DecidableEq, Repr

inductive FulfillmentStatus where
  | unspecified
  | requested
  | assigned
  | fulfilled
  | unfulfillable
  deriving DecidableEq, Repr

inductive RemoteTerminalResult where
  | fulfilled
  | failed (reason : String)
  | expired (reason : String)
  | timedOut (reason : String)
  | unrecoverable (reason : String)
  deriving DecidableEq, Repr

inductive Sp1TerminalOutcome where
  | unfulfillable
  | timedOut
  | auctionTimedOut
  | unexecutable
  deriving DecidableEq, Repr

/-- How a report to the observer ends. After an error that can be retried the report may be durable all the same; the
program cannot tell. -/
inductive ProgressAnswer where
  | saved
  | retryable (error : String) (durable : Bool)
  | permanent (error : String)
  deriving DecidableEq, Repr

inductive Call where
  | loadPendingProofCheckpoint (backend : NetworkProverBackend)
  | acquireSubmissionCheckpointPermit
  | onProgress (progress : Sp1NetworkSubmissionProgress)
  | request (order : Sp1ProofOrder)
  | nowSecs
  | getProofStatus (requestId : B256)
  | insertStatus (auctionTimeout : Option UInt64)
  | register (providerRequestId : String) (timeoutSecs : UInt64)
  | terminal (providerRequestId : String)
  | terminalOutcome (providerRequestId : String)
  | beforeDeadline
  | sleep
  deriving DecidableEq, Repr

abbrev Call.Ans (Raw P : Type) : Call → Type
  | loadPendingProofCheckpoint _ => Except ProgressPersistenceError (Option (PendingProofCheckpoint Raw))
  | acquireSubmissionCheckpointPermit => Except ProgressPersistenceError Unit
  | onProgress _ => ProgressAnswer
  | request _ => Except String B256
  | nowSecs => UInt64
  | getProofStatus _ => Except String (FulfillmentStatus × Option P)
  | insertStatus _ => Except String Unit
  | register _ _ => Except String Unit
  | terminal _ => Except String RemoteTerminalResult
  | terminalOutcome _ => Except String (Option Sp1TerminalOutcome)
  | beforeDeadline => Bool
  | sleep => Unit

/-- A `RaikoError::Guest`, or a loop without a bound that has been left because the bound of the model was reached. -/
inductive RunError where
  | guest (message : String)
  | unfinished
  deriving DecidableEq, Repr

abbrev RequestRun (Raw P α : Type) := ExceptT RunError (Program Call (Call.Ans Raw P)) α

structure RequestIdFormat where
  toText : B256 → String
  fromText : String → Except String B256

structure NetworkProofRequestResult (P : Type) where
  requestId : String
  proof : P
  deriving DecidableEq, Repr

inductive Sp1NetworkWaitOutcome (P : Type) where
  | fulfilled (proof : P)
  | retryRequest (reason : String)
  deriving DecidableEq, Repr

section Requests

variable {Raw P : Type}

def call (request : Call) : RequestRun Raw P (request.Ans Raw P) := ExceptT.lift (Program.request request)

def guest {α : Type} (message : String) : RequestRun Raw P α := throw (.guest message)

def persistenceMessage : ProgressPersistenceError → String
  | .retryable error => error
  | .permanent error => error

def sp1NetworkSubmissionProgress (providerRequestId : String) (submittedAt : UInt64) (config : Sp1Config)
    (attempt : UInt32) : Sp1NetworkSubmissionProgress where
  providerRequestId := providerRequestId
  submittedAt := submittedAt
  networkMode := config.networkMode
  fulfillmentStrategy := config.fulfillmentStrategy
  skipSimulation := config.skipSimulation
  cycleLimit := config.cycleLimit
  timeoutSecs := config.timeoutSecs
  attempt := attempt
  maxPricePerPgu := config.maxPricePerPgu
  auctionTimeoutSecs := config.auctionTimeoutSecs

/-- `persist_prover_progress`: the same report again until it is answered for good. -/
def persistProverProgress (progress : Sp1NetworkSubmissionProgress) : Nat → RequestRun Raw P Unit
  | 0 => throw .unfinished
  | bound + 1 => do
    match ← call (.onProgress progress) with
    | .saved => return ()
    | .retryable _ _ =>
      call .sleep
      persistProverProgress progress bound
    | .permanent error => guest error

def acquireSubmissionCheckpointPermit : RequestRun Raw P Unit := do
  match ← call .acquireSubmissionCheckpointPermit with
  | .ok () => return ()
  | .error error => guest (persistenceMessage error)

structure Sp1Resume where
  requestAttempt : UInt64
  deadlineSecs : Option UInt64
  submission : Option Sp1NetworkSubmissionProgress
  deriving DecidableEq, Repr

def loadSp1Resume (codec : PayloadCodec Raw) (checkpoint : Option (PendingProofCheckpoint Raw)) (config : Sp1Config) :
    Except String Sp1Resume :=
  match checkpoint with
  | none => .ok ⟨1, none, none⟩
  | some checkpoint => do
    refuseIf (checkpoint.deadlineSecs = 0) "SP1 checkpoint has zero deadline"
    let resume ← decodePayloadFor codec checkpoint .sp1
    refuseIf (resume.providerRequestId = "") "SP1 checkpoint has empty provider request id"
    refuseIf (resume.submittedAt ≠ checkpoint.submittedAtSecs ∨
        U64.checkedAdd resume.submittedAt resume.timeoutSecs ≠ some checkpoint.deadlineSecs)
      "SP1 checkpoint timestamps do not match its provider payload"
    let targetMatches := resume.networkMode = config.networkMode ∧
      resume.fulfillmentStrategy = config.fulfillmentStrategy ∧ resume.skipSimulation = config.skipSimulation ∧
      resume.cycleLimit = config.cycleLimit ∧ resume.timeoutSecs = config.timeoutSecs ∧
      resume.maxPricePerPgu = config.maxPricePerPgu ∧ resume.auctionTimeoutSecs = config.auctionTimeoutSecs
    refuseIf (¬targetMatches) "SP1 checkpoint provider target does not match current configuration"
    refuseIf (resume.attempt ≠ checkpoint.attempt.1) "SP1 checkpoint attempt does not match its provider payload"
    return ⟨checkpoint.attempt.1.toUInt64, some checkpoint.deadlineSecs, some resume⟩

def attemptU32 (attempt : UInt64) : UInt32 :=
  if attempt.toNat < 2 ^ 32 then attempt.toUInt32 else 4294967295

variable (ids : RequestIdFormat) (config : Sp1Config) (proofMode : RecursionMode) (stage : String) (bound : Nat)

def submitOrResumeSp1Request (requestAttempt : UInt64) (storedSubmission : Option Sp1NetworkSubmissionProgress) :
    RequestRun Raw P (String × Bool) := do
  match storedSubmission with
  | some submission =>
    acquireSubmissionCheckpointPermit
    persistProverProgress submission bound
    return (submission.providerRequestId, true)
  | none =>
    acquireSubmissionCheckpointPermit
    let order : Sp1ProofOrder := {
      proofMode, strategy := config.fulfillmentStrategy, skipSimulation := config.skipSimulation
      cycleLimit := config.cycleLimit, timeoutSecs := config.timeoutSecs, maxPricePerPgu := config.maxPricePerPgu }
    match ← call (.request order) with
    | .error error => guest ("SP1 " ++ stage ++ " proof request failed: " ++ error)
    | .ok requestId =>
      let requestId := ids.toText requestId
      let submittedAt ← call .nowSecs
      persistProverProgress (sp1NetworkSubmissionProgress requestId submittedAt config (attemptU32 requestAttempt)) bound
      return (requestId, false)

def sp1ResumeWaitPlan (resumingRequest : Bool) (resumedDeadlineSecs : Option UInt64) (nowSecs : UInt64)
    (configuredTimeout : UInt64) : UInt64 × Bool :=
  if !resumingRequest then (configuredTimeout, false)
  else
    match resumedDeadlineSecs with
    | some deadline => if deadline ≤ nowSecs then (1, true) else (deadline - nowSecs, false)
    | none => (configuredTimeout, false)

def fetchSp1NetworkProof (requestId : B256) (requestIdString : String) : RequestRun Raw P (Except String P) := do
  match ← call (.getProofStatus requestId) with
  | .error error =>
    return .error ("Failed to fetch fulfilled SP1 " ++ stage ++ " proof " ++ requestIdString ++ ": " ++ error)
  | .ok (_, some proof) => return .ok proof
  | .ok (_, none) =>
    return .error ("SP1 " ++ stage ++ " proof " ++ requestIdString ++ " is fulfilled but proof payload is missing")

def fetchSp1NetworkProofUntil (requestId : B256) (requestIdString : String) : Nat → RequestRun Raw P P
  | 0 => throw .unfinished
  | bound + 1 => do
    match ← fetchSp1NetworkProof stage requestId requestIdString with
    | .ok proof => return proof
    | .error error =>
      if ← call .beforeDeadline then
        call .sleep
        fetchSp1NetworkProofUntil requestId requestIdString bound
      else guest error

def waitSp1NetworkProof (requestId : B256) (timeoutSecs : UInt64) (auctionTimeout : Option UInt64)
    (requestIdString : String) : RequestRun Raw P (Sp1NetworkWaitOutcome P) := do
  match ← call (.insertStatus auctionTimeout) with
  | .error error => guest ("SP1 status registry lock poisoned: " ++ error)
  | .ok () =>
    match ← call (.register requestIdString timeoutSecs) with
    | .error error => guest ("Failed to register SP1 network status poll: " ++ error)
    | .ok () =>
      match ← call (.terminal requestIdString) with
      | .error error => guest ("SP1 network status poller stopped before terminal status: " ++ error)
      | .ok .fulfilled =>
        let proof ← fetchSp1NetworkProofUntil stage requestId requestIdString bound
        return .fulfilled proof
      | .ok (.failed reason) =>
        match ← call (.terminalOutcome requestIdString) with
        | .error error => guest error
        | .ok (some .unfulfillable) | .ok (some .timedOut) | .ok (some .auctionTimedOut) => return .retryRequest reason
        | .ok (some .unexecutable) | .ok none => guest ("SP1 " ++ stage ++ " network proof failed: " ++ reason)
      | .ok (.timedOut reason) => return .retryRequest reason
      | .ok (.expired reason) => return .retryRequest reason
      | .ok (.unrecoverable reason) => guest ("SP1 " ++ stage ++ " network proof failed: " ++ reason)

def checkExpired (checkBeforeWait : Bool) (requestId : B256) (requestIdString : String) :
    RequestRun Raw P (Option P) :=
  if checkBeforeWait then do
    match ← call (.getProofStatus requestId) with
    | .error error =>
      guest ("Failed to check expired SP1 " ++ stage ++ " request " ++ requestIdString ++ ": " ++ error)
    | .ok (status, proof) => return if status = .fulfilled then proof else none
  else pure none

/-- The loop of `request_network_proof`. The bound stands for a loop without one. -/
def requestLoop (resumedDeadlineSecs : Option UInt64) : Nat → UInt64 → Option Sp1NetworkSubmissionProgress →
    RequestRun Raw P (NetworkProofRequestResult P)
  | 0, _, _ => throw .unfinished
  | rounds + 1, requestAttempt, storedSubmission => do
    let (requestIdString, resumingRequest) ←
      submitOrResumeSp1Request ids config proofMode stage bound requestAttempt storedSubmission
    match ids.fromText requestIdString with
    | .error error => guest ("Invalid stored SP1 " ++ stage ++ " request id: " ++ error)
    | .ok requestId =>
      let now ← call .nowSecs
      let (waitTimeout, checkBeforeWait) :=
        sp1ResumeWaitPlan resumingRequest resumedDeadlineSecs now config.timeoutSecs
      match ← checkExpired stage checkBeforeWait requestId requestIdString with
      | some proof => return ⟨requestIdString, proof⟩
      | none =>
        let auctionTimeout := if config.networkMode = .mainnet then config.auctionTimeoutSecs else none
        match ← waitSp1NetworkProof stage bound requestId waitTimeout auctionTimeout requestIdString with
        | .fulfilled proof => return ⟨requestIdString, proof⟩
        | .retryRequest reason =>
          if requestAttempt ≥ config.networkRequestMaxAttempts.toUInt64 then
            guest ("SP1 " ++ stage ++ " proof exhausted " ++ toString config.networkRequestMaxAttempts ++
              " network request attempts: " ++ reason)
          else
            call .sleep
            requestLoop resumedDeadlineSecs rounds (U64.saturatingAdd requestAttempt 1) none

def requestNetworkProof (codec : PayloadCodec Raw) (rounds : Nat) : RequestRun Raw P (NetworkProofRequestResult P) := do
  match ← call (.loadPendingProofCheckpoint .sp1) with
  | .error error => guest (persistenceMessage error)
  | .ok checkpoint =>
    match loadSp1Resume codec checkpoint config with
    | .error error => guest error
    | .ok resume =>
      requestLoop ids config proofMode stage bound resume.deadlineSecs rounds resume.requestAttempt resume.submission

end Requests

end Raiko2.Prover
