import Raiko2.Engine.Tasks
import Raiko2.Lib.Text
import Raiko2.Runtime.Records

/-!
# Checkpoints of remote submissions

A root task keeps what is known of a proof request that is in the hands of a remote prover. Reports of the prover are
merged into it: a later attempt replaces the checkpoint, the same attempt must repeat it, an earlier one is refused.
-/

namespace Raiko2.Server

open Lib Raiko2.Engine Raiko2.Runtime List

structure Sp1NetworkSubmissionProgress where
  providerRequestId : String
  submittedAt : UInt64
  networkMode : Sp1NetworkMode
  fulfillmentStrategy : Sp1FulfillmentStrategy
  skipSimulation : Bool
  cycleLimit : UInt64
  timeoutSecs : UInt64
  attempt : UInt32
  maxPricePerPgu : Option UInt64
  auctionTimeoutSecs : Option UInt64
  deriving DecidableEq, Repr

structure TaskRuntimeMetadata where
  updatedAt : Int64 := 0
  providerRequestId : Option String := none
  expiresAt : Option UInt64 := none
  submittedAt : Option UInt64 := none
  requestAttempt : Option UInt32 := none
  sp1NetworkMode : Option Sp1NetworkMode := none
  sp1FulfillmentStrategy : Option Sp1FulfillmentStrategy := none
  sp1SkipSimulation : Option Bool := none
  sp1CycleLimit : Option UInt64 := none
  sp1TimeoutSecs : Option UInt64 := none
  sp1MaxPricePerPgu : Option UInt64 := none
  sp1AuctionTimeoutSecs : Option UInt64 := none
  deriving DecidableEq, Repr

inductive RemoteSubmissionKind where
  | sp1
  deriving DecidableEq, Repr

/-- A `RemoteSubmissionConflict` is told apart from the other errors by those who report progress. -/
inductive SubmissionError where
  | conflict (message : String)
  | other (chain : ErrorChain)
  deriving DecidableEq, Repr

def optionContext {α : Type} (value : Option α) (message : String) : Except ErrorChain α :=
  match value with
  | some a => .ok a
  | none => .error [message]

namespace TaskRuntimeMetadata

def hasRemoteSubmissionProgress (self : TaskRuntimeMetadata) : Bool :=
  self.providerRequestId.isSome || self.expiresAt.isSome || self.submittedAt.isSome || self.requestAttempt.isSome ||
    self.sp1NetworkMode.isSome || self.sp1FulfillmentStrategy.isSome || self.sp1SkipSimulation.isSome ||
    self.sp1CycleLimit.isSome || self.sp1TimeoutSecs.isSome || self.sp1MaxPricePerPgu.isSome ||
    self.sp1AuctionTimeoutSecs.isSome

def hasSp1NetworkSubmissionProgress (self : TaskRuntimeMetadata) : Bool :=
  self.providerRequestId.isSome && self.expiresAt.isSome && self.submittedAt.isSome &&
    self.requestAttempt.any (0 < ·) && self.sp1NetworkMode.isSome && self.sp1FulfillmentStrategy.isSome &&
    self.sp1SkipSimulation.isSome && self.sp1CycleLimit.isSome && self.sp1TimeoutSecs.isSome

def validateSp1Submission (self : TaskRuntimeMetadata) (submittedAt expiresAt : UInt64) : Except ErrorChain Unit := do
  ensure self.hasSp1NetworkSubmissionProgress "runtime SP1 checkpoint is incomplete"
  let timeoutSecs ← optionContext self.sp1TimeoutSecs "runtime SP1 checkpoint is missing timeout_secs"
  ensure (self.sp1CycleLimit.any (0 < ·) && 0 < timeoutSecs && self.sp1MaxPricePerPgu ≠ some 0 &&
    self.sp1AuctionTimeoutSecs ≠ some 0) "runtime SP1 checkpoint has invalid provider limits"
  ensure (U64.checkedAdd submittedAt timeoutSecs = some expiresAt)
    "runtime SP1 checkpoint deadline does not match its timeout"

def validateRemoteSubmission (self : TaskRuntimeMetadata) : Except ErrorChain (Option RemoteSubmissionKind) := do
  if !self.hasRemoteSubmissionProgress then
    return none
  let providerRequestId ← optionContext self.providerRequestId
    "runtime provider checkpoint is missing provider_request_id"
  ensure (!isBlank providerRequestId) "runtime provider checkpoint has an empty provider_request_id"
  let submittedAt ← optionContext self.submittedAt "runtime provider checkpoint is missing submitted_at"
  let expiresAt ← optionContext self.expiresAt "runtime provider checkpoint is missing expires_at"
  ensure (0 < submittedAt && 0 < expiresAt && submittedAt < expiresAt)
    "runtime provider checkpoint has invalid submission deadlines"
  ensure (self.requestAttempt.any (0 < ·)) "runtime provider checkpoint has an invalid attempt"
  self.validateSp1Submission submittedAt expiresAt
  return some .sp1

def candidate (progress : Sp1NetworkSubmissionProgress) (expiresAt : UInt64) (updatedAt : Int64) :
    TaskRuntimeMetadata where
  updatedAt := updatedAt
  providerRequestId := some progress.providerRequestId
  expiresAt := some expiresAt
  submittedAt := some progress.submittedAt
  requestAttempt := some progress.attempt
  sp1NetworkMode := some progress.networkMode
  sp1FulfillmentStrategy := some progress.fulfillmentStrategy
  sp1SkipSimulation := some progress.skipSimulation
  sp1CycleLimit := some progress.cycleLimit
  sp1TimeoutSecs := some progress.timeoutSecs
  sp1MaxPricePerPgu := progress.maxPricePerPgu
  sp1AuctionTimeoutSecs := progress.auctionTimeoutSecs

/-- The record is changed in place, so the result stands beside the record that is left behind. -/
def mergeSp1NetworkSubmission (self : TaskRuntimeMetadata) (progress : Sp1NetworkSubmissionProgress)
    (updatedAt : Int64) : Except SubmissionError Bool × TaskRuntimeMetadata :=
  match U64.checkedAdd progress.submittedAt progress.timeoutSecs with
  | none => (.error (.other ["SP1 checkpoint deadline overflow"]), self)
  | some expiresAt =>
    match (candidate progress expiresAt updatedAt).validateRemoteSubmission with
    | .error chain => (.error (.other chain), self)
    | .ok none => (.error (.other ["SP1 progress did not produce a provider checkpoint"]), self)
    | .ok (some _) =>
      match self.validateRemoteSubmission with
      | .error chain => (.error (.other chain), self)
      | .ok none => (.ok true, candidate progress expiresAt updatedAt)
      | .ok (some _) =>
        match self.requestAttempt with
        | none => (.error (.other ["runtime SP1 checkpoint is missing request_attempt"]), self)
        | some currentAttempt =>
          if progress.attempt < currentAttempt then
            (.error (.conflict "SP1 attempt regressed below the durable checkpoint"), self)
          else if currentAttempt < progress.attempt then
            (.ok true, candidate progress expiresAt updatedAt)
          else if { self with updatedAt := 0 } ≠ candidate progress expiresAt 0 then
            (.error (.conflict "SP1 identity changed within one attempt"), self)
          else
            (.ok false, candidate progress expiresAt updatedAt)

end TaskRuntimeMetadata

theorem optionContext_eq_ok_iff {α : Type} {value : Option α} {message : String} {a : α} :
    optionContext value message = .ok a ↔ value = some a := by
  cases value <;> simp [optionContext]

structure Acceptable (progress : Sp1NetworkSubmissionProgress) : Prop where
  named : isBlank progress.providerRequestId = false
  submitted : 0 < progress.submittedAt
  attempt : 0 < progress.attempt
  cycleLimit : 0 < progress.cycleLimit
  timeout : 0 < progress.timeoutSecs
  price : progress.maxPricePerPgu ≠ some 0
  auction : progress.auctionTimeoutSecs ≠ some 0
  deadline : progress.submittedAt.toNat + progress.timeoutSecs.toNat < 2 ^ 64

namespace TaskRuntimeMetadata

def checkpoint (progress : Sp1NetworkSubmissionProgress) (updatedAt : Int64) : TaskRuntimeMetadata :=
  candidate progress (progress.submittedAt + progress.timeoutSecs) updatedAt

variable {self : TaskRuntimeMetadata} {progress : Sp1NetworkSubmissionProgress} {updatedAt : Int64}

theorem validateSp1Submission_eq_ok_iff {submittedAt expiresAt : UInt64} :
    self.validateSp1Submission submittedAt expiresAt = .ok () ↔
      self.hasSp1NetworkSubmissionProgress = true ∧ ∃ timeoutSecs, self.sp1TimeoutSecs = some timeoutSecs ∧
        (∃ cycleLimit, self.sp1CycleLimit = some cycleLimit ∧ 0 < cycleLimit) ∧ 0 < timeoutSecs ∧
        self.sp1MaxPricePerPgu ≠ some 0 ∧ self.sp1AuctionTimeoutSecs ≠ some 0 ∧
        submittedAt.toNat + timeoutSecs.toNat = expiresAt.toNat := by
  simp only [validateSp1Submission, except_bind_eq_ok_iff, optionContext_eq_ok_iff, ensure_eq_ok, exists_const,
    decide_eq_true_eq, U64.checkedAdd_eq_some_iff, Bool.and_eq_true, Option.any_eq_true, and_assoc]

theorem validateRemoteSubmission_of_progress {kind : RemoteSubmissionKind}
    (h : self.hasRemoteSubmissionProgress = true) :
    self.validateRemoteSubmission = .ok (some kind) ↔
      ∃ providerRequestId, self.providerRequestId = some providerRequestId ∧ isBlank providerRequestId = false ∧
        ∃ submittedAt, self.submittedAt = some submittedAt ∧ ∃ expiresAt, self.expiresAt = some expiresAt ∧
          0 < submittedAt ∧ 0 < expiresAt ∧ submittedAt < expiresAt ∧
          (∃ attempt, self.requestAttempt = some attempt ∧ 0 < attempt) ∧
          self.validateSp1Submission submittedAt expiresAt = .ok () := by
  cases kind
  rw [validateRemoteSubmission, h]
  simp only [Bool.not_true, Bool.false_eq_true, if_false, except_bind_eq_ok_iff, optionContext_eq_ok_iff, ensure_eq_ok,
    exists_const, decide_eq_true_eq, Bool.not_eq_true', Bool.and_eq_true, Option.any_eq_true, and_assoc]
  constructor
  · rintro ⟨id, hId, hNamed, s, hs, e, he, hs0, he0, hse, ha, _, hv, -⟩
    exact ⟨id, hId, hNamed, s, hs, e, he, hs0, he0, hse, ha, hv⟩
  · rintro ⟨id, hId, hNamed, s, hs, e, he, hs0, he0, hse, ha, hv⟩
    exact ⟨id, hId, hNamed, s, hs, e, he, hs0, he0, hse, ha, (), hv, rfl⟩

theorem validateRemoteSubmission_of_no_progress (h : self.hasRemoteSubmissionProgress = false) :
    self.validateRemoteSubmission = .ok none := by
  rw [validateRemoteSubmission, h]
  rfl

theorem hasRemoteSubmissionProgress_of_valid_none (h : self.validateRemoteSubmission = .ok none) :
    self.hasRemoteSubmissionProgress = false := by
  by_contra hProgress
  rw [validateRemoteSubmission, Bool.eq_true_of_not_eq_false hProgress] at h
  simp only [Bool.not_true, Bool.false_eq_true, if_false, except_bind_eq_ok_iff] at h
  -- the last step of the check answers with a kind
  obtain ⟨_, -, _, -, _, -, _, -, _, -, _, -, _, -, hAnswer⟩ := h
  cases hAnswer

theorem validateRemoteSubmission_checkpoint (h : Acceptable progress) :
    (checkpoint progress updatedAt).validateRemoteSubmission = .ok (some .sp1) := by
  have hDeadline : (progress.submittedAt + progress.timeoutSecs).toNat =
      progress.submittedAt.toNat + progress.timeoutSecs.toNat := by
    rw [UInt64.toNat_add, Nat.mod_eq_of_lt h.deadline]
  have hTimeout : 0 < progress.timeoutSecs.toNat := UInt64.lt_iff_toNat_lt.mp h.timeout
  have hLater : progress.submittedAt < progress.submittedAt + progress.timeoutSecs := by
    rw [UInt64.lt_iff_toNat_lt, hDeadline]
    omega
  rw [validateRemoteSubmission_of_progress rfl]
  refine ⟨_, rfl, h.named, _, rfl, _, rfl, h.submitted, UInt64.lt_trans h.submitted hLater, hLater, ⟨_, rfl, h.attempt⟩, ?_⟩
  rw [validateSp1Submission_eq_ok_iff]
  refine ⟨?_, _, rfl, ⟨_, rfl, h.cycleLimit⟩, h.timeout, h.price, h.auction, hDeadline.symm⟩
  simp [hasSp1NetworkSubmissionProgress, checkpoint, candidate, h.attempt]

theorem validateRemoteSubmission_eq_some_iff {kind : RemoteSubmissionKind} :
    self.validateRemoteSubmission = .ok (some kind) ↔
      ∃ progress, Acceptable progress ∧ self = checkpoint progress self.updatedAt := by
  constructor
  · intro h
    have hProgress : self.hasRemoteSubmissionProgress = true := by
      by_contra hNone
      rw [validateRemoteSubmission_of_no_progress (Bool.eq_false_of_not_eq_true hNone)] at h
      cases h
    obtain ⟨id, hId, hNamed, submitted, hSubmitted, expires, hExpires, hSubmitted0, -, -, ⟨attempt, hAttempt, hAttempt0⟩,
      hSp1⟩ := (validateRemoteSubmission_of_progress hProgress).mp h
    obtain ⟨hComplete, timeout, hTimeout, ⟨cycles, hCycles, hCycles0⟩, hTimeout0, hPrice, hAuction, hDeadline⟩ :=
      validateSp1Submission_eq_ok_iff.mp hSp1
    simp only [hasSp1NetworkSubmissionProgress, Bool.and_eq_true, Option.isSome_iff_exists] at hComplete
    obtain ⟨⟨⟨⟨⟨-, mode, hMode⟩, strategy, hStrategy⟩, skip, hSkip⟩, -⟩, -⟩ := hComplete
    have hExpiresEq : submitted + timeout = expires := by
      rw [← UInt64.toNat_inj, UInt64.toNat_add, hDeadline, Nat.mod_eq_of_lt expires.toNat_lt]
    refine ⟨⟨id, submitted, mode, strategy, skip, cycles, timeout, attempt, self.sp1MaxPricePerPgu,
      self.sp1AuctionTimeoutSecs⟩, ⟨hNamed, hSubmitted0, hAttempt0, hCycles0, hTimeout0, hPrice, hAuction, ?_⟩, ?_⟩
    · rw [hDeadline]
      exact expires.toNat_lt
    · cases self
      simp_all [checkpoint, candidate]
  · rintro ⟨progress, hp, hSelf⟩
    rw [hSelf]
    exact validateRemoteSubmission_checkpoint hp

theorem candidate_eq_checkpoint {expiresAt : UInt64}
    (h : U64.checkedAdd progress.submittedAt progress.timeoutSecs = some expiresAt) :
    candidate progress expiresAt updatedAt = checkpoint progress updatedAt := by
  unfold U64.checkedAdd at h
  split at h
  · cases h
    rfl
  · cases h

theorem checkpoint_eq_iff {other : Sp1NetworkSubmissionProgress} :
    checkpoint progress updatedAt = checkpoint other updatedAt ↔ progress = other := by
  constructor
  · intro h
    cases progress
    cases other
    simp_all [checkpoint, candidate]
  · rintro rfl
    rfl

section Merge

theorem merge_of_not_acceptable (h : ¬Acceptable progress) :
    ∃ error, self.mergeSp1NetworkSubmission progress updatedAt = (.error error, self) := by
  unfold mergeSp1NetworkSubmission
  split
  · exact ⟨_, rfl⟩
  · rename_i expiresAt hDeadline
    split
    · exact ⟨_, rfl⟩
    · exact ⟨_, rfl⟩
    · rename_i hValid
      rw [candidate_eq_checkpoint hDeadline] at hValid
      obtain ⟨other, hOther, hSame⟩ := validateRemoteSubmission_eq_some_iff.mp hValid
      rw [checkpoint_eq_iff.mp hSame] at h
      exact absurd hOther h

theorem merge_of_acceptable (h : Acceptable progress) :
    self.mergeSp1NetworkSubmission progress updatedAt =
      match self.validateRemoteSubmission with
      | .error chain => (.error (.other chain), self)
      | .ok none => (.ok true, checkpoint progress updatedAt)
      | .ok (some _) =>
        match self.requestAttempt with
        | none => (.error (.other ["runtime SP1 checkpoint is missing request_attempt"]), self)
        | some currentAttempt =>
          if progress.attempt < currentAttempt then
            (.error (.conflict "SP1 attempt regressed below the durable checkpoint"), self)
          else if currentAttempt < progress.attempt then (.ok true, checkpoint progress updatedAt)
          else if { self with updatedAt := 0 } ≠ checkpoint progress 0 then
            (.error (.conflict "SP1 identity changed within one attempt"), self)
          else (.ok false, checkpoint progress updatedAt) := by
  have hDeadline : U64.checkedAdd progress.submittedAt progress.timeoutSecs =
      some (progress.submittedAt + progress.timeoutSecs) := if_pos h.deadline
  have hValid : (checkpoint progress updatedAt).validateRemoteSubmission = .ok (some .sp1) :=
    validateRemoteSubmission_checkpoint h
  rw [← candidate_eq_checkpoint hDeadline] at hValid
  rw [mergeSp1NetworkSubmission, hDeadline]
  dsimp only
  rw [hValid]
  rfl

theorem merge_of_empty (h : Acceptable progress) (hEmpty : self.hasRemoteSubmissionProgress = false) :
    self.mergeSp1NetworkSubmission progress updatedAt = (.ok true, checkpoint progress updatedAt) := by
  rw [merge_of_acceptable h, validateRemoteSubmission_of_no_progress hEmpty]

variable {current : Sp1NetworkSubmissionProgress} {storedAt : Int64}

theorem merge_of_stored (h : Acceptable progress) (hCurrent : Acceptable current) :
    (checkpoint current storedAt).mergeSp1NetworkSubmission progress updatedAt =
      if progress.attempt < current.attempt then
        (.error (.conflict "SP1 attempt regressed below the durable checkpoint"), checkpoint current storedAt)
      else if current.attempt < progress.attempt then (.ok true, checkpoint progress updatedAt)
      else if current ≠ progress then
        (.error (.conflict "SP1 identity changed within one attempt"), checkpoint current storedAt)
      else (.ok false, checkpoint progress updatedAt) := by
  have hSame : { checkpoint current storedAt with updatedAt := 0 } ≠ checkpoint progress 0 ↔ current ≠ progress :=
    not_congr checkpoint_eq_iff
  rw [merge_of_acceptable h, validateRemoteSubmission_checkpoint hCurrent]
  simp only [hSame]
  rfl

end Merge

end TaskRuntimeMetadata

section Reports

open TaskRuntimeMetadata

structure SubmissionReport where
  progress : Sp1NetworkSubmissionProgress
  updatedAt : Int64
  deriving DecidableEq, Repr

def SubmissionReport.mergeInto (report : SubmissionReport) (self : TaskRuntimeMetadata) :
    Except SubmissionError Bool × TaskRuntimeMetadata :=
  self.mergeSp1NetworkSubmission report.progress report.updatedAt

def mergeReports (self : TaskRuntimeMetadata) (reports : List SubmissionReport) : TaskRuntimeMetadata :=
  reports.foldl (fun self report => (report.mergeInto self).2) self

def acceptedReports (self : TaskRuntimeMetadata) : List SubmissionReport → List SubmissionReport
  | [] => []
  | report :: reports =>
    match report.mergeInto self with
    | (.ok _, next) => report :: acceptedReports next reports
    | (.error _, next) => acceptedReports next reports

structure Recorded (past : List SubmissionReport) (record : TaskRuntimeMetadata) : Prop where
  empty : past = [] → record = {}
  last : ∀ report, past.getLast? = some report →
    Acceptable report.progress ∧ record = checkpoint report.progress report.updatedAt
  rising : past.Pairwise fun a b => a.progress.attempt < b.progress.attempt ∨ a.progress = b.progress

variable {past : List SubmissionReport} {self : TaskRuntimeMetadata} {report : SubmissionReport}

theorem recorded_nil : Recorded [] {} := ⟨fun _ => rfl, nofun, .nil⟩

theorem Recorded.accept (h : past.Pairwise fun a b => a.progress.attempt < b.progress.attempt ∨ a.progress = b.progress)
    (hReport : Acceptable report.progress)
    (hLast : ∀ a ∈ past, a.progress.attempt < report.progress.attempt ∨ a.progress = report.progress) :
    Recorded (past ++ [report]) (checkpoint report.progress report.updatedAt) := by
  refine ⟨fun hNil => absurd hNil (by simp), ?_, ?_⟩
  · intro last hMem
    rw [getLast?_concat, Option.some.injEq] at hMem
    subst hMem
    exact ⟨hReport, rfl⟩
  · rw [pairwise_append]
    refine ⟨h, pairwise_singleton _ _, ?_⟩
    intro a ha b hb
    obtain rfl := mem_singleton.mp hb
    exact hLast a ha

/-- One report is either refused, and the record stays, or it becomes the last accepted one. -/
theorem Recorded.merge (h : Recorded past self) (report : SubmissionReport) :
    (∃ error, report.mergeInto self = (.error error, self)) ∨
      ∃ isNew, report.mergeInto self = (.ok isNew, checkpoint report.progress report.updatedAt) ∧
        Recorded (past ++ [report]) (checkpoint report.progress report.updatedAt) ∧
        (isNew = true ↔ ∀ earlier ∈ past, earlier.progress.attempt ≠ report.progress.attempt) := by
  by_cases hReport : Acceptable report.progress
  case neg => exact .inl (merge_of_not_acceptable hReport)
  rcases eq_nil_or_concat' past with rfl | ⟨init, last, rfl⟩
  · obtain rfl := h.empty rfl
    exact .inr ⟨true, merge_of_empty hReport rfl, .accept .nil hReport nofun, by simp⟩
  obtain ⟨hLast, rfl⟩ := h.last last getLast?_concat
  have hRising : ∀ a ∈ init ++ [last], a.progress.attempt < last.progress.attempt ∨ a.progress = last.progress := by
    intro a ha
    rcases mem_append.mp ha with ha | ha
    · exact (pairwise_append.mp h.rising).2.2 a ha last (mem_singleton.mpr rfl)
    · exact .inr (by rw [mem_singleton.mp ha])
  rw [SubmissionReport.mergeInto, merge_of_stored hReport hLast]
  split_ifs with hLess hGreater hOther
  · exact .inl ⟨_, rfl⟩
  · -- a later attempt: every accepted report has an earlier one
    have hBelow : ∀ a ∈ init ++ [last], a.progress.attempt < report.progress.attempt := by
      intro a ha
      rcases hRising a ha with hLt | hEq
      · exact UInt32.lt_trans hLt hGreater
      · rw [hEq]
        exact hGreater
    refine .inr ⟨true, rfl, .accept h.rising hReport fun a ha => .inl (hBelow a ha), ?_⟩
    simp only [true_iff]
    intro a ha hSame
    exact absurd (hSame ▸ hBelow a ha) (UInt32.lt_irrefl _)
  · exact .inl ⟨_, rfl⟩
  · have hSame : last.progress = report.progress := not_not.mp hOther
    refine .inr ⟨false, rfl, .accept h.rising hReport fun a ha => hSame ▸ hRising a ha, ?_⟩
    simp only [Bool.false_eq_true, false_iff, not_forall]
    exact ⟨last, by simp, fun hNe => hNe (by rw [hSame])⟩

theorem Recorded.reports (h : Recorded past self) (reports : List SubmissionReport) :
    Recorded (past ++ acceptedReports self reports) (mergeReports self reports) := by
  induction reports generalizing past self with
  | nil =>
    rw [acceptedReports, append_nil]
    exact h
  | cons report reports ih =>
    change Recorded _ (mergeReports (report.mergeInto self).2 reports)
    rcases h.merge report with ⟨error, hMerge⟩ | ⟨isNew, hMerge, hNext, -⟩
    · rw [acceptedReports, hMerge]
      exact ih h
    · rw [acceptedReports, hMerge]
      have hRest := ih hNext
      rwa [append_assoc] at hRest

theorem recorded_reports (reports : List SubmissionReport) :
    Recorded (acceptedReports {} reports) (mergeReports {} reports) :=
  recorded_nil.reports reports

theorem Recorded.first (h : Recorded past self) {first : SubmissionReport} (hFirst : first ∈ past)
    (hAttempt : self.requestAttempt = some first.progress.attempt) :
    { self with updatedAt := 0 } = checkpoint first.progress 0 := by
  rcases eq_nil_or_concat' past with rfl | ⟨init, last, rfl⟩
  · cases hFirst
  obtain ⟨-, rfl⟩ := h.last last getLast?_concat
  have hSame : last.progress.attempt = first.progress.attempt := Option.some.inj hAttempt
  have hEq : first.progress = last.progress := by
    rcases mem_append.mp hFirst with hMem | hMem
    · rcases (pairwise_append.mp h.rising).2.2 first hMem last (mem_singleton.mpr rfl) with hLt | hEq
      · exact absurd (hSame ▸ hLt) (UInt32.lt_irrefl _)
      · exact hEq
    · rw [mem_singleton.mp hMem]
  rw [hEq]
  rfl

theorem Recorded.refuse (h : Recorded past self) {first : SubmissionReport} (hFirst : first ∈ past)
    (hAttempt : first.progress.attempt = report.progress.attempt) (hOther : first.progress ≠ report.progress) :
    ∃ error, report.mergeInto self = (.error error, self) := by
  rcases h.merge report with hRefused | ⟨isNew, -, hNext, -⟩
  · exact hRefused
  · rcases (pairwise_append.mp hNext.rising).2.2 first hFirst report (mem_singleton.mpr rfl) with hLt | hEq
    · exact absurd (hAttempt ▸ hLt) (UInt32.lt_irrefl _)
    · exact absurd hEq hOther

theorem Recorded.attempt_mono (h : Recorded past self) {attempt : UInt32} (hAttempt : self.requestAttempt = some attempt) :
    ∃ next, (report.mergeInto self).2.requestAttempt = some next ∧ attempt ≤ next := by
  rcases h.merge report with ⟨error, hMerge⟩ | ⟨isNew, hMerge, hNext, -⟩
  · exact ⟨attempt, by rw [hMerge]; exact hAttempt, UInt32.le_refl _⟩
  · refine ⟨report.progress.attempt, by rw [hMerge]; rfl, ?_⟩
    rcases eq_nil_or_concat' past with rfl | ⟨init, last, rfl⟩
    · rw [h.empty rfl] at hAttempt
      cases hAttempt
    · obtain ⟨-, rfl⟩ := h.last last getLast?_concat
      obtain rfl : last.progress.attempt = attempt := Option.some.inj hAttempt
      have hRising := (pairwise_append.mp hNext.rising).2.2 last (by simp) report (mem_singleton.mpr rfl)
      rcases hRising with hLt | hEq
      · exact UInt32.le_of_lt hLt
      · rw [hEq]
        exact UInt32.le_refl _

end Reports

end Raiko2.Server
