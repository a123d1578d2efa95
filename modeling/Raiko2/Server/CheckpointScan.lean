import Raiko2.Server.PendingCheckpoint

/-!
# The answer from the records of all owners

What the scan of the records keeps, record by record, and from it the answer: the checkpoint of the last attempt that
an owner carries, whatever the order of the records, or an error when a record is malformed, two of them disagree or no
owner is left that is not finished.
-/

namespace Raiko2.Server

open Lib Raiko2.Engine Raiko2.Runtime TaskRuntimeMetadata CheckpointScan List TaskMetadata

section Owners

variable (encoding : Encoding) (observer : RuntimeEngineObserver) (id : EngineTaskKey) (source : CheckpointSource)

/-- Records of another pipeline, route or network pair are passed over unread. -/
def Addressed (record : RuntimeTaskRecord) : Prop :=
  record.pipelineKey = EngineTaskKey.pipelineKey id ∧ record.route = observer.route ∧
    record.networkPair = observer.networkPair

def Malformed (record : RuntimeTaskRecord) : Prop :=
  Addressed observer id record ∧ ∃ chain, decodeForRecord encoding record = .error chain

def OwnsTask (record : RuntimeTaskRecord) (metadata : TaskMetadata) : Prop :=
  Addressed observer id record ∧ decodeForRecord encoding record = .ok metadata ∧
    metadata.ownsEngineTask id = true

def IsActiveOwner (record : RuntimeTaskRecord) : Prop :=
  (∃ metadata, OwnsTask encoding observer id record metadata) ∧ record.runnerStatus.isTerminal = false

def Carries (record : RuntimeTaskRecord) (progress : Sp1NetworkSubmissionProgress) : Prop :=
  ∃ metadata updatedAt, OwnsTask encoding observer id record metadata ∧
    source.runtime metadata (rootTaskRef encoding id).name = some (.checkpoint progress updatedAt)

/-- Two of the records keep different checkpoints of one attempt. -/
def Conflicting (records : List RuntimeTaskRecord) : Prop :=
  ∃ a ∈ records, ∃ b ∈ records, ∃ p q, Carries encoding observer id source a p ∧ Carries encoding observer id source b q ∧
    p.attempt = q.attempt ∧ p ≠ q

variable {encoding observer id source} {record : RuntimeTaskRecord} {metadata : TaskMetadata}

theorem OwnsTask.unique {other : TaskMetadata} (h : OwnsTask encoding observer id record metadata)
    (hOther : OwnsTask encoding observer id record other) : metadata = other :=
  Except.ok.inj (h.2.1.symm.trans hOther.2.1)

theorem Carries.unique {p q : Sp1NetworkSubmissionProgress} (hp : Carries encoding observer id source record p)
    (hq : Carries encoding observer id source record q) : p = q := by
  obtain ⟨metadata, s, hOwns, hRuntime⟩ := hp
  obtain ⟨other, t, hOther, hRuntime'⟩ := hq
  obtain rfl := hOwns.unique hOther
  have hSame : checkpoint p s = .checkpoint q t := Option.some.inj (hRuntime.symm.trans hRuntime')
  have hTime : s = t := congrArg TaskRuntimeMetadata.updatedAt hSame
  rw [hTime] at hSame
  exact checkpoint_eq_iff.mp hSame

theorem OwnsTask.submission (h : OwnsTask encoding observer id record metadata) {taskId : String}
    {runtime : TaskRuntimeMetadata} (hRuntime : source.runtime metadata taskId = some runtime)
    (hProgress : runtime.hasRemoteSubmissionProgress = true) :
    ∃ progress, Acceptable progress ∧ runtime = .checkpoint progress runtime.updatedAt := by
  obtain ⟨-, route, -, -, -, -, -, hValid, -⟩ := decodeForRecord_eq_ok_iff.mp h.2.1
  obtain ⟨hProposals, hAggregate⟩ := validateRuntimeProgress_eq_ok_iff.mp hValid
  have hChecked : validateProgress route runtime = .ok () := by
    cases source with
    | proveProposal => exact (hProposals taskId runtime hRuntime).2
    | aggregate => exact (hAggregate runtime hRuntime).2
  obtain ⟨kind, hKind, -⟩ := except_bind_eq_ok_iff.mp hChecked
  cases kind with
  | some kind => exact validateRemoteSubmission_eq_some_iff.mp hKind
  | none =>
    rw [hasRemoteSubmissionProgress_of_valid_none hKind] at hProgress
    cases hProgress

theorem recordMatchesObserver_of_not_addressed (h : ¬Addressed observer id record) :
    observer.recordMatchesObserver encoding id record = .ok false := by
  unfold RuntimeEngineObserver.recordMatchesObserver
  split_ifs with hPipeline hRoute hPair
  · rfl
  · rfl
  · rfl
  · exact absurd ⟨not_not.mp hPipeline, not_not.mp hRoute, not_not.mp hPair⟩ h

theorem recordMatchesObserver_of_addressed (h : Addressed observer id record) :
    observer.recordMatchesObserver encoding id record =
      (decodeForRecord encoding record).map (·.ownsEngineTask id) := by
  obtain ⟨hPipeline, hRoute, hPair⟩ := h
  unfold RuntimeEngineObserver.recordMatchesObserver
  rw [if_neg (not_not.mpr hPipeline), if_neg (not_not.mpr hRoute), if_neg (not_not.mpr hPair)]
  cases decodeForRecord encoding record <;> rfl

variable (encoding observer id record) in
theorem recordMatchesObserver_cases :
    (Malformed encoding observer id record ∧
      ∃ chain, observer.recordMatchesObserver encoding id record = .error chain) ∨
    (¬Malformed encoding observer id record ∧ (∀ metadata, ¬OwnsTask encoding observer id record metadata) ∧
      observer.recordMatchesObserver encoding id record = .ok false) ∨
    ¬Malformed encoding observer id record ∧ ∃ metadata, OwnsTask encoding observer id record metadata ∧
      observer.recordMatchesObserver encoding id record = .ok true := by
  by_cases hAddressed : Addressed observer id record
  case neg =>
    exact .inr (.inl ⟨fun h => hAddressed h.1, fun _ h => hAddressed h.1,
      recordMatchesObserver_of_not_addressed hAddressed⟩)
  rw [recordMatchesObserver_of_addressed hAddressed]
  cases hDecode : decodeForRecord encoding record with
  | error chain => exact .inl ⟨⟨hAddressed, chain, hDecode⟩, chain, rfl⟩
  | ok metadata =>
    have hWell : ¬Malformed encoding observer id record := by
      rintro ⟨-, chain, hError⟩
      exact absurd (hDecode.symm.trans hError) nofun
    cases hOwns : metadata.ownsEngineTask id with
    | true => exact .inr (.inr ⟨hWell, metadata, ⟨hAddressed, hDecode, hOwns⟩, congrArg Except.ok hOwns⟩)
    | false =>
      refine .inr (.inl ⟨hWell, ?_, congrArg Except.ok hOwns⟩)
      rintro other ⟨-, hOther, hOwned⟩
      rw [Except.ok.inj (hDecode.symm.trans hOther), hOwned] at hOwns
      cases hOwns

end Owners

section Scan

variable {Raw Proof : Type} {encoding : Encoding} {codec : PayloadCodec Raw} {observer : RuntimeEngineObserver}
variable {id : EngineTaskKey} {source : CheckpointSource} {backend : NetworkProverBackend}
variable {scan next : CheckpointScan Raw} {record : RuntimeTaskRecord} {seen records : List RuntimeTaskRecord}

theorem CheckpointScan.add_cases (hCodec : codec.RoundTrips) {progress : Sp1NetworkSubmissionProgress}
    {checkpoint : PendingProofCheckpoint Raw} (h : IsCheckpointOf codec backend progress checkpoint)
    (hStored : ∀ attempt t c, scan.checkpoints.lookup attempt = some (t, c) → ∃ p, IsCheckpointOf codec backend p c)
    (taskId : String) (updatedAt : Int64) :
    (scan.add codec taskId updatedAt checkpoint =
        .ok { scan with checkpoints := scan.checkpoints.insert progress.attempt (updatedAt, checkpoint) } ∧
      ∀ t c, scan.checkpoints.lookup progress.attempt = some (t, c) → c = checkpoint) ∨
    (scan.add codec taskId updatedAt checkpoint = .ok scan ∧
      ∃ t, scan.checkpoints.lookup progress.attempt = some (t, checkpoint)) ∨
    (∃ error, scan.add codec taskId updatedAt checkpoint = .error error) ∧
      ∃ t c p, scan.checkpoints.lookup progress.attempt = some (t, c) ∧ IsCheckpointOf codec backend p c ∧
        p ≠ progress := by
  rw [add, h.attempt]
  cases hLookup : scan.checkpoints.lookup progress.attempt with
  | none => exact .inl ⟨rfl, nofun⟩
  | some entry =>
    obtain ⟨t, c⟩ := entry
    obtain ⟨p, hp⟩ := hStored _ _ _ hLookup
    by_cases hSame : p = progress
    · subst hSame
      obtain rfl := hp.unique h
      obtain ⟨prefer, hPrefer⟩ := preferCheckpointCandidate_of_eq hCodec hp t updatedAt
      dsimp only
      rw [hPrefer]
      cases prefer with
      | true =>
        refine .inl ⟨rfl, ?_⟩
        rintro _ _ ⟨⟩
        rfl
      | false => exact .inr (.inl ⟨rfl, t, rfl⟩)
    · obtain ⟨reason, hReason⟩ := preferCheckpointCandidate_of_ne hCodec hp h hSame t updatedAt
      dsimp only
      rw [hReason]
      exact .inr (.inr ⟨⟨_, rfl⟩, t, c, p, rfl, hp, hSame⟩)

variable (encoding codec observer id source backend)

structure Scanned (seen : List RuntimeTaskRecord) (scan : CheckpointScan Raw) : Prop where
  wellFormed : ∀ record ∈ seen, ¬Malformed encoding observer id record
  matched : scan.matchedOwner = true ↔ ∃ record ∈ seen, ∃ metadata, OwnsTask encoding observer id record metadata
  active : scan.hasActiveOwner = true ↔ ∃ record ∈ seen, IsActiveOwner encoding observer id record
  carried : ∀ record ∈ seen, ∀ progress, Carries encoding observer id source record progress →
    ∃ t c, scan.checkpoints.lookup progress.attempt = some (t, c) ∧ IsCheckpointOf codec backend progress c
  stored : ∀ attempt t c, scan.checkpoints.lookup attempt = some (t, c) →
    ∃ record ∈ seen, ∃ progress, Carries encoding observer id source record progress ∧
      IsCheckpointOf codec backend progress c ∧ progress.attempt = attempt

variable {encoding codec observer id source backend}

theorem scanned_nil : Scanned encoding codec observer id source backend [] {} where
  wellFormed := by simp
  matched := by simp
  active := by simp
  carried := by simp
  stored attempt t c h := by
    rw [AList.lookup_empty] at h
    cases h

theorem scanRecord_cases (hCodec : codec.RoundTrips) (scan : CheckpointScan Raw) (record : RuntimeTaskRecord) :
    (Malformed encoding observer id record ∧
      ∃ error, scanRecord encoding codec observer id source backend scan record = .error error) ∨
    (¬Malformed encoding observer id record ∧ (∀ metadata, ¬OwnsTask encoding observer id record metadata) ∧
      scanRecord encoding codec observer id source backend scan record = .ok scan) ∨
    (¬Malformed encoding observer id record ∧ (∃ metadata, OwnsTask encoding observer id record metadata) ∧
      (∀ progress, ¬Carries encoding observer id source record progress) ∧
      scanRecord encoding codec observer id source backend scan record = .ok (scan.meet record)) ∨
    ¬Malformed encoding observer id record ∧ (∃ metadata, OwnsTask encoding observer id record metadata) ∧
      ∃ progress checkpoint updatedAt, Carries encoding observer id source record progress ∧
        IsCheckpointOf codec backend progress checkpoint ∧
        scanRecord encoding codec observer id source backend scan record =
          (scan.meet record).add codec (rootTaskRef encoding id).name updatedAt checkpoint := by
  rcases recordMatchesObserver_cases encoding observer id record with
    ⟨hBad, chain, hMatch⟩ | ⟨hWell, hNone, hMatch⟩ | ⟨hWell, metadata, hOwns, hMatch⟩
  · exact .inl ⟨hBad, _, by rw [scanRecord, hMatch]⟩
  · exact .inr (.inl ⟨hWell, hNone, by rw [scanRecord, hMatch]⟩)
  refine .inr (.inr ?_)
  cases hRuntime : (source.runtime metadata (rootTaskRef encoding id).name).filter (·.hasRemoteSubmissionProgress) with
  | none =>
    refine .inl ⟨hWell, ⟨metadata, hOwns⟩, ?_, by simp only [scanRecord, hMatch, hOwns.2.1, hRuntime]⟩
    rintro progress ⟨other, updatedAt, hOther, hKept⟩
    rw [hOther.unique hOwns] at hKept
    rw [hKept] at hRuntime
    cases hRuntime
  | some runtime =>
    obtain ⟨hKept, hProgress⟩ := Option.filter_eq_some_iff.mp hRuntime
    obtain ⟨progress, hAcceptable, hEq⟩ := hOwns.submission hKept hProgress
    obtain ⟨checkpoint, hBuild, hIs⟩ :=
      buildPendingProofCheckpoint_checkpoint hCodec hAcceptable runtime.updatedAt
    rw [← hEq] at hBuild
    refine .inr ⟨hWell, ⟨metadata, hOwns⟩, progress, checkpoint, runtime.updatedAt,
      ⟨metadata, runtime.updatedAt, hOwns, hEq ▸ hKept⟩, hIs, ?_⟩
    simp only [scanRecord, hMatch, hOwns.2.1, hRuntime, hBuild, bind, Except.bind]

theorem Scanned.extend (h : Scanned encoding codec observer id source backend seen scan)
    (hWell : ¬Malformed encoding observer id record)
    (hMatched : next.matchedOwner = true ↔
      scan.matchedOwner = true ∨ ∃ metadata, OwnsTask encoding observer id record metadata)
    (hActive : next.hasActiveOwner = true ↔ scan.hasActiveOwner = true ∨ IsActiveOwner encoding observer id record)
    (hKept : ∀ attempt t c, scan.checkpoints.lookup attempt = some (t, c) →
      ∃ t', next.checkpoints.lookup attempt = some (t', c))
    (hCarried : ∀ progress, Carries encoding observer id source record progress →
      ∃ t c, next.checkpoints.lookup progress.attempt = some (t, c) ∧ IsCheckpointOf codec backend progress c)
    (hStored : ∀ attempt t c, next.checkpoints.lookup attempt = some (t, c) →
      (∃ t', scan.checkpoints.lookup attempt = some (t', c)) ∨
        ∃ progress, Carries encoding observer id source record progress ∧ IsCheckpointOf codec backend progress c ∧
          progress.attempt = attempt) :
    Scanned encoding codec observer id source backend (seen ++ [record]) next where
  wellFormed := by
    rw [forall_mem_append, forall_mem_singleton]
    exact ⟨h.wellFormed, hWell⟩
  matched := by
    rw [hMatched, h.matched]
    simp [or_and_right, exists_or]
  active := by
    rw [hActive, h.active]
    simp [or_and_right, exists_or]
  carried := by
    rw [forall_mem_append, forall_mem_singleton]
    refine ⟨?_, hCarried⟩
    intro other hOther progress hCarries
    obtain ⟨t, c, hLookup, hIs⟩ := h.carried other hOther progress hCarries
    obtain ⟨t', hLookup'⟩ := hKept _ _ _ hLookup
    exact ⟨t', c, hLookup', hIs⟩
  stored := by
    intro attempt t c hLookup
    rcases hStored attempt t c hLookup with ⟨t', hOld⟩ | ⟨progress, hCarries, hIs, hAttempt⟩
    · obtain ⟨other, hOther, found⟩ := h.stored _ _ _ hOld
      exact ⟨other, mem_append_left _ hOther, found⟩
    · exact ⟨record, by simp, progress, hCarries, hIs, hAttempt⟩

theorem CheckpointScan.meet_matched (hOwns : ∃ metadata, OwnsTask encoding observer id record metadata) :
    (scan.meet record).matchedOwner = true ↔
      scan.matchedOwner = true ∨ ∃ metadata, OwnsTask encoding observer id record metadata :=
  ⟨fun _ => .inr hOwns, fun _ => rfl⟩

theorem CheckpointScan.meet_active (hOwns : ∃ metadata, OwnsTask encoding observer id record metadata) :
    (scan.meet record).hasActiveOwner = true ↔ scan.hasActiveOwner = true ∨ IsActiveOwner encoding observer id record := by
  rw [meet, Bool.or_eq_true, Bool.not_eq_true', IsActiveOwner]
  exact or_congr_right (iff_and_self.mpr fun _ => hOwns)

theorem Scanned.step (hCodec : codec.RoundTrips) (h : Scanned encoding codec observer id source backend seen scan)
    (record : RuntimeTaskRecord) :
    (∃ next, scanRecord encoding codec observer id source backend scan record = .ok next ∧
      Scanned encoding codec observer id source backend (seen ++ [record]) next) ∨
    (∃ error, scanRecord encoding codec observer id source backend scan record = .error error) ∧
      (Malformed encoding observer id record ∨ Conflicting encoding observer id source (seen ++ [record])) := by
  rcases scanRecord_cases hCodec scan record with ⟨hBad, error, hScan⟩ | ⟨hWell, hNone, hScan⟩ |
    ⟨hWell, hOwns, hNone, hScan⟩ | ⟨hWell, hOwns, progress, checkpoint, updatedAt, hCarries, hIs, hScan⟩
  · exact .inr ⟨⟨error, hScan⟩, .inl hBad⟩
  · refine .inl ⟨scan, hScan, h.extend hWell ?_ ?_ (fun _ t _ hLookup => ⟨t, hLookup⟩) ?_
      (fun _ t _ hLookup => .inl ⟨t, hLookup⟩)⟩
    · exact ⟨.inl, fun hOr => hOr.resolve_right fun ⟨metadata, hOwns⟩ => hNone metadata hOwns⟩
    · exact ⟨.inl, fun hOr => hOr.resolve_right fun ⟨⟨metadata, hOwns⟩, _⟩ => hNone metadata hOwns⟩
    · rintro _ ⟨metadata, _, hOwns, -⟩
      exact absurd hOwns (hNone metadata)
  · refine .inl ⟨scan.meet record, hScan, h.extend hWell (meet_matched hOwns)
      (meet_active hOwns) (fun _ t _ hLookup => ⟨t, hLookup⟩) ?_ fun _ t _ hLookup => .inl ⟨t, hLookup⟩⟩
    intro progress hCarries
    exact absurd hCarries (hNone progress)
  rw [hScan]
  have hStored : ∀ attempt t c, (scan.meet record).checkpoints.lookup attempt = some (t, c) →
      ∃ p, IsCheckpointOf codec backend p c := by
    intro attempt t c hLookup
    obtain ⟨_, -, p, -, hp, -⟩ := h.stored attempt t c hLookup
    exact ⟨p, hp⟩
  rcases add_cases hCodec hIs hStored (rootTaskRef encoding id).name updatedAt with
    ⟨hAdd, hSame⟩ | ⟨hAdd, t, hThere⟩ | ⟨hError, t, c, p, hThere, hp, hOther⟩
  · refine .inl ⟨_, hAdd, h.extend hWell (meet_matched hOwns) (meet_active hOwns) ?_ ?_ ?_⟩
    · intro attempt t c hLookup
      by_cases hAttempt : attempt = progress.attempt
      · subst hAttempt
        obtain rfl := hSame t c hLookup
        exact ⟨updatedAt, AList.lookup_insert _⟩
      · exact ⟨t, (AList.lookup_insert_ne hAttempt).trans hLookup⟩
    · intro p hp
      obtain rfl := hCarries.unique hp
      exact ⟨updatedAt, checkpoint, AList.lookup_insert _, hIs⟩
    · intro attempt t c hLookup
      rcases Table.lookup_insert_eq_some.mp hLookup with ⟨rfl, hSame⟩ | ⟨_, hLookup⟩
      · cases hSame
        exact .inr ⟨progress, hCarries, hIs, rfl⟩
      · exact .inl ⟨t, hLookup⟩
  · refine .inl ⟨_, hAdd, h.extend hWell (meet_matched hOwns) (meet_active hOwns)
      (fun _ t _ hLookup => ⟨t, hLookup⟩) ?_ fun _ t _ hLookup => .inl ⟨t, hLookup⟩⟩
    intro p hp
    obtain rfl := hCarries.unique hp
    exact ⟨t, checkpoint, hThere, hIs⟩
  · -- the checkpoint that was kept came from a record seen before
    obtain ⟨other, hMem, q, hq, hqc, hAttempt⟩ := h.stored _ _ _ hThere
    refine .inr ⟨hError, .inr ⟨other, mem_append_left _ hMem, record, by simp, q, progress, hq, hCarries, hAttempt, ?_⟩⟩
    rw [hqc.progress_unique hCodec hp]
    exact hOther

variable (encoding codec observer id source backend)

def Faulty (records : List RuntimeTaskRecord) : Prop :=
  (∃ record ∈ records, Malformed encoding observer id record) ∨ Conflicting encoding observer id source records

def IsLastCheckpoint (records : List RuntimeTaskRecord) : Option (PendingProofCheckpoint Raw) → Prop
  | none => ∀ record ∈ records, ∀ progress, ¬Carries encoding observer id source record progress
  | some checkpoint => ∃ record ∈ records, ∃ progress, Carries encoding observer id source record progress ∧
      IsCheckpointOf codec backend progress checkpoint ∧
      ∀ other ∈ records, ∀ q, Carries encoding observer id source other q → q.attempt ≤ progress.attempt

variable {encoding codec observer id source backend}

theorem Faulty.mono {more : List RuntimeTaskRecord} (h : Faulty encoding observer id source records)
    (hSub : ∀ record ∈ records, record ∈ more) : Faulty encoding observer id source more := by
  rcases h with ⟨record, hMem, hBad⟩ | ⟨a, ha, b, hb, found⟩
  · exact .inl ⟨record, hSub record hMem, hBad⟩
  · exact .inr ⟨a, hSub a ha, b, hSub b hb, found⟩

theorem Scanned.not_faulty (hCodec : codec.RoundTrips) (h : Scanned encoding codec observer id source backend seen scan) :
    ¬Faulty encoding observer id source seen := by
  rintro (⟨record, hMem, hBad⟩ | ⟨a, ha, b, hb, p, q, hp, hq, hAttempt, hNe⟩)
  · exact h.wellFormed record hMem hBad
  · obtain ⟨s, c, hLookup, hpc⟩ := h.carried a ha p hp
    obtain ⟨t, d, hLookup', hqd⟩ := h.carried b hb q hq
    rw [hAttempt, hLookup'] at hLookup
    cases hLookup
    exact hNe (hpc.progress_unique hCodec hqd)

variable (encoding observer id source backend) in
theorem scanRecords_cases (hCodec : codec.RoundTrips) (records : List RuntimeTaskRecord) :
    (∃ scan, records.foldlM (scanRecord encoding codec observer id source backend) {} = .ok scan ∧
      Scanned encoding codec observer id source backend records scan) ∨
    ∃ error, records.foldlM (scanRecord encoding codec observer id source backend) {} = .error error ∧
      Faulty encoding observer id source records := by
  have hMore : ∀ seen more : List RuntimeTaskRecord, Faulty encoding observer id source seen →
      Faulty encoding observer id source (seen ++ more) :=
    fun seen more h => h.mono fun _ hMem => mem_append_left _ hMem
  refine except_foldlM_cases ?_ ?_ hMore scanned_nil records
  · intro seen scan record next h hScan
    rcases h.step hCodec record with ⟨_, hNext, hScanned⟩ | ⟨⟨_, hError⟩, -⟩
    · cases hScan.symm.trans hNext
      exact hScanned
    · cases hScan.symm.trans hError
  · intro seen scan record error h hScan
    rcases h.step hCodec record with ⟨_, hNext, -⟩ | ⟨-, hBad | hConflict⟩
    · cases hScan.symm.trans hNext
    · exact .inl ⟨record, by simp, hBad⟩
    · exact .inr hConflict

theorem Scanned.lastCheckpoint (h : Scanned encoding codec observer id source backend seen scan) :
    IsLastCheckpoint encoding codec observer id source backend seen
      ((scan.checkpoints.entries.argmax fun entry => entry.1.toNat).map fun entry => entry.2.2) := by
  cases hLast : scan.checkpoints.entries.argmax fun entry => entry.1.toNat with
  | none =>
    intro record hMem progress hCarries
    obtain ⟨t, c, hLookup, -⟩ := h.carried record hMem progress hCarries
    have hEntry := Table.mem_entries_iff.mpr hLookup
    rw [argmax_eq_none.mp hLast] at hEntry
    cases hEntry
  | some entry =>
    obtain ⟨attempt, t, c⟩ := entry
    have hEntry := argmax_mem (Option.mem_def.mpr hLast)
    obtain ⟨record, hMem, progress, hCarries, hIs, hAttempt⟩ := h.stored _ _ _ (Table.mem_entries_iff.mp hEntry)
    refine ⟨record, hMem, progress, hCarries, hIs, ?_⟩
    intro other hOther q hq
    obtain ⟨s, d, hLookup, -⟩ := h.carried other hOther q hq
    have hLe := le_of_mem_argmax (Table.mem_entries_iff.mpr hLookup) (Option.mem_def.mpr hLast)
    rw [hAttempt]
    exact UInt32.le_iff_toNat_le.mpr hLe

theorem IsLastCheckpoint.unique (hFaulty : ¬Faulty encoding observer id source records)
    {a b : Option (PendingProofCheckpoint Raw)} (ha : IsLastCheckpoint encoding codec observer id source backend records a)
    (hb : IsLastCheckpoint encoding codec observer id source backend records b) : a = b := by
  cases a with
  | none =>
    cases b with
    | none => rfl
    | some c =>
      obtain ⟨record, hMem, progress, hCarries, -⟩ := hb
      exact absurd hCarries (ha record hMem progress)
  | some c =>
    obtain ⟨record, hMem, p, hp, hpc, hGreatest⟩ := ha
    cases b with
    | none => exact absurd hp (hb record hMem p)
    | some d =>
      obtain ⟨other, hMem', q, hq, hqd, hGreatest'⟩ := hb
      have hAttempt : p.attempt = q.attempt :=
        UInt32.le_antisymm (hGreatest' record hMem p hp) (hGreatest other hMem' q hq)
      have hSame : p = q := by
        by_contra hNe
        exact hFaulty (.inr ⟨record, hMem, other, hMem', p, q, hp, hq, hAttempt, hNe⟩)
      subst hSame
      rw [hpc.unique hqd]

variable {task : EngineTask Proof}

variable (encoding observer id backend) in
/-- What is loaded, in terms of which records there are. -/
theorem loadPendingProofCheckpoint_cases (hCodec : codec.RoundTrips) (hSource : checkpointSource task = some source)
    (records : List RuntimeTaskRecord) :
    ((Faulty encoding observer id source records ∨ ¬∃ record ∈ records, IsActiveOwner encoding observer id record) ∧
      ∃ error, loadPendingProofCheckpoint encoding codec observer id task backend records = .error error) ∨
    ¬Faulty encoding observer id source records ∧ (∃ record ∈ records, IsActiveOwner encoding observer id record) ∧
      ∃ answer, loadPendingProofCheckpoint encoding codec observer id task backend records = .ok answer ∧
        IsLastCheckpoint encoding codec observer id source backend records answer := by
  rw [loadPendingProofCheckpoint, hSource]
  dsimp only
  rcases scanRecords_cases encoding observer id source backend hCodec records with
    ⟨scan, hScan, hScanned⟩ | ⟨error, hError, hFaulty⟩
  · rw [hScan]
    change _ ∧ (∃ error, scan.finish _ = .error error) ∨ _ ∧ _ ∧ ∃ answer, scan.finish _ = .ok answer ∧ _
    by_cases hActive : ∃ record ∈ records, IsActiveOwner encoding observer id record
    · have hMatched : scan.matchedOwner = true := by
        obtain ⟨record, hMem, hOwns, -⟩ := hActive
        exact hScanned.matched.mpr ⟨record, hMem, hOwns⟩
      refine .inr ⟨hScanned.not_faulty hCodec, hActive, _, ?_, hScanned.lastCheckpoint⟩
      rw [finish, hMatched, hScanned.active.mpr hActive]
      rfl
    · have hInactive : scan.hasActiveOwner = false :=
        Bool.eq_false_of_not_eq_true fun h => hActive (hScanned.active.mp h)
      refine .inl ⟨.inr hActive, ?_⟩
      rw [finish, hInactive]
      split <;> exact ⟨_, rfl⟩
  · rw [hError]
    exact .inl ⟨.inl hFaulty, error, rfl⟩

theorem IsLastCheckpoint.perm {reordered : List RuntimeTaskRecord} (hPerm : records.Perm reordered)
    {answer : Option (PendingProofCheckpoint Raw)}
    (h : IsLastCheckpoint encoding codec observer id source backend records answer) :
    IsLastCheckpoint encoding codec observer id source backend reordered answer := by
  cases answer with
  | none => exact fun record hMem => h record (hPerm.mem_iff.mpr hMem)
  | some checkpoint =>
    obtain ⟨record, hMem, progress, hCarries, hIs, hGreatest⟩ := h
    exact ⟨record, hPerm.mem_iff.mp hMem, progress, hCarries, hIs, fun other hOther =>
      hGreatest other (hPerm.mem_iff.mpr hOther)⟩

theorem loadPendingProofCheckpoint_perm (hCodec : codec.RoundTrips) {reordered : List RuntimeTaskRecord}
    (hPerm : records.Perm reordered) :
    (loadPendingProofCheckpoint encoding codec observer id task backend reordered).toOption =
      (loadPendingProofCheckpoint encoding codec observer id task backend records).toOption := by
  cases hSource : checkpointSource task with
  | none =>
    rw [loadPendingProofCheckpoint, loadPendingProofCheckpoint, hSource]
  | some source =>
    have hActive : (∃ record ∈ reordered, IsActiveOwner encoding observer id record) ↔
        ∃ record ∈ records, IsActiveOwner encoding observer id record := by simp only [hPerm.mem_iff]
    have hFaulty : Faulty encoding observer id source reordered ↔ Faulty encoding observer id source records :=
      ⟨fun h => h.mono fun _ => hPerm.mem_iff.mpr, fun h => h.mono fun _ => hPerm.mem_iff.mp⟩
    rcases loadPendingProofCheckpoint_cases encoding observer id backend hCodec hSource records with
      ⟨hBad, error, hLoad⟩ | ⟨hGood, hOwner, answer, hLoad, hLast⟩
    · rcases loadPendingProofCheckpoint_cases encoding observer id backend hCodec hSource reordered with
        ⟨-, error', hLoad'⟩ | ⟨hGood, hOwner, -⟩
      · rw [hLoad, hLoad']
        rfl
      · exact absurd (hBad.resolve_left (mt hFaulty.mpr hGood)) (not_not.mpr (hActive.mp hOwner))
    · rcases loadPendingProofCheckpoint_cases encoding observer id backend hCodec hSource reordered with
        ⟨hBad, -⟩ | ⟨hGood', -, answer', hLoad', hLast'⟩
      · exact absurd (hBad.resolve_left (mt hFaulty.mp hGood)) (not_not.mpr (hActive.mpr hOwner))
      · rw [hLoad, hLoad', hLast'.unique hGood' (hLast.perm hPerm)]

/-- Reports from the empty record on: what is accepted is a valid checkpoint, attempts do not go back, an attempt keeps
its first report, and a report counts as new once for each attempt. And whatever the records of an engine task are and
in which order they are read: the answer is the checkpoint of the last attempt, unless a record is malformed, two of
them disagree, or no owner is left that is not finished. -/
theorem remote_checkpoints_are_monotone_and_unambiguous (encoding : Encoding) (codec : PayloadCodec Raw)
    (hCodec : codec.RoundTrips) :
    (∀ (reports : List SubmissionReport) (report : SubmissionReport),
      let past := acceptedReports {} reports
      let current := mergeReports {} reports
      let merged := report.mergeInto current
      (∀ isNew, merged.1 = .ok isNew → merged.2 = .checkpoint report.progress report.updatedAt ∧
        merged.2.validateRemoteSubmission = .ok (some .sp1) ∧ merged.2.hasSp1NetworkSubmissionProgress = true) ∧
      (∀ error, merged.1 = .error error → merged.2 = current) ∧
      (∀ attempt, current.requestAttempt = some attempt →
        ∃ next, merged.2.requestAttempt = some next ∧ attempt ≤ next) ∧
      (∀ first ∈ past, current.requestAttempt = some first.progress.attempt →
        { current with updatedAt := 0 } = .checkpoint first.progress 0) ∧
      (∀ first ∈ past, first.progress.attempt = report.progress.attempt → first.progress ≠ report.progress →
        ∃ error, merged = (.error error, current)) ∧
      ∀ isNew, merged.1 = .ok isNew →
        (isNew = true ↔ ∀ earlier ∈ past, earlier.progress.attempt ≠ report.progress.attempt)) ∧
    ∀ (observer : RuntimeEngineObserver) (id : EngineTaskKey) (task : EngineTask Proof)
      (backend : NetworkProverBackend) (records : List RuntimeTaskRecord),
      let load := loadPendingProofCheckpoint encoding codec observer id task backend
      (∀ reordered, records.Perm reordered → (load reordered).toOption = (load records).toOption) ∧
      (checkpointSource task = none → load records = .ok none) ∧
      ∀ source, checkpointSource task = some source →
        ((∃ error, load records = .error error) ↔ (∃ record ∈ records, Malformed encoding observer id record) ∨
          Conflicting encoding observer id source records ∨
          ¬∃ record ∈ records, IsActiveOwner encoding observer id record) ∧
        ∀ answer, load records = .ok answer →
          IsLastCheckpoint encoding codec observer id source backend records answer := by
  constructor
  · intro reports report past current merged
    have hPast : Recorded past current := recorded_reports reports
    refine ⟨?_, ?_, fun attempt => hPast.attempt_mono, fun first => hPast.first, fun first => hPast.refuse, ?_⟩
    · intro isNew hMerged
      rcases hPast.merge report with ⟨error, hError⟩ | ⟨_, hOk, hNext, -⟩
      · cases (congrArg Prod.fst hError).symm.trans hMerged
      · have hState : merged.2 = .checkpoint report.progress report.updatedAt := congrArg Prod.snd hOk
        have hAcceptable := (hNext.last report getLast?_concat).1
        refine ⟨hState, ?_, ?_⟩
        · rw [hState]
          exact validateRemoteSubmission_checkpoint hAcceptable
        · rw [hState]
          simp [hasSp1NetworkSubmissionProgress, checkpoint,
            candidate, hAcceptable.attempt]
    · intro error hMerged
      rcases hPast.merge report with ⟨_, hError⟩ | ⟨_, hOk, -⟩
      · exact congrArg Prod.snd hError
      · cases (congrArg Prod.fst hOk).symm.trans hMerged
    · intro isNew hMerged
      rcases hPast.merge report with ⟨_, hError⟩ | ⟨_, hOk, -, hNew⟩
      · cases (congrArg Prod.fst hError).symm.trans hMerged
      · cases (congrArg Prod.fst hOk).symm.trans hMerged
        exact hNew
  · intro observer id task backend records load
    refine ⟨fun reordered hPerm => loadPendingProofCheckpoint_perm hCodec hPerm, ?_, ?_⟩
    · intro hSource
      change loadPendingProofCheckpoint encoding codec observer id task backend records = _
      rw [loadPendingProofCheckpoint, hSource]
    · intro source hSource
      rw [← or_assoc]
      change ((∃ error, load records = .error error) ↔ Faulty encoding observer id source records ∨ _) ∧ _
      rcases loadPendingProofCheckpoint_cases encoding observer id backend hCodec hSource records with
        ⟨hBad, error, hLoad⟩ | ⟨hGood, hOwner, answer, hLoad, hLast⟩
      · refine ⟨⟨fun _ => hBad, fun _ => ⟨error, hLoad⟩⟩, ?_⟩
        intro answer hOk
        cases hLoad.symm.trans hOk
      · refine ⟨⟨?_, ?_⟩, ?_⟩
        · rintro ⟨error, hError⟩
          cases hLoad.symm.trans hError
        · rintro (hFaulty | hNone)
          · exact absurd hFaulty hGood
          · exact absurd hOwner hNone
        · intro answer' hOk
          cases hLoad.symm.trans hOk
          exact hLast

end Scan

section Samples

def plainCodec : PayloadCodec Sp1NetworkSubmissionProgress := ⟨.ok, .ok⟩

def firstSubmission : Sp1NetworkSubmissionProgress where
  providerRequestId := "0x01"
  submittedAt := 100
  networkMode := .mainnet
  fulfillmentStrategy := .auction
  skipSimulation := true
  cycleLimit := 1000
  timeoutSecs := 60
  attempt := 1
  maxPricePerPgu := none
  auctionTimeoutSecs := none

def secondSubmission : Sp1NetworkSubmissionProgress :=
  { firstSubmission with providerRequestId := "0x02", submittedAt := 200, attempt := 2 }

def sampleRequest : ProposalTaskRequest := { proposalId := 7, l2BlockRange := some ⟨11, 12⟩ }

def sampleMetadata (progress : Sp1NetworkSubmissionProgress) : TaskMetadata where
  networkPair := "taiko/ethereum"
  network := "taiko"
  l1Network := "ethereum"
  proofType := .sp1
  requestedProofType := none
  proverType := some .network
  executionMode := none
  aggregateRequested := false
  proposals := [⟨7, none, 0, [11, 12], 0, "task_0x7", sampleRequest⟩]
  aggregateTaskId := none
  aggregateRequest := none
  aggregateInputArtifacts := []
  runtime := { proposals := (∅ : Table String TaskRuntimeMetadata).insert "task_0x7" (.checkpoint progress 5) }

def sampleEncoding : Encoding where
  parse
    | "first" => .ok (sampleMetadata firstSubmission)
    | "second" => .ok (sampleMetadata secondSubmission)
    | _ => .error "expected value at line 1 column 1"
  render _ := "first"
  digest _ := "0x7"

def sampleRecord (taskId : String) (status : RunnerStatus) (metadata : String) : RuntimeTaskRecord where
  taskId := stableRef .task taskId
  incarnationId := 0
  pipelineKey := .shastaSp1
  route := ⟨.sp1, .network⟩
  taskKind := "proposal"
  networkPair := "taiko/ethereum"
  artifactRefs := [stableRef .task "0x7"]
  runnerStatus := status
  retentionState := .retained
  imageRef := none
  proofUri := none
  error := none
  metadata := metadata
  requestFingerprint := taskId
  updatedAt := 5

def sampleObserver : RuntimeEngineObserver := ⟨"taiko/ethereum", ⟨.sp1, .network⟩⟩

def sampleKey : EngineTaskKey := .proposal .shastaSp1 sampleRequest

def sampleTask : EngineTask Unit := .proveProposal sampleRequest sampleKey

def loadSample (records : List RuntimeTaskRecord) :
    Except ProgressPersistenceError (Option (PendingProofCheckpoint Sp1NetworkSubmissionProgress)) :=
  loadPendingProofCheckpoint sampleEncoding plainCodec sampleObserver sampleKey sampleTask .sp1 records

example : loadSample [sampleRecord "0xa" .running "first", sampleRecord "0xb" .running "second"] =
    .ok (some ⟨.sp1, ⟨2, by decide⟩, 200, 260, secondSubmission⟩) := by
  decide +kernel

/-- The checkpoint of a submission whose only owner is completed is refused. -/
theorem load_refuses_finished_owner :
    let record := sampleRecord "0xa" .completed "first"
    Carries sampleEncoding sampleObserver sampleKey .proveProposal record firstSubmission ∧
    ¬Malformed sampleEncoding sampleObserver sampleKey record ∧
    ¬Conflicting sampleEncoding sampleObserver sampleKey .proveProposal [record] ∧
    loadSample [record] =
      .error (.permanent "runtime task task_0x7 has no active owner while loading checkpoint") := by
  intro record
  have hDecode : decodeForRecord sampleEncoding record = .ok (sampleMetadata firstSubmission) := by
    rfl
  have hCarries : Carries sampleEncoding sampleObserver sampleKey .proveProposal record firstSubmission :=
    ⟨_, 5, ⟨⟨rfl, rfl, rfl⟩, hDecode, rfl⟩, rfl⟩
  refine ⟨hCarries, ?_, ?_, by decide +kernel⟩
  · rintro ⟨-, chain, hError⟩
    cases hDecode.symm.trans hError
  · rintro ⟨a, ha, b, hb, p, q, hp, hq, -, hNe⟩
    rw [mem_singleton.mp ha] at hp
    rw [mem_singleton.mp hb] at hq
    exact hNe (hp.unique hq)

theorem load_is_unambiguous_for_two_owners :
    plainCodec.RoundTrips ∧
    let records := [sampleRecord "0xa" .completed "second", sampleRecord "0xb" .running "first"]
    (loadSample records.reverse).toOption = (loadSample records).toOption ∧
      (loadSample records).toOption = some (some ⟨.sp1, ⟨2, by decide⟩, 200, 260, secondSubmission⟩) := by
  have hCodec : plainCodec.RoundTrips := fun progress => ⟨progress, rfl, rfl⟩
  refine ⟨hCodec, ?_, by decide +kernel⟩
  exact ((remote_checkpoints_are_monotone_and_unambiguous sampleEncoding plainCodec hCodec).2 sampleObserver sampleKey
    sampleTask .sp1 _).1 _ (reverse_perm _).symm

end Samples

end Raiko2.Server
