import Raiko2.Queue.Safety

/-!
# What a failure reaches

A task that fails or is cancelled takes with it the tasks that wait for it, directly or through tasks that wait
themselves. The code finds them along its cached edges; that these are the right ones rests on two facts about the
edges in every reachable state: a task that waits has the edge of each dependency it waits for, and no edge leads to
a task that has succeeded from one that has not.
-/

namespace Raiko2.Queue

open Lib Queue.Inner List

variable {P O Id : Type} [DecidableEq Id]

section Walk

variable {s : Inner P O Id} {root : Id} {error : String} {order : List Id}

def failedBy (root : Id) (error : String) (record : TaskRecord P O Id) : TaskRecord P O Id :=
  { record with state := .failed error (some root), leaseUntilMs := none }

def Hit (s : Inner P O Id) (order : List Id) (y : Id) : Prop := y ∈ order ∧ isTerminalTask s y = false

structure Walked (s s' : Inner P O Id) (root : Id) (error : String) (hit : Id → Prop) : Prop where
  inside : ∀ y, hit y → s'.tasks.lookup y = (s.tasks.lookup y).map (failedBy root error)
  outside : ∀ y, ¬hit y → s'.tasks.lookup y = s.tasks.lookup y
  queue : ∀ y p, y ∈ s'.queue p ↔ y ∈ s.queue p ∧ ¬hit y
  bucket : ∀ y time, InBucket s'.scheduled time y ↔ InBucket s.scheduled time y ∧ ¬hit y

theorem Walked.trans {s' s'' : Inner P O Id} {hit hit' : Id → Prop} (h : Walked s s' root error hit)
    (h' : Walked s' s'' root error hit') (hDisjoint : ∀ y, hit y → ¬hit' y) :
    Walked s s'' root error fun y => hit y ∨ hit' y where
  inside := by
    rintro y (hy | hy)
    · rw [h'.outside y (hDisjoint y hy), h.inside y hy]
    · rw [h'.inside y hy, h.outside y fun hOld => hDisjoint y hOld hy]
  outside := by
    intro y hy
    rw [not_or] at hy
    rw [h'.outside y hy.2, h.outside y hy.1]
  queue := by
    intro y p
    rw [h'.queue, h.queue, not_or, and_assoc]
  bucket := by
    intro y time
    rw [h'.bucket, h.bucket, not_or, and_assoc]

theorem walked_failDependent (s : Inner P O Id) (root id : Id) (error : String) :
    Walked s (failDependent root error s id) root error (Hit s [id]) := by
  rw [failDependent]
  split
  · rename_i hTerminal
    have hNone : ∀ y, ¬Hit s [id] y := by
      rintro y ⟨hy, hNot⟩
      rw [mem_singleton.mp hy, hTerminal] at hNot
      cases hNot
    exact ⟨fun y hy => absurd hy (hNone y), fun _ _ => rfl, fun y p => by simp [hNone y], fun y time => by simp [hNone y]⟩
  · rename_i hTerminal
    have hHit : ∀ y, Hit s [id] y ↔ y = id := by
      intro y
      constructor
      · exact fun hy => mem_singleton.mp hy.1
      · rintro rfl
        exact ⟨mem_singleton_self y, by simpa using hTerminal⟩
    constructor
    · intro y hy
      rw [lookup_finishTask, if_pos ((hHit y).mp hy)]
      rfl
    · intro y hy
      rw [lookup_finishTask, if_neg fun h => hy ((hHit y).mpr h)]
    · intro y p
      rw [mem_queue_finishTask, hHit]
    · intro y time
      rw [inBucket_finishTask, hHit]

theorem walked_foldl (hNodup : order.Nodup) :
    Walked s (order.foldl (failDependent root error) s) root error (Hit s order) := by
  induction order generalizing s with
  | nil =>
    have hNone : ∀ y, ¬Hit s [] y := fun y hy => not_mem_nil hy.1
    exact ⟨fun y hy => absurd hy (hNone y), fun _ _ => rfl, fun y p => by simp [hNone y], fun y time => by simp [hNone y]⟩
  | cons id order ih =>
    obtain ⟨hFresh, hNodup⟩ := nodup_cons.mp hNodup
    have hFirst := walked_failDependent s root id error
    -- the other tasks of the walk are as they were
    have hSame : ∀ y, Hit (failDependent root error s id) order y ↔ Hit s order y := by
      intro y
      refine and_congr_right fun hy => ?_
      rw [isTerminalTask, isTerminalTask, stateOf, stateOf, hFirst.outside]
      rintro ⟨hEq, _⟩
      exact hFresh (mem_singleton.mp hEq ▸ hy)
    have hBoth := hFirst.trans (ih hNodup) (by
      rintro y ⟨hEq, _⟩ ⟨hy, _⟩
      exact hFresh (mem_singleton.mp hEq ▸ hy))
    have hSplit : (fun y => Hit s [id] y ∨ Hit (failDependent root error s id) order y) = Hit s (id :: order) := by
      funext y
      rw [hSame y, Hit, Hit, Hit, mem_singleton, mem_cons, or_and_right]
    exact hSplit ▸ hBoth

theorem untouched_walk {keep : Id → Bool} (hNodup : order.Nodup) (hKeep : ∀ y, Hit s order y → keep y = false) :
    Untouched keep s (order.foldl (failDependent root error) s) := by
  induction order generalizing s with
  | nil => exact .refl
  | cons id order ih =>
    obtain ⟨hFresh, hNodup⟩ := nodup_cons.mp hNodup
    have hFirst : Untouched keep s (failDependent root error s id) := by
      by_cases hTerminal : isTerminalTask s id = true
      · rw [failDependent, if_pos hTerminal]
        exact .refl
      · exact untouched_failDependent root error (hKeep id ⟨mem_cons_self, by simpa using hTerminal⟩)
    refine hFirst.trans (ih hNodup fun y hy => hKeep y ⟨mem_cons_of_mem _ hy.1, ?_⟩)
    have hNot := hy.2
    rw [isTerminalTask, stateOf, (walked_failDependent s root id error).outside] at hNot
    · exact hNot
    · rintro ⟨hEq, _⟩
      exact hFresh (mem_singleton.mp hEq ▸ hy.1)

end Walk

section Reach

def WaitsFor (s : Inner P O Id) (d y : Id) : Prop :=
  ∃ record, s.tasks.lookup y = some record ∧ d ∈ record.dependencies ∧ record.state.isTerminal = false

structure EdgeInv (s : Inner P O Id) : Prop where
  edge : ∀ d y, y ∈ s.dependentsOf d → ∃ record, s.tasks.lookup y = some record ∧ d ∈ record.dependencies
  waits : ∀ d y, WaitsFor s d y → s.isDone d = true ∨ s.isLive d = true ∧ y ∈ s.dependentsOf d
  settled : ∀ d y, y ∈ s.dependentsOf d → s.isDone y = true → s.isDone d = true

variable {s s' : Inner P O Id} {root x : Id}

theorem WaitsFor.isLive {d y : Id} (h : WaitsFor s d y) : s.isLive y = true := by
  obtain ⟨record, hRecord, _, hLive⟩ := h
  exact isLive_iff.mpr ⟨record, hRecord, hLive⟩

theorem Inner.isDone_of_isLive (h : s.isLive x = true) : s.isDone x = false := by
  obtain ⟨record, hRecord, hLive⟩ := isLive_iff.mp h
  rw [isDone_of_lookup hRecord, isSucceeded_of_live hLive]

/-- The cached edges lead from a task that has not ended to exactly those that wait for it, among the tasks that
have not ended. -/
theorem EdgeInv.downstream_iff (h : EdgeInv s) (hRoot : s.isLive root = true) :
    Downstream s root x ∧ s.isLive x = true ↔ Relation.TransGen (WaitsFor s) root x := by
  have hRootDone := isDone_of_isLive hRoot
  have hStep : ∀ d y, y ∈ s.dependentsOf d → s.isDone d = false → s.isDone y = false ∧
      (s.isLive y = true → WaitsFor s d y ∧ s.isLive d = true) := by
    intro d y hEdge hDone
    constructor
    · by_contra hy
      rw [h.settled d y hEdge (by simpa using hy)] at hDone
      cases hDone
    · intro hLive
      obtain ⟨record, hRecord, hDep⟩ := h.edge d y hEdge
      have hWaits : WaitsFor s d y := by
        rw [isLive_of_lookup hRecord] at hLive
        exact ⟨record, hRecord, hDep, by simpa using hLive⟩
      rcases h.waits d y hWaits with hd | ⟨hd, _⟩
      · rw [hDone] at hd
        cases hd
      · exact ⟨hWaits, hd⟩
  constructor
  · rintro ⟨hDown, hLive⟩
    have hPath : s.isDone x = false ∧ (s.isLive x = true → Relation.TransGen (WaitsFor s) root x) := by
      clear hLive
      induction hDown with
      | single hEdge =>
        obtain ⟨hDone, hWaits⟩ := hStep _ _ hEdge hRootDone
        exact ⟨hDone, fun hLive => .single (hWaits hLive).1⟩
      | tail _ hEdge ih =>
        obtain ⟨hDone, hWaits⟩ := hStep _ _ hEdge ih.1
        exact ⟨hDone, fun hLive => (ih.2 (hWaits hLive).2).tail (hWaits hLive).1⟩
    exact hPath.2 hLive
  · intro hPath
    have hEdge : ∀ d y, WaitsFor s d y → s.isLive d = true → y ∈ s.dependentsOf d := by
      intro d y hWaits hd
      rcases h.waits d y hWaits with hDone | ⟨_, hEdge⟩
      · rw [isDone_of_isLive hd] at hDone
        cases hDone
      · exact hEdge
    induction hPath with
    | single hWaits => exact ⟨.single (hEdge _ _ hWaits hRoot), hWaits.isLive⟩
    | tail _ hWaits ih => exact ⟨ih.1.tail (hEdge _ _ hWaits ih.2), hWaits.isLive⟩

theorem EdgeInv.lose (h : EdgeInv s) {lost : Id → Prop} (u : LostUpdate s s' lost)
    (hLive : ∀ d, lost d → s.isLive d = true)
    (hClosed : ∀ d, lost d → ∀ y ∈ s.dependentsOf d, s.isLive y = true → lost y) : EdgeInv s' where
  edge := by
    intro d y hEdge
    rw [u.dependentsOf_eq] at hEdge
    obtain ⟨before, hBefore, hDep⟩ := h.edge d y hEdge
    obtain ⟨after, hAfter⟩ := Option.isSome_iff_exists.mp (u.present y (by rw [hBefore]; rfl))
    obtain ⟨before', hBefore', hDeps, _⟩ := u.record_before hAfter
    rw [hBefore] at hBefore'
    cases hBefore'
    exact ⟨after, hAfter, hDeps ▸ hDep⟩
  waits := by
    rintro d y ⟨record, hRecord, hDep, hNotEnded⟩
    have hy : ¬lost y := by
      intro hy
      have := isTerminal_of_isLost (u.inside y hy record hRecord).1
      rw [hNotEnded] at this
      cases this
    rw [u.outside y hy] at hRecord
    have hWaits : WaitsFor s d y := ⟨record, hRecord, hDep, hNotEnded⟩
    have hd : ¬lost d := by
      intro hd
      rcases h.waits d y hWaits with hDone | ⟨_, hEdge⟩
      · rw [isDone_of_isLive (hLive d hd)] at hDone
        cases hDone
      · exact hy (hClosed d hd y hEdge hWaits.isLive)
    rw [isDone_congr (u.outside d hd), isLive_congr (u.outside d hd), u.dependentsOf_eq]
    exact h.waits d y hWaits
  settled := by
    intro d y hEdge hDone
    rw [u.dependentsOf_eq] at hEdge
    have hNotLost : ∀ z, s'.isDone z = true → ¬lost z := by
      intro z hz hLost
      obtain ⟨record, output, hRecord, hState⟩ := isDone_iff.mp hz
      have := (u.inside z hLost record hRecord).1
      rw [hState] at this
      cases this
    rw [isDone_congr (u.outside y (hNotLost y hDone))] at hDone
    have hd := h.settled d y hEdge hDone
    rw [isDone_congr (u.outside d fun hLost => ?_)]
    · exact hd
    · rw [isDone_of_isLive (hLive d hLost)] at hd
      cases hd

end Reach

section Settled

/-- No edge leads from a task that has not succeeded to one that has. -/
def Settled (s : Inner P O Id) : Prop := ∀ d y, y ∈ s.dependentsOf d → s.isDone y = true → s.isDone d = true

def EdgeStep (s s' : Inner P O Id) : Prop :=
  ∀ d y, y ∈ s'.dependentsOf d → s'.isDone y = true →
    y ∈ s.dependentsOf d ∧ s.isDone y = true ∧ (s.isDone d = true → s'.isDone d = true)

variable {s s' s'' : Inner P O Id} {id x : Id} {record : TaskRecord P O Id} (f : TaskRecord P O Id → TaskRecord P O Id)

theorem Settled.step (h : Settled s) (hStep : EdgeStep s s') : Settled s' := by
  intro d y hEdge hDone
  obtain ⟨hEdge', hDone', hSource⟩ := hStep d y hEdge hDone
  exact hSource (h d y hEdge' hDone')

theorem EdgeStep.refl : EdgeStep s s := fun _ _ hEdge hDone => ⟨hEdge, hDone, fun h => h⟩

theorem EdgeStep.trans (h : EdgeStep s s') (h' : EdgeStep s' s'') : EdgeStep s s'' := by
  intro d y hEdge hDone
  obtain ⟨hEdge', hDone', hSource'⟩ := h' d y hEdge hDone
  obtain ⟨hEdge, hDone, hSource⟩ := h d y hEdge' hDone'
  exact ⟨hEdge, hDone, fun hd => hSource' (hSource hd)⟩

theorem EdgeStep.of_isDone (hEdges : ∀ d y, y ∈ s'.dependentsOf d → y ∈ s.dependentsOf d)
    (hDone : ∀ d, s'.isDone d = s.isDone d) : EdgeStep s s' := by
  intro d y hEdge hy
  rw [hDone] at hy
  exact ⟨hEdges d y hEdge, hy, fun hd => (hDone d).trans hd⟩

theorem EdgeStep.of_same (hTasks : s'.tasks = s.tasks) (hDeps : s'.dependents = s.dependents) : EdgeStep s s' := by
  refine .of_isDone (fun d y hEdge => ?_) fun d => isDone_congr (by rw [hTasks])
  rwa [dependentsOf, hDeps] at hEdge

theorem EdgeStep.same (h : EdgeStep s s') (hTasks : s''.tasks = s'.tasks) (hDeps : s''.dependents = s'.dependents) :
    EdgeStep s s'' :=
  h.trans (.of_same hTasks hDeps)

theorem EdgeStep.of_lookup (hDeps : s'.dependents = s.dependents)
    (hOthers : ∀ y, y ≠ x → s'.tasks.lookup y = s.tasks.lookup y) (hBefore : s.isDone x = false)
    (hAfter : s'.isDone x = false) : EdgeStep s s' := by
  refine .of_isDone (fun d y hEdge => ?_) fun d => ?_
  · rwa [dependentsOf, hDeps] at hEdge
  · by_cases hd : d = x
    · rw [hd, hAfter, hBefore]
    · exact isDone_congr (hOthers d hd)

theorem LostUpdate.isDone_eq {lost : Id → Prop} (u : LostUpdate s s' lost) (d : Id) : s'.isDone d = s.isDone d := by
  by_cases hd : lost d
  · cases hAfter : s'.tasks.lookup d with
    | none =>
      have hBefore : s.tasks.lookup d = none := by
        by_contra hSome
        have := u.present d (Option.isSome_iff_ne_none.mpr hSome)
        rw [hAfter] at this
        cases this
      exact isDone_congr (hAfter.trans hBefore.symm)
    | some after =>
      obtain ⟨hLost, before, hBefore, hLive, _⟩ := u.inside d hd after hAfter
      rw [isDone_of_lookup hAfter, isDone_of_lookup hBefore, isSucceeded_of_isLost hLost,
        isSucceeded_of_live hLive]
  · exact isDone_congr (u.outside d hd)

theorem LostUpdate.edgeStep {lost : Id → Prop} (u : LostUpdate s s' lost) : EdgeStep s s' :=
  .of_isDone (fun d y hEdge => by rwa [u.dependentsOf_eq] at hEdge) u.isDone_eq

theorem TaskUpdate.edgeStep {record record' : TaskRecord P O Id} (u : TaskUpdate s s' x record record') :
    EdgeStep s s' :=
  .of_isDone (fun d y hEdge => by rwa [u.dependentsOf_eq] at hEdge) u.isDone_eq

theorem edgeStep_setState {state : TaskState O Id} (hState : state.isSucceeded = false) (hBefore : s.isDone id = false) :
    EdgeStep s (s.setState id state) := by
  refine .of_lookup (x := id) rfl (fun y hy => ?_) hBefore ?_
  · rw [lookup_setState, if_neg hy]
  · rw [isDone, stateOf, lookup_setState, if_pos rfl]
    cases s.tasks.lookup id with
    | none => rfl
    | some record => simpa using hState

theorem isDone_modify (hState : ∀ record, (f record).state = record.state) (d : Id) :
    ({ s with tasks := s.tasks.modify id f } : Inner P O Id).isDone d = s.isDone d := by
  rw [isDone, isDone, stateOf, stateOf]
  dsimp only
  rw [Table.lookup_modify]
  split
  · cases s.tasks.lookup d with
    | none => rfl
    | some record => simp [hState]
  · rfl

theorem edgeStep_modify (hState : ∀ record, (f record).state = record.state) :
    EdgeStep s { s with tasks := s.tasks.modify id f } :=
  .of_isDone (fun _ _ hEdge => hEdge) (isDone_modify f hState)

theorem edgeStep_removeDependentEdges : EdgeStep s (removeDependentEdges s id) := by
  refine .of_isDone (fun d y hEdge => ?_) fun _ => rfl
  rw [dependentsOf_removeDependentEdges] at hEdge
  exact (mem_filter.mp hEdge).1

theorem edgeStep_removeRetired : EdgeStep s (removeRetired s id) := by
  intro d y hEdge hDone
  have hLookup : ∀ z, z ≠ id → (removeRetired s id).isDone z = s.isDone z := fun z hz =>
    isDone_congr (Table.lookup_erase_ite.trans (if_neg hz))
  rw [dependentsOf_removeRetired] at hEdge
  split at hEdge
  · cases hEdge
  · rename_i hd
    obtain ⟨hMem, hy⟩ := mem_filter.mp hEdge
    rw [hLookup y (by simpa using hy)] at hDone
    exact ⟨hMem, hDone, fun h => (hLookup d hd).trans h⟩

theorem edgeStep_of_placed {remaining : Nat} {waited : List Id} (h : Placed s s' x record remaining waited)
    (hBefore : s.isDone x = false) (hAfter : record.state.isSucceeded = false) : EdgeStep s s' := by
  intro d y hEdge hDone
  have hy : y ≠ x := by
    rintro rfl
    rw [isDone_of_lookup ((h.tasks y).trans (if_pos rfl)), hAfter] at hDone
    cases hDone
  rw [h.dependents, mem_append] at hEdge
  rw [isDone_congr ((h.tasks y).trans (if_neg hy))] at hDone
  refine ⟨hEdge.resolve_right fun hNew => hy (eq_of_mem_replicate hNew), hDone, fun hd => ?_⟩
  have hdx : d ≠ x := by
    rintro rfl
    rw [hBefore] at hd
    cases hd
  rwa [isDone_congr ((h.tasks d).trans (if_neg hdx))]

theorem edgeStep_detachOwner {owner : RootOwner} {mode : DetachMode} {outcome : DetachOutcome Id}
    (h : detachOwner s owner mode = .ok (s', outcome)) : EdgeStep s s' :=
  detachOwner_keeps (fun _ _ _ h => h.same rfl rfl) (fun s id _ h => h.trans (lostUpdate_cancelTaskLocked s id _).edgeStep)
    (fun _ _ h => h.trans edgeStep_removeRetired) h .refl

variable [ReadyQueueSort Id]

theorem edgeStep_pushReadyLocked (p : Priority) : EdgeStep s (pushReadyLocked s p id) :=
  .of_same (tasks_pushReadyLocked s p id) (dependents_pushReadyLocked s p id)

theorem edgeStep_ready (hNot : isTerminalTask s id = false) (hRecord : s.tasks.lookup id = some record) :
    EdgeStep s (pushReadyLocked (s.setState id .ready) record.priority id) := by
  refine (edgeStep_setState rfl ?_).trans (edgeStep_pushReadyLocked _)
  rw [isDone_of_lookup hRecord]
  rw [isTerminalTask_of_lookup hRecord] at hNot
  exact isSucceeded_of_live hNot

theorem edgeStep_attachGraph [BEq P] {owner : RootOwner} {nodes : List (ExecutionNode P Id)}
    {outcome : AttachOutcome} (h : attachGraph s owner nodes = .ok (s', outcome)) : EdgeStep s s' := by
  obtain ⟨ordered, _, hRule⟩ := attachGraph_attaching h
  -- a task that can be placed is not done, and stays so
  refine (hRule (fun s' => EdgeStep s s' ∧ ∀ id, Startable s id → s'.isDone id = false) ⟨?_, ?_, ?_, ?_⟩
    ⟨.refl, fun _ hStart => hStart.not_done_live.1⟩).1
  · exact fun _ _ _ h => ⟨h.1.same rfl rfl, h.2⟩
  · exact fun _ _ h => ⟨h.1.trans edgeStep_removeDependentEdges, h.2⟩
  · exact fun _ _ h => ⟨h.1.same rfl rfl, h.2⟩
  · intro s' node record remaining waited _ hStart _ hIdle h
    have hPlaced := placed_placeTask s' node.id record remaining waited
    have hNot : record.state.isSucceeded = false := by
      cases hState : record.state <;> rw [hState] at hIdle <;> first | rfl | cases hIdle
    refine ⟨h.1.trans (edgeStep_of_placed hPlaced (h.2 _ hStart) hNot), fun id hId => ?_⟩
    by_cases hEq : id = node.id
    · rw [isDone_of_lookup ((hPlaced.tasks id).trans (if_pos hEq)), hNot]
    · rw [isDone_congr ((hPlaced.tasks id).trans (if_neg hEq)), h.2 id hId]

theorem edgeStep_releaseDependentsLocked (root : Id) : EdgeStep s (releaseDependentsLocked s root) := by
  refine foldlRecOn _ _ .refl fun s' h id _ => releaseDependent_keeps ?_ ?_ h
  · intro s' record remaining state k hRecord hPending hState h
    refine h.trans (.of_lookup (x := id) rfl (fun y hy => Table.lookup_insert_ite.trans (if_neg hy)) ?_ ?_)
    · rw [isDone_of_lookup hRecord, hPending]
      rfl
    · rw [isDone_of_lookup (Table.lookup_insert_ite.trans (if_pos rfl))]
      rcases hState with rfl | ⟨_, rfl⟩ <;> rfl
  · exact fun _ p h => h.trans (edgeStep_pushReadyLocked p)

theorem edgeStep_promoteScheduled {nowMs : UInt64} {limit : Nat} : EdgeStep s (promoteScheduled s nowMs limit).2 := by
  refine promoteScheduled_keeps (fun _ _ h => h.same rfl rfl) ?_ .refl
  intro s' id record error attempt time hRecord hRetrying h
  refine h.trans (edgeStep_ready ?_ hRecord)
  rw [isTerminalTask_of_lookup hRecord, hRetrying]
  rfl

theorem edgeStep_requeueExpiredLeases (order : List Id) (nowMs : UInt64) (limit : Nat) :
    EdgeStep s (requeueExpiredLeases s order nowMs limit).2 :=
  requeueExpiredLeases_keeps (fun _ _ _ hRecord hNot h => h.trans (edgeStep_ready hNot hRecord)) .refl

theorem StoreInv.settled_succeed {popped : Id → Prop} (h : StoreInv s popped fun _ => False) (hSettled : Settled s)
    {leaseToken : String} {attempt : UInt32} (hRecord : s.tasks.lookup id = some record)
    (hState : record.state = .running leaseToken attempt) (output : O) :
    Settled (releaseDependentsLocked (finishTask s id (.succeeded output)) id) := by
  refine Settled.step ?_ (edgeStep_releaseDependentsLocked id)
  intro d y hEdge hDone
  change y ∈ s.dependentsOf d at hEdge
  rw [isDone_finishTask_succeeded output hRecord] at hDone ⊢
  have hd : s.isDone d = true := by
    by_cases hy : y = id
    · obtain ⟨record', hRecord', hDep⟩ := h.edge y d hEdge
      rw [hy, hRecord] at hRecord'
      cases hRecord'
      exact (h.task id record hRecord not_false).released (by rw [hState]; rfl) d hDep
    · rw [if_neg hy] at hDone
      exact hSettled d y hEdge hDone
  rw [hd]
  split <;> rfl

theorem StoreInv.settled_complete {popped : Id → Prop} (h : StoreInv s popped fun _ => False) (hSettled : Settled s)
    {lease : TaskLease P Id} {result : Except String O} {nowMs : UInt64} {disposition : TaskCompletionDisposition}
    (hDone : Completes s lease nowMs result s' disposition) : Settled s' := by
  cases hDone with
  | stale => exact hSettled
  | succeeded output hRecord hState => exact h.settled_succeed hSettled hRecord hState output
  | failed error hRecord hState =>
    have hNot : isTerminalTask s lease.id = false := by
      rw [isTerminalTask_of_lookup hRecord, hState]
      rfl
    exact hSettled.step (lostUpdate_lose hNot rfl _).edgeStep
  | retryNow error hRecord hState =>
    have hUpdate := taskUpdate_setPayload_setState lease.payload .ready hRecord (by rw [hState]; rfl) rfl
    exact hSettled.step (hUpdate.edgeStep.trans (edgeStep_pushReadyLocked _))
  | retryLater error time hRecord hState =>
    have hUpdate := taskUpdate_setPayload_setState lease.payload (.retrying error lease.attempt time) hRecord
      (by rw [hState]; rfl) rfl
    exact hSettled.step (hUpdate.edgeStep.same rfl rfl)

theorem SystemInv.settled_step [BEq P] {s : System P O Id} (h : SystemInv s) (hSettled : Settled s.store)
    (storeLease : Nat) (event : Event P O Id) : Settled (System.step storeLease s event).store := by
  have hMove := System.storeMove storeLease s event
  generalize System.step storeLease s event = s' at hMove ⊢
  obtain ⟨store, calls, usedTokens, granted, completed⟩ := s'
  cases hMove with
  | same => exact hSettled
  | attach hOk => exact hSettled.step (edgeStep_attachGraph hOk)
  | detach hOk => exact hSettled.step (edgeStep_detachOwner hOk)
  | pop => exact hSettled.step (.of_same (tasks_setQueue _ _ _) (dependents_setQueue _ _ _))
  | take attempt sequence hCall hRecord hState =>
    exact hSettled.step (h.store.taskUpdate_leased hRecord hState _ _ _ _ _ _).edgeStep
  | complete hEq hDone => exact h.store.settled_complete hSettled hDone
  | checkpoint | renew => exact hSettled.step (edgeStep_modify _ fun _ => rfl)
  | promote => exact hSettled.step edgeStep_promoteScheduled
  | requeue nowMs order => exact hSettled.step (edgeStep_requeueExpiredLeases order nowMs _)

structure SettledInv (s : System P O Id) : Prop extends SystemInv s where
  settled : Settled s.store

theorem edgeInv_of_run [BEq P] {storeLease : Nat} {events : List (Event P O Id)}
    (hRun : Run System.Allowed (System.step storeLease) {} events) :
    EdgeInv (events.foldl (System.step storeLease) {}).store := by
  have h : SettledInv (events.foldl (System.step storeLease) {}) := by
    refine hRun.foldl_invariant ⟨systemInv_init, fun d y hEdge => ?_⟩ fun s event _ hAllowed h => ?_
    · cases hEdge
    · exact ⟨h.step storeLease event hAllowed, h.toSystemInv.settled_step h.settled storeLease event⟩
  refine ⟨fun d y hEdge => h.store.edge y d hEdge, ?_, h.settled⟩
  rintro d y ⟨record, hRecord, hDep, hLive⟩
  have hTask := h.store.task y record hRecord not_false
  by_cases hDone : (events.foldl (System.step storeLease) {}).store.isDone d = true
  · exact Or.inl hDone
  · exact Or.inr ⟨(hTask.dependency hLive hDep).resolve_left hDone,
      hTask.edge_of_not_done hLive hDep (by simpa using hDone)⟩

end Settled

section Exact

/-- The effect of a task that fails or is cancelled with its own state: it, and the tasks that wait for it through
tasks that have not ended, change; no other task does, and no task is left with a dependency that is lost. -/
structure FailurePropagation (s s' : Inner P O Id) (root : Id) (own : TaskState O Id) (error : String) : Prop where
  ended : ∃ before, s.tasks.lookup root = some before ∧
    s'.tasks.lookup root = some { before with state := own, leaseUntilMs := none }
  reached : ∀ x, x ≠ root → Relation.TransGen (WaitsFor s) root x →
    ∃ before, s.tasks.lookup x = some before ∧ s'.tasks.lookup x = some (failedBy root error before)
  unqueued : ∀ x, x = root ∨ Relation.TransGen (WaitsFor s) root x →
    (∀ p, x ∉ s'.queue p) ∧ ∀ time, ¬InBucket s'.scheduled time x
  others : ∀ keep : Id → Bool, (∀ x, x = root ∨ Relation.TransGen (WaitsFor s) root x → keep x = false) →
    Untouched keep s s'
  healthy : ∀ x record, s'.tasks.lookup x = some record → record.state.isTerminal = false →
    ∀ d ∈ record.dependencies, s'.isLostTask d = false

variable {s : Inner P O Id} {root : Id} {own : TaskState O Id} {error : String}

theorem EdgeInv.hit_iff (h : EdgeInv s) (hRoot : s.isLive root = true) (hOwn : own.isTerminal = true) {order : List Id}
    (hOrder : ∀ y, y ∈ order ↔ Downstream s root y) (y : Id) :
    Hit (finishTask s root own) order y ↔ y ≠ root ∧ Relation.TransGen (WaitsFor s) root y := by
  rw [← h.downstream_iff hRoot, Hit, hOrder, isTerminalTask, stateOf, lookup_finishTask]
  by_cases hy : y = root
  · subst hy
    obtain ⟨record, hRecord, _⟩ := isLive_iff.mp hRoot
    simp [hRecord, hOwn]
  · rw [if_neg hy]
    constructor
    · rintro ⟨hDown, hNot⟩
      refine ⟨hy, hDown, ?_⟩
      obtain ⟨record, hRecord⟩ : ∃ record, s.tasks.lookup y = some record := by
        rcases Relation.TransGen.tail'_iff.mp hDown with ⟨d, _, hEdge⟩
        obtain ⟨record, hRecord, _⟩ := h.edge d y hEdge
        exact ⟨record, hRecord⟩
      rw [isLive_of_lookup hRecord]
      simpa [hRecord] using hNot
    · rintro ⟨-, hDown, hLive⟩
      obtain ⟨record, hRecord, hNotEnded⟩ := isLive_iff.mp hLive
      refine ⟨hDown, ?_⟩
      simpa [hRecord] using hNotEnded

theorem EdgeInv.edgeInv_lose (h : EdgeInv s) (hRoot : s.isLive root = true) (hOwn : own.isLost = true)
    (error : String) : EdgeInv (failDependentsLocked (finishTask s root own) root error) := by
  have hNot : isTerminalTask s root = false := by
    obtain ⟨record, hRecord, hLive⟩ := isLive_iff.mp hRoot
    rw [isTerminalTask_of_lookup hRecord, hLive]
  refine h.lose (lostUpdate_lose hNot hOwn error) ?_ ?_
  · rintro d (rfl | ⟨hDown, hd⟩)
    · exact hRoot
    · rcases Relation.TransGen.tail'_iff.mp hDown with ⟨c, _, hEdge⟩
      obtain ⟨record, hRecord, _⟩ := h.edge c d hEdge
      rw [isTerminalTask_of_lookup hRecord] at hd
      exact isLive_iff.mpr ⟨record, hRecord, hd⟩
  · intro d hd y hEdge hLive
    obtain ⟨record, hRecord, hNotEnded⟩ := isLive_iff.mp hLive
    refine Or.inr ⟨?_, by rw [isTerminalTask_of_lookup hRecord, hNotEnded]⟩
    rcases hd with rfl | ⟨hd, _⟩
    · exact .single hEdge
    · exact hd.tail hEdge

theorem EdgeInv.failurePropagation (h : EdgeInv s) (hRoot : s.isLive root = true) (hOwn : own.isLost = true) :
    FailurePropagation s (failDependentsLocked (finishTask s root own) root error) root own error := by
  obtain ⟨before, hBefore, hNotEnded⟩ := isLive_iff.mp hRoot
  obtain ⟨order, hEq, hNodup, hOrder⟩ := failDependentsLocked_eq_foldl (finishTask s root own) root error
  have hHit := h.hit_iff hRoot (isTerminal_of_isLost hOwn) hOrder
  have hWalk : Walked _ _ root error (Hit (finishTask s root own) order) := walked_foldl hNodup
  have hAfter := h.edgeInv_lose hRoot hOwn error
  rw [hEq] at hAfter ⊢
  have hRootKept : ¬Hit (finishTask s root own) order root := fun hRoot => ((hHit root).mp hRoot).1 rfl
  constructor
  · refine ⟨before, hBefore, ?_⟩
    rw [hWalk.outside root hRootKept, lookup_finishTask_self hBefore]
  · intro x hx hPath
    obtain ⟨record, hRecord, _⟩ := isLive_iff.mp ((h.downstream_iff hRoot).mpr hPath).2
    refine ⟨record, hRecord, ?_⟩
    rw [hWalk.inside x ((hHit x).mpr ⟨hx, hPath⟩), lookup_finishTask, if_neg hx, hRecord, Option.map_some]
  · intro x hx
    have hGone : x = root ∨ Hit (finishTask s root own) order x := by
      by_cases hEq : x = root
      · exact Or.inl hEq
      · exact Or.inr ((hHit x).mpr ⟨hEq, hx.resolve_left hEq⟩)
    constructor
    · intro p hMem
      rw [hWalk.queue, mem_queue_finishTask] at hMem
      exact hGone.elim hMem.1.2 hMem.2
    · intro time hMem
      rw [hWalk.bucket, inBucket_finishTask] at hMem
      exact hGone.elim hMem.1.2 hMem.2
  · intro keep hKeep
    exact (untouched_finishTask (hKeep root (Or.inl rfl)) own).trans
      (untouched_walk hNodup fun y hy => hKeep y (Or.inr ((hHit y).mp hy).2))
  · intro x record hRecord hLive d hd
    have hDep : _ ∨ _ := hAfter.waits d x ⟨record, hRecord, hd, hLive⟩
    by_contra hLost
    obtain ⟨hDone, hDead⟩ := not_done_live_of_isLostTask (by simpa using hLost)
    rw [hDone, hDead] at hDep
    simp at hDep

theorem EdgeInv.cancel (h : EdgeInv s) (id : Id) (error : String) : EdgeInv (cancelTaskLocked s id error).1 ∧
    (s.isLive id = true → FailurePropagation s (cancelTaskLocked s id error).1 id .cancelled error) := by
  rw [cancelTaskLocked]
  cases hState : s.stateOf id with
  | none =>
    refine ⟨h, fun hLive => ?_⟩
    rw [isLive, hState] at hLive
    cases hLive
  | some state =>
    dsimp only
    by_cases hTerminal : state.isTerminal = true
    · rw [if_pos hTerminal]
      refine ⟨h, fun hLive => ?_⟩
      rw [isLive, hState] at hLive
      simp [hTerminal] at hLive
    · rw [if_neg hTerminal]
      have hLive : s.isLive id = true := by
        rw [isLive, hState]
        simpa using hTerminal
      exact ⟨h.edgeInv_lose hLive rfl error, fun _ => h.failurePropagation hLive rfl⟩

theorem EdgeInv.cancelLoop (h : EdgeInv s) (ids : List Id) (error : String) :
    EdgeInv (ids.foldl (fun s id => (cancelTaskLocked s id error).1) s) := by
  induction ids generalizing s with
  | nil => exact h
  | cons id ids ih => exact ih (h.cancel id error).1

variable [ReadyQueueSort Id] [BEq P]

/-- In every reachable state, the terminal failure of a running task and the cancellation of a task that has not
ended, also within the loop of a detach, reach exactly the tasks that wait for it. The owner index, which a detach
changes before its loop, does not matter. -/
theorem failure_reaches_waiting_tasks (storeLease : Nat) (events : List (Event P O Id))
    (hRun : Run System.Allowed (System.step storeLease) {} events) :
    (∀ id leaseToken attempt error dependentError,
      runningLeaseMatches (events.foldl (System.step storeLease) {}).store id leaseToken attempt = true →
      FailurePropagation (events.foldl (System.step storeLease) {}).store
        (completeFailureAndFailDependentsIfRunning (events.foldl (System.step storeLease) {}).store id leaseToken
          attempt error dependentError).1 id (.failed error none) dependentError) ∧
    ∀ (taskOwners : Table Id (Finset RootOwner)) (earlier : List Id) (id : Id) (error : String),
      (earlier.foldl (fun s id => (cancelTaskLocked s id error).1)
        { (events.foldl (System.step storeLease) {}).store with taskOwners }).isLive id = true →
      FailurePropagation
        (earlier.foldl (fun s id => (cancelTaskLocked s id error).1)
          { (events.foldl (System.step storeLease) {}).store with taskOwners })
        (cancelTaskLocked (earlier.foldl (fun s id => (cancelTaskLocked s id error).1)
          { (events.foldl (System.step storeLease) {}).store with taskOwners }) id error).1 id .cancelled error := by
  have h := edgeInv_of_run hRun
  generalize (events.foldl (System.step storeLease) {}).store = s at h ⊢
  constructor
  · intro id leaseToken attempt error dependentError hMatch
    rw [completeFailureAndFailDependentsIfRunning, if_pos hMatch]
    obtain ⟨record, hRecord, hState⟩ := runningLeaseMatches_iff.mp hMatch
    refine h.failurePropagation (isLive_iff.mpr ⟨record, hRecord, ?_⟩) rfl
    rw [hState]
    rfl
  · intro taskOwners earlier id error hLive
    have hOwners : EdgeInv { s with taskOwners } := ⟨h.edge, h.waits, h.settled⟩
    exact ((hOwners.cancelLoop earlier error).cancel id error).2 hLive

/-- The task that another one waits for fails while it runs. -/
theorem handoverRun_failure_propagation :
    ∃ s : Inner UInt64 UInt64 UInt64, s = ((handoverRun.take 4).foldl (System.step 60) {}).store ∧
      runningLeaseMatches s 1 "a/u0" 1 = true ∧ WaitsFor s 1 2 ∧
      FailurePropagation s (completeFailureAndFailDependentsIfRunning s 1 "a/u0" 1 "lost" "dependency failed").1 1
        (.failed "lost" none) "dependency failed" := by
  have hRun : Run System.Allowed (System.step 60) {} (handoverRun.take 4) := by decide +kernel
  refine ⟨_, rfl, by decide +kernel, ⟨_, rfl, by decide, rfl⟩, ?_⟩
  exact (failure_reaches_waiting_tasks 60 (handoverRun.take 4) hRun).1 1 "a/u0" 1 "lost" "dependency failed"
    (by decide +kernel)

def staleSuccessRun : List (Event UInt64 UInt64 UInt64) :=
  [.attach ⟨"a", 1⟩ [plainNode 1 10 [], plainNode 2 20 [1]],
    .startNextReady 0 "w" "u0", .popReady 0 "u1", .takeReady 0 5,
    .complete ⟨1, 10, .high, 1, "w/u0", "w", ⟨1000000000, .none⟩⟩ (.ok 7) 6,
    .startNextReady 1 "w" "u2", .popReady 1 "u3", .takeReady 1 7,
    .complete ⟨2, 20, .high, 1, "w/u2", "w", ⟨1000000000, .none⟩⟩ (.ok 8) 8,
    .detach ⟨"a", 1⟩ .cancel, .attach ⟨"b", 1⟩ [plainNode 1 10 []], .detach ⟨"b", 1⟩ .remove,
    .attach ⟨"d", 1⟩ [plainNode 1 10 [], plainNode 2 20 [1], plainNode 3 30 [2]],
    .startNextReady 2 "w" "u4", .popReady 2 "u5", .takeReady 2 9]

/-- The first task runs again while the second one keeps its result, so the third one does not wait for it: a failure
of the first task leaves the third one, a dependent of its dependent, as it was. -/
theorem staleSuccessRun_not_reached :
    Run System.Allowed (System.step 60) {} staleSuccessRun ∧
    ∃ s : Inner UInt64 UInt64 UInt64, s = (staleSuccessRun.foldl (System.step 60) {}).store ∧
      (∃ record, s.tasks.lookup 2 = some record ∧ 1 ∈ record.dependencies ∧ record.state = .succeeded 8) ∧
      ∃ record, s.tasks.lookup 3 = some record ∧ 2 ∈ record.dependencies ∧ record.state = .ready ∧
        runningLeaseMatches s 1 "w/u4" 1 = true ∧
        (completeFailureAndFailDependentsIfRunning s 1 "w/u4" 1 "lost" "dependency failed").1.tasks.lookup 3 =
          some record := by
  refine ⟨by decide +kernel, _, rfl, ⟨_, rfl, by decide, rfl⟩, _, rfl, by decide, rfl, by decide +kernel, rfl⟩

end Exact

end Raiko2.Queue
