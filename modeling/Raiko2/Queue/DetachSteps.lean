import Raiko2.Queue.CompletionSteps

/-!
# Detaching an owner

An owner leaves its tasks. Those that no other owner has are cancelled, together with whoever waits for them, or
removed. As every owner of a task owns its dependencies, no task of another owner is among them.
-/

namespace Raiko2.Queue

open Lib Queue.Inner List Table

variable {P O Id : Type} [DecidableEq Id] {s s' : Inner P O Id} {popped exempt : Id → Prop} {x id : Id}

section Untouched

def scheduledEntries (scheduled : List (UInt64 × List Id)) : List (UInt64 × Id) :=
  scheduled.flatMap fun bucket => bucket.2.map fun id => (bucket.1, id)

omit [DecidableEq Id] in
theorem scheduledEntries_cons (bucket : UInt64 × List Id) (scheduled : List (UInt64 × List Id)) :
    scheduledEntries (bucket :: scheduled) = (bucket.2.map fun id => (bucket.1, id)) ++ scheduledEntries scheduled :=
  flatMap_cons

theorem scheduledEntries_retainScheduled (id : Id) (scheduled : List (UInt64 × List Id)) :
    scheduledEntries (retainScheduled id scheduled) = (scheduledEntries scheduled).filter (·.2 ≠ id) := by
  induction scheduled with
  | nil => rfl
  | cons bucket scheduled ih =>
    obtain ⟨time, ids⟩ := bucket
    have hEntries : ((ids.filter (· ≠ id)).map fun y => (time, y)) =
        (ids.map fun y => (time, y)).filter (·.2 ≠ id) := by
      rw [filter_map]
      rfl
    rw [scheduledEntries_cons, filter_append, ← ih, ← hEntries, retainScheduled]
    by_cases hEmpty : (ids.filter (· ≠ id)).isEmpty
    · rw [filterMap_cons_none (by simp only [hEmpty, if_true]), isEmpty_iff.mp hEmpty]
      rfl
    · rw [filterMap_cons_some (b := (time, ids.filter (· ≠ id))) (by simp only [hEmpty]; rfl),
        scheduledEntries_cons]
      rfl

/-- Everything about the tasks to keep is the same: their records, their counters, and their places in the queues
and buckets, in order. -/
structure Untouched (keep : Id → Bool) (s s' : Inner P O Id) : Prop where
  tasks : ∀ x, keep x = true → s'.tasks.lookup x = s.tasks.lookup x
  remaining : ∀ x, keep x = true → s'.remaining.lookup x = s.remaining.lookup x
  queue : ∀ p, (s'.queue p).filter keep = (s.queue p).filter keep
  scheduled : (scheduledEntries s'.scheduled).filter (fun entry => keep entry.2) =
    (scheduledEntries s.scheduled).filter fun entry => keep entry.2

variable {keep : Id → Bool}

theorem Untouched.refl : Untouched keep s s := ⟨fun _ _ => rfl, fun _ _ => rfl, fun _ => rfl, rfl⟩

theorem Untouched.trans {s'' : Inner P O Id} (h : Untouched keep s s') (h' : Untouched keep s' s'') :
    Untouched keep s s'' where
  tasks := fun x hx => (h'.tasks x hx).trans (h.tasks x hx)
  remaining := fun x hx => (h'.remaining x hx).trans (h.remaining x hx)
  queue := fun p => (h'.queue p).trans (h.queue p)
  scheduled := h'.scheduled.trans h.scheduled

theorem Untouched.foldl {f : Inner P O Id → Id → Inner P O Id} {ids : List Id}
    (h : ∀ s, ∀ id ∈ ids, Untouched keep s (f s id)) : Untouched keep s (ids.foldl f s) := by
  induction ids generalizing s with
  | nil => exact .refl
  | cons id ids ih =>
    exact (h s id mem_cons_self).trans (ih fun s y hy => h s y (mem_cons_of_mem _ hy))

theorem untouched_removeQueueMemberships (s : Inner P O Id) (hid : keep id = false) :
    Untouched keep s (removeQueueMemberships s id) where
  tasks := fun _ _ => rfl
  remaining := fun _ _ => rfl
  queue := by
    intro p
    rw [queue_removeQueueMemberships, filter_filter]
    apply filter_congr
    intro y _
    by_cases hy : y = id
    · simp [hy, hid]
    · simp [hy]
  scheduled := by
    change (scheduledEntries (retainScheduled id s.scheduled)).filter _ = _
    rw [scheduledEntries_retainScheduled, filter_filter]
    apply filter_congr
    intro entry _
    by_cases hy : entry.2 = id
    · simp [hy, hid]
    · simp [hy]

theorem untouched_finishTask (hid : keep id = false) (state : TaskState O Id) :
    Untouched keep s (finishTask s id state) :=
  { untouched_removeQueueMemberships s hid with
    tasks := fun x hx => by
      have hNe : x ≠ id := by
        rintro rfl
        rw [hid] at hx
        cases hx
      rw [lookup_finishTask, if_neg hNe]
    queue := fun p => by
      rw [finishTask, queue_setState]
      exact (untouched_removeQueueMemberships s hid).queue p }

theorem untouched_failDependent (root : Id) (error : String) (hid : keep id = false) :
    Untouched keep s (failDependent root error s id) := by
  rw [failDependent]
  split
  · exact .refl
  · exact untouched_finishTask hid _

theorem untouched_failDependentsLocked {root : Id} (error : String)
    (h : ∀ y, Downstream s root y → keep y = false) : Untouched keep s (failDependentsLocked s root error) := by
  obtain ⟨order, hEq, _, hOrder⟩ := failDependentsLocked_eq_foldl s root error
  rw [hEq]
  exact Untouched.foldl fun _ y hy => untouched_failDependent root error (h y ((hOrder y).mp hy))

theorem untouched_cancelTaskLocked (error : String) (hid : keep id = false)
    (h : ∀ y, Downstream s id y → keep y = false) : Untouched keep s (cancelTaskLocked s id error).1 := by
  rw [cancelTaskLocked]
  split
  · exact .refl
  · split
    · exact .refl
    · exact (untouched_finishTask hid _).trans (untouched_failDependentsLocked error h)

theorem untouched_removeRetired (hid : keep id = false) : Untouched keep s (removeRetired s id) := by
  have hNe : ∀ x, keep x = true → x ≠ id := by
    rintro x hx rfl
    rw [hid] at hx
    cases hx
  have hErased : Untouched keep s (removeDependentEdges { s with
      tasks := s.tasks.erase id
      remaining := s.remaining.erase id
      dependents := s.dependents.erase id } id) :=
    { tasks := fun x hx => (lookup_erase_ite).trans (if_neg (hNe x hx))
      remaining := fun x hx => (lookup_erase_ite).trans (if_neg (hNe x hx))
      queue := fun p => by cases p <;> rfl
      scheduled := rfl }
  exact hErased.trans (untouched_removeQueueMemberships _ hid)

end Untouched

section Ownership

theorem GraphInv.unowned_of_downstream (h : GraphInv s) (hid : s.ownersOf id = ∅) (hx : Downstream s id x) :
    s.ownersOf x = ∅ := by
  have hStep : ∀ d y, s.ownersOf d = ∅ → y ∈ s.dependentsOf d → s.ownersOf y = ∅ := by
    intro d y hd hEdge
    obtain ⟨record, hRecord, hMem⟩ := h.edge y d hEdge
    refine Finset.eq_empty_of_forall_notMem fun owner hOwner => ?_
    have hOwned := h.owner_dependency hOwner hRecord hMem
    simp [hd] at hOwned
  induction hx with
  | single hEdge => exact hStep id _ hid hEdge
  | tail _ hEdge ih => exact hStep _ _ ih hEdge

end Ownership

section Leaving

variable {owner : RootOwner} {taskIds retired : List Id}

theorem foldl_removeOwner (owner : RootOwner) (taskIds : List Id) (s : Inner P O Id) :
    taskIds.foldl (removeOwner owner) s = { s with
      taskOwners := taskIds.foldl (fun owners id => owners.modify id (·.erase owner)) s.taskOwners } := by
  induction taskIds generalizing s with
  | nil => rfl
  | cons id taskIds ih => exact ih (removeOwner owner s id)

theorem owners_foldl_modify {owners : Table Id (Finset RootOwner)} :
    ((taskIds.foldl (fun owners id => owners.modify id (·.erase owner)) owners).lookup x).getD ∅ =
      if x ∈ taskIds then ((owners.lookup x).getD ∅).erase owner else (owners.lookup x).getD ∅ := by
  induction taskIds generalizing owners with
  | nil => rfl
  | cons id taskIds ih =>
    rw [foldl_cons, ih, lookup_modify]
    by_cases hx : x = id
    · subst hx
      cases owners.lookup x <;> simp
    · simp [hx]

theorem lookup_foldl_erase {owners : Table Id (Finset RootOwner)} :
    (retired.foldl (fun owners id => owners.erase id) owners).lookup x =
      if x ∈ retired then none else owners.lookup x := by
  induction retired generalizing owners with
  | nil => rfl
  | cons id retired ih =>
    rw [foldl_cons, ih, lookup_erase_ite]
    by_cases hx : x = id
    · subst hx
      simp
    · simp [hx]

theorem StoreInv.leave (h : StoreInv s popped fun _ => False) {taskOwners : Table Id (Finset RootOwner)}
    {ownerGraphs : Table RootOwner (OwnerGraph Id)}
    (hOwners : ∀ y, (taskOwners.lookup y).getD ∅ = (s.ownersOf y).erase owner)
    (hOthers : ∀ o, o ≠ owner → ownerGraphs.lookup o = s.ownerGraphs.lookup o)
    (hLeft : ∀ graph, ownerGraphs.lookup owner = some graph → graph.attached = false)
    (hRetired : ∀ y, owner ∈ s.ownersOf y → (s.ownersOf y).erase owner = ∅ → y ∈ retired) :
    StoreInv { s with taskOwners, ownerGraphs } popped (· ∈ retired) := by
  have hMem : ∀ o y, o ∈ ({ s with taskOwners, ownerGraphs } : Inner P O Id).ownersOf y ↔
      o ≠ owner ∧ o ∈ s.ownersOf y := by
    intro o y
    rw [← Finset.mem_erase, ← hOwners y]
    rfl
  constructor
  · refine ⟨h.nodup, h.payload, h.edge, h.edges, ?_, ?_⟩
    · intro o y ho
      obtain ⟨hNe, ho⟩ := (hMem o y).mp ho
      obtain ⟨record, hRecord, hDeps⟩ := h.closed o y ho
      exact ⟨record, hRecord, fun d hd => (hMem o d).mpr ⟨hNe, hDeps d hd⟩⟩
    · intro o y
      rw [hMem o y]
      by_cases ho : o = owner
      · subst ho
        simp only [ne_eq, not_true_eq_false, false_and, false_iff, not_exists, not_and]
        intro graph hGraph hAttached
        rw [hLeft graph hGraph] at hAttached
        cases hAttached
      · rw [hOthers o ho, ← h.graphs o y]
        simp [ho]
  · intro y record hRecord hy
    refine (h.task y record hRecord not_false).frame fun _ => ⟨?_, rfl, fun _ _ => rfl, fun _ _ h => h,
      fun _ _ h => h, ?_, fun _ h => h⟩
    · rintro ⟨o, ho⟩
      change ((taskOwners.lookup y).getD ∅).Nonempty
      rw [hOwners y, Finset.nonempty_iff_ne_empty]
      intro hEmpty
      by_cases hOwner : owner ∈ s.ownersOf y
      · exact hy (hRetired y hOwner hEmpty)
      · rw [Finset.erase_eq_of_notMem hOwner] at hEmpty
        simp [hEmpty] at ho
    · intro p hIn
      cases p <;> exact hIn

end Leaving

section Cancelling

variable {graphs : Table RootOwner (OwnerGraph Id)}

theorem LostUpdate.withGraphs {lost : Id → Prop} (u : LostUpdate s s' lost) (graphs : Table RootOwner (OwnerGraph Id)) :
    LostUpdate { s with ownerGraphs := graphs } { s' with ownerGraphs := graphs } lost :=
  { u with
    graphs := rfl
    queue := fun y hy p hIn => by
      have := u.queue y hy p
      cases p <;> exact this hIn }

theorem lostUpdate_cancelTaskLocked (s : Inner P O Id) (id : Id) (error : String) :
    LostUpdate s (cancelTaskLocked s id error).1 fun y =>
      s.isLive id = true ∧ (y = id ∨ Downstream s id y ∧ isTerminalTask s y = false) := by
  rw [cancelTaskLocked]
  cases hState : s.stateOf id with
  | none =>
    refine LostUpdate.refl.congr fun y => ⟨False.elim, fun hy => ?_⟩
    rw [isLive, hState] at hy
    cases hy.1
  | some state =>
    dsimp only
    split
    · rename_i hTerminal
      refine LostUpdate.refl.congr fun y => ⟨False.elim, fun hy => ?_⟩
      simp [isLive, hState, hTerminal] at hy
    · rename_i hTerminal
      have hNot : isTerminalTask s id = false := by simp [isTerminalTask, hState, hTerminal]
      have hLive : s.isLive id = true := by simp [isLive, hState, hTerminal]
      exact (lostUpdate_lose hNot rfl error).congr fun y => by simp [hLive]

theorem StoreInv.cancelLoop {ids : List Id} (error : String)
    (h : StoreInv { s with ownerGraphs := graphs } popped exempt) (hUnowned : ∀ id ∈ ids, s.ownersOf id = ∅) :
    StoreInv { ids.foldl (fun s id => (cancelTaskLocked s id error).1) s with ownerGraphs := graphs } popped exempt ∧
      Untouched (fun x => decide (s.ownersOf x ≠ ∅)) s (ids.foldl (fun s id => (cancelTaskLocked s id error).1) s) ∧
      ∃ lost, LostUpdate s (ids.foldl (fun s id => (cancelTaskLocked s id error).1) s) lost ∧
        ∀ id ∈ ids, lost id ∨ s.isLive id = false := by
  induction ids generalizing s with
  | nil => exact ⟨h, .refl, fun _ => False, .refl, by simp⟩
  | cons id ids ih =>
    have hUpdate := lostUpdate_cancelTaskLocked s id error
    have hUnownedId : s.ownersOf id = ∅ := hUnowned id mem_cons_self
    have hFirst : StoreInv { (cancelTaskLocked s id error).1 with ownerGraphs := graphs } popped exempt := by
      by_cases hLive : s.isLive id = true
      · exact h.loseDownstream hLive ((hUpdate.withGraphs graphs).congr fun y => and_iff_right hLive)
      · have hEmpty := hUpdate.withGraphs graphs
        refine h.lose hEmpty ?_ ?_
        · exact fun d hd => absurd hd.1 hLive
        · exact fun d hd => absurd hd.1 hLive
    have hOwners : ∀ y, (cancelTaskLocked s id error).1.ownersOf y = s.ownersOf y := hUpdate.ownersOf_eq
    have hKept : Untouched (fun x => decide (s.ownersOf x ≠ ∅)) s (cancelTaskLocked s id error).1 := by
      refine untouched_cancelTaskLocked error (by simp [hUnownedId]) fun y hy => ?_
      have hDownstream := h.toGraphInv.unowned_of_downstream hUnownedId hy
      exact decide_eq_false fun hNe => hNe hDownstream
    obtain ⟨hInv, hRest, lost, hLost, hAll⟩ := ih hFirst fun y hy => by
      rw [hOwners y]
      exact hUnowned y (mem_cons_of_mem _ hy)
    simp only [hOwners] at hRest
    refine ⟨hInv, hKept.trans hRest, _, hUpdate.trans hLost, fun y hy => ?_⟩
    by_cases hLive : s.isLive y = true
    · left
      rcases mem_cons.mp hy with rfl | hy
      · exact Or.inl ⟨hLive, Or.inl rfl⟩
      · rcases hAll y hy with hy | hDead
        · exact Or.inr hy
        · -- the task was lost by the first cancellation
          left
          by_contra hNot
          rw [isLive_congr (hUpdate.outside y hNot), hLive] at hDead
          cases hDead
    · exact Or.inr (by simpa using hLive)

end Cancelling

section Removing

variable {graphs : Table RootOwner (OwnerGraph Id)}

/-- The task occurs nowhere among tasks, counters, edges, queues and buckets. -/
structure Gone (s : Inner P O Id) (x : Id) : Prop where
  tasks : s.tasks.lookup x = none
  remaining : s.remaining.lookup x = none
  dependents : s.dependents.lookup x = none
  edges : ∀ d, x ∉ s.dependentsOf d
  queue : ∀ p, x ∉ s.queue p
  bucket : ∀ time, ¬InBucket s.scheduled time x

theorem lookup_dependents_removeRetired (d : Id) : (removeRetired s id).dependents.lookup d =
    if d = id then none else (s.dependents.lookup d).bind fun ids =>
      if (ids.filter (· ≠ id)).isEmpty then none else some (ids.filter (· ≠ id)) := by
  refine (lookup_retain).trans ?_
  rw [lookup_erase_ite]
  split <;> rfl

theorem dependentsOf_removeRetired (d : Id) :
    (removeRetired s id).dependentsOf d = if d = id then [] else (s.dependentsOf d).filter (· ≠ id) := by
  refine (dependentsOf_removeDependentEdges _ id d).trans ?_
  rw [dependentsOf, lookup_erase_ite]
  split <;> rfl

theorem queue_removeRetired (p : Priority) : (removeRetired s id).queue p = (s.queue p).filter (· ≠ id) := by
  cases p <;> rfl

theorem gone_removeRetired (h : x = id ∨ Gone s x) : Gone (removeRetired s id) x where
  tasks := by
    refine (lookup_erase_ite).trans ?_
    split
    · rfl
    · exact (h.resolve_left (by assumption)).tasks
  remaining := by
    refine (lookup_erase_ite).trans ?_
    split
    · rfl
    · exact (h.resolve_left (by assumption)).remaining
  dependents := by
    rw [lookup_dependents_removeRetired]
    split
    · rfl
    · rw [(h.resolve_left (by assumption)).dependents]
      rfl
  edges := by
    intro d hMem
    rw [dependentsOf_removeRetired] at hMem
    split at hMem
    · cases hMem
    · rw [mem_filter, decide_eq_true_eq] at hMem
      exact (h.resolve_left hMem.2).edges d hMem.1
  queue := by
    intro p hMem
    rw [queue_removeRetired, mem_filter, decide_eq_true_eq] at hMem
    exact (h.resolve_left hMem.2).queue p hMem.1
  bucket := by
    intro time hMem
    obtain ⟨hIn, hNe⟩ := inBucket_retainScheduled.mp hMem
    exact (h.resolve_left hNe).bucket time hIn

theorem StoreInv.removeRetired (h : StoreInv { s with ownerGraphs := graphs } popped exempt)
    (hUnowned : s.ownersOf id = ∅) :
    StoreInv { removeRetired s id with ownerGraphs := graphs } popped exempt := by
  have hLookup : ∀ y, y ≠ id → (Queue.removeRetired s id).tasks.lookup y = s.tasks.lookup y := fun y hy =>
    (lookup_erase_ite).trans (if_neg hy)
  have hNe : ∀ y record, (Queue.removeRetired s id).tasks.lookup y = some record → y ≠ id := by
    rintro y record hRecord rfl
    rw [(gone_removeRetired (Or.inl rfl)).tasks] at hRecord
    cases hRecord
  constructor
  · constructor
    · intro y record hRecord
      exact h.nodup y record ((hLookup y (hNe y record hRecord)).symm.trans hRecord)
    · intro y record hRecord
      exact h.payload y record ((hLookup y (hNe y record hRecord)).symm.trans hRecord)
    · intro y d hEdge
      change y ∈ (Queue.removeRetired s id).dependentsOf d at hEdge
      rw [dependentsOf_removeRetired] at hEdge
      split at hEdge
      · cases hEdge
      · rw [mem_filter, decide_eq_true_eq] at hEdge
        obtain ⟨record, hRecord, hMem⟩ := h.edge y d hEdge.1
        exact ⟨record, (hLookup y hEdge.2).trans hRecord, hMem⟩
    · intro d
      change ((Queue.removeRetired s id).dependentsOf d).Nodup
      rw [dependentsOf_removeRetired]
      split
      · exact nodup_nil
      · exact (h.edges d).filter _
    · intro owner y hOwner
      obtain ⟨record, hRecord, hDeps⟩ := h.closed owner y hOwner
      refine ⟨record, (hLookup y ?_).trans hRecord, hDeps⟩
      rintro rfl
      change owner ∈ s.ownersOf y at hOwner
      simp [hUnowned] at hOwner
    · exact h.graphs
  · intro y record hRecord hy
    have hyNe := hNe y record hRecord
    have hBefore := (hLookup y hyNe).symm.trans hRecord
    have hOk := h.task y record hBefore hy
    refine hOk.frame fun hLive => ?_
    have hDeps : ∀ d ∈ record.dependencies, d ≠ id := by
      rintro d hd rfl
      obtain ⟨owner, hOwner⟩ := hOk.owned hLive
      have hOwned := h.toGraphInv.owner_dependency hOwner hBefore hd
      change owner ∈ s.ownersOf d at hOwned
      simp [hUnowned] at hOwned
    constructor
    · exact fun hOwners => hOwners
    · exact (lookup_erase_ite).trans (if_neg hyNe)
    · exact fun d hd => isDone_congr (hLookup d (hDeps d hd))
    · intro d hd hLiveD
      rw [← hLiveD]
      exact isLive_congr (hLookup d (hDeps d hd))
    · intro d hd hEdge
      change y ∈ (Queue.removeRetired s id).dependentsOf d
      rw [dependentsOf_removeRetired, if_neg (hDeps d hd)]
      exact mem_filter.mpr ⟨hEdge, by simpa using hyNe⟩
    · intro p hIn
      refine hIn.imp_left fun hIn => ?_
      have hMem : y ∈ (Queue.removeRetired s id).queue p := by
        rw [queue_removeRetired]
        refine mem_filter.mpr ⟨?_, by simpa using hyNe⟩
        cases p <;> exact hIn
      cases p <;> exact hMem
    · exact fun time hIn => inBucket_retainScheduled.mpr ⟨hIn, hyNe⟩

theorem StoreInv.removeLoop {ids : List Id} (h : StoreInv { s with ownerGraphs := graphs } popped exempt)
    (hUnowned : ∀ id ∈ ids, s.ownersOf id = ∅) :
    StoreInv { ids.foldl Queue.removeRetired s with ownerGraphs := graphs } popped exempt ∧
      ∀ x, x ∈ ids ∨ Gone s x → Gone (ids.foldl Queue.removeRetired s) x := by
  induction ids generalizing s with
  | nil => exact ⟨h, fun x hx => hx.resolve_left not_mem_nil⟩
  | cons id ids ih =>
    obtain ⟨hInv, hGone⟩ := ih (h.removeRetired (hUnowned id mem_cons_self))
      fun y hy => hUnowned y (mem_cons_of_mem _ hy)
    refine ⟨hInv, fun x hx => hGone x ?_⟩
    rcases hx with hx | hx
    · rcases mem_cons.mp hx with rfl | hx
      · exact Or.inr (gone_removeRetired (Or.inl rfl))
      · exact Or.inl hx
    · exact Or.inr (gone_removeRetired (Or.inr hx))

end Removing

section Detach

variable {owner : RootOwner} {mode : DetachMode}

def Inner.hasOtherOwner (s : Inner P O Id) (owner : RootOwner) (id : Id) : Bool :=
  decide ((s.ownersOf id).erase owner ≠ ∅)

structure DetachEffect (s s' : Inner P O Id) (owner : RootOwner) (mode : DetachMode) (outcome : DetachOutcome Id) :
    Prop where
  untouched : Untouched (s.hasOtherOwner owner) s s'
  owners : ∀ o x, o ≠ owner → (o ∈ s'.ownersOf x ↔ o ∈ s.ownersOf x)
  lists : ∀ graph, s.ownerGraphs.lookup owner = some graph → graph.attached = true ∨ mode = .remove →
    outcome.detached = true ∧ outcome.retained = graph.taskIds.filter (s.hasOtherOwner owner) ∧
      outcome.retired = graph.taskIds.filter fun id => !s.hasOtherOwner owner id
  idle : (∀ graph, s.ownerGraphs.lookup owner = some graph → graph.attached = false ∧ mode = .cancel) →
    s' = s ∧ outcome.detached = false ∧ outcome.retained = [] ∧ outcome.retired = []
  cancelled : mode = .cancel → ∀ x ∈ outcome.retired,
    ∃ record, s'.tasks.lookup x = some record ∧ record.state.isTerminal = true
  removed : mode = .remove → ∀ x ∈ outcome.retired, Gone s' x ∧ s'.taskOwners.lookup x = none

theorem leaveTasks_eq (s : Inner P O Id) (owner : RootOwner) (graph : OwnerGraph Id) :
    ∃ taskOwners, leaveTasks s owner graph = { s with taskOwners } := by
  rw [leaveTasks]
  split
  · exact ⟨_, foldl_removeOwner owner graph.taskIds s⟩
  · exact ⟨_, rfl⟩

variable {graph : OwnerGraph Id}

theorem ownersOf_leaveTasks_of_mem {y : Id} (hMem : owner ∈ s.ownersOf y → graph.attached = true ∧ y ∈ graph.taskIds) :
    (leaveTasks s owner graph).ownersOf y = (s.ownersOf y).erase owner := by
  rw [leaveTasks]
  split
  · rw [foldl_removeOwner, ownersOf, owners_foldl_modify]
    split
    · rfl
    · rename_i hy
      exact (Finset.erase_eq_of_notMem fun hOwner => hy (hMem hOwner).2).symm
  · rename_i hAttached
    exact (Finset.erase_eq_of_notMem fun hOwner => hAttached (hMem hOwner).1).symm

theorem ownersOf_leaveTasks (h : GraphInv s) (hGraph : s.ownerGraphs.lookup owner = some graph) (y : Id) :
    (leaveTasks s owner graph).ownersOf y = (s.ownersOf y).erase owner := by
  apply ownersOf_leaveTasks_of_mem
  rw [h.graphs owner y, hGraph]
  simp

/-- The tasks of the graph that no other owner has. -/
def Inner.retiredBy (s : Inner P O Id) (owner : RootOwner) (graph : OwnerGraph Id) : List Id :=
  graph.taskIds.filter fun id => !s.hasOtherOwner owner id

theorem mem_retiredBy {y : Id} :
    y ∈ s.retiredBy owner graph ↔ y ∈ graph.taskIds ∧ (s.ownersOf y).erase owner = ∅ := by
  simp [retiredBy, hasOtherOwner]

theorem detachOwner_eq (h : GraphInv s) (hGraph : s.ownerGraphs.lookup owner = some graph)
    (hMode : ¬(graph.attached = false ∧ mode = .cancel)) :
    detachOwner s owner mode = .ok (
      { retireTasks (leaveTasks s owner graph) mode (s.retiredBy owner graph) with
        ownerGraphs := retireGraph (retireTasks (leaveTasks s owner graph) mode (s.retiredBy owner graph)).ownerGraphs
          owner mode },
      ⟨true, mode, s.retiredBy owner graph, graph.taskIds.filter (s.hasOtherOwner owner)⟩) := by
  have hRetired : (graph.taskIds.filter fun id => decide ((leaveTasks s owner graph).ownersOf id = ∅)) =
      s.retiredBy owner graph := by
    apply filter_congr
    intro y _
    rw [ownersOf_leaveTasks h hGraph y]
    simp [hasOtherOwner]
  have hRetained : (graph.taskIds.filter fun id => decide ((leaveTasks s owner graph).ownersOf id ≠ ∅)) =
      graph.taskIds.filter (s.hasOtherOwner owner) := by
    apply filter_congr
    intro y _
    rw [ownersOf_leaveTasks h hGraph y]
    rfl
  rw [detachOwner, hGraph]
  dsimp only
  rw [if_neg hMode, Outcome.ensure_of_pos, Outcome.ok_bind, hRetired, hRetained]
  · rfl
  · intro hAttached y hy
    have hOwner := (h.graphs owner y).mpr ⟨graph, hGraph, hAttached, hy⟩
    obtain ⟨record, hRecord, _⟩ := h.closed owner y hOwner
    exact ⟨by rw [hRecord]; rfl, hOwner⟩

variable {graphs : Table RootOwner (OwnerGraph Id)}

omit [DecidableEq Id] in
theorem lookup_retireGraph_ne {o : RootOwner} (ho : o ≠ owner) :
    (retireGraph graphs owner mode).lookup o = graphs.lookup o := by
  cases mode with
  | cancel => exact (lookup_modify).trans (if_neg ho)
  | remove => exact (lookup_erase_ite).trans (if_neg ho)

omit [DecidableEq Id] in
theorem attached_retireGraph (h : (retireGraph graphs owner mode).lookup owner = some graph) :
    graph.attached = false := by
  cases mode with
  | cancel =>
    rw [retireGraph, lookup_modify, if_pos rfl] at h
    obtain ⟨before, _, rfl⟩ := Option.map_eq_some_iff.mp h
    rfl
  | remove =>
    rw [retireGraph, lookup_erase_ite, if_pos rfl] at h
    cases h

structure Retired (s s' : Inner P O Id) (popped : Id → Prop) (graphs : Table RootOwner (OwnerGraph Id))
    (mode : DetachMode) (retired : List Id) : Prop where
  invariant : StoreInv { s' with ownerGraphs := graphs } popped fun _ => False
  untouched : Untouched (fun x => decide (s.ownersOf x ≠ ∅)) s s'
  owners : s'.taskOwners = s.taskOwners
  graphs : s'.ownerGraphs = s.ownerGraphs
  cancelled : mode = .cancel → ∀ x ∈ retired, (s.tasks.lookup x).isSome = true →
    ∃ record, s'.tasks.lookup x = some record ∧ record.state.isTerminal = true
  removed : mode = .remove → ∀ x ∈ retired, Gone s' x

theorem retired_cancel {retired : List Id} (h : StoreInv { s with ownerGraphs := graphs } popped (· ∈ retired))
    (hUnowned : ∀ id ∈ retired, s.ownersOf id = ∅) (error : String) :
    Retired s (retired.foldl (fun s id => (cancelTaskLocked s id error).1) s) popped graphs .cancel retired := by
  obtain ⟨hInv, hUntouched, lost, hLost, hAll⟩ := StoreInv.cancelLoop error h hUnowned
  have hEnded : ∀ x ∈ retired, ∀ record,
      (retired.foldl (fun s id => (cancelTaskLocked s id error).1) s).tasks.lookup x = some record →
      record.state.isTerminal = true := by
    intro x hx record hRecord
    by_cases hx' : lost x
    · exact isTerminal_of_isLost (hLost.inside x hx' record hRecord).1
    · have hDead := (hAll x hx).resolve_left hx'
      rw [hLost.outside x hx'] at hRecord
      rw [isLive_of_lookup hRecord] at hDead
      simpa using hDead
  refine ⟨?_, hUntouched, hLost.owners, hLost.graphs, fun _ x hx hSome => ?_, nofun⟩
  · exact hInv.weaken fun x record hRecord hx _ => taskOk_of_isTerminal (hEnded x hx record hRecord)
  · obtain ⟨record, hRecord⟩ := Option.isSome_iff_exists.mp (hLost.present x hSome)
    exact ⟨record, hRecord, hEnded x hx record hRecord⟩

theorem retired_remove {retired : List Id} (h : StoreInv { s with ownerGraphs := graphs } popped (· ∈ retired))
    (hUnowned : ∀ id ∈ retired, s.ownersOf id = ∅) :
    Retired s (retired.foldl Queue.removeRetired s) popped graphs .remove retired := by
  obtain ⟨hInv, hGone⟩ := h.removeLoop hUnowned
  have hSame : ∀ (ids : List Id) (s : Inner P O Id), (ids.foldl Queue.removeRetired s).taskOwners = s.taskOwners ∧
      (ids.foldl Queue.removeRetired s).ownerGraphs = s.ownerGraphs := by
    intro ids
    induction ids with
    | nil => exact fun s => ⟨rfl, rfl⟩
    | cons id ids ih => exact fun s => ih (Queue.removeRetired s id)
  refine ⟨?_, ?_, (hSame retired s).1, (hSame retired s).2, nofun, fun _ x hx => hGone x (Or.inl hx)⟩
  · refine hInv.weaken fun x record hRecord hx _ => ?_
    cases (hGone x (Or.inl hx)).tasks.symm.trans hRecord
  · exact Untouched.foldl fun _ id hid => untouched_removeRetired (by simp [hUnowned id hid])

/-- The owners that are left, without the entries of the tasks that go. -/
def Inner.ownersLeft (s : Inner P O Id) (owner : RootOwner) (graph : OwnerGraph Id) : Table Id (Finset RootOwner) :=
  (s.retiredBy owner graph).foldl (fun owners id => owners.erase id) (leaveTasks s owner graph).taskOwners

theorem lookup_ownersLeft {y : Id} (hy : y ∈ s.retiredBy owner graph) : (s.ownersLeft owner graph).lookup y = none :=
  lookup_foldl_erase.trans (if_pos hy)

theorem ownersLeft_eq (h : GraphInv s) (hGraph : s.ownerGraphs.lookup owner = some graph) (y : Id) :
    ((s.ownersLeft owner graph).lookup y).getD ∅ = (s.ownersOf y).erase owner := by
  rw [ownersLeft, lookup_foldl_erase]
  split
  · rename_i hy
    exact (mem_retiredBy.mp hy).2.symm
  · exact ownersOf_leaveTasks h hGraph y

theorem StoreInv.leaveOwner (h : StoreInv s popped fun _ => False) (hGraph : s.ownerGraphs.lookup owner = some graph)
    (mode : DetachMode) :
    StoreInv { s with
      taskOwners := s.ownersLeft owner graph
      ownerGraphs := retireGraph s.ownerGraphs owner mode } popped (· ∈ s.retiredBy owner graph) := by
  refine h.leave (ownersLeft_eq h.toGraphInv hGraph) (fun o ho => lookup_retireGraph_ne ho)
    (fun graph => attached_retireGraph) fun y hOwner hEmpty => ?_
  obtain ⟨found, hFound, _, hMem⟩ := (h.graphs owner y).mp hOwner
  cases hGraph.symm.trans hFound
  exact mem_retiredBy.mpr ⟨hMem, hEmpty⟩

theorem StoreInv.retired (h : StoreInv s popped fun _ => False) (hGraph : s.ownerGraphs.lookup owner = some graph)
    (mode : DetachMode) :
    Retired { s with taskOwners := s.ownersLeft owner graph }
      (retireTasks (leaveTasks s owner graph) mode (s.retiredBy owner graph)) popped
      (retireGraph s.ownerGraphs owner mode) mode (s.retiredBy owner graph) := by
  have hLeave := h.leaveOwner hGraph mode
  have hUnowned : ∀ id ∈ s.retiredBy owner graph, ((s.ownersLeft owner graph).lookup id).getD ∅ = ∅ := by
    intro y hy
    rw [lookup_ownersLeft hy]
    rfl
  obtain ⟨left, hEq⟩ := leaveTasks_eq s owner graph
  rw [ownersLeft, hEq] at hLeave hUnowned ⊢
  cases mode with
  | cancel => exact retired_cancel hLeave hUnowned _
  | remove => exact retired_remove hLeave hUnowned

theorem Untouched.withGraphs {keep : Id → Bool} (h : Untouched keep s s') :
    Untouched keep s { s' with ownerGraphs := graphs } where
  tasks := h.tasks
  remaining := h.remaining
  queue p := by
    have hQueue := h.queue p
    cases p <;> exact hQueue
  scheduled := h.scheduled

theorem Gone.withGraphs (h : Gone s x) : Gone { s with ownerGraphs := graphs } x where
  tasks := h.tasks
  remaining := h.remaining
  dependents := h.dependents
  edges := h.edges
  queue p := by
    have hQueue := h.queue p
    cases p <;> exact hQueue
  bucket := h.bucket

theorem Retired.detachEffect {graphs' : Table RootOwner (OwnerGraph Id)} (h : StoreInv s popped fun _ => False)
    (hGraph : s.ownerGraphs.lookup owner = some graph) (hMode : ¬(graph.attached = false ∧ mode = .cancel))
    (hRetired : Retired { s with taskOwners := s.ownersLeft owner graph } s' popped graphs mode
      (s.retiredBy owner graph)) :
    DetachEffect s { s' with ownerGraphs := graphs' } owner mode
      ⟨true, mode, s.retiredBy owner graph, graph.taskIds.filter (s.hasOtherOwner owner)⟩ where
  untouched := by
    have hKeep : (fun x => decide (({ s with taskOwners := s.ownersLeft owner graph } : Inner P O Id).ownersOf x ≠ ∅)) =
        s.hasOtherOwner owner := by
      funext y
      rw [hasOtherOwner, ← ownersLeft_eq h.toGraphInv hGraph y]
      rfl
    have hKept := hRetired.untouched
    rw [hKeep] at hKept
    exact Untouched.withGraphs ⟨hKept.tasks, hKept.remaining, hKept.queue, hKept.scheduled⟩
  owners o y ho := by
    change o ∈ (s'.taskOwners.lookup y).getD ∅ ↔ _
    rw [hRetired.owners, ownersLeft_eq h.toGraphInv hGraph y, Finset.mem_erase]
    exact and_iff_right ho
  lists graph' hSome _ := by
    cases hGraph.symm.trans hSome
    exact ⟨rfl, rfl, rfl⟩
  idle hNot := absurd (hNot graph hGraph) hMode
  cancelled hCancel y hy := by
    refine hRetired.cancelled hCancel y hy ?_
    have hAttached : graph.attached = true := by
      by_contra hNot
      exact hMode ⟨by simpa using hNot, hCancel⟩
    obtain ⟨record, hRecord, _⟩ :=
      h.closed owner y ((h.graphs owner y).mpr ⟨graph, hGraph, hAttached, (mem_retiredBy.mp hy).1⟩)
    exact Option.isSome_iff_exists.mpr ⟨record, hRecord⟩
  removed hRemove y hy := by
    refine ⟨(hRetired.removed hRemove y hy).withGraphs, ?_⟩
    change s'.taskOwners.lookup y = none
    rw [hRetired.owners]
    exact lookup_ownersLeft hy

theorem detachOwner_idle (hIdle : ∀ graph, s.ownerGraphs.lookup owner = some graph → graph.attached = false ∧ mode = .cancel) :
    detachOwner s owner mode = .ok (s, .notAttached mode) ∧ DetachEffect s s owner mode (.notAttached mode) := by
  refine ⟨?_, .refl, fun _ _ _ => Iff.rfl, fun graph hGraph hMode => ?_, fun _ => ⟨rfl, rfl, rfl, rfl⟩, nofun, nofun⟩
  · rw [detachOwner]
    cases hGraph : s.ownerGraphs.lookup owner with
    | none => rfl
    | some graph => exact if_pos (hIdle graph hGraph)
  · obtain ⟨hAttached, rfl⟩ := hIdle graph hGraph
    simp [hAttached] at hMode

/-- Detaching never fails from a store that keeps the invariant, keeps it, and touches no task of another owner. -/
theorem StoreInv.detachOwner (h : StoreInv s popped fun _ => False) (owner : RootOwner) (mode : DetachMode) :
    ∃ s' outcome, detachOwner s owner mode = .ok (s', outcome) ∧ (StoreInv s' popped fun _ => False) ∧
      DetachEffect s s' owner mode outcome := by
  by_cases hIdle : ∀ graph, s.ownerGraphs.lookup owner = some graph → graph.attached = false ∧ mode = .cancel
  · obtain ⟨hEq, hEffect⟩ := detachOwner_idle hIdle
    exact ⟨s, _, hEq, h, hEffect⟩
  · simp only [not_forall] at hIdle
    obtain ⟨graph, hGraph, hMode⟩ := hIdle
    have hRetired := h.retired hGraph mode
    refine ⟨_, _, detachOwner_eq h.toGraphInv hGraph hMode, ?_, hRetired.detachEffect h hGraph hMode⟩
    rw [hRetired.graphs]
    exact hRetired.invariant

end Detach

end Raiko2.Queue
