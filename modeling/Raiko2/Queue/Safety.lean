import Raiko2.Queue.Execution

/-!
# What the queue guarantees

Over every run: a task runs only when its dependencies have succeeded; a task that has not ended is where the
machinery that must move it looks for it; detaching an owner touches no task of another one; and a lease has an
effect exactly as long as its task runs under it.
-/

namespace Raiko2.Queue

open Lib

variable {P O Id : Type} [DecidableEq Id] [ReadyQueueSort Id] [BEq P]

section Runs

theorem running_dependencies_succeeded (storeLease : Nat) (events : List (Event P O Id))
    (hRun : Run System.Allowed (System.step storeLease) {} events) :
    ∀ x record leaseToken attempt,
      (events.foldl (System.step storeLease) {}).store.tasks.lookup x = some record →
      record.state = .running leaseToken attempt → ∀ d ∈ record.dependencies, ∃ dependency output,
        (events.foldl (System.step storeLease) {}).store.tasks.lookup d = some dependency ∧
        dependency.state = .succeeded output := by
  intro x record leaseToken attempt hRecord hState d hd
  have hTask := (systemInv_of_run hRun).store.task x record hRecord not_false
  have hDone := hTask.released (by rw [hState]; rfl) d hd
  exact Inner.isDone_iff.mp hDone

def plainNode (id payload : UInt64) (dependencies : List UInt64) : ExecutionNode UInt64 UInt64 :=
  ⟨id, ⟨.high, payload⟩, dependencies, ⟨1000000000, .none⟩⟩

def handoverRun : List (Event UInt64 UInt64 UInt64) :=
  [.attach ⟨"root", 1⟩ [plainNode 2 20 [1], plainNode 1 10 []],
    .startNextReady 0 "a" "u0", .popReady 0 "u1", .takeReady 0 5,
    .complete ⟨1, 10, .high, 1, "a/u0", "a", ⟨1000000000, .none⟩⟩ (.ok 7) 6,
    .startNextReady 1 "b" "u2", .popReady 1 "u3", .takeReady 1 8]

theorem handoverRun_dependency_succeeded :
    ∃ record, (handoverRun.foldl (System.step 60) {}).store.tasks.lookup 2 = some record ∧
      record.dependencies = [1] ∧ record.state = .running "b/u2" 1 ∧ ∃ dependency output,
        (handoverRun.foldl (System.step 60) {}).store.tasks.lookup 1 = some dependency ∧
        dependency.state = .succeeded output := by
  have hRun : Run System.Allowed (System.step 60) {} handoverRun := by decide +kernel
  exact ⟨_, rfl, rfl, rfl, running_dependencies_succeeded 60 handoverRun hRun 2 _ "b/u2" 1 rfl rfl 1 (by decide)⟩

/-- Where a task that has not ended is found by what must move it. -/
structure NotStranded (s : System P O Id) (x : Id) (record : TaskRecord P O Id) : Prop where
  pending : ∀ k, record.state = .pending k → s.store.remaining.lookup x = some k ∧
    k = record.dependencies.countP (fun d => !s.store.isDone d) ∧ 1 ≤ k ∧
    ∀ d ∈ record.dependencies, s.store.isDone d = false →
      s.store.isLive d = true ∧ (s.store.dependentsOf d).count x = 1
  ready : record.state = .ready → x ∈ s.store.queue record.priority ∨ s.Popped x
  retrying : ∀ error attempt time, record.state = .retrying error attempt time → InBucket s.store.scheduled time x
  running : ∀ leaseToken attempt, record.state = .running leaseToken attempt → record.leaseUntilMs.isSome = true

theorem no_task_stranded (storeLease : Nat) (events : List (Event P O Id))
    (hRun : Run System.Allowed (System.step storeLease) {} events) :
    ∀ x record, (events.foldl (System.step storeLease) {}).store.tasks.lookup x = some record →
      NotStranded (events.foldl (System.step storeLease) {}) x record := by
  intro x record hRecord
  have hInv := (systemInv_of_run hRun).store
  have hTask := hInv.task x record hRecord not_false
  refine ⟨fun k hk => ?_, hTask.ready, hTask.retrying, hTask.running⟩
  obtain ⟨hPos, hWaits⟩ := hTask.pending k hk
  refine ⟨hWaits.counter, hWaits.count, hPos, fun d hd hDone => ⟨hWaits.live d hd hDone, ?_⟩⟩
  exact List.count_eq_one_of_mem (hInv.edges d) (hWaits.edge d hd hDone)

theorem handoverRun_not_stranded :
    ∃ record, ((handoverRun.take 4).foldl (System.step 60) {}).store.tasks.lookup 2 = some record ∧
      record.state = .pending 1 ∧ NotStranded ((handoverRun.take 4).foldl (System.step 60) {}) 2 record := by
  have hRun : Run System.Allowed (System.step 60) {} (handoverRun.take 4) := by decide +kernel
  exact ⟨_, rfl, rfl, no_task_stranded 60 (handoverRun.take 4) hRun 2 _ rfl⟩

/-- Detaching an owner, in whatever state the queue is. -/
theorem detachOwner_isolated (storeLease : Nat) (events : List (Event P O Id))
    (hRun : Run System.Allowed (System.step storeLease) {} events) (owner : RootOwner) (mode : DetachMode) :
    ∃ store outcome, detachOwner (events.foldl (System.step storeLease) {}).store owner mode = .ok (store, outcome) ∧
      DetachEffect (events.foldl (System.step storeLease) {}).store store owner mode outcome := by
  obtain ⟨store, outcome, hEq, _, hEffect⟩ := (systemInv_of_run hRun).store.detachOwner owner mode
  exact ⟨store, outcome, hEq, hEffect⟩

def sharedRun : List (Event UInt64 UInt64 UInt64) :=
  [.attach ⟨"first", 1⟩ [plainNode 1 10 []], .attach ⟨"second", 2⟩ [plainNode 1 10 []], .detach ⟨"first", 1⟩ .cancel]

/-- The first of two owners of a task leaves, in either mode. -/
theorem sharedRun_detach_isolated :
    ((sharedRun.take 2).foldl (System.step 60) {}).store.hasOtherOwner ⟨"first", 1⟩ 1 = true ∧
      ∀ mode, ∃ store outcome, detachOwner ((sharedRun.take 2).foldl (System.step 60) {}).store ⟨"first", 1⟩ mode =
          .ok (store, outcome) ∧
        DetachEffect ((sharedRun.take 2).foldl (System.step 60) {}).store store ⟨"first", 1⟩ mode outcome := by
  have hRun : Run System.Allowed (System.step 60) {} (sharedRun.take 2) := by decide +kernel
  exact ⟨by decide +kernel, detachOwner_isolated 60 (sharedRun.take 2) hRun ⟨"first", 1⟩⟩

/-- The graph of a cancelled owner stays on record. A second cancel reports none of its tasks, although one is still
owned by another root; a removal reports it, although the owner is not attached any more. -/
theorem sharedRun_lists_of_cancelled_owner :
    Run System.Allowed (System.step 60) {} sharedRun ∧
    ∃ graph, (sharedRun.foldl (System.step 60) {}).store.ownerGraphs.lookup ⟨"first", 1⟩ = some graph ∧
      graph.attached = false ∧
      graph.taskIds.filter ((sharedRun.foldl (System.step 60) {}).store.hasOtherOwner ⟨"first", 1⟩) = [1] ∧
      (∃ store outcome, detachOwner (sharedRun.foldl (System.step 60) {}).store ⟨"first", 1⟩ .cancel =
        .ok (store, outcome) ∧ outcome.retained = []) ∧
      ∃ store outcome, detachOwner (sharedRun.foldl (System.step 60) {}).store ⟨"first", 1⟩ .remove =
        .ok (store, outcome) ∧ outcome.retained = [1] := by
  refine ⟨by decide +kernel, _, rfl, rfl, by decide +kernel, ⟨_, _, rfl, rfl⟩, _, _, rfl, rfl⟩

end Runs

section Fencing

def System.RunsUnder (s : System P O Id) (lease : TaskLease P Id) : Prop :=
  ∃ record, s.store.tasks.lookup lease.id = some record ∧ record.state = .running lease.leaseToken lease.attempt

def System.HeldThrough (storeLease : Nat) (s : System P O Id) (lease : TaskLease P Id)
    (events : List (Event P O Id)) : Prop :=
  ∀ first, first <+: events → (first.foldl (System.step storeLease) s).RunsUnder lease

structure LeaseFenced (storeLease : Nat) (s : System P O Id) (lease : TaskLease P Id) (held : Prop) : Prop where
  complete : ∀ result nowMs, (completeWithDisposition s.store lease result nowMs).2 ≠ .stale ↔ held
  renew : ∀ nowMs, (renewTaskLease s.store storeLease lease nowMs).2 = true ↔ held
  checkpoint : ∀ payload policy, (checkpointPayload s.store lease payload policy).2 = true ↔ held
  staleComplete : ∀ result nowMs, (completeWithDisposition s.store lease result nowMs).2 = .stale →
    (completeWithDisposition s.store lease result nowMs).1 = s.store
  staleRenew : ∀ nowMs, (renewTaskLease s.store storeLease lease nowMs).2 = false →
    (renewTaskLease s.store storeLease lease nowMs).1 = s.store
  staleCheckpoint : ∀ payload policy, (checkpointPayload s.store lease payload policy).2 = false →
    (checkpointPayload s.store lease payload policy).1 = s.store
  once : (s.completed.map (·.1.leaseToken)).Nodup
  output : ∀ x record output, s.store.tasks.lookup x = some record → record.state = .succeeded output →
    ∃ last entry, s.lastLease x = some last ∧ entry ∈ s.completed ∧ entry.1.SameGrant last ∧ entry.2 = .ok output

variable {s : System P O Id}

/-- What a step does to the runs of the tasks and to the leases: it starts none, it completes one, or it is the step
that hands out a lease. -/
theorem System.step_cases (s : System P O Id) (storeLease : Nat) (event : Event P O Id) :
    (KeepsRuns s.store (System.step storeLease s event).store ∧
      (System.step storeLease s event).granted = s.granted) ∨
    (∃ id result, Completion s.store (System.step storeLease s event).store id result ∧
      (System.step storeLease s event).granted = s.granted) ∨
    ∃ (call : Nat) (c : NextReadyCall Id) (lease : TaskLease P Id), s.calls.lookup call = some c ∧
      (∀ x token attempt, token ≠ c.leaseToken → runningLeaseMatches s.store x token attempt = false →
        runningLeaseMatches (System.step storeLease s event).store x token attempt = false) ∧
      (System.step storeLease s event).granted = lease :: s.granted := by
  have hMove := System.storeMove storeLease s event
  generalize System.step storeLease s event = s' at hMove ⊢
  obtain ⟨store, calls, usedTokens, granted, completed⟩ := s'
  cases hMove with
  | same => exact Or.inl ⟨.refl, rfl⟩
  | attach hOk => exact Or.inl ⟨keepsRuns_attachGraph hOk, rfl⟩
  | detach hOk => exact Or.inl ⟨(evolves_detachOwner hOk).keepsRuns, rfl⟩
  | pop => exact Or.inl ⟨.of_tasks_eq (Inner.tasks_setQueue _ _ _), rfl⟩
  | take attempt sequence hCall => exact Or.inr (Or.inr ⟨_, _, _, hCall, fun _ _ _ => not_running_leased, rfl⟩)
  | @complete lease result nowMs _ _ hEq =>
    rcases completeWithDisposition_cases s.store lease result nowMs with ⟨_, hStale⟩ | ⟨_, _, hDone⟩
    · cases hEq.symm.trans hStale
      exact Or.inl ⟨.refl, rfl⟩
    · rw [hEq] at hDone
      exact Or.inr (Or.inl ⟨lease.id, result, hDone, rfl⟩)
  | checkpoint | renew => exact Or.inl ⟨keepsRuns_modify _ (fun _ => rfl) fun _ => rfl, rfl⟩
  | promote => exact Or.inl ⟨evolves_promoteScheduled.keepsRuns, rfl⟩
  | requeue nowMs order => exact Or.inl ⟨(evolves_requeueExpiredLeases order nowMs _).keepsRuns, rfl⟩

theorem System.granted_step {storeLease : Nat} {event : Event P O Id} {lease : TaskLease P Id}
    (hLease : lease ∈ s.granted) : lease ∈ (System.step storeLease s event).granted := by
  rcases s.step_cases storeLease event with ⟨_, hEq⟩ | ⟨_, _, _, hEq⟩ | ⟨_, _, _, _, _, hEq⟩
  · rwa [hEq]
  · rwa [hEq]
  · rw [hEq]
    exact List.mem_cons_of_mem _ hLease

theorem SystemInv.step_not_running (h : SystemInv s) (storeLease : Nat) (event : Event P O Id)
    {lease : TaskLease P Id} (hLease : lease ∈ s.granted)
    (hNot : runningLeaseMatches s.store lease.id lease.leaseToken lease.attempt = false) :
    runningLeaseMatches (System.step storeLease s event).store lease.id lease.leaseToken lease.attempt = false := by
  rcases s.step_cases storeLease event with
    ⟨hKeeps, _⟩ | ⟨_, _, hDone, _⟩ | ⟨call, c, _, hCall, hNew, _⟩
  · exact hKeeps.not_running hNot
  · exact hDone.not_running (Or.inr hNot)
  · exact hNew _ _ _ (h.tokens.callFresh call c hCall lease hLease) hNot

omit [ReadyQueueSort Id] [BEq P] in
theorem runsUnder_iff {lease : TaskLease P Id} :
    s.RunsUnder lease ↔ runningLeaseMatches s.store lease.id lease.leaseToken lease.attempt = true :=
  runningLeaseMatches_iff.symm

structure Granted (lease : TaskLease P Id) (s : System P O Id) : Prop where
  invariant : SystemInv s
  mem : lease ∈ s.granted

structure Over (lease : TaskLease P Id) (s : System P O Id) : Prop extends Granted lease s where
  ended : runningLeaseMatches s.store lease.id lease.leaseToken lease.attempt = false

variable {lease : TaskLease P Id} {storeLease : Nat} {events : List (Event P O Id)}

theorem Granted.step (h : Granted lease s) (storeLease : Nat) {event : Event P O Id} (hAllowed : s.Allowed event) :
    Granted lease (System.step storeLease s event) :=
  ⟨h.invariant.step storeLease event hAllowed, System.granted_step h.mem⟩

section Running

variable (hRun : Run System.Allowed (System.step storeLease) s events)

include hRun

theorem Granted.foldl (h : Granted lease s) : Granted lease (events.foldl (System.step storeLease) s) :=
  hRun.foldl_invariant h fun _ _ _ hAllowed h => h.step storeLease hAllowed

theorem Over.foldl (h : Over lease s) : Over lease (events.foldl (System.step storeLease) s) :=
  hRun.foldl_invariant h fun _ event _ hAllowed h =>
    ⟨h.toGranted.step storeLease hAllowed, h.invariant.step_not_running storeLease event h.mem h.ended⟩

theorem Granted.heldThrough_iff (h : Granted lease s) :
    System.HeldThrough storeLease s lease events ↔ (events.foldl (System.step storeLease) s).RunsUnder lease := by
  constructor
  · exact fun hHeld => hHeld events (List.prefix_refl events)
  · rintro hEnd first ⟨rest, rfl⟩
    obtain ⟨hFirst, hRest⟩ := Run.append.mp hRun
    by_contra hNot
    rw [runsUnder_iff, Bool.not_eq_true] at hNot
    have hOver : Over lease (first.foldl (System.step storeLease) s) := ⟨h.foldl hFirst, hNot⟩
    rw [runsUnder_iff, List.foldl_append, (hOver.foldl hRest).ended] at hEnd
    cases hEnd

end Running

omit [BEq P] in
theorem SystemInv.leaseFenced (h : SystemInv s) (storeLease : Nat) (lease : TaskLease P Id) :
    LeaseFenced storeLease s lease (s.RunsUnder lease) where
  complete := by
    intro result nowMs
    rw [runsUnder_iff]
    rcases completeWithDisposition_cases s.store lease result nowMs with ⟨hMatch, hEq⟩ | ⟨hMatch, hStale, _⟩
    · simp [hMatch, hEq]
    · exact ⟨fun _ => hMatch, fun _ => hStale⟩
  renew := fun nowMs => by rw [runsUnder_iff, (leaseCall_renewTaskLease s.store storeLease lease nowMs).accepted]
  checkpoint := fun payload policy => by
    rw [runsUnder_iff, (leaseCall_checkpointPayload s.store lease payload policy).accepted]
  staleComplete := by
    intro result nowMs hStale
    rcases completeWithDisposition_cases s.store lease result nowMs with ⟨_, hEq⟩ | ⟨_, hNot, _⟩
    · rw [hEq]
    · exact absurd hStale hNot
  staleRenew := fun nowMs => (leaseCall_renewTaskLease s.store storeLease lease nowMs).refused
  staleCheckpoint := fun payload policy => (leaseCall_checkpointPayload s.store lease payload policy).refused
  once := h.runs.completedNodup
  output := h.runs.succeeded

/-- A lease handed out in a run, seen from any later point of the run. -/
theorem lease_fenced (storeLease : Nat) (before after : List (Event P O Id)) (call : Nat) (nowMs : UInt64)
    (lease : TaskLease P Id)
    (hRun : Run System.Allowed (System.step storeLease) {} (before ++ Event.takeReady call nowMs :: after))
    (hGranted : ((before ++ [Event.takeReady call nowMs]).foldl (System.step storeLease) {}).granted =
      lease :: (before.foldl (System.step storeLease) {}).granted) :
    LeaseFenced storeLease ((before ++ Event.takeReady call nowMs :: after).foldl (System.step storeLease) {}) lease
      (System.HeldThrough storeLease ((before ++ [Event.takeReady call nowMs]).foldl (System.step storeLease) {}) lease
        after) := by
  rw [List.append_cons] at hRun ⊢
  obtain ⟨hFirst, hRest⟩ := Run.append.mp hRun
  have hGrant : Granted lease ((before ++ [Event.takeReady call nowMs]).foldl (System.step storeLease) {}) :=
    ⟨systemInv_of_run hFirst, by rw [hGranted]; exact List.mem_cons_self⟩
  have hIff := hGrant.heldThrough_iff hRest
  rw [← List.foldl_append] at hIff
  rw [hIff]
  exact (systemInv_of_run hRun).leaseFenced storeLease lease

/-- The first lease of the run above is over once it was completed. -/
theorem handoverRun_lease_fenced :
    LeaseFenced 60 (handoverRun.foldl (System.step 60) {}) ⟨1, 10, .high, 1, "a/u0", "a", ⟨1000000000, .none⟩⟩
      (System.HeldThrough 60 ((handoverRun.take 4).foldl (System.step 60) {})
        ⟨1, 10, .high, 1, "a/u0", "a", ⟨1000000000, .none⟩⟩ (handoverRun.drop 4)) :=
  lease_fenced 60 (handoverRun.take 3) (handoverRun.drop 4) 0 5 _ (by decide +kernel) (by decide +kernel)

end Fencing

end Raiko2.Queue
