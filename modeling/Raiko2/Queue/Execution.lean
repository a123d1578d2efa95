import Raiko2.Queue.Fencing

/-!
# Runs of the queue

The invariant of the store and of the leases handed out, over every interleaving of the steps of any number of
clients.
-/

namespace Raiko2.Queue

open Lib List Table

variable {P O Id : Type}

section Tokens

structure TokenInv (s : System P O Id) : Prop where
  callUsed : ∀ call c, s.calls.lookup call = some c → c.leaseToken ∈ s.usedTokens
  callFresh : ∀ call c, s.calls.lookup call = some c → ∀ lease ∈ s.granted, lease.leaseToken ≠ c.leaseToken
  callDistinct : ∀ call c call' c', s.calls.lookup call = some c → s.calls.lookup call' = some c' →
    c.leaseToken = c'.leaseToken → call = call'
  grantedUsed : ∀ lease ∈ s.granted, lease.leaseToken ∈ s.usedTokens
  grantedNodup : (s.granted.map (·.leaseToken)).Nodup

variable {s : System P O Id} {call : Nat} {c c' : NextReadyCall Id} {store : Inner P O Id}

theorem TokenInv.congr (h : TokenInv s) {s' : System P O Id} (hCalls : s'.calls = s.calls)
    (hUsed : s'.usedTokens = s.usedTokens) (hGranted : s'.granted = s.granted) : TokenInv s' := by
  obtain ⟨store, calls, usedTokens, granted, completed⟩ := s'
  subst hCalls hUsed hGranted
  exact ⟨h.callUsed, h.callFresh, h.callDistinct, h.grantedUsed, h.grantedNodup⟩

theorem TokenInv.newToken (h : TokenInv s) (hFresh : c.leaseToken ∉ s.usedTokens) :
    TokenInv { s with
      store, calls := s.calls.insert call c, usedTokens := c.leaseToken :: s.usedTokens } where
  callUsed := by
    intro other d hOther
    rcases lookup_insert_eq_some.mp hOther with ⟨_, rfl⟩ | ⟨_, hOther⟩
    · exact mem_cons_self
    · exact mem_cons_of_mem _ (h.callUsed other d hOther)
  callFresh := by
    intro other d hOther lease hLease
    rcases lookup_insert_eq_some.mp hOther with ⟨_, rfl⟩ | ⟨_, hOther⟩
    · exact fun hEq => hFresh (hEq ▸ h.grantedUsed lease hLease)
    · exact h.callFresh other d hOther lease hLease
  callDistinct := by
    intro first d second d' hFirst hSecond hEq
    rcases lookup_insert_eq_some.mp hFirst with ⟨rfl, rfl⟩ | ⟨_, hOld⟩ <;>
      rcases lookup_insert_eq_some.mp hSecond with ⟨rfl, rfl⟩ | ⟨_, hOld'⟩
    · rfl
    · exact absurd (hEq ▸ h.callUsed second d' hOld') hFresh
    · exact absurd (hEq ▸ h.callUsed first d hOld) hFresh
    · exact h.callDistinct first d second d' hOld hOld' hEq
  grantedUsed := fun lease hLease => mem_cons_of_mem _ (h.grantedUsed lease hLease)
  grantedNodup := h.grantedNodup

theorem TokenInv.sameToken (h : TokenInv s) (hCall : s.calls.lookup call = some c)
    (hToken : c'.leaseToken = c.leaseToken) : TokenInv { s with store, calls := s.calls.insert call c' } := by
  have hBefore : ∀ other d, (s.calls.insert call c').lookup other = some d →
      ∃ d', s.calls.lookup other = some d' ∧ d.leaseToken = d'.leaseToken := by
    intro other d hOther
    rcases lookup_insert_eq_some.mp hOther with ⟨rfl, rfl⟩ | ⟨_, hOther⟩
    · exact ⟨c, hCall, hToken⟩
    · exact ⟨d, hOther, rfl⟩
  constructor
  · intro other d hOther
    obtain ⟨d', hOld, hEq⟩ := hBefore other d hOther
    rw [hEq]
    exact h.callUsed other d' hOld
  · intro other d hOther
    obtain ⟨d', hOld, hEq⟩ := hBefore other d hOther
    rw [hEq]
    exact h.callFresh other d' hOld
  · intro first d second d' hFirst hSecond hEq
    obtain ⟨e, hFirst, he⟩ := hBefore first d hFirst
    obtain ⟨e', hSecond, he'⟩ := hBefore second d' hSecond
    exact h.callDistinct first e second e' hFirst hSecond (by rw [← he, ← he', hEq])
  · exact h.grantedUsed
  · exact h.grantedNodup

theorem TokenInv.endCall (h : TokenInv s) (call : Nat) (store : Inner P O Id) :
    TokenInv { s with store, calls := s.calls.erase call } := by
  have hBefore : ∀ other d, (s.calls.erase call).lookup other = some d → s.calls.lookup other = some d :=
    fun other d hOther => (lookup_erase_eq_some.mp hOther).2
  exact ⟨fun other d hd => h.callUsed other d (hBefore other d hd),
    fun other d hd => h.callFresh other d (hBefore other d hd),
    fun first d second d' hd hd' => h.callDistinct first d second d' (hBefore first d hd) (hBefore second d' hd'),
    h.grantedUsed, h.grantedNodup⟩

theorem TokenInv.grant (h : TokenInv s) (hCall : s.calls.lookup call = some c) {lease : TaskLease P Id}
    (hToken : lease.leaseToken = c.leaseToken) :
    TokenInv { s with store, calls := s.calls.erase call, granted := lease :: s.granted } := by
  have hEnd := h.endCall call store
  refine ⟨hEnd.callUsed, ?_, hEnd.callDistinct, ?_, ?_⟩
  · intro other d hOther granted hGranted
    rcases mem_cons.mp hGranted with rfl | hGranted
    · intro hEq
      obtain ⟨hNe, hOther⟩ := lookup_erase_eq_some.mp hOther
      exact hNe (h.callDistinct other d call c hOther hCall (by rw [← hEq, hToken]))
    · exact hEnd.callFresh other d hOther granted hGranted
  · intro granted hGranted
    rcases mem_cons.mp hGranted with rfl | hGranted
    · rw [hToken]
      exact h.callUsed call c hCall
    · exact h.grantedUsed granted hGranted
  · rw [map_cons, nodup_cons]
    refine ⟨fun hMem => ?_, h.grantedNodup⟩
    obtain ⟨granted, hGranted, hEq⟩ := mem_map.mp hMem
    exact h.callFresh call c hCall granted hGranted (hEq.trans hToken)

theorem TokenInv.eq_of_token (h : TokenInv s) {lease lease' : TaskLease P Id} (hLease : lease ∈ s.granted)
    (hLease' : lease' ∈ s.granted) (hToken : lease.leaseToken = lease'.leaseToken) : lease = lease' :=
  inj_on_of_nodup_map h.grantedNodup hLease hLease' hToken

theorem System.Popped.move {y : Id} (h : s.Popped y) (s' : System P O Id) (call : Nat)
    (hOthers : ∀ other, other ≠ call → s'.calls.lookup other = s.calls.lookup other) :
    s'.Popped y ∨ ∃ c, s.calls.lookup call = some c ∧ c.popped = some y := by
  obtain ⟨other, c, hCall, hPopped⟩ := h
  by_cases hOther : other = call
  · exact Or.inr ⟨c, hOther ▸ hCall, hPopped⟩
  · exact Or.inl ⟨other, c, (hOthers other hOther).trans hCall, hPopped⟩

end Tokens

variable [DecidableEq Id]

section Leases

def System.lastLease (s : System P O Id) (id : Id) : Option (TaskLease P Id) := s.granted.find? (·.id = id)

/-- A task runs under the lease handed out last for it; if it has succeeded, that lease was completed with its
output; and a lease that was completed is over. -/
structure RunInv (s : System P O Id) : Prop where
  running : ∀ x record leaseToken attempt, s.store.tasks.lookup x = some record →
    record.state = .running leaseToken attempt → ∃ lease, s.lastLease x = some lease ∧
      lease.leaseToken = leaseToken ∧ lease.attempt = attempt ∧ lease.priority = record.priority
  succeeded : ∀ x record output, s.store.tasks.lookup x = some record → record.state = .succeeded output →
    ∃ lease entry, s.lastLease x = some lease ∧ entry ∈ s.completed ∧ entry.1.SameGrant lease ∧ entry.2 = .ok output
  completedNodup : (s.completed.map (·.1.leaseToken)).Nodup
  completedGranted : ∀ entry ∈ s.completed, ∃ lease ∈ s.granted, entry.1.SameGrant lease
  completedOver : ∀ entry ∈ s.completed,
    runningLeaseMatches s.store entry.1.id entry.1.leaseToken entry.1.attempt = false

variable {s : System P O Id} {store : Inner P O Id}

theorem RunInv.of_keepsRuns (h : RunInv s) (k : KeepsRuns s.store store) : RunInv { s with store } where
  running := by
    intro x after leaseToken attempt hAfter hState
    rcases k x after hAfter with hIdle | ⟨before, hBefore, hSame, hPriority⟩
    · rw [hState] at hIdle
      cases hIdle
    · rw [← hPriority]
      exact h.running x before leaseToken attempt hBefore (hSame.trans hState)
  succeeded := by
    intro x after output hAfter hState
    rcases k x after hAfter with hIdle | ⟨before, hBefore, hSame, _⟩
    · rw [hState] at hIdle
      cases hIdle
    · exact h.succeeded x before output hBefore (hSame.trans hState)
  completedNodup := h.completedNodup
  completedGranted := h.completedGranted
  completedOver := fun entry hEntry => k.not_running (h.completedOver entry hEntry)

theorem RunInv.withCalls (h : RunInv s) (calls : Table Nat (NextReadyCall Id)) (usedTokens : List String) :
    RunInv { s with calls, usedTokens } :=
  ⟨h.running, h.succeeded, h.completedNodup, h.completedGranted, h.completedOver⟩

variable {lease : TaskLease P Id}

theorem lastLease_mem {x : Id} (h : s.lastLease x = some lease) :
    lease ∈ s.granted ∧ lease.id = x :=
  ⟨mem_of_find?_eq_some h, by simpa using find?_some h⟩

theorem lastLease_cons {s' : System P O Id} (hGranted : s'.granted = lease :: s.granted) (x : Id) :
    s'.lastLease x = if lease.id = x then some lease else s.lastLease x := by
  rw [System.lastLease, hGranted, find?_cons, System.lastLease]
  by_cases h : lease.id = x <;> simp [h]

theorem RunInv.of_matches (h : RunInv s) (hTokens : TokenInv s)
    (hGranted : ∃ granted ∈ s.granted, lease.SameGrant granted) {record : TaskRecord P O Id}
    (hRecord : s.store.tasks.lookup lease.id = some record)
    (hState : record.state = .running lease.leaseToken lease.attempt) :
    record.priority = lease.priority ∧ ∃ last, s.lastLease lease.id = some last ∧ lease.SameGrant last := by
  obtain ⟨granted, hMem, hSame⟩ := hGranted
  obtain ⟨last, hLast, hToken, _, hPriority⟩ := h.running lease.id record _ _ hRecord hState
  obtain rfl : last = granted :=
    hTokens.eq_of_token (lastLease_mem hLast).1 hMem (hToken.trans hSame.2.1)
  exact ⟨hPriority.symm.trans hSame.2.2.2.symm, last, hLast, hSame⟩

theorem Completion.not_running {s s' : Inner P O Id} {id x : Id} {result : Except String O} {leaseToken : String}
    {attempt : UInt32} (c : Completion s s' id result)
    (h : x = id ∨ runningLeaseMatches s x leaseToken attempt = false) :
    runningLeaseMatches s' x leaseToken attempt = false := by
  rw [← Bool.not_eq_true]
  intro hMatch
  obtain ⟨after, hAfter, hState⟩ := runningLeaseMatches_iff.mp hMatch
  by_cases hx : x = id
  · subst hx
    rcases c.self after hAfter with hIdle | ⟨output, _, hDone⟩
    · rw [hState] at hIdle
      cases hIdle
    · rw [hState] at hDone
      cases hDone
  · rcases c.others x after hx hAfter with hIdle | ⟨before, hBefore, hSame, _⟩
    · rw [hState] at hIdle
      cases hIdle
    · have hRunning := runningLeaseMatches_iff.mpr ⟨before, hBefore, hSame.trans hState⟩
      rw [h.resolve_left hx] at hRunning
      cases hRunning

theorem RunInv.complete (h : RunInv s) (hTokens : TokenInv s) {result : Except String O}
    (hGranted : ∃ granted ∈ s.granted, lease.SameGrant granted)
    (hMatch : runningLeaseMatches s.store lease.id lease.leaseToken lease.attempt = true)
    (c : Completion s.store store lease.id result) :
    RunInv { s with store, completed := (lease, result) :: s.completed } := by
  obtain ⟨record, hRecord, hState⟩ := runningLeaseMatches_iff.mp hMatch
  obtain ⟨_, last, hLast, hSame⟩ := h.of_matches hTokens hGranted hRecord hState
  constructor
  · intro x after leaseToken attempt hAfter hRunning
    by_cases hx : x = lease.id
    · have hNot : runningLeaseMatches store x leaseToken attempt = false := c.not_running (Or.inl hx)
      rw [runningLeaseMatches_iff.mpr ⟨after, hAfter, hRunning⟩] at hNot
      cases hNot
    · rcases c.others x after hx hAfter with hIdle | ⟨before, hBefore, hKept, hPriority⟩
      · rw [hRunning] at hIdle
        cases hIdle
      · rw [← hPriority]
        exact h.running x before leaseToken attempt hBefore (hKept.trans hRunning)
  · intro x after output hAfter hDone
    by_cases hx : x = lease.id
    · subst hx
      rcases c.self after hAfter with hIdle | ⟨output', hResult, hDone'⟩
      · rw [hDone] at hIdle
        cases hIdle
      · cases hDone.symm.trans hDone'
        exact ⟨last, (lease, result), hLast, mem_cons_self, hSame, hResult⟩
    · rcases c.others x after hx hAfter with hIdle | ⟨before, hBefore, hKept, _⟩
      · rw [hDone] at hIdle
        cases hIdle
      · obtain ⟨last, entry, hLast, hEntry, hRest⟩ := h.succeeded x before output hBefore (hKept.trans hDone)
        exact ⟨last, entry, hLast, mem_cons_of_mem _ hEntry, hRest⟩
  · rw [map_cons, nodup_cons]
    refine ⟨fun hMem => ?_, h.completedNodup⟩
    -- an earlier completion under the same token was of the same lease, which does not run any more
    obtain ⟨entry, hEntry, hToken⟩ := mem_map.mp hMem
    obtain ⟨granted, hMem', hSame'⟩ := h.completedGranted entry hEntry
    obtain rfl : granted = last :=
      hTokens.eq_of_token hMem' (lastLease_mem hLast).1 (by rw [← hSame'.2.1, hToken, hSame.2.1])
    have hOver := h.completedOver entry hEntry
    rw [hSame'.1, hSame'.2.1, hSame'.2.2.1, ← hSame.1, ← hSame.2.1, ← hSame.2.2.1, hMatch] at hOver
    cases hOver
  · intro entry hEntry
    rcases mem_cons.mp hEntry with rfl | hEntry
    · exact ⟨last, (lastLease_mem hLast).1, hSame⟩
    · exact h.completedGranted entry hEntry
  · intro entry hEntry
    rcases mem_cons.mp hEntry with rfl | hEntry
    · exact c.not_running (Or.inl rfl)
    · exact c.not_running (Or.inr (h.completedOver entry hEntry))

variable {record : TaskRecord P O Id} {id x : Id} {leaseToken token : String} {attempt attempt' : UInt32} {storeLease : Nat}
  {sequence nextSequence nowMs : UInt64}

theorem not_running_leased {s : Inner P O Id} (hToken : token ≠ leaseToken)
    (hNot : runningLeaseMatches s x token attempt' = false) :
    runningLeaseMatches
      { s with nextSequence, tasks := s.tasks.insert id (record.leased storeLease leaseToken attempt sequence nowMs) }
      x token attempt' = false := by
  rw [← Bool.not_eq_true]
  intro hMatch
  obtain ⟨after, hAfter, hState⟩ := runningLeaseMatches_iff.mp hMatch
  rcases lookup_insert_eq_some.mp hAfter with ⟨_, rfl⟩ | ⟨_, hAfter⟩
  · cases hState
    exact hToken rfl
  · have hRunning := runningLeaseMatches_iff.mpr ⟨after, hAfter, hState⟩
    rw [hNot] at hRunning
    cases hRunning

theorem RunInv.grant (h : RunInv s) {worker : String} {payload : P}
    (hFresh : ∀ lease ∈ s.granted, lease.leaseToken ≠ leaseToken) (calls : Table Nat (NextReadyCall Id)) :
    RunInv { s with
      store := { s.store with
        nextSequence
        tasks := s.store.tasks.insert id (record.leased storeLease leaseToken attempt sequence nowMs) }
      calls
      granted := ⟨id, payload, record.priority, attempt, leaseToken, worker, record.executionPolicy⟩ :: s.granted } := by
  constructor
  · intro x after token attempt' hAfter hState
    rw [lastLease_cons rfl]
    rcases lookup_insert_eq_some.mp hAfter with ⟨rfl, rfl⟩ | ⟨hx, hAfter⟩
    · cases hState
      exact ⟨_, if_pos rfl, rfl, rfl, rfl⟩
    · obtain ⟨last, hLast, hRest⟩ := h.running x after token attempt' hAfter hState
      exact ⟨last, (if_neg (Ne.symm hx)).trans hLast, hRest⟩
  · intro x after output hAfter hState
    rw [lastLease_cons rfl]
    rcases lookup_insert_eq_some.mp hAfter with ⟨rfl, rfl⟩ | ⟨hx, hAfter⟩
    · cases hState
    · obtain ⟨last, entry, hLast, hRest⟩ := h.succeeded x after output hAfter hState
      exact ⟨last, entry, (if_neg (Ne.symm hx)).trans hLast, hRest⟩
  · exact h.completedNodup
  · intro entry hEntry
    obtain ⟨granted, hMem, hSame⟩ := h.completedGranted entry hEntry
    exact ⟨granted, mem_cons_of_mem _ hMem, hSame⟩
  · intro entry hEntry
    obtain ⟨granted, hMem, hSame⟩ := h.completedGranted entry hEntry
    exact not_running_leased (hSame.2.1 ▸ hFresh granted hMem) (h.completedOver entry hEntry)

end Leases

section Steps

variable {s : System P O Id}

structure SystemInv (s : System P O Id) : Prop where
  store : StoreInv s.store s.Popped fun _ => False
  tokens : TokenInv s
  runs : RunInv s

theorem systemInv_init : SystemInv ({} : System P O Id) where
  store := by
    have hGraph : GraphInv ({} : Inner P O Id) := by
      refine ⟨?_, ?_, ?_, fun _ => nodup_nil, ?_, ?_⟩
      · rintro x record ⟨⟩
      · rintro x record ⟨⟩
      · rintro x d ⟨⟩
      · rintro owner x ⟨⟩
      · intro owner x
        constructor
        · rintro ⟨⟩
        · rintro ⟨graph, ⟨⟩, _⟩
    refine ⟨hGraph, ?_⟩
    rintro x record ⟨⟩
  tokens := by
    refine ⟨?_, ?_, ?_, nofun, nodup_nil⟩
    · rintro call c ⟨⟩
    · rintro call c ⟨⟩
    · rintro call c call' c' ⟨⟩
  runs := by
    refine ⟨?_, ?_, nodup_nil, nofun, nofun⟩
    · rintro x record leaseToken attempt ⟨⟩
    · rintro x record output ⟨⟩

theorem SystemInv.withStore (h : SystemInv s) {store : Inner P O Id}
    (hStore : StoreInv store s.Popped fun _ => False) (k : KeepsRuns s.store store) : SystemInv { s with store } :=
  ⟨hStore, h.tokens.congr rfl rfl rfl, h.runs.of_keepsRuns k⟩

theorem StoreInv.mono {store : Inner P O Id} {popped popped' exempt : Id → Prop} (h : StoreInv store popped exempt)
    (hPopped : ∀ y, popped y → popped' y) : StoreInv store popped' exempt :=
  h.reframe rfl rfl rfl rfl rfl (fun y _ _ _ => Or.imp_right (hPopped y)) fun _ _ _ _ _ _ _ h => h

theorem SystemInv.startNextReady (h : SystemInv s) {call : Nat} {worker uuid : String}
    (hCall : s.calls.lookup call = none) (hFresh : formatLeaseToken worker uuid ∉ s.usedTokens) :
    SystemInv (s.startNextReady call worker uuid) := by
  refine ⟨h.store.mono fun y hy => ?_, h.tokens.newToken hFresh, h.runs.withCalls _ _⟩
  rcases hy.move (s.startNextReady call worker uuid) call
    (fun other hOther => lookup_insert_ite.trans (if_neg hOther)) with hy | ⟨c, hc, _⟩
  · exact hy
  · rw [hCall] at hc
    cases hc

theorem SystemInv.popStep (h : SystemInv s) {call : Nat} {c : NextReadyCall Id} {uuid : String}
    (hCall : s.calls.lookup call = some c) (hPopped : c.popped = none)
    (hFresh : formatLeaseToken c.worker uuid ∉ s.usedTokens) : SystemInv (s.popStep call c uuid) := by
  have hMove : ∀ s' : System P O Id, (∀ other, other ≠ call → s'.calls.lookup other = s.calls.lookup other) →
      ∀ y, s.Popped y → s'.Popped y := by
    intro s' hOthers y hy
    rcases hy.move s' call hOthers with hy | ⟨c', hc', hPopped'⟩
    · exact hy
    · cases hCall.symm.trans hc'
      rw [hPopped] at hPopped'
      cases hPopped'
  rw [System.popStep]
  rcases popReady_cases s.store c.priority with ⟨_, hPop⟩ | ⟨id, rest, hQueue, hPop⟩
  · rw [hPop]
    dsimp only
    split
    · exact ⟨h.store.mono (hMove _ fun other hOther => lookup_erase_ite.trans (if_neg hOther)),
        h.tokens.endCall call _, h.runs.withCalls _ _⟩
    · exact ⟨h.store.mono (hMove _ fun other hOther => lookup_insert_ite.trans (if_neg hOther)),
        h.tokens.newToken hFresh, h.runs.withCalls _ _⟩
  · rw [hPop]
    refine ⟨(h.store.popReady hQueue).mono ?_, h.tokens.sameToken hCall rfl, ?_⟩
    · rintro y (hy | rfl)
      · exact hMove _ (fun other hOther => lookup_insert_ite.trans (if_neg hOther)) y hy
      · exact ⟨call, _, lookup_insert_ite.trans (if_pos rfl), rfl⟩
    · exact (h.runs.of_keepsRuns (.of_tasks_eq (Inner.tasks_setQueue _ _ _))).withCalls _ _

theorem SystemInv.takeStep (h : SystemInv s) {call : Nat} {c : NextReadyCall Id} {id : Id} (storeLease : Nat)
    (nowMs : UInt64) (hCall : s.calls.lookup call = some c) (hPopped : c.popped = some id) :
    SystemInv (System.takeStep storeLease s call c id nowMs) := by
  have hStore : ∀ s' : System P O Id, (∀ other, other ≠ call → s'.calls.lookup other = s.calls.lookup other) →
      StoreInv (takeReadyLocked s.store storeLease id c.leaseToken nowMs).2 s'.Popped fun _ => False := by
    intro s' hOthers
    refine h.store.takeReady storeLease c.leaseToken nowMs fun y hy => ?_
    rcases hy.move s' call hOthers with hy | ⟨c', hc', hPopped'⟩
    · exact Or.inl hy
    · cases hCall.symm.trans hc'
      exact Or.inr (Option.some.inj (hPopped'.symm.trans hPopped))
  rw [System.takeStep]
  rcases takeReadyLocked_cases s.store id storeLease c.leaseToken nowMs with
    ⟨hTake, _⟩ | ⟨record, payload, attempt, sequence, _, _, _, hTake⟩
  · rw [hTake] at hStore ⊢
    exact ⟨hStore _ fun other hOther => lookup_insert_ite.trans (if_neg hOther),
      h.tokens.sameToken hCall rfl, h.runs.withCalls _ _⟩
  · rw [hTake] at hStore ⊢
    exact ⟨hStore _ fun other hOther => lookup_erase_ite.trans (if_neg hOther),
      h.tokens.grant hCall rfl, h.runs.grant (h.tokens.callFresh call c hCall) _⟩

variable [ReadyQueueSort Id]

theorem SystemInv.storeInv_complete (h : SystemInv s) {lease : TaskLease P Id}
    (hGranted : ∃ granted ∈ s.granted, lease.SameGrant granted) (result : Except String O) (nowMs : UInt64) :
    StoreInv (completeWithDisposition s.store lease result nowMs).1 s.Popped fun _ => False := by
  obtain ⟨store, disposition, hEq, hDone⟩ := completeWithDisposition_completes s.store lease result nowMs
  rw [hEq]
  refine h.store.complete (fun record hRecord hState => ?_) hDone
  exact (h.runs.of_matches h.tokens hGranted hRecord hState).1

theorem SystemInv.completeStep (h : SystemInv s) {lease : TaskLease P Id}
    (hGranted : ∃ granted ∈ s.granted, lease.SameGrant granted) (result : Except String O) (nowMs : UInt64) :
    SystemInv (s.completeStep lease result nowMs) := by
  have hStore := h.storeInv_complete hGranted result nowMs
  rw [System.completeStep]
  rcases completeWithDisposition_cases s.store lease result nowMs with ⟨_, hEq⟩ | ⟨hMatch, hStale, hDone⟩
  · rw [hEq]
    exact h
  · rcases hEq : completeWithDisposition s.store lease result nowMs with ⟨store, disposition⟩
    rw [hEq] at hStore hStale hDone
    dsimp only at hStore hStale hDone
    have hNext : SystemInv { s with store, completed := (lease, result) :: s.completed } :=
      ⟨hStore, h.tokens.congr rfl rfl rfl, h.runs.complete h.tokens hGranted hMatch hDone⟩
    cases disposition with
    | stale => exact absurd rfl hStale
    | succeeded => exact hNext
    | retrying => exact hNext
    | failed => exact hNext

/-- Every step of every client keeps the invariant. -/
theorem SystemInv.step [BEq P] (h : SystemInv s) (storeLease : Nat) (event : Event P O Id)
    (hAllowed : s.Allowed event) : SystemInv (System.step storeLease s event) := by
  cases event with
  | attach owner nodes =>
    rw [System.step]
    rcases h.store.attachGraph owner nodes with ⟨e, hEq⟩ | ⟨store, outcome, hEq, hStore⟩
    · rw [hEq]
      exact h
    · rw [hEq]
      exact h.withStore hStore (keepsRuns_attachGraph hEq)
  | detach owner mode =>
    obtain ⟨store, outcome, hEq, hStore, _⟩ := h.store.detachOwner owner mode
    rw [System.step, hEq]
    exact h.withStore hStore ((evolves_detachOwner hEq).keepsRuns)
  | startNextReady call worker uuid => exact h.startNextReady hAllowed.1 hAllowed.2
  | popReady call uuid =>
    obtain ⟨c, hCall, hc⟩ := (Option.any_eq_true _ _).mp hAllowed
    obtain ⟨hPopped, hFresh⟩ : c.popped = none ∧ formatLeaseToken c.worker uuid ∉ s.usedTokens := by simpa using hc
    simp only [System.step, hCall]
    exact h.popStep hCall hPopped hFresh
  | takeReady call nowMs =>
    obtain ⟨c, hCall, hc⟩ := (Option.any_eq_true _ _).mp hAllowed
    obtain ⟨id, hPopped⟩ := Option.isSome_iff_exists.mp hc
    simp only [System.step, hCall, hPopped]
    exact h.takeStep storeLease nowMs hCall hPopped
  | complete lease result nowMs => exact h.completeStep hAllowed result nowMs
  | checkpoint lease payload policy =>
    exact h.withStore (h.store.checkpoint payload policy) (leaseCall_checkpointPayload s.store lease payload policy).keeps
  | renew lease nowMs =>
    exact h.withStore (h.store.renew storeLease nowMs) (leaseCall_renewTaskLease s.store storeLease lease nowMs).keeps
  | promote nowMs => exact h.withStore (h.store.promoteScheduled nowMs _) evolves_promoteScheduled.keepsRuns
  | requeue nowMs order =>
    exact h.withStore (h.store.requeueExpiredLeases order nowMs _) (evolves_requeueExpiredLeases order nowMs _).keepsRuns

theorem systemInv_of_run [BEq P] {storeLease : Nat} {events : List (Event P O Id)}
    (hRun : Run System.Allowed (System.step storeLease) {} events) :
    SystemInv (events.foldl (System.step storeLease) {}) :=
  hRun.foldl_invariant systemInv_init fun _ event _ hAllowed h => h.step storeLease event hAllowed

end Steps

end Raiko2.Queue
