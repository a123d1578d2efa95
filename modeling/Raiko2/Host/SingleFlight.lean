import Mathlib.Logic.Function.Basic
import Raiko2.Lib.Notify
import Raiko2.Lib.Run

/-!
# One flight for each key

Callers that ask for the same key at the same time share one run of the operation: the first becomes the leader, the
others follow its flight. The callers take their steps in any order, and each may be dropped where it waits. The
leader's destructor closes the flight of a dropped leader in the same three steps as the end of the operation does.
-/

namespace Raiko2.Host

open Lib Function Option

inductive FlightState (V : Type) where
  | running
  | succeeded (value : V)
  | failed (message : String)
  | cancelled
  deriving DecidableEq

structure Flight (V : Type) where
  state : FlightState V := .running
  notify : Notify Nat := {}

/-- Where a call of `run_observed` stands. An outcome is that of the operation, or none if the leader was dropped. -/
inductive FlightPhase (V E : Type) where
  | electing
  | operating
  | settling (outcome : Option (Except E V))
  | removing (outcome : Option (Except E V))
  | notifying (outcome : Option (Except E V))
  | led (outcome : Option (Except E V))
  | joined (flight : Nat)
  | created (flight seen : Nat)
  | enabled (flight : Nat)
  | waiting (flight : Nat)
  | followed (result : Except E V) (flight : Nat)
  | dropped
  deriving DecidableEq

namespace FlightPhase

variable {V E : Type}

def isOver : FlightPhase V E → Bool
  | led _ | followed _ _ | dropped => true
  | _ => false

def holds : FlightPhase V E → Bool
  | operating | settling _ | removing _ => true
  | _ => false

def isUnnotified : FlightPhase V E → Bool
  | operating | settling _ | removing _ | notifying _ => true
  | _ => false

def follows : FlightPhase V E → Option Nat
  | joined flight | created flight _ | enabled flight | waiting flight | followed _ flight => some flight
  | _ => none

def outcome : FlightPhase V E → Option (Option (Except E V))
  | settling outcome | removing outcome | notifying outcome | led outcome => some outcome
  | _ => none

end FlightPhase

/-- The times at which a call began and ended are kept for the statements only. -/
structure FlightCall (K V E : Type) where
  key : K
  phase : FlightPhase V E := .electing
  began : Nat
  ended : Option Nat := none

def FlightCall.moved {K V E : Type} (call : FlightCall K V E) (phase : FlightPhase V E) (clock : Nat) : FlightCall K V E :=
  { call with phase := phase, ended := if phase.isOver then some clock else none }

/-- A flight is named by the call that made it: a call leads at most once. -/
structure SingleFlight (K V E : Type) where
  flights : K → Option Nat := fun _ => none
  heap : Nat → Flight V := fun _ => {}
  calls : Nat → Option (FlightCall K V E) := fun _ => none
  clock : Nat := 0

inductive FlightEvent (K V E : Type) where
  | start (id : Nat) (key : K)
  | advance (id : Nat)
  | complete (id : Nat) (result : Except E V)
  | drop (id : Nat)

section Steps

variable {K V E : Type} [DecidableEq K] (display : E → String) (sharedError : Nat → String → E)

/-- `finish` and the destructor. -/
def FlightState.ofOutcome : Option (Except E V) → FlightState V
  | none => .cancelled
  | some (.ok value) => .succeeded value
  | some (.error error) => .failed (display error)

namespace SingleFlight

variable (s : SingleFlight K V E) (id : Nat) (call : FlightCall K V E)

def setHeap (flight : Nat) (value : Flight V) : SingleFlight K V E :=
  { s with heap := update s.heap flight value }

def move (phase : FlightPhase V E) : SingleFlight K V E :=
  { s with calls := update s.calls id (some (call.moved phase s.clock)), clock := s.clock + 1 }

/-- The `Notified` of a follower is dropped. -/
def leave (flight : Nat) : SingleFlight K V E :=
  s.setHeap flight { s.heap flight with notify := (s.heap flight).notify.forget id }

/-- The next step of a call, if it does not wait for its operation or for a notification. -/
def advance : Option (SingleFlight K V E) :=
  match call.phase with
  | .electing =>
    match s.flights call.key with
    | some flight => some (s.move id call (.joined flight))
    | none =>
      some { (s.setHeap id {}).move id call .operating with flights := update s.flights call.key (some id) }
  | .settling outcome =>
    some ((s.setHeap id { s.heap id with state := .ofOutcome display outcome }).move id call (.removing outcome))
  | .removing outcome =>
    some { s.move id call (.notifying outcome) with
      flights := if s.flights call.key = some id then update s.flights call.key none else s.flights }
  | .notifying outcome =>
    some ((s.setHeap id { s.heap id with notify := (s.heap id).notify.notifyWaiters }).move id call (.led outcome))
  | .joined flight => some (s.move id call (.created flight (s.heap flight).notify.broadcasts))
  | .created flight seen =>
    some ((s.setHeap flight { s.heap flight with notify := ((s.heap flight).notify.poll id seen).2 }).move id call
      (.enabled flight))
  | .enabled flight =>
    match (s.heap flight).state with
    | .running => some (s.move id call (.waiting flight))
    | .succeeded value => some ((s.leave id flight).move id call (.followed (.ok value) flight))
    | .failed message =>
      some ((s.leave id flight).move id call (.followed (.error (sharedError id message)) flight))
    | .cancelled => some ((s.leave id flight).move id call .electing)
  | .waiting flight =>
    if id ∈ (s.heap flight).notify.waiting then none else some (s.move id call (.joined flight))
  | .operating | .led _ | .followed _ _ | .dropped => none

def drop : Option (SingleFlight K V E) :=
  match call.phase with
  | .electing => some (s.move id call .dropped)
  | .operating => some (s.move id call (.settling none))
  | .waiting flight => some ((s.leave id flight).move id call .dropped)
  | _ => none

def next : FlightEvent K V E → Option (SingleFlight K V E)
  | .start id key =>
    match s.calls id with
    | some _ => none
    | none =>
      some { s with calls := update s.calls id (some { key, began := s.clock }), clock := s.clock + 1 }
  | .advance id => (s.calls id).bind (s.advance display sharedError id)
  | .complete id result =>
    (s.calls id).bind fun call =>
      match call.phase with
      | .operating => some (s.move id call (.settling (some result)))
      | _ => none
  | .drop id => (s.calls id).bind (s.drop id)

def Allowed (event : FlightEvent K V E) : Prop := (s.next display sharedError event).isSome = true

instance (event : FlightEvent K V E) : Decidable (s.Allowed display sharedError event) :=
  inferInstanceAs (Decidable (_ = true))

def step (event : FlightEvent K V E) : SingleFlight K V E := (s.next display sharedError event).getD s

end SingleFlight

end Steps

section Meaning

variable {K V E : Type} (display : E → String) (sharedError : Nat → String → E)

def FlightPhase.flightState : FlightPhase V E → Option (FlightState V)
  | .operating | .settling _ => some .running
  | .removing outcome | .notifying outcome | .led outcome => some (.ofOutcome display outcome)
  | _ => none

def shareOutcome (id : Nat) : Except E V → Except E V
  | .ok value => .ok value
  | .error error => .error (sharedError id (display error))

def FlightCall.LiveAt (call : FlightCall K V E) (time : Nat) : Prop :=
  call.began ≤ time ∧ ∀ ended, call.ended = some ended → time < ended

def FlightCall.Overlaps (a b : FlightCall K V E) : Prop := ∃ time, a.LiveAt time ∧ b.LiveAt time

structure SingleFlight.Inv (s : SingleFlight K V E) : Prop where
  flights : ∀ key id, s.flights key = some id ↔
    ∃ call, s.calls id = some call ∧ call.key = key ∧ call.phase.holds = true
  times : ∀ id call, s.calls id = some call → call.began ≤ s.clock ∧ (call.phase.isOver = false → call.ended = none)
  state : ∀ id call state, s.calls id = some call → call.phase.flightState display = some state →
    (s.heap id).state = state
  follower : ∀ id call flight, s.calls id = some call → call.phase.follows = some flight →
    ∃ leader, s.calls flight = some leader ∧ leader.key = call.key ∧
      (leader.phase.flightState display).isSome = true ∧ ∃ time < s.clock, leader.LiveAt time ∧ call.LiveAt time
  shared : ∀ id call result flight, s.calls id = some call → call.phase = .followed result flight →
    ∃ leader outcome, s.calls flight = some leader ∧ leader.phase.outcome = some (some outcome) ∧
      result = shareOutcome display sharedError id outcome
  parked : ∀ id call flight, s.calls id = some call → call.phase = .waiting flight →
    id ∈ (s.heap flight).notify.waiting → ∃ leader, s.calls flight = some leader ∧ leader.phase.isUnnotified = true

variable [DecidableEq K]

structure SingleFlight.Sound (s : SingleFlight K V E) : Prop where
  /-- One operation for each key. -/
  operations : ∀ a b callA callB, s.calls a = some callA → s.calls b = some callB → callA.phase = .operating →
    callB.phase = .operating → callA.key = callB.key → a = b
  flights : ∀ key id, s.flights key = some id ↔
    ∃ call, s.calls id = some call ∧ call.key = key ∧ call.phase.holds = true
  shared : ∀ id call result flight, s.calls id = some call → call.phase = .followed result flight →
    ∃ leader outcome, s.calls flight = some leader ∧ leader.key = call.key ∧ leader.Overlaps call ∧
      leader.phase.outcome = some (some outcome) ∧ result = shareOutcome display sharedError id outcome
  /-- Whoever looks at the flight of a dropped leader elects again. -/
  cancelled : ∀ id call flight leader, s.calls id = some call → s.calls flight = some leader →
    leader.phase.outcome = some none → (∀ result, call.phase ≠ .followed result flight) ∧
      (call.phase = .enabled flight → leader.phase ≠ .settling none → ∃ s' call',
        s.advance display sharedError id call = some s' ∧ s'.calls id = some call' ∧ call'.phase = .electing)
  parked : ∀ id call flight leader, s.calls id = some call → call.phase = .waiting flight →
    id ∈ (s.heap flight).notify.waiting → s.calls flight = some leader → (s.heap flight).state ≠ .running →
    leader.phase.isUnnotified = true

end Meaning

section Keeping

variable {K V E : Type} {display : E → String} {sharedError : Nat → String → E}
  {s s' : SingleFlight K V E} {id : Nat} {call : FlightCall K V E} {phase : FlightPhase V E}

theorem FlightPhase.outcome_of_succeeded {value : V} (h : phase.flightState display = some (.succeeded value)) :
    phase.outcome = some (some (.ok value)) := by
  cases phase <;> simp only [flightState, some.injEq, reduceCtorEq] at h
  all_goals
    rename_i outcome
    rcases outcome with _ | _ | _ <;> simp_all [FlightState.ofOutcome, FlightPhase.outcome]

theorem FlightPhase.outcome_of_failed {message : String} (h : phase.flightState display = some (.failed message)) :
    ∃ error, phase.outcome = some (some (.error error)) ∧ display error = message := by
  cases phase <;> simp only [flightState, some.injEq, reduceCtorEq] at h
  all_goals
    rename_i outcome
    rcases outcome with _ | _ | _ <;> simp_all [FlightState.ofOutcome, FlightPhase.outcome]

theorem FlightPhase.isUnnotified_of_running (h : phase.flightState display = some .running) :
    phase.isUnnotified = true := by
  cases phase <;> simp only [flightState, some.injEq, reduceCtorEq] at h
  case operating => rfl
  case settling => rfl
  all_goals
    rename_i outcome
    rcases outcome with _ | _ | _ <;> simp [FlightState.ofOutcome] at h

namespace SingleFlight

structure Moves (display : E → String) (sharedError : Nat → String → E) (s : SingleFlight K V E) (id : Nat)
    (call : FlightCall K V E) (phase : FlightPhase V E) (s' : SingleFlight K V E) : Prop where
  calls : ∀ x, s'.calls x = if x = id then some (call.moved phase s.clock) else s.calls x
  clock : s'.clock = s.clock + 1
  flights : ∀ key x, s'.flights key = some x ↔
    if x = id then key = call.key ∧ phase.holds = true else s.flights key = some x
  led : (call.phase.flightState display).isSome = true → (phase.flightState display).isSome = true
  outcome : ∀ outcome, call.phase.outcome = some outcome → phase.outcome = some outcome
  state : ∀ state, phase.flightState display = some state → (s'.heap id).state = state
  others : ∀ x, x ≠ id → (s'.heap x).state = (s.heap x).state
  follows : ∀ flight, phase.follows = some flight →
    call.phase.follows = some flight ∨ s.flights call.key = some flight ∧ call.phase = .electing ∧ phase.isOver = false
  shared : ∀ result flight, phase = .followed result flight → call.phase.follows = some flight ∧
    ((∃ value, (s.heap flight).state = .succeeded value ∧ result = .ok value) ∨
      ∃ message, (s.heap flight).state = .failed message ∧ result = .error (sharedError id message))
  waiting : ∀ x flight, x ≠ id → x ∈ (s'.heap flight).notify.waiting → x ∈ (s.heap flight).notify.waiting
  parked : ∀ flight, phase = .waiting flight → call.phase.follows = some flight ∧ (s.heap flight).state = .running
  notified : call.phase.isUnnotified = true → phase.isUnnotified = true ∨ (s'.heap id).notify.waiting = []

theorem moved_liveAt {clock time : Nat} (hTime : time < clock) (h : call.LiveAt time) :
    (call.moved phase clock).LiveAt time := by
  refine ⟨h.1, fun ended hEnded => ?_⟩
  rw [FlightCall.moved] at hEnded
  split at hEnded
  · cases hEnded
    exact hTime
  · cases hEnded

theorem move_calls (s : SingleFlight K V E) (id : Nat) (call : FlightCall K V E) (phase : FlightPhase V E) (x : Nat) :
    (s.move id call phase).calls x = if x = id then some (call.moved phase s.clock) else s.calls x :=
  update_apply ..

theorem state_update {flight : Nat} {value : Flight V} (h : value.state = (s.heap flight).state) (x : Nat) :
    (update s.heap flight value x).state = (s.heap x).state := by
  rw [update_apply]
  split
  · rename_i hx
    rw [hx, h]
  · rfl

theorem waiting_update {flight : Nat} {value : Flight V}
    (h : ∀ x, x ≠ id → x ∈ value.notify.waiting → x ∈ (s.heap flight).notify.waiting) (x other : Nat) (hx : x ≠ id)
    (hMem : x ∈ (update s.heap flight value other).notify.waiting) : x ∈ (s.heap other).notify.waiting := by
  rw [update_apply] at hMem
  split at hMem
  · rename_i hOther
    rw [hOther]
    exact h x hx hMem
  · exact hMem

theorem mem_waiting_poll {n : Notify Nat} {x seen : Nat} (hx : x ≠ id) (h : x ∈ (n.poll id seen).2.waiting) :
    x ∈ n.waiting := by
  rcases n.poll_cases id seen with ⟨-, hPoll⟩ | ⟨-, -, hPoll⟩ | ⟨-, -, hPoll⟩
  · rw [hPoll] at h
    exact h
  · rw [hPoll] at h
    exact h
  · rw [hPoll] at h
    rcases List.mem_append.mp h with h | h
    · exact h
    · exact absurd (List.mem_singleton.mp h) hx

theorem setHeap_self (s : SingleFlight K V E) (id : Nat) : s.setHeap id (s.heap id) = s := by
  rw [setHeap, update_eq_self]

section Call

variable (hCall : s.calls id = some call)

include hCall

theorem Moves.leader (m : Moves display sharedError s id call phase s') {x : Nat} {leader : FlightCall K V E}
    (hLeader : s.calls x = some leader) :
    ∃ leader', s'.calls x = some leader' ∧ leader'.key = leader.key ∧
      ((leader.phase.flightState display).isSome = true → (leader'.phase.flightState display).isSome = true) ∧
      (∀ outcome, leader.phase.outcome = some outcome → leader'.phase.outcome = some outcome) ∧
      ∀ time < s.clock, leader.LiveAt time → leader'.LiveAt time := by
  rw [m.calls]
  split
  · rename_i hx
    rw [hx, hCall] at hLeader
    cases hLeader
    exact ⟨_, rfl, rfl, m.led, m.outcome, fun time hTime hLive => moved_liveAt hTime hLive⟩
  · exact ⟨leader, hLeader, rfl, fun h => h, fun _ h => h, fun _ _ h => h⟩

variable (h : Inv display sharedError s)

include h

theorem Inv.move (m : Moves display sharedError s id call phase s') : Inv display sharedError s' where
  flights key x := by
    rw [m.flights, m.calls]
    split
    · constructor
      · rintro ⟨rfl, hHolds⟩
        exact ⟨_, rfl, rfl, hHolds⟩
      · rintro ⟨_, ⟨⟩, rfl, hHolds⟩
        exact ⟨rfl, hHolds⟩
    · exact h.flights key x
  times x c hx := by
    rw [m.calls] at hx
    rw [m.clock]
    split at hx
    · cases hx
      exact ⟨Nat.le_succ_of_le (h.times id call hCall).1, fun hOver => if_neg (Bool.eq_false_iff.mp hOver)⟩
    · exact ⟨Nat.le_succ_of_le (h.times x c hx).1, (h.times x c hx).2⟩
  state x c state hx hState := by
    rw [m.calls] at hx
    split at hx
    · rename_i hId
      cases hx
      rw [hId]
      exact m.state state hState
    · rename_i hId
      rw [m.others x hId]
      exact h.state x c state hx hState
  follower x c flight hx hFollows := by
    rw [m.calls] at hx
    rw [m.clock]
    split at hx
    · cases hx
      rcases m.follows flight hFollows with hBefore | ⟨hFlight, hElecting, hOver⟩
      · obtain ⟨leader, hLeader, hKey, hLed, time, hTime, hLive⟩ := h.follower id call flight hCall hBefore
        obtain ⟨leader', hLeader', hKey', hLed', -, hLive'⟩ := Moves.leader hCall m hLeader
        exact ⟨leader', hLeader', hKey'.trans hKey, hLed' hLed, time, Nat.lt_succ_of_lt hTime,
          hLive' time hTime hLive.1, moved_liveAt hTime hLive.2⟩
      · -- both are live when the follower joins
        obtain ⟨leader, hLeader, hKey, hHolds⟩ := (h.flights call.key flight).mp hFlight
        obtain ⟨hBegan, hEnded⟩ := h.times flight leader hLeader
        have hOther : flight ≠ id := by
          rintro rfl
          rw [hCall] at hLeader
          cases hLeader
          rw [hElecting] at hHolds
          cases hHolds
        have hLive : leader.phase.isOver = false ∧ (leader.phase.flightState display).isSome = true := by
          cases hPhase : leader.phase <;> simp_all [FlightPhase.holds, FlightPhase.isOver, FlightPhase.flightState]
        refine ⟨leader, by rw [m.calls, if_neg hOther, hLeader], hKey, hLive.2, s.clock, Nat.lt_succ_self _,
          ⟨hBegan, by simp [hEnded hLive.1]⟩, (h.times id call hCall).1, by simp [FlightCall.moved, hOver]⟩
    · obtain ⟨leader, hLeader, hKey, hLed, time, hTime, hLive⟩ := h.follower x c flight hx hFollows
      obtain ⟨leader', hLeader', hKey', hLed', -, hLive'⟩ := Moves.leader hCall m hLeader
      exact ⟨leader', hLeader', hKey'.trans hKey, hLed' hLed, time, Nat.lt_succ_of_lt hTime, hLive' time hTime hLive.1,
        hLive.2⟩
  shared x c result flight hx hPhase := by
    rw [m.calls] at hx
    split at hx
    · rename_i hId
      cases hx
      subst hId
      obtain ⟨hFollows, hOutcome⟩ := m.shared result flight hPhase
      obtain ⟨leader, hLeader, -, hLed, -⟩ := h.follower x call flight hCall hFollows
      obtain ⟨state, hState⟩ := isSome_iff_exists.mp hLed
      have hFlight := h.state flight leader state hLeader hState
      obtain ⟨leader', hLeader', -, -, hKept, -⟩ := Moves.leader hCall m hLeader
      rcases hOutcome with ⟨value, hValue, rfl⟩ | ⟨message, hMessage, rfl⟩
      · rw [← hFlight, hValue] at hState
        exact ⟨leader', .ok value, hLeader', hKept _ (FlightPhase.outcome_of_succeeded hState), rfl⟩
      · rw [← hFlight, hMessage] at hState
        obtain ⟨error, hError, rfl⟩ := FlightPhase.outcome_of_failed hState
        exact ⟨leader', .error error, hLeader', hKept _ hError, rfl⟩
    · obtain ⟨leader, outcome, hLeader, hOutcome, hResult⟩ := h.shared x c result flight hx hPhase
      obtain ⟨leader', hLeader', -, -, hKept, -⟩ := Moves.leader hCall m hLeader
      exact ⟨leader', outcome, hLeader', hKept _ hOutcome, hResult⟩
  parked x c flight hx hPhase hWaiting := by
    have hLeads : ∃ leader, s.calls flight = some leader ∧ leader.phase.isUnnotified = true := by
      rw [m.calls] at hx
      split at hx
      · cases hx
        obtain ⟨hFollows, hRunning⟩ := m.parked flight hPhase
        obtain ⟨leader, hLeader, -, hLed, -⟩ := h.follower id call flight hCall hFollows
        obtain ⟨state, hState⟩ := isSome_iff_exists.mp hLed
        rw [← h.state flight leader state hLeader hState, hRunning] at hState
        exact ⟨leader, hLeader, FlightPhase.isUnnotified_of_running hState⟩
      · rename_i hId
        exact h.parked x c flight hx hPhase (m.waiting x flight hId hWaiting)
    obtain ⟨leader, hLeader, hUnnotified⟩ := hLeads
    rw [m.calls]
    split
    · rename_i hFlight
      subst hFlight
      rw [hCall] at hLeader
      cases hLeader
      rcases m.notified hUnnotified with hStill | hEmpty
      · exact ⟨_, rfl, hStill⟩
      · rw [hEmpty] at hWaiting
        cases hWaiting
    · exact ⟨leader, hLeader, hUnnotified⟩

theorem Inv.flights_self (key : K) : s.flights key = some id ↔ key = call.key ∧ call.phase.holds = true := by
  rw [h.flights]
  constructor
  · rintro ⟨c, hc, rfl, hHolds⟩
    rw [hCall] at hc
    cases hc
    exact ⟨rfl, hHolds⟩
  · rintro ⟨rfl, hHolds⟩
    exact ⟨call, hCall, rfl, hHolds⟩

theorem Inv.flights_same (hHolds : phase.holds = call.phase.holds) (key : K) (x : Nat) :
    s.flights key = some x ↔ if x = id then key = call.key ∧ phase.holds = true else s.flights key = some x := by
  split
  · rename_i hx
    rw [hx, hHolds]
    exact h.flights_self hCall key
  · rfl

theorem Inv.flights_update [DecidableEq K] {value : Option Nat} (hValue : ∀ x, value = some x ↔ x = id ∧ phase.holds = true)
    (hFree : ∀ x ≠ id, s.flights call.key ≠ some x) (key : K) (x : Nat) :
    update s.flights call.key value key = some x ↔
      if x = id then key = call.key ∧ phase.holds = true else s.flights key = some x := by
  rw [update_apply]
  by_cases hKey : key = call.key
  · rw [if_pos hKey, hValue, hKey]
    by_cases hx : x = id
    · simp [hx]
    · simp [hx, hFree x hx]
  · rw [if_neg hKey]
    split
    · rename_i hx
      rw [hx, h.flights_self hCall key]
      simp [hKey]
    · rfl

theorem Inv.follow {flight : Nat} (hBefore : call.phase.follows = some flight ∨
      s.flights call.key = some flight ∧ call.phase = .electing ∧ phase = .joined flight)
    (heap : Nat → Flight V) (hState : ∀ x, (heap x).state = (s.heap x).state)
    (hWaiting : ∀ x flight, x ≠ id → x ∈ (heap flight).notify.waiting → x ∈ (s.heap flight).notify.waiting)
    (hAfter : phase.follows = some flight ∨ phase.follows = none)
    (hLed : phase.flightState display = none ∧ phase.holds = false)
    (hShared : ∀ result, phase = .followed result flight →
      ((∃ value, (s.heap flight).state = .succeeded value ∧ result = .ok value) ∨
        ∃ message, (s.heap flight).state = .failed message ∧ result = .error (sharedError id message)))
    (hParked : phase = .waiting flight → (s.heap flight).state = .running) :
    Inv display sharedError { s.move id call phase with heap := heap } := by
  have hFree : call.phase.flightState display = none ∧ call.phase.holds = false ∧ call.phase.outcome = none ∧
      call.phase.isUnnotified = false := by
    rcases hBefore with hBefore | ⟨-, hPhase, -⟩
    · cases hPhase : call.phase <;> rw [hPhase] at hBefore <;> first | exact ⟨rfl, rfl, rfl, rfl⟩ | cases hBefore
    · rw [hPhase]
      exact ⟨rfl, rfl, rfl, rfl⟩
  have hSame : ∀ other, phase.follows = some other → other = flight := by
    intro other hOther
    rcases hAfter with hAfter | hAfter
    · exact some.inj (hOther.symm.trans hAfter)
    · rw [hAfter] at hOther
      cases hOther
  have hFollowed : phase ≠ .joined flight → call.phase.follows = some flight :=
    fun hPhase => hBefore.resolve_right fun hJoins => hPhase hJoins.2.2
  have hFlights := h.flights_same hCall (hLed.2.trans hFree.2.1.symm)
  exact h.move hCall
    { calls := s.move_calls id call phase
      clock := rfl
      flights := hFlights
      led := by simp [hFree.1]
      outcome := by simp [hFree.2.2.1]
      state := by simp [hLed.1]
      others := fun x _ => hState x
      follows := by
        intro other hOther
        rw [hSame other hOther]
        refine hBefore.imp_right fun ⟨hFlight, hPhase, hJoins⟩ => ⟨hFlight, hPhase, ?_⟩
        rw [hJoins]
        rfl
      shared := by
        rintro result other rfl
        obtain rfl := hSame other rfl
        exact ⟨hFollowed nofun, hShared result rfl⟩
      waiting := hWaiting
      parked := by
        rintro other rfl
        obtain rfl := hSame other rfl
        exact ⟨hFollowed nofun, hParked rfl⟩
      notified := by simp [hFree.2.2.2] }

theorem Inv.lead (phase : FlightPhase V E) (flights : K → Option Nat) (value : Flight V) (hAfter : phase.follows = none)
    (hFlights : ∀ key x, flights key = some x ↔
      if x = id then key = call.key ∧ phase.holds = true else s.flights key = some x)
    (hLed : ∀ state, phase.flightState display = some state → value.state = state)
    (hKeeps : (call.phase.flightState display).isSome = true → (phase.flightState display).isSome = true)
    (hOutcome : ∀ outcome, call.phase.outcome = some outcome → phase.outcome = some outcome)
    (hWaiting : ∀ x, x ∈ value.notify.waiting → x ∈ (s.heap id).notify.waiting)
    (hNotified : call.phase.isUnnotified = true → phase.isUnnotified = true ∨ value.notify.waiting = []) :
    Inv display sharedError { (s.setHeap id value).move id call phase with flights := flights } := by
  have hPhase : ∀ flight, phase.follows ≠ some flight := by simp [hAfter]
  exact h.move hCall
    { calls := move_calls (s.setHeap id value) id call phase
      clock := rfl
      flights := hFlights
      led := hKeeps
      outcome := hOutcome
      state := fun state hState => by
        rw [← hLed state hState]
        exact congrArg Flight.state (update_self ..)
      others := fun x hx => congrArg Flight.state (update_of_ne hx ..)
      follows := fun flight hFlight => absurd hFlight (hPhase flight)
      shared := by
        rintro result flight rfl
        exact absurd rfl (hPhase flight)
      waiting := waiting_update fun x _ => hWaiting x
      parked := by
        rintro flight rfl
        exact absurd rfl (hPhase flight)
      notified := fun hUnnotified => (hNotified hUnnotified).imp_right fun hEmpty => by
        rw [← hEmpty]
        exact congrArg (fun flight : Flight V => flight.notify.waiting) (update_self ..) }

theorem Inv.settle (hPhase : call.phase = .operating) (outcome : Option (Except E V)) :
    Inv display sharedError (s.move id call (.settling outcome)) := by
  have hSettling := h.lead hCall (.settling outcome) s.flights (s.heap id) rfl
    (h.flights_same hCall (by rw [hPhase]; rfl)) ?_ (fun _ => rfl) ?_ (fun _ hMem => hMem) (fun _ => .inl rfl)
  · rw [setHeap_self] at hSettling
    exact hSettling
  · rintro state ⟨⟩
    exact h.state id call _ hCall (by rw [hPhase]; rfl)
  · rw [hPhase]
    nofun

theorem Inv.drop (hNext : s.drop id call = some s') : Inv display sharedError s' := by
  unfold SingleFlight.drop at hNext
  split at hNext
  case h_1 hPhase =>
    cases hNext
    have hDropped := h.lead hCall .dropped s.flights (s.heap id) rfl
      (h.flights_same hCall (by rw [hPhase]; rfl)) nofun ?_ ?_ (fun _ hMem => hMem) ?_
    · rw [setHeap_self] at hDropped
      exact hDropped
    all_goals
      rw [hPhase]
      nofun
  case h_2 hPhase =>
    cases hNext
    exact h.settle hCall hPhase none
  case h_3 flight hPhase =>
    cases hNext
    exact h.follow hCall (.inl (by rw [hPhase]; rfl)) (update s.heap flight _) (state_update rfl)
      (waiting_update fun x _ hMem => (List.mem_filter.mp hMem).1) (.inr rfl) ⟨rfl, rfl⟩ nofun nofun
  case h_4 => cases hNext

theorem Inv.advance [DecidableEq K] (hNext : s.advance display sharedError id call = some s') :
    Inv display sharedError s' := by
  unfold SingleFlight.advance at hNext
  split at hNext
  case h_1 hPhase =>
    split at hNext
    · rename_i flight hFlight
      cases hNext
      exact h.follow hCall (.inr ⟨hFlight, hPhase, rfl⟩) s.heap (fun _ => rfl) (fun _ _ _ hMem => hMem) (.inl rfl)
        ⟨rfl, rfl⟩ nofun nofun
    · rename_i hNone
      cases hNext
      refine h.lead hCall .operating (update s.flights call.key (some id)) {} rfl
        (h.flights_update hCall (by simp [FlightPhase.holds, eq_comm]) (by simp [hNone])) ?_ (fun _ => rfl) ?_ nofun ?_
      · rintro state ⟨⟩
        rfl
      · rw [hPhase]
        nofun
      · rw [hPhase]
        nofun
  case h_2 outcome hPhase =>
    cases hNext
    refine h.lead hCall _ s.flights _ rfl (h.flights_same hCall (by rw [hPhase]; rfl)) ?_ (fun _ => rfl) ?_
      (fun _ hMem => hMem) (fun _ => .inl rfl)
    · rintro state ⟨⟩
      rfl
    · rw [hPhase]
      exact fun _ hOutcome => hOutcome
  case h_3 outcome hPhase =>
    cases hNext
    have hFlight : s.flights call.key = some id := (h.flights_self hCall _).mpr ⟨rfl, by rw [hPhase]; rfl⟩
    rw [if_pos hFlight]
    have hRemoved := h.lead hCall (.notifying outcome) (update s.flights call.key none) (s.heap id) rfl
      (h.flights_update hCall (by simp [FlightPhase.holds]) (by simp [hFlight, eq_comm])) ?_ (fun _ => rfl) ?_
      (fun _ hMem => hMem) (fun _ => .inl rfl)
    · rw [setHeap_self] at hRemoved
      exact hRemoved
    · rintro state ⟨⟩
      exact h.state id call _ hCall (by rw [hPhase]; rfl)
    · rw [hPhase]
      exact fun _ hOutcome => hOutcome
  case h_4 outcome hPhase =>
    cases hNext
    refine h.lead hCall _ s.flights _ rfl (h.flights_same hCall (by rw [hPhase]; rfl)) ?_ (fun _ => rfl) ?_ nofun
      (fun _ => .inr rfl)
    · rintro state ⟨⟩
      exact h.state id call _ hCall (by rw [hPhase]; rfl)
    · rw [hPhase]
      exact fun _ hOutcome => hOutcome
  case h_5 flight hPhase =>
    cases hNext
    exact h.follow hCall (.inl (by rw [hPhase]; rfl)) s.heap (fun _ => rfl) (fun _ _ _ hMem => hMem) (.inl rfl) ⟨rfl, rfl⟩ nofun
      nofun
  case h_6 flight seen hPhase =>
    cases hNext
    exact h.follow hCall (.inl (by rw [hPhase]; rfl)) (update s.heap flight _) (state_update rfl)
      (waiting_update fun x => mem_waiting_poll) (.inl rfl) ⟨rfl, rfl⟩ nofun nofun
  case h_7 flight hPhase =>
    have hFollows : call.phase.follows = some flight := by rw [hPhase]; rfl
    have hForget : ∀ x, x ≠ id → x ∈ ((s.heap flight).notify.forget id).waiting → x ∈ (s.heap flight).notify.waiting :=
      fun x _ hMem => (List.mem_filter.mp hMem).1
    split at hNext
    · rename_i hState
      cases hNext
      exact h.follow hCall (.inl hFollows) s.heap (fun _ => rfl) (fun _ _ _ hMem => hMem) (.inl rfl) ⟨rfl, rfl⟩ nofun
        fun _ => hState
    · rename_i value hState
      cases hNext
      refine h.follow hCall (.inl hFollows) (update s.heap flight _) (state_update rfl) (waiting_update hForget) (.inl rfl)
        ⟨rfl, rfl⟩ ?_ nofun
      rintro result ⟨⟩
      exact .inl ⟨value, hState, rfl⟩
    · rename_i message hState
      cases hNext
      refine h.follow hCall (.inl hFollows) (update s.heap flight _) (state_update rfl) (waiting_update hForget) (.inl rfl)
        ⟨rfl, rfl⟩ ?_ nofun
      rintro result ⟨⟩
      exact .inr ⟨message, hState, rfl⟩
    · cases hNext
      exact h.follow hCall (.inl hFollows) (update s.heap flight _) (state_update rfl) (waiting_update hForget) (.inr rfl)
        ⟨rfl, rfl⟩ nofun nofun
  case h_8 flight hPhase =>
    split at hNext
    · cases hNext
    · cases hNext
      exact h.follow hCall (.inl (by rw [hPhase]; rfl)) s.heap (fun _ => rfl) (fun _ _ _ hMem => hMem) (.inl rfl) ⟨rfl, rfl⟩ nofun
        nofun
  all_goals cases hNext

end Call

theorem Inv.start (h : Inv display sharedError s) (hFree : s.calls id = none) (key : K) :
    Inv display sharedError
      { s with calls := update s.calls id (some { key, began := s.clock }), clock := s.clock + 1 } := by
  have hKept : ∀ {x c}, s.calls x = some c →
      update s.calls id (some { key, began := s.clock }) x = some c := by
    intro x c hx
    rw [update_of_ne]
    · exact hx
    · rintro rfl
      rw [hFree] at hx
      cases hx
  have hCases : ∀ {x c}, update s.calls id (some { key, began := s.clock }) x = some c →
      c = { key, began := s.clock } ∨ s.calls x = some c := by
    intro x c hx
    rw [update_apply] at hx
    split at hx
    · cases hx
      exact .inl rfl
    · exact .inr hx
  constructor
  · intro key' x
    rw [h.flights]
    constructor
    · rintro ⟨c, hc, hRest⟩
      exact ⟨c, hKept hc, hRest⟩
    · rintro ⟨c, hc, hKey, hHolds⟩
      rcases hCases hc with rfl | hc
      · cases hHolds
      · exact ⟨c, hc, hKey, hHolds⟩
  · intro x c hx
    rcases hCases hx with rfl | hx
    · exact ⟨Nat.le_succ _, fun _ => rfl⟩
    · exact ⟨Nat.le_succ_of_le (h.times x c hx).1, (h.times x c hx).2⟩
  · intro x c state hx hState
    rcases hCases hx with rfl | hx
    · cases hState
    · exact h.state x c state hx hState
  · intro x c flight hx hFollows
    rcases hCases hx with rfl | hx
    · cases hFollows
    · obtain ⟨leader, hLeader, hKey, hLed, time, hTime, hLive⟩ := h.follower x c flight hx hFollows
      exact ⟨leader, hKept hLeader, hKey, hLed, time, Nat.lt_succ_of_lt hTime, hLive⟩
  · intro x c result flight hx hPhase
    rcases hCases hx with rfl | hx
    · cases hPhase
    · obtain ⟨leader, outcome, hLeader, hRest⟩ := h.shared x c result flight hx hPhase
      exact ⟨leader, outcome, hKept hLeader, hRest⟩
  · intro x c flight hx hPhase hWaiting
    rcases hCases hx with rfl | hx
    · cases hPhase
    · obtain ⟨leader, hLeader, hUnnotified⟩ := h.parked x c flight hx hPhase hWaiting
      exact ⟨leader, hKept hLeader, hUnnotified⟩

variable [DecidableEq K]

theorem Inv.next (h : Inv display sharedError s) {event : FlightEvent K V E}
    (hNext : s.next display sharedError event = some s') : Inv display sharedError s' := by
  cases event with
  | start id key =>
    rw [SingleFlight.next] at hNext
    split at hNext
    · cases hNext
    · rename_i hFree
      cases hNext
      exact h.start hFree key
  | advance id =>
    obtain ⟨call, hCall, hNext⟩ := bind_eq_some_iff.mp hNext
    exact h.advance hCall hNext
  | complete id result =>
    obtain ⟨call, hCall, hNext⟩ := bind_eq_some_iff.mp hNext
    split at hNext
    · rename_i hPhase
      cases hNext
      exact h.settle hCall hPhase (some result)
    · cases hNext
  | drop id =>
    obtain ⟨call, hCall, hNext⟩ := bind_eq_some_iff.mp hNext
    exact h.drop hCall hNext

theorem Inv.sound (h : Inv display sharedError s) : Sound display sharedError s where
  operations a b callA callB hA hB hPhaseA hPhaseB hKey := by
    have hFlightA : s.flights callA.key = some a := (h.flights _ a).mpr ⟨callA, hA, rfl, by rw [hPhaseA]; rfl⟩
    have hFlightB : s.flights callA.key = some b := (h.flights _ b).mpr ⟨callB, hB, hKey.symm, by rw [hPhaseB]; rfl⟩
    exact some.inj (hFlightA.symm.trans hFlightB)
  flights := h.flights
  shared id call result flight hCall hPhase := by
    obtain ⟨leader, outcome, hLeader, hOutcome, hResult⟩ := h.shared id call result flight hCall hPhase
    obtain ⟨leader', hLeader', hKey, -, time, -, hLive⟩ := h.follower id call flight hCall (by rw [hPhase]; rfl)
    rw [hLeader] at hLeader'
    cases hLeader'
    exact ⟨leader, outcome, hLeader, hKey, ⟨time, hLive⟩, hOutcome, hResult⟩
  cancelled id call flight leader hCall hLeader hDropped := by
    constructor
    · intro result hPhase
      obtain ⟨leader', outcome, hLeader', hOutcome, -⟩ := h.shared id call result flight hCall hPhase
      rw [hLeader] at hLeader'
      cases hLeader'
      rw [hDropped] at hOutcome
      cases hOutcome
    · intro hPhase hSettled
      have hState : (s.heap flight).state = .cancelled := by
        refine h.state flight leader _ hLeader ?_
        cases hLead : leader.phase <;> simp_all [FlightPhase.outcome, FlightPhase.flightState, FlightState.ofOutcome]
      refine ⟨(s.leave id flight).move id call .electing, call.moved .electing s.clock, ?_, ?_, rfl⟩
      · rw [SingleFlight.advance]
        simp only [hPhase, hState]
      · exact (move_calls _ id call _ id).trans (if_pos rfl)
  parked id call flight leader hCall hPhase hWaiting hLeader _ := by
    obtain ⟨leader', hLeader', hUnnotified⟩ := h.parked id call flight hCall hPhase hWaiting
    rw [hLeader] at hLeader'
    cases hLeader'
    exact hUnnotified

end SingleFlight

theorem calls_share_one_flight [DecidableEq K] (display : E → String) (sharedError : Nat → String → E)
    (events : List (FlightEvent K V E))
    (hRun : Run (SingleFlight.Allowed display sharedError) (SingleFlight.step display sharedError) {} events) :
    (events.foldl (SingleFlight.step display sharedError) {}).Sound display sharedError := by
  have hInit : SingleFlight.Inv display sharedError ({} : SingleFlight K V E) := by constructor <;> simp
  refine (hRun.foldl_invariant hInit fun s event _ hAllowed h => ?_).sound
  obtain ⟨s', hNext⟩ := isSome_iff_exists.mp hAllowed
  rw [SingleFlight.step, hNext]
  exact h.next hNext

def droppedLeaderRun : List (FlightEvent String Nat String) :=
  [.start 0 "key", .advance 0, .start 1 "key", .advance 1, .advance 1, .advance 1, .advance 1, .drop 0, .advance 0,
    .advance 0, .advance 0, .advance 1, .advance 1, .advance 1, .advance 1, .advance 1, .start 2 "key", .advance 2,
    .advance 2, .advance 2, .advance 2, .complete 1 (.ok 7), .advance 1, .advance 1, .advance 1, .advance 2, .advance 2,
    .advance 2, .advance 2]

theorem droppedLeaderRun_shares :
    let final := droppedLeaderRun.foldl (SingleFlight.step (fun error => error) fun _ message => message) {}
    (final.calls 0).map (·.phase) = some (.led none) ∧ (final.calls 2).map (·.phase) = some (.followed (.ok 7) 1) ∧
      final.Sound (fun error => error) fun _ message => message :=
  ⟨by decide, by decide, calls_share_one_flight _ _ droppedLeaderRun (by decide)⟩

end Keeping

end Raiko2.Host
