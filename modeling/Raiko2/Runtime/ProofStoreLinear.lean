import Mathlib.Tactic.IntervalCases
import Raiko2.Runtime.ProofStoreCalls

/-!
# The proof store is a register

Whatever calls there are, every event keeps what the calls under way rely on, so that the history of any run is one of
the register.
-/

namespace Raiko2.Runtime

open Lib List RegisterAct

variable {codec : Codec} {store : GcsProofArtifactStore} {key : ObjectKey}

section Runs

variable {s : StoreState} {i : Nat} {call : StoreCall}

variable (codec store key) in
def Finishes (i : Nat) (result : Except ErrorChain StoreAnswer) (s : Shared) : Prop :=
  ∀ call, Open s.log i call →
    (reexaminedRegister codec store key).Explains call ⟨result, s.failedDeletes.contains i⟩ (actsOf i s.log)

theorem safe_finishes {s : Shared} (h : Doing codec store key i call [] s) :
    (storeContract codec store key).Safe i (call.program codec store key).run (Finishes codec store key i) s := by
  apply Contract.Safe.mono (safe_program h)
  intro result t hInv hResult call' hOpen
  cases result with
  | error error =>
    -- A call that fails has done its operation or nothing, as any call under way.
    have hDone := hInv.explained.unanswered i call' hOpen.invoked hOpen.unanswered
    exact ⟨_, .inl hDone, filter_sublist, filter_filter.trans (by simp [reexaminedRegister])⟩
  | ok answer =>
    obtain ⟨done, hDoing, hExplains⟩ := hResult answer rfl
    obtain rfl := hDoing.opened.only call' hOpen.invoked
    rw [hDoing.acts]
    exact hExplains

variable (codec store key) in
structure StoreStateInv (s : StoreState) : Prop where
  running : (storeContract codec store key).Running (Finishes codec store key) s.calls s.shared
  opened : ∀ i p, s.calls i = some p → ∃ call, Open s.shared.log i call

theorem grows_visible {shared : Shared} {moment : StoreMoment} (hMoment : moment.call ≠ i) :
    Grows store key (· ≠ i) shared { shared with log := shared.log ++ [moment] } where
  log := ⟨[moment], rfl, by simpa using hMoment⟩
  contents _ _ hObject := hObject
  failedDeletes := List.Subset.refl _

theorem mayHaveDone_nil (call : StoreCall) : MayHaveDone codec store key call [] := by
  cases call with
  | putIfAbsent bytes => exact .inl rfl
  | get => rfl
  | getDescriptor => rfl
  | deleteExact descriptor => exact .inl rfl

theorem StoreStateInv.invoke (h : StoreStateInv codec store key s)
    (hLawful : codec.Lawful (Offered (s.shared.log ++ [.invoke i call])))
    (hNew : ∀ moment ∈ s.shared.log, moment.call ≠ i) :
    StoreStateInv codec store key (s.step codec store key (.invoke i call)) := by
  have hInvoke : ∀ call', .invoke i call' ∉ s.shared.log := fun call' hMem => hNew _ hMem rfl
  have hResponse : ∀ response, .response i response ∉ s.shared.log := fun response hMem => hNew _ hMem rfl
  have hActs : actsOf i ([] ++ s.shared.log) = [] := actsOf_append_of_call_ne hNew
  have hOpen : Open (s.shared.log ++ [.invoke i call]) i call := by
    refine ⟨by simp, ?_, ?_⟩
    · intro call' hCall'
      simpa [hInvoke] using hCall'
    · intro response hMem
      simp [hResponse] at hMem
  have hExplained : Explained (reexaminedRegister codec store key) (s.shared.log ++ [.invoke i call]) :=
    h.running.1.explained.invoke hInvoke hResponse hActs (mayHaveDone_nil call)
  have hDoing : Doing codec store key i call [] { s.shared with log := s.shared.log ++ [.invoke i call] } := by
    refine ⟨hOpen, ?_, by simp⟩
    rw [actsOf_concat]
    exact (append_nil _).trans hActs
  constructor
  · apply h.running.change (h.running.1.visible rfl hLawful hExplained)
    intro j p hp
    by_cases hj : j = i
    · subst hj
      right
      obtain rfl : (call.program codec store key).run = p := by simpa [StoreState.step] using hp
      exact safe_finishes hDoing
    · left
      exact ⟨by simpa [StoreState.step, hj] using hp, grows_visible (Ne.symm hj)⟩
  · intro j p hp
    by_cases hj : j = i
    · subst hj
      exact ⟨call, hOpen⟩
    · obtain ⟨call', hOpen'⟩ := h.opened j p (by simpa [StoreState.step, hj] using hp)
      exact ⟨call', hOpen'.append (by simpa [Moment.call] using Ne.symm hj)⟩

theorem StoreStateInv.turn (h : StoreStateInv codec store key s) {fault : Fault} {generation : Int64}
    (hFresh : generation ∉ s.shared.bucket.used) :
    StoreStateInv codec store key (s.step codec store key (.turn i fault generation)) := by
  rw [StoreState.step]
  split
  · rename_i request next hCall
    have hTurn : (storeContract codec store key).Step i s.shared request
        (s.shared.turn codec store key i fault generation request).1
        (s.shared.turn codec store key i fault generation request).2 := ⟨fault, generation, hFresh, rfl⟩
    have hOthers : ∀ j, j ≠ i → Function.update s.calls i
        (some (next (s.shared.turn codec store key i fault generation request).1)) j = s.calls j :=
      fun j hj => Function.update_of_ne hj _ _
    refine ⟨(h.running.turn hCall hTurn (Function.update_self ..) hOthers).1, ?_⟩
    intro j p hp
    by_cases hj : j = i
    · subst hj
      obtain ⟨call, hOpen⟩ := h.opened j _ hCall
      exact ⟨call, hOpen.acts j _⟩
    · obtain ⟨call, hOpen⟩ := h.opened j p ((hOthers j hj).symm.trans hp)
      exact ⟨call, hOpen.acts i _⟩
  · exact h

theorem StoreStateInv.respond (h : StoreStateInv codec store key s) :
    StoreStateInv codec store key (s.step codec store key (.respond i)) := by
  rw [StoreState.step]
  split
  · rename_i result hCall
    obtain ⟨call, hOpen⟩ := h.opened i _ hCall
    have hExplained := h.running.1.explained.respond hOpen (h.running.value hCall call hOpen)
    have hOthers : ∀ j p, Function.update s.calls i none j = some p → j ≠ i ∧ s.calls j = some p := by
      intro j p hp
      by_cases hj : j = i
      · subst hj
        simp at hp
      · exact ⟨hj, by simpa [hj] using hp⟩
    constructor
    · apply h.running.change (h.running.1.visible rfl (h.running.1.lawful.mono (offered_concat (by simp))) hExplained)
      intro j p hp
      obtain ⟨hj, hOld⟩ := hOthers j p hp
      exact .inl ⟨hOld, grows_visible (Ne.symm hj)⟩
    · intro j p hp
      obtain ⟨hj, hOld⟩ := hOthers j p hp
      obtain ⟨call', hOpen'⟩ := h.opened j p hOld
      exact ⟨call', hOpen'.append (by simpa [Moment.call] using Ne.symm hj)⟩
  · exact h

theorem storeStateInv_emptyStore : StoreStateInv codec store key emptyStore := by
  have hLawful : codec.Lawful (Offered []) := by constructor <;> rintro bytes ⟨i, ⟨⟩⟩
  have hRegister : WellKept codec store key (Offered []) ∅ ∧ registerOf codec store key ∅ = none := by
    apply WellKept.of_manifest hLawful
    · rfl
    · rintro stored ⟨⟩
    · rintro hash object ⟨⟩
  refine ⟨⟨⟨hLawful, explained_nil _, ?_, hRegister.1, ?_, ?_⟩, ?_⟩, ?_⟩
  · exact congrArg some hRegister.2.symm
  · rintro stored ⟨⟩
  · rintro stored stored' ⟨⟩
  · rintro j p ⟨⟩
  · rintro j p ⟨⟩

/-- What the calls of a run want to put. -/
def offeredBy (events : List StoreEvent) : Set Bytes := {bytes | ∃ i, .invoke i (.putIfAbsent bytes) ∈ events}

variable (codec store key) in
structure StoreRunInv (events : List StoreEvent) (s : StoreState) : Prop extends StoreStateInv codec store key s where
  offered : Offered s.shared.log ⊆ offeredBy events

theorem StoreRunInv.offered_step {events : List StoreEvent} (h : StoreRunInv codec store key events s)
    {event : StoreEvent} (hEvent : event ∈ events) :
    Offered (s.step codec store key event).shared.log ⊆ offeredBy events := by
  rintro bytes ⟨i, hInvoked⟩
  cases event with
  | invoke j call =>
    rcases mem_append.mp hInvoked with hOld | hNew
    · exact h.offered ⟨i, hOld⟩
    · cases mem_singleton.mp hNew
      exact ⟨i, hEvent⟩
  | turn j fault generation =>
    rw [StoreState.step] at hInvoked
    split at hInvoked
    · rcases mem_append.mp hInvoked with hOld | hNew
      · exact h.offered ⟨i, hOld⟩
      · simp at hNew
    · exact h.offered ⟨i, hInvoked⟩
  | respond j =>
    rw [StoreState.step] at hInvoked
    split at hInvoked
    · exact h.offered ⟨i, by simpa using hInvoked⟩
    · exact h.offered ⟨i, hInvoked⟩

theorem storeStateInv_of_run {events : List StoreEvent} (hCodec : codec.Lawful (offeredBy events))
    (hRun : Run StoreState.Allowed (StoreState.step codec store key) emptyStore events) :
    StoreStateInv codec store key (events.foldl (StoreState.step codec store key) emptyStore) := by
  suffices hInv : StoreRunInv codec store key events (events.foldl (StoreState.step codec store key) emptyStore) from
    hInv.toStoreStateInv
  apply hRun.foldl_invariant ⟨storeStateInv_emptyStore, by rintro bytes ⟨i, ⟨⟩⟩⟩
  intro s event hEvent hAllowed h
  have hNext := h.offered_step hEvent
  refine ⟨?_, hNext⟩
  cases event with
  | invoke i call => exact h.invoke (hCodec.mono hNext) hAllowed
  | turn i fault generation => exact h.turn hAllowed
  | respond i => exact h.respond

/-- Whatever calls there are and however they take turns, what the clients see is a history of the register. -/
theorem proof_store_is_linearizable (codec : Codec) (store : GcsProofArtifactStore) (key : ObjectKey)
    (events : List StoreEvent) (hCodec : codec.Lawful (offeredBy events))
    (hRun : Run StoreState.Allowed (StoreState.step codec store key) emptyStore events) :
    Linearizable (reexaminedRegister codec store key)
      (events.foldl (StoreState.step codec store key) emptyStore).history :=
  ⟨_, rfl, (storeStateInv_of_run hCodec hRun).running.1.explained⟩

end Runs

section Samples

def plainText (bytes : Bytes) : String := String.ofList (bytes.map fun byte => Char.ofNat byte.toNat)

def plainCodec : Codec where
  contentHash := plainText
  manifestJson hash := hash.toList.map fun c => UInt8.ofNat c.toNat
  parseManifest bytes := .ok (plainText bytes)

theorem plainCodec_lawful (offered : Set Bytes) : plainCodec.Lawful offered where
  contentHash_injOn := by
    intro a _ b _ h
    refine map_injective_iff.mpr ?_ (String.ofList_injective h)
    intro x y hChar
    have hValue := congrArg Char.toNat hChar
    rw [toNat_ofNat_byte, toNat_ofNat_byte] at hValue
    exact UInt8.toNat_inj.mp hValue
  parseManifest_manifestJson bytes _ := by
    have hBytes : (plainText bytes).toList.map (fun c => UInt8.ofNat c.toNat) = bytes := by
      rw [plainText, String.toList_ofList, map_map]
      conv_rhs => rw [← map_id bytes]
      apply map_congr_left
      intro byte _
      simp [toNat_ofNat_byte]
    exact congrArg Except.ok (congrArg plainText hBytes)

def sampleStore : GcsProofArtifactStore := ⟨"dev", "a", "b", ""⟩

def sampleObjectKey : ObjectKey := .canonical ⟨"p", .shastaSp1, PipelineKey.shastaSp1.route, stableRef .proof "1"⟩

def sampleStep : StoreState → StoreEvent → StoreState := StoreState.step plainCodec sampleStore sampleObjectKey

def sampleDescriptor : ProofArtifactDescriptor := Stored.descriptor plainCodec sampleStore sampleObjectKey ⟨[65], 2⟩

def turnsOf (i : Nat) (generations : List Int64) : List StoreEvent := generations.map (.turn i .none)

def samplePut : List StoreEvent := .invoke 0 (.putIfAbsent [65]) :: turnsOf 0 [1, 1, 2] ++ [.respond 0]

def secondLookRun : List StoreEvent :=
  samplePut ++ [.invoke 1 (.putIfAbsent [65]), .turn 1 .none 3] ++
    (.invoke 2 (.deleteExact sampleDescriptor) :: turnsOf 2 [3, 3] ++ [.respond 2]) ++
    (.invoke 3 (.putIfAbsent [66]) :: turnsOf 3 [3, 3, 4] ++ [.respond 3]) ++ (turnsOf 1 [5, 5, 5] ++ [.respond 1])

def unsureRemovalRun : List StoreEvent :=
  samplePut ++ [.invoke 1 (.deleteExact sampleDescriptor), .turn 1 .none 3] ++
    (.invoke 2 (.deleteExact sampleDescriptor) :: turnsOf 2 [3, 3] ++ [.respond 2]) ++
    [.turn 1 (.before ["timeout"]) 3, .turn 1 .none 3, .respond 1]

def unsureStaleRun : List StoreEvent :=
  samplePut ++ [.invoke 1 (.deleteExact sampleDescriptor), .turn 1 .none 3, .turn 1 (.after ["timeout"]) 3] ++
    (.invoke 2 (.putIfAbsent [66]) :: turnsOf 2 [3, 3, 4] ++ [.respond 2]) ++ [.turn 1 .none 5, .respond 1]

def sampleHistory (events : List StoreEvent) : List StoreMoment := (events.foldl sampleStep emptyStore).history

/-- Every history of the sample run is one of the register that looks again. -/
theorem secondLookRun_is_linearizable :
    Linearizable (reexaminedRegister plainCodec sampleStore sampleObjectKey)
      (secondLookRun.foldl (StoreState.step plainCodec sampleStore sampleObjectKey) emptyStore).history :=
  proof_store_is_linearizable plainCodec sampleStore sampleObjectKey secondLookRun (plainCodec_lawful _)
    (by decide +kernel)

def isCreate : RegisterAct → Bool
  | .create _ => true
  | _ => false

def isRemove : RegisterAct → Bool
  | .remove _ => true
  | _ => false

theorem create_eq_remove_add {current next : Option Stored} {act : RegisterAct} (h : act.apply current = some next) :
    (if isCreate act then 1 else 0) + current.toList.length = (if isRemove act then 1 else 0) + next.toList.length := by
  cases act with
  | create stored =>
    obtain ⟨rfl, rfl⟩ : current = none ∧ some stored = next := by simpa [apply] using h
    rfl
  | observe found =>
    obtain ⟨-, rfl⟩ : current = found ∧ current = next := by simpa [apply] using h
    rfl
  | remove stored =>
    obtain ⟨rfl, rfl⟩ : current = some stored ∧ none = next := by simpa [apply] using h
    rfl

theorem creates_eq_removes_add {current final : Option Stored} {done : List RegisterAct}
    (h : (createOnlyRegister codec store key).after current done = some final) :
    done.countP isCreate + current.toList.length = done.countP isRemove + final.toList.length := by
  induction done generalizing current with
  | nil =>
    obtain rfl : current = final := Option.some.inj h
    rfl
  | cons act done ih =>
    obtain ⟨next, hApply, hRest⟩ := Option.bind_eq_some_iff.mp h
    have hCounts := ih hRest
    have hStep := create_eq_remove_add hApply
    rw [countP_cons, countP_cons]
    omega

theorem countP_of_filter_eq {p : RegisterAct → Bool} (hp : ∀ act, p act = true → act.isEffect = true)
    {core done : List RegisterAct} (h : core.filter isEffect = done.filter isEffect) :
    done.countP p = core.countP p := by
  have hFilter : ∀ acts : List RegisterAct, (acts.filter isEffect).countP p = acts.countP p := by
    intro acts
    rw [countP_filter]
    apply countP_congr
    intro act _
    simpa using hp act
  rw [← hFilter done, ← h, hFilter core]

theorem not_linearizable_of_counts {history : List StoreMoment} (n : Nat) (calls : Nat → StoreCall)
    (creates removes : Nat → Nat) (hCalls : ∀ i call, .invoke i call ∈ history → i < n ∧ call = calls i)
    (hCounts : ∀ i < n, ∃ response, .response i response ∈ history ∧ ∀ core,
      CreateOnly codec store key (calls i) response core →
      core.countP isCreate = creates i ∧ core.countP isRemove = removes i)
    (hBad : ∀ size ≤ 1, ∑ i ∈ Finset.range n, creates i ≠ ∑ i ∈ Finset.range n, removes i + size) :
    ¬ Linearizable (createOnlyRegister codec store key) history := by
  rintro ⟨log, rfl, hExplained⟩
  have hVisible : ∀ moment : StoreMoment, moment.isVisible = true → moment ∈ log → moment ∈ log.filter Moment.isVisible :=
    fun moment hMoment hMem => mem_filter.mpr ⟨hMem, hMoment⟩
  have hIds : ∀ i act, .act i act ∈ log → i ∈ Finset.range n := by
    intro i act hAct
    obtain ⟨call, hInvoked⟩ := hExplained.invoked_of_act hAct
    exact Finset.mem_range.mpr (hCalls i call (hVisible _ rfl hInvoked)).1
  have hEach : ∀ i ∈ Finset.range n, (actsOf i log).countP isCreate = creates i ∧
      (actsOf i log).countP isRemove = removes i := by
    intro i hi
    obtain ⟨response, hResponse, hCore⟩ := hCounts i (Finset.mem_range.mp hi)
    obtain ⟨call, hInvoked, core, hExplains, -, hEffects⟩ :=
      hExplained.of_response (mem_of_mem_filter hResponse)
    obtain rfl := (hCalls i call (hVisible _ rfl hInvoked)).2
    have hSame := hCore core hExplains
    constructor
    · rw [countP_of_filter_eq _ hEffects, hSame.1]
      rintro ⟨⟩ <;> simp [isCreate, isEffect]
    · rw [countP_of_filter_eq _ hEffects, hSame.2]
      rintro ⟨⟩ <;> simp [isRemove, isEffect]
  obtain ⟨final, hFinal⟩ := Option.isSome_iff_exists.mp hExplained.legal
  have hBalance := creates_eq_removes_add hFinal
  rw [countP_acts isCreate hIds, countP_acts isRemove hIds, Finset.sum_congr rfl fun i hi => (hEach i hi).1,
    Finset.sum_congr rfl fun i hi => (hEach i hi).2] at hBalance
  refine hBad final.toList.length ?_ hBalance
  cases final <;> simp

def sampleCreated (stored : Stored) : StoreResponse :=
  ⟨.ok (.put (.created (stored.object plainCodec sampleStore sampleObjectKey))), false⟩

theorem secondLookRun_history : sampleHistory secondLookRun = [
    .invoke 0 (.putIfAbsent [65]), .response 0 (sampleCreated ⟨[65], 2⟩),
    .invoke 1 (.putIfAbsent [65]),
    .invoke 2 (.deleteExact sampleDescriptor), .response 2 ⟨.ok (.deleted .removed), false⟩,
    .invoke 3 (.putIfAbsent [66]), .response 3 (sampleCreated ⟨[66], 4⟩),
    .response 1 ⟨.ok (.put (.alreadyExists (Stored.object plainCodec sampleStore sampleObjectKey ⟨[66], 4⟩))), false⟩] := by
  decide +kernel

theorem unsureRemovalRun_history : sampleHistory unsureRemovalRun = [
    .invoke 0 (.putIfAbsent [65]), .response 0 (sampleCreated ⟨[65], 2⟩),
    .invoke 1 (.deleteExact sampleDescriptor),
    .invoke 2 (.deleteExact sampleDescriptor), .response 2 ⟨.ok (.deleted .removed), false⟩,
    .response 1 ⟨.ok (.deleted .removed), true⟩] := by
  decide +kernel

theorem unsureStaleRun_history : sampleHistory unsureStaleRun = [
    .invoke 0 (.putIfAbsent [65]), .response 0 (sampleCreated ⟨[65], 2⟩),
    .invoke 1 (.deleteExact sampleDescriptor),
    .invoke 2 (.putIfAbsent [66]), .response 2 (sampleCreated ⟨[66], 4⟩),
    .response 1 ⟨.ok (.deleted .stale), true⟩] := by
  decide +kernel

theorem secondLookRun_not_createOnly :
    ¬ Linearizable (createOnlyRegister plainCodec sampleStore sampleObjectKey) (sampleHistory secondLookRun) := by
  rintro ⟨log, hLog, hExplained⟩
  rw [secondLookRun_history] at hLog
  have hVisible : ∀ moment : StoreMoment, moment.isVisible = true →
      (moment ∈ log ↔ moment ∈ log.filter Moment.isVisible) := by
    intro moment hMoment
    simp [hMoment]
  obtain ⟨call, hInvoked, core, hCore, -⟩ := hExplained.of_response ((hVisible (.response 1
    ⟨.ok (.put (.alreadyExists (Stored.object plainCodec sampleStore sampleObjectKey ⟨[66], 4⟩))), false⟩) rfl).mpr
      (by simp [hLog]))
  -- The answer carries the bytes of the other put.
  obtain rfl : call = .putIfAbsent [65] := by simpa [hLog] using (hVisible _ rfl).mp hInvoked
  obtain ⟨stored, -, hBytes, hObject⟩ := hCore
  have hOther : [66] = stored.bytes := congrArg ProofArtifactObject.bytes hObject
  rw [hBytes] at hOther
  exact absurd hOther (by decide)

theorem unsureRemovalRun_not_createOnly :
    ¬ Linearizable (createOnlyRegister plainCodec sampleStore sampleObjectKey) (sampleHistory unsureRemovalRun) := by
  rw [unsureRemovalRun_history]
  apply not_linearizable_of_counts 3 (fun i => if i = 0 then .putIfAbsent [65] else .deleteExact sampleDescriptor)
    (fun i => if i = 0 then 1 else 0) (fun i => if i = 0 then 0 else 1)
  · intro i call hInvoked
    simp at hInvoked
    rcases hInvoked with ⟨rfl, rfl⟩ | ⟨rfl, rfl⟩ | ⟨rfl, rfl⟩ <;> exact ⟨by decide, rfl⟩
  · intro i hi
    interval_cases i
    · refine ⟨sampleCreated ⟨[65], 2⟩, by simp, ?_⟩
      rintro core ⟨stored, rfl, -⟩
      exact ⟨rfl, rfl⟩
    · refine ⟨⟨.ok (.deleted .removed), true⟩, by simp, ?_⟩
      rintro core ⟨stored, rfl, -⟩
      exact ⟨rfl, rfl⟩
    · refine ⟨⟨.ok (.deleted .removed), false⟩, by simp, ?_⟩
      rintro core ⟨stored, rfl, -⟩
      exact ⟨rfl, rfl⟩
  · intro size _
    simp [Finset.sum_range_succ]
    omega

theorem unsureStaleRun_not_createOnly :
    ¬ Linearizable (createOnlyRegister plainCodec sampleStore sampleObjectKey) (sampleHistory unsureStaleRun) := by
  rw [unsureStaleRun_history]
  apply not_linearizable_of_counts 3
    (fun i => if i = 1 then .deleteExact sampleDescriptor else .putIfAbsent (if i = 0 then [65] else [66]))
    (fun i => if i = 1 then 0 else 1) (fun _ => 0)
  · intro i call hInvoked
    simp at hInvoked
    rcases hInvoked with ⟨rfl, rfl⟩ | ⟨rfl, rfl⟩ | ⟨rfl, rfl⟩ <;> exact ⟨by decide, rfl⟩
  · intro i hi
    interval_cases i
    · refine ⟨sampleCreated ⟨[65], 2⟩, by simp, ?_⟩
      rintro core ⟨stored, rfl, -⟩
      exact ⟨rfl, rfl⟩
    · refine ⟨⟨.ok (.deleted .stale), true⟩, by simp, ?_⟩
      rintro core ⟨stored, rfl, -⟩
      exact ⟨rfl, rfl⟩
    · refine ⟨sampleCreated ⟨[66], 4⟩, by simp, ?_⟩
      rintro core ⟨stored, rfl, -⟩
      exact ⟨rfl, rfl⟩
  · intro size _
    simp [Finset.sum_range_succ]
    omega

/-- A put that looks twice, and deletes that answer with what they see after an error, are not the plain operations. -/
theorem proof_store_is_not_create_only :
    (Run StoreState.Allowed sampleStep emptyStore secondLookRun ∧
      ¬ Linearizable (createOnlyRegister plainCodec sampleStore sampleObjectKey) (sampleHistory secondLookRun)) ∧
    (Run StoreState.Allowed sampleStep emptyStore unsureRemovalRun ∧
      ¬ Linearizable (createOnlyRegister plainCodec sampleStore sampleObjectKey) (sampleHistory unsureRemovalRun)) ∧
    (Run StoreState.Allowed sampleStep emptyStore unsureStaleRun ∧
      ¬ Linearizable (createOnlyRegister plainCodec sampleStore sampleObjectKey) (sampleHistory unsureStaleRun)) :=
  ⟨⟨by decide +kernel, secondLookRun_not_createOnly⟩, ⟨by decide +kernel, unsureRemovalRun_not_createOnly⟩,
    ⟨by decide +kernel, unsureStaleRun_not_createOnly⟩⟩

end Samples

end Raiko2.Runtime
