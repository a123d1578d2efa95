import Raiko2.Runtime.ProofStoreSystem

/-!
# Turns on the proof of one key

The turns at which a call looks at the manifest or changes it are its acts on a create-only register.
-/

namespace Raiko2.Runtime

open Lib List RegisterAct Option

/-- No two of the given byte strings have one hash, and a manifest for one of them is read as it was written. -/
structure Codec.Lawful (codec : Codec) (offered : Set Bytes) : Prop where
  contentHash_injOn : Set.InjOn codec.contentHash offered
  parseManifest_manifestJson : ∀ bytes ∈ offered,
    codec.parseManifest (codec.manifestJson (codec.contentHash bytes)) = .ok (codec.contentHash bytes)

variable {codec : Codec} {store : GcsProofArtifactStore} {key : ObjectKey} {offered : Set Bytes}

theorem Codec.Lawful.mono (h : codec.Lawful offered) {fewer : Set Bytes} (hFewer : fewer ⊆ offered) :
    codec.Lawful fewer :=
  ⟨h.contentHash_injOn.mono hFewer, fun bytes hBytes => h.parseManifest_manifestJson bytes (hFewer hBytes)⟩

/-- What the calls of a log want to store. -/
def Offered (log : List StoreMoment) : Set Bytes := {bytes | ∃ i, .invoke i (.putIfAbsent bytes) ∈ log}

theorem offered_append (log more : List StoreMoment) : Offered log ⊆ Offered (log ++ more) := by
  rintro bytes ⟨i, hInvoked⟩
  exact ⟨i, mem_append_left more hInvoked⟩

theorem offered_concat {log : List StoreMoment} {moment : StoreMoment}
    (hMoment : ∀ i bytes, moment ≠ .invoke i (.putIfAbsent bytes)) : Offered (log ++ [moment]) ⊆ Offered log := by
  rintro bytes ⟨i, hInvoked⟩
  exact ⟨i, (mem_append.mp hInvoked).resolve_right fun h => hMoment i bytes (mem_singleton.mp h).symm⟩

section Objects

variable {objects : Table String GcsObject} {bytes : Bytes}

variable (codec store key) in
def HasContent (objects : Table String GcsObject) (bytes : Bytes) : Prop :=
  ∃ generation, objects.lookup (store.contentName key (codec.contentHash bytes)) = some ⟨bytes, generation⟩

variable (codec) in
def Stored.manifest (stored : Stored) : GcsObject :=
  ⟨codec.manifestJson (codec.contentHash stored.bytes), stored.generation⟩

variable (codec store key) in
/-- The objects of one key: a manifest names content that is there, and every content object has the name of its hash. -/
structure WellKept (offered : Set Bytes) (objects : Table String GcsObject) : Prop where
  manifest : objects.lookup (store.manifestName key) = (registerOf codec store key objects).map (Stored.manifest codec)
  content : ∀ stored, registerOf codec store key objects = some stored → HasContent codec store key objects stored.bytes
  contents : ∀ hash object, objects.lookup (store.contentName key hash) = some object →
    codec.contentHash object.bytes = hash ∧ object.bytes ∈ offered

theorem WellKept.mono (h : WellKept codec store key offered objects) {more : Set Bytes} (hMore : offered ⊆ more) :
    WellKept codec store key more objects where
  manifest := h.manifest
  content := h.content
  contents hash object hObject := ⟨(h.contents hash object hObject).1, hMore (h.contents hash object hObject).2⟩

theorem WellKept.mem_offered (h : WellKept codec store key offered objects)
    (hContent : HasContent codec store key objects bytes) : bytes ∈ offered := by
  obtain ⟨generation, hContent⟩ := hContent
  exact (h.contents _ _ hContent).2

theorem registerOf_eq_none (h : objects.lookup (store.manifestName key) = none) :
    registerOf codec store key objects = none := by
  rw [registerOf, h]
  rfl

theorem registerOf_eq_some (hCodec : codec.Lawful offered) {stored : Stored} (hOffered : stored.bytes ∈ offered)
    (h : objects.lookup (store.manifestName key) = some (stored.manifest codec))
    (hContent : HasContent codec store key objects stored.bytes) :
    registerOf codec store key objects = some stored := by
  obtain ⟨generation, hContent⟩ := hContent
  simp only [registerOf, h, Stored.manifest, hCodec.parseManifest_manifestJson _ hOffered, Except.toOption, bind_eq_bind,
    bind_some, hContent]
  rfl

theorem WellKept.of_manifest (hCodec : codec.Lawful offered) {current : Option Stored}
    (hManifest : objects.lookup (store.manifestName key) = current.map (Stored.manifest codec))
    (hContent : ∀ stored, current = some stored → HasContent codec store key objects stored.bytes)
    (hContents : ∀ hash object, objects.lookup (store.contentName key hash) = some object →
      codec.contentHash object.bytes = hash ∧ object.bytes ∈ offered) :
    WellKept codec store key offered objects ∧ registerOf codec store key objects = current := by
  have hRegister : registerOf codec store key objects = current := by
    cases current with
    | none => exact registerOf_eq_none hManifest
    | some stored =>
      obtain ⟨generation, hLookup⟩ := hContent stored rfl
      exact registerOf_eq_some hCodec (hContents _ _ hLookup).2 hManifest ⟨generation, hLookup⟩
  refine ⟨⟨?_, ?_, hContents⟩, hRegister⟩
  · rw [hRegister]
    exact hManifest
  · rw [hRegister]
    exact hContent

theorem HasContent.mono {objects' : Table String GcsObject} (h : HasContent codec store key objects bytes)
    (hContents : ∀ hash object, objects.lookup (store.contentName key hash) = some object →
      objects'.lookup (store.contentName key hash) = some object) : HasContent codec store key objects' bytes := by
  obtain ⟨generation, h⟩ := h
  exact ⟨generation, hContents _ _ h⟩

theorem lookup_content_insert {name : String} {object : GcsObject} (hAbsent : objects.lookup name = none) :
    ∀ name' object', objects.lookup name' = some object' → (objects.insert name object).lookup name' = some object' := by
  intro name' object' h
  rw [Table.lookup_insert_ite, if_neg]
  · exact h
  · rintro rfl
    rw [hAbsent] at h
    cases h

theorem WellKept.insert_content (hCodec : codec.Lawful offered) (h : WellKept codec store key offered objects)
    (hBytes : bytes ∈ offered) (generation : Int64)
    (hAbsent : objects.lookup (store.contentName key (codec.contentHash bytes)) = none) :
    WellKept codec store key offered
        (objects.insert (store.contentName key (codec.contentHash bytes)) ⟨bytes, generation⟩) ∧
      registerOf codec store key
        (objects.insert (store.contentName key (codec.contentHash bytes)) ⟨bytes, generation⟩) =
        registerOf codec store key objects := by
  apply WellKept.of_manifest hCodec
  · rw [Table.lookup_insert_ite, if_neg (store.contentName_ne_manifestName _).symm]
    exact h.manifest
  · intro stored hStored
    exact (h.content stored hStored).mono fun hash => lookup_content_insert hAbsent _
  · intro hash object hObject
    rcases Table.lookup_insert_eq_some.mp hObject with ⟨hName, rfl⟩ | ⟨_, hOld⟩
    · exact ⟨(store.contentName_injective hName).symm, hBytes⟩
    · exact h.contents hash object hOld

theorem WellKept.insert_manifest (hCodec : codec.Lawful offered) (h : WellKept codec store key offered objects)
    (generation : Int64) (hContent : HasContent codec store key objects bytes) :
    WellKept codec store key offered
        (objects.insert (store.manifestName key) (Stored.manifest codec ⟨bytes, generation⟩)) ∧
      registerOf codec store key
        (objects.insert (store.manifestName key) (Stored.manifest codec ⟨bytes, generation⟩)) =
        some ⟨bytes, generation⟩ := by
  have hContents : ∀ hash, (objects.insert (store.manifestName key) (Stored.manifest codec ⟨bytes, generation⟩)).lookup
      (store.contentName key hash) = objects.lookup (store.contentName key hash) := by
    intro hash
    rw [Table.lookup_insert_ite, if_neg (store.contentName_ne_manifestName hash)]
  apply WellKept.of_manifest hCodec
  · exact AList.lookup_insert objects
  · rintro stored ⟨⟩
    exact hContent.mono fun hash object hObject => (hContents hash).trans hObject
  · intro hash object hObject
    rw [hContents] at hObject
    exact h.contents hash object hObject

theorem WellKept.erase_manifest (hCodec : codec.Lawful offered) (h : WellKept codec store key offered objects) :
    WellKept codec store key offered (objects.erase (store.manifestName key)) ∧
      registerOf codec store key (objects.erase (store.manifestName key)) = none := by
  apply WellKept.of_manifest hCodec
  · exact AList.lookup_erase _ objects
  · rintro stored ⟨⟩
  · intro hash object hObject
    exact h.contents hash object (Table.lookup_erase_eq_some.mp hObject).2

end Objects

section Invariant

variable {s s' t : Shared} {i : Nat} {call : StoreCall}

theorem created_of_after {current : Option Stored} {done : List RegisterAct} {stored : Stored}
    (h : (reexaminedRegister codec store key).after current done = some (some stored)) :
    current = some stored ∨ .create stored ∈ done := by
  induction done generalizing current with
  | nil =>
    left
    exact some.inj h
  | cons act done ih =>
    obtain ⟨next, hApply, hRest⟩ := bind_eq_some_iff.mp h
    rcases ih hRest with rfl | hLater
    · simp only [reexaminedRegister] at hApply
      cases act with
      | create stored' =>
        right
        simp only [apply, ite_none_right_eq_some, some.injEq] at hApply
        rw [hApply.2]
        exact mem_cons_self
      | observe found =>
        left
        simp only [apply, ite_none_right_eq_some, some.injEq] at hApply
        exact hApply.2
      | remove stored' => simp [apply] at hApply
    · exact .inr (mem_cons_of_mem act hLater)

variable (codec store key) in
structure StoreInv (s : Shared) : Prop where
  lawful : codec.Lawful (Offered s.log)
  explained : Explained (reexaminedRegister codec store key) s.log
  register : (reexaminedRegister codec store key).after none (acts s.log) =
    some (registerOf codec store key s.bucket.objects)
  kept : WellKept codec store key (Offered s.log) s.bucket.objects
  known : ∀ stored, .create stored ∈ acts s.log → stored.generation ∈ s.bucket.used
  unique : ∀ stored stored', .create stored ∈ acts s.log → .create stored' ∈ acts s.log →
    stored.generation = stored'.generation → stored = stored'

section Keeping

variable (h : StoreInv codec store key s)

include h

theorem StoreInv.created {stored : Stored}
    (hStored : registerOf codec store key s.bucket.objects = some stored) : .create stored ∈ acts s.log := by
  have hRegister := h.register
  rw [hStored] at hRegister
  exact (created_of_after hRegister).resolve_left (some_ne_none stored).symm

variable (store key) in
def KeepsContents (objects objects' : Table String GcsObject) : Prop :=
  ∀ hash object, objects.lookup (store.contentName key hash) = some object →
    objects'.lookup (store.contentName key hash) = some object

variable (codec store key) in
/-- A bucket after a request that leaves the register as it is. -/
structure Quiet (s : Shared) (bucket : Bucket) : Prop where
  kept : WellKept codec store key (Offered s.log) bucket.objects
  same : registerOf codec store key bucket.objects = registerOf codec store key s.bucket.objects
  used : s.bucket.used ⊆ bucket.used
  contents : KeepsContents store key s.bucket.objects bucket.objects

variable (codec store key) in
/-- A bucket after a request with which a call makes an act on the register. -/
structure Acted (call : StoreCall) (done : List RegisterAct) (act : RegisterAct) (s : Shared) (bucket : Bucket) : Prop where
  kept : WellKept codec store key (Offered s.log) bucket.objects
  apply : act.apply (registerOf codec store key s.bucket.objects) = some (registerOf codec store key bucket.objects)
  mayHaveDone : MayHaveDone codec store key call ((done ++ [act]).filter isEffect)
  used : s.bucket.used ⊆ bucket.used
  fresh : ∀ stored, act = .create stored → stored.generation ∉ s.bucket.used ∧ stored.generation ∈ bucket.used
  contents : KeepsContents store key s.bucket.objects bucket.objects

theorem StoreInv.quiet : Quiet codec store key s s.bucket :=
  ⟨h.kept, rfl, List.Subset.refl _, fun _ _ hObject => hObject⟩

theorem StoreInv.silent {bucket : Bucket} {failed : List Nat}
    (hQuiet : Quiet codec store key s bucket) : StoreInv codec store key ⟨bucket, s.log, failed⟩ where
  lawful := h.lawful
  explained := h.explained
  register := by
    rw [hQuiet.same]
    exact h.register
  kept := hQuiet.kept
  known stored hStored := hQuiet.used (h.known stored hStored)
  unique := h.unique

theorem StoreInv.visible {moment : StoreMoment} (hMoment : moment.anyAct = none)
    (hLawful : codec.Lawful (Offered (s.log ++ [moment])))
    (hExplained : Explained (reexaminedRegister codec store key) (s.log ++ [moment])) :
    StoreInv codec store key { s with log := s.log ++ [moment] } := by
  have hActs : acts (s.log ++ [moment]) = acts s.log := by
    rw [acts_concat, hMoment]
    exact append_nil _
  constructor
  · exact hLawful
  · exact hExplained
  · rw [hActs]
    exact h.register
  · exact h.kept.mono (offered_append _ _)
  · rw [hActs]
    exact h.known
  · rw [hActs]
    exact h.unique

theorem StoreInv.act {bucket : Bucket} {failed : List Nat} {act : RegisterAct}
    (hOpen : Open s.log i call) (hActed : Acted codec store key call (actsOf i s.log) act s bucket) :
    StoreInv codec store key ⟨bucket, s.log ++ [.act i act], failed⟩ := by
  have hActs : acts (s.log ++ [.act i act]) = acts s.log ++ [act] := acts_concat _
  have hRegister : (reexaminedRegister codec store key).after none (acts s.log ++ [act]) =
      some (registerOf codec store key bucket.objects) := by
    rw [Specification.after_append, h.register, bind_some]
    change (act.apply _).bind some = _
    rw [hActed.apply, bind_some]
  have hMem : ∀ stored, .create stored ∈ acts s.log ++ [act] → .create stored ∈ acts s.log ∨ act = .create stored := by
    intro stored hStored
    rcases mem_append.mp hStored with hEarlier | hNow
    · exact .inl hEarlier
    · exact .inr (mem_singleton.mp hNow).symm
  constructor
  · exact h.lawful.mono (offered_concat (by simp))
  · refine h.explained.act hOpen ?_ hActed.mayHaveDone
    exact isSome_of_eq_some hRegister
  · rw [hActs]
    exact hRegister
  · exact hActed.kept.mono (offered_append _ _)
  · intro stored hStored
    rcases hMem stored (hActs ▸ hStored) with hEarlier | hNow
    · exact hActed.used (h.known stored hEarlier)
    · exact (hActed.fresh stored hNow).2
  · -- A new generation is none of the old ones.
    intro stored stored' hStored hStored' hSame
    rcases hMem stored (hActs ▸ hStored) with hEarlier | hNow
    · rcases hMem stored' (hActs ▸ hStored') with hEarlier' | hNow'
      · exact h.unique stored stored' hEarlier hEarlier' hSame
      · exact absurd (hSame ▸ h.known stored hEarlier) (hActed.fresh stored' hNow').1
    · rcases hMem stored' (hActs ▸ hStored') with hEarlier' | hNow'
      · exact absurd (hSame ▸ h.known stored' hEarlier') (hActed.fresh stored hNow).1
      · rw [hNow] at hNow'
        exact create.inj hNow'

end Keeping

variable (store key) in
/-- The log has grown by moments of some calls; contents and failures stay. -/
structure Grows (calls : Nat → Prop) (s s' : Shared) : Prop where
  log : ∃ more, s'.log = s.log ++ more ∧ ∀ moment ∈ more, calls moment.call
  contents : KeepsContents store key s.bucket.objects s'.bucket.objects
  failedDeletes : s.failedDeletes ⊆ s'.failedDeletes

theorem Grows.refl (calls : Nat → Prop) (s : Shared) : Grows store key calls s s where
  log := ⟨[], (append_nil _).symm, by simp⟩
  contents _ _ h := h
  failedDeletes _ h := h

theorem Grows.offered_mono {calls : Nat → Prop} (h : Grows store key calls s s') : Offered s.log ⊆ Offered s'.log := by
  obtain ⟨more, hLog, -⟩ := h.log
  rw [hLog]
  exact offered_append s.log more

theorem Grows.trans {calls : Nat → Prop} (h : Grows store key calls s s') (h' : Grows store key calls s' t) :
    Grows store key calls s t where
  log := by
    obtain ⟨more, hLog, hMore⟩ := h.log
    obtain ⟨more', hLog', hMore'⟩ := h'.log
    refine ⟨more ++ more', by rw [hLog', hLog, append_assoc], ?_⟩
    intro moment hMoment
    rcases mem_append.mp hMoment with hFirst | hSecond
    · exact hMore moment hFirst
    · exact hMore' moment hSecond
  contents hash object hObject := h'.contents hash object (h.contents hash object hObject)
  failedDeletes _ hCall := h'.failedDeletes (h.failedDeletes hCall)

theorem Grows.mono {calls calls' : Nat → Prop} (h : Grows store key calls s s') (hCalls : ∀ j, calls j → calls' j) :
    Grows store key calls' s s' where
  log := by
    obtain ⟨more, hLog, hMore⟩ := h.log
    exact ⟨more, hLog, fun moment hMoment => hCalls _ (hMore moment hMoment)⟩
  contents := h.contents
  failedDeletes := h.failedDeletes

variable (codec store key) in
def storeContract : Contract Shared Nat GcsRequest GcsRequest.Ans where
  Step i s request answer s' := ∃ fault generation, generation ∉ s.bucket.used ∧
    (answer, s') = s.turn codec store key i fault generation request
  Inv := StoreInv codec store key
  Rely i := Grows store key (· ≠ i)
  Guar i := Grows store key (· = i)
  rely_refl _ s := Grows.refl _ s
  rely_trans h h' := h.trans h'
  guar_rely hNe h := h.mono fun _ hj => hj ▸ hNe

end Invariant

section Turns

variable {s s' : Shared} {i : Nat} {call : StoreCall} {done : List RegisterAct} {bucket : Bucket} {failed : List Nat}

variable (codec store key) in
/-- A call under way, with its acts so far. The proofs that it has seen stay known. -/
structure Doing (i : Nat) (call : StoreCall) (done : List RegisterAct) (s : Shared) : Prop where
  opened : Open s.log i call
  acts : actsOf i s.log = done
  seen : ∀ stored, .observe (some stored) ∈ done →
    HasContent codec store key s.bucket.objects stored.bytes ∧ .create stored ∈ Lib.acts s.log

theorem mem_acts_append {log more : List StoreMoment} {act : RegisterAct} (h : act ∈ acts log) :
    act ∈ acts (log ++ more) := by
  rw [acts, filterMap_append]
  exact mem_append_left _ h

theorem Doing.rely (h : Doing codec store key i call done s) (hGrows : Grows store key (· ≠ i) s s') :
    Doing codec store key i call done s' := by
  obtain ⟨more, hLog, hMore⟩ := hGrows.log
  constructor
  · rw [hLog]
    exact h.opened.append hMore
  · rw [hLog, actsOf_append_of_call_ne hMore]
    exact h.acts
  · intro stored hStored
    obtain ⟨hContent, hCreated⟩ := h.seen stored hStored
    rw [hLog]
    exact ⟨hContent.mono hGrows.contents, mem_acts_append hCreated⟩

variable (codec store key) in
def Turned (i : Nat) (call : StoreCall) (done : List RegisterAct) (s s' : Shared) : Prop :=
  StoreInv codec store key s' ∧ Grows store key (· = i) s s' ∧ Doing codec store key i call done s'

variable (hInv : StoreInv codec store key s) (h : Doing codec store key i call done s)

include hInv h

theorem turned_silent (hQuiet : Quiet codec store key s bucket) (hFailed : s.failedDeletes ⊆ failed) :
    Turned codec store key i call done s ⟨bucket, s.log, failed⟩ := by
  refine ⟨hInv.silent hQuiet, ⟨⟨[], (append_nil _).symm, by simp⟩, hQuiet.contents, hFailed⟩, ?_⟩
  refine ⟨h.opened, h.acts, ?_⟩
  intro stored hStored
  obtain ⟨hContent, hCreated⟩ := h.seen stored hStored
  exact ⟨hContent.mono hQuiet.contents, hCreated⟩

theorem turned_act {act : RegisterAct}
    (hActed : Acted codec store key call done act s bucket) (hFailed : s.failedDeletes ⊆ failed) :
    Turned codec store key i call (done ++ [act]) s ⟨bucket, s.log ++ [.act i act], failed⟩ := by
  have hInv' : StoreInv codec store key ⟨bucket, s.log ++ [.act i act], failed⟩ := hInv.act h.opened (h.acts ▸ hActed)
  refine ⟨hInv', ⟨⟨_, rfl, by simp [Moment.call]⟩, hActed.contents, hFailed⟩, h.opened.acts i [act], ?_, ?_⟩
  · rw [actsOf_concat, h.acts]
    simp [Moment.actOf]
  · intro stored hStored
    rcases mem_append.mp hStored with hEarlier | hNow
    · obtain ⟨hContent, hCreated⟩ := h.seen stored hEarlier
      exact ⟨hContent.mono hActed.contents, mem_acts_append hCreated⟩
    · -- What is seen now is what the register holds, before and after.
      obtain rfl := mem_singleton.mp hNow
      have hApply := hActed.apply
      simp only [apply, ite_none_right_eq_some, some.injEq] at hApply
      obtain ⟨hFound, hSame⟩ := hApply
      have hStored' : registerOf codec store key bucket.objects = some stored := hSame.symm.trans hFound
      exact ⟨hActed.kept.content stored hStored', hInv'.created hStored'⟩

theorem turned_look {found : Option Stored} (hFound : registerOf codec store key s.bucket.objects = found) :
    Turned codec store key i call (done ++ [.observe found]) s
      { s with log := s.log ++ [.act i (.observe found)] } := by
  subst hFound
  refine turned_act hInv h ⟨hInv.kept, if_pos rfl, ?_, List.Subset.refl _, by rintro stored ⟨⟩, hInv.quiet.contents⟩
    (List.Subset.refl _)
  rw [filter_append]
  have hDone := hInv.explained.unanswered i call h.opened.invoked h.opened.unanswered
  rw [h.acts] at hDone
  exact (append_nil (done.filter isEffect)).symm ▸ hDone

end Turns

section Requests

variable {s s' : Shared} {i : Nat} {call : StoreCall} {done : List RegisterAct} {fault : Fault} {generation : Int64}

theorem Fault.serve_cases (fault : Fault) (bucket : Bucket) (generation : Int64) (request : GcsRequest) :
    fault.serve bucket generation request = bucket.serve generation request ∨
      ∃ error, fault.serve bucket generation request = (request.refuse error, bucket) ∨
        fault.serve bucket generation request = (request.refuse error, (bucket.serve generation request).2) := by
  cases fault with
  | none => exact .inl rfl
  | before error => exact .inr ⟨error, .inl rfl⟩
  | after error => exact .inr ⟨error, .inr rfl⟩

theorem noted_of_same {before after : Table String GcsObject} {request : GcsRequest} {answer : request.Ans}
    (h : registerOf codec store key after = registerOf codec store key before) :
    noted codec store key before after request answer =
      if request.name = store.manifestName key && request.answered answer then
        [.observe (registerOf codec store key before)] else [] := by
  rw [noted, h]
  cases registerOf codec store key before <;> rfl

theorem noted_created {before after : Table String GcsObject} {stored : Stored}
    (hBefore : registerOf codec store key before = none) (hAfter : registerOf codec store key after = some stored)
    (request : GcsRequest) (answer : request.Ans) :
    noted codec store key before after request answer = [.create stored] := by
  rw [noted, hBefore, hAfter]

theorem noted_removed {before after : Table String GcsObject} {stored : Stored}
    (hBefore : registerOf codec store key before = some stored) (hAfter : registerOf codec store key after = none)
    (request : GcsRequest) (answer : request.Ans) :
    noted codec store key before after request answer = [.remove stored] := by
  rw [noted, hBefore, hAfter]

theorem refuse_answered (request : GcsRequest) (error : ErrorChain) :
    request.answered (request.refuse error) = false := by
  cases request <;> rfl

theorem mem_failedDeletes_of_turn (request : GcsRequest) {answer : request.Ans}
    (hTurn : (answer, s') = s.turn codec store key i fault generation request)
    (hFailed : request.failedToDelete answer = true) : i ∈ s'.failedDeletes := by
  simp only [Shared.turn, Prod.mk.injEq] at hTurn
  obtain ⟨hAnswer, rfl⟩ := hTurn
  rw [← hAnswer, if_pos hFailed]
  exact mem_cons_self

variable (hInv : StoreInv codec store key s)

include hInv

theorem serve_createContent {bytes : Bytes} (hBytes : bytes ∈ Offered s.log) (generation : Int64) :
    ∃ answer bucket, s.bucket.serve generation (.create (store.contentName key (codec.contentHash bytes)) bytes) =
        (answer, bucket) ∧
      Quiet codec store key s bucket ∧ HasContent codec store key bucket.objects bytes := by
  cases hLookup : s.bucket.objects.lookup (store.contentName key (codec.contentHash bytes)) with
  | none =>
    obtain ⟨hKept, hSame⟩ := hInv.kept.insert_content hInv.lawful hBytes generation hLookup
    exact ⟨_, _, Bucket.serve_create_absent hLookup,
      ⟨hKept, hSame, subset_cons_self _ _, fun hash => lookup_content_insert hLookup _⟩, generation,
      AList.lookup_insert _⟩
  | some object =>
    obtain ⟨hHash, hOffered⟩ := hInv.kept.contents _ _ hLookup
    obtain rfl := hInv.lawful.contentHash_injOn hOffered hBytes hHash
    exact ⟨_, _, Bucket.serve_create_present hLookup, hInv.quiet, object.generation, hLookup⟩

section Doing

variable (h : Doing codec store key i call done s)

include h

section Any

variable {request : GcsRequest} {answer answer' : request.Ans} {bucket : Bucket}

theorem turn_silent (hServe : fault.serve s.bucket generation request = (answer, bucket))
    (hName : (request.name = store.manifestName key && request.answered answer) = false)
    (hQuiet : Quiet codec store key s bucket)
    (hTurn : (answer', s') = s.turn codec store key i fault generation request) :
    answer' = answer ∧ s'.bucket = bucket ∧ Turned codec store key i call done s s' := by
  simp only [Shared.turn, hServe, noted_of_same hQuiet.same, hName, Bool.false_eq_true, if_false, map_nil,
    append_nil, Prod.mk.injEq] at hTurn
  obtain ⟨rfl, rfl⟩ := hTurn
  refine ⟨rfl, rfl, turned_silent hInv h hQuiet ?_⟩
  split
  · exact subset_cons_self i s.failedDeletes
  · exact List.Subset.refl _

theorem turn_look (hServe : fault.serve s.bucket generation request = (answer, s.bucket))
    (hName : request.name = store.manifestName key) (hAnswered : request.answered answer = true)
    (hDelete : request.failedToDelete answer = false)
    (hTurn : (answer', s') = s.turn codec store key i fault generation request) :
    answer' = answer ∧ Turned codec store key i call
      (done ++ [.observe (registerOf codec store key s.bucket.objects)]) s s' := by
  simp only [Shared.turn, hServe, noted_of_same rfl, hName, hAnswered, hDelete, decide_true, Bool.and_true, if_true,
    Bool.false_eq_true, if_false, map_cons, map_nil, Prod.mk.injEq] at hTurn
  obtain ⟨rfl, rfl⟩ := hTurn
  exact ⟨rfl, turned_look hInv h rfl⟩

theorem turn_change {act : RegisterAct} (hServe : (fault.serve s.bucket generation request).2 = bucket)
    (hNoted : ∀ answer, noted codec store key s.bucket.objects bucket.objects request answer = [act])
    (hActed : Acted codec store key call done act s bucket)
    (hTurn : (answer', s') = s.turn codec store key i fault generation request) :
    answer' = (fault.serve s.bucket generation request).1 ∧ Turned codec store key i call (done ++ [act]) s s' := by
  simp only [Shared.turn, hServe, hNoted, map_cons, map_nil, Prod.mk.injEq] at hTurn
  obtain ⟨rfl, rfl⟩ := hTurn
  refine ⟨rfl, turned_act hInv h hActed ?_⟩
  split
  · exact subset_cons_self i s.failedDeletes
  · exact List.Subset.refl _

theorem turn_refused {error : ErrorChain}
    (hServe : fault.serve s.bucket generation request = (request.refuse error, s.bucket))
    (hTurn : (answer', s') = s.turn codec store key i fault generation request) :
    answer' = request.refuse error ∧ Turned codec store key i call done s s' := by
  have hName : (request.name = store.manifestName key && request.answered (request.refuse error)) = false := by
    rw [refuse_answered, Bool.and_false]
  obtain ⟨hAnswer, _, hTurned⟩ := turn_silent hInv h hServe hName hInv.quiet hTurn
  exact ⟨hAnswer, hTurned⟩

end Any

theorem turn_readManifest {answer : Except ErrorChain (Option GcsObject)}
    (hTurn : (answer, s') = s.turn codec store key i fault generation (.read (store.manifestName key))) :
    (∃ found : Option Stored, answer = .ok (found.map (Stored.manifest codec)) ∧
      Turned codec store key i call (done ++ [.observe found]) s s') ∨
    ∃ error, answer = .error error ∧ Turned codec store key i call done s s' := by
  rcases fault.serve_cases s.bucket generation (.read (store.manifestName key)) with hServe | ⟨error, hServe | hServe⟩
  · obtain ⟨rfl, hTurned⟩ := turn_look hInv h hServe rfl rfl rfl hTurn
    refine .inl ⟨_, ?_, hTurned⟩
    rw [← hInv.kept.manifest]
  · exact .inr ⟨error, turn_refused hInv h hServe hTurn⟩
  · exact .inr ⟨error, turn_refused hInv h hServe hTurn⟩

theorem turn_readContent {bytes : Bytes}
    (hContent : HasContent codec store key s.bucket.objects bytes) {answer : Except ErrorChain (Option GcsObject)}
    (hTurn : (answer, s') = s.turn codec store key i fault generation
      (.read (store.contentName key (codec.contentHash bytes)))) :
    ((∃ generation, answer = .ok (some ⟨bytes, generation⟩)) ∨ ∃ error, answer = .error error) ∧
      Turned codec store key i call done s s' := by
  obtain ⟨created, hContent⟩ := hContent
  have hOther : store.contentName key (codec.contentHash bytes) ≠ store.manifestName key :=
    store.contentName_ne_manifestName _
  rcases fault.serve_cases s.bucket generation (.read (store.contentName key (codec.contentHash bytes))) with
    hServe | ⟨error, hServe | hServe⟩
  · obtain ⟨rfl, _, hTurned⟩ := turn_silent hInv h hServe (by simp [GcsRequest.name, hOther]) hInv.quiet hTurn
    exact ⟨.inl ⟨created, congrArg Except.ok hContent⟩, hTurned⟩
  · obtain ⟨rfl, hTurned⟩ := turn_refused hInv h hServe hTurn
    exact ⟨.inr ⟨error, rfl⟩, hTurned⟩
  · obtain ⟨rfl, hTurned⟩ := turn_refused hInv h hServe hTurn
    exact ⟨.inr ⟨error, rfl⟩, hTurned⟩

theorem turn_createContent
    {bytes : Bytes} (hBytes : bytes ∈ Offered s.log) {answer : Except ErrorChain GcsCreateResult}
    (hTurn : (answer, s') = s.turn codec store key i fault generation
      (.create (store.contentName key (codec.contentHash bytes)) bytes)) :
    Turned codec store key i call done s s' ∧
      ∀ result, answer = .ok result → HasContent codec store key s'.bucket.objects bytes := by
  have hOther : store.contentName key (codec.contentHash bytes) ≠ store.manifestName key :=
    store.contentName_ne_manifestName _
  obtain ⟨answer₀, bucket, hServe₀, hQuiet, hHas⟩ := serve_createContent hInv hBytes generation
  rcases fault.serve_cases s.bucket generation (.create (store.contentName key (codec.contentHash bytes)) bytes) with
    hServe | ⟨error, hServe | hServe⟩
  · obtain ⟨rfl, hBucket, hTurned⟩ :=
      turn_silent hInv h (hServe.trans hServe₀) (by simp [GcsRequest.name, hOther]) hQuiet hTurn
    exact ⟨hTurned, fun result _ => hBucket ▸ hHas⟩
  · obtain ⟨rfl, hTurned⟩ := turn_refused hInv h hServe hTurn
    exact ⟨hTurned, by rintro result ⟨⟩⟩
  · rw [hServe₀] at hServe
    obtain ⟨rfl, _, hTurned⟩ := turn_silent hInv h hServe (by simp [GcsRequest.name, hOther]) hQuiet hTurn
    exact ⟨hTurned, by rintro result ⟨⟩⟩

end Doing

theorem turn_createManifest {bytes : Bytes}
    (h : Doing codec store key i (.putIfAbsent bytes) done s) (hDone : done.filter isEffect = [])
    (hContent : HasContent codec store key s.bucket.objects bytes) (hFresh : generation ∉ s.bucket.used)
    {answer : Except ErrorChain GcsCreateResult}
    (hTurn : (answer, s') = s.turn codec store key i fault generation
      (.create (store.manifestName key) (codec.manifestJson (codec.contentHash bytes)))) :
    (answer = .ok (.created generation) ∧
      Turned codec store key i (.putIfAbsent bytes) (done ++ [.create ⟨bytes, generation⟩]) s s') ∨
    (∃ found, answer = .ok .alreadyExists ∧
      Turned codec store key i (.putIfAbsent bytes) (done ++ [.observe found]) s s') ∨
    ∃ error done', answer = .error error ∧ Turned codec store key i (.putIfAbsent bytes) done' s s' := by
  have hCases := fault.serve_cases s.bucket generation
    (.create (store.manifestName key) (codec.manifestJson (codec.contentHash bytes)))
  have hManifest := hInv.kept.manifest
  cases hRegister : registerOf codec store key s.bucket.objects with
  | some stored =>
    rw [hRegister, map_some] at hManifest
    rw [Bucket.serve_create_present hManifest] at hCases
    rcases hCases with hServe | ⟨error, hServe | hServe⟩
    · obtain ⟨rfl, hTurned⟩ := turn_look hInv h hServe rfl rfl rfl hTurn
      exact .inr (.inl ⟨_, rfl, hTurned⟩)
    · exact .inr (.inr ⟨error, done, turn_refused hInv h hServe hTurn⟩)
    · exact .inr (.inr ⟨error, done, turn_refused hInv h hServe hTurn⟩)
  | none =>
    rw [hRegister, map_none] at hManifest
    rw [Bucket.serve_create_absent hManifest] at hCases
    obtain ⟨hKept, hStored⟩ := hInv.kept.insert_manifest hInv.lawful generation hContent
    have hActed : Acted codec store key (.putIfAbsent bytes) done (.create ⟨bytes, generation⟩) s
        ⟨s.bucket.objects.insert (store.manifestName key) (Stored.manifest codec ⟨bytes, generation⟩),
          generation :: s.bucket.used⟩ := by
      refine ⟨hKept, ?_, ?_, subset_cons_self _ _, ?_, fun hash => lookup_content_insert hManifest _⟩
      · rw [hRegister, hStored]
        rfl
      · rw [filter_append, hDone]
        exact .inr ⟨_, rfl, rfl⟩
      · rintro stored ⟨⟩
        exact ⟨hFresh, mem_cons_self⟩
    have hNoted := noted_created hRegister hStored
    rcases hCases with hServe | ⟨error, hServe | hServe⟩
    · obtain ⟨hAnswer, hTurned⟩ := turn_change hInv h (congrArg Prod.snd hServe) (hNoted _) hActed hTurn
      exact .inl ⟨hAnswer.trans (congrArg Prod.fst hServe), hTurned⟩
    · exact .inr (.inr ⟨error, done, turn_refused hInv h hServe hTurn⟩)
    · obtain ⟨hAnswer, hTurned⟩ := turn_change hInv h (congrArg Prod.snd hServe) (hNoted _) hActed hTurn
      exact .inr (.inr ⟨error, _, hAnswer.trans (congrArg Prod.fst hServe), hTurned⟩)

theorem turn_deleteManifest {stored : Stored}
    (h : Doing codec store key i (.deleteExact (stored.descriptor codec store key)) done s)
    (hDone : done.filter isEffect = []) (hSeen : .observe (some stored) ∈ done)
    {answer : Except ErrorChain ProofArtifactDeleteResult}
    (hTurn : (answer, s') = s.turn codec store key i fault generation
      (.deleteIfGeneration (store.manifestName key) (some stored.generation))) :
    (answer = .ok .removed ∧ Turned codec store key i (.deleteExact (stored.descriptor codec store key))
      (done ++ [.remove stored]) s s') ∨
    (answer = .ok .missing ∧ Turned codec store key i (.deleteExact (stored.descriptor codec store key))
      (done ++ [.observe none]) s s') ∨
    ∃ error done', answer = .error error ∧ (done' = done ∨ done' = done ++ [.remove stored]) ∧
      Turned codec store key i (.deleteExact (stored.descriptor codec store key)) done' s s' := by
  have hCases := fault.serve_cases s.bucket generation
    (.deleteIfGeneration (store.manifestName key) (some stored.generation))
  have hManifest := hInv.kept.manifest
  cases hRegister : registerOf codec store key s.bucket.objects with
  | none =>
    rw [hRegister, map_none] at hManifest
    rw [Bucket.serve_delete_absent hManifest] at hCases
    rcases hCases with hServe | ⟨error, hServe | hServe⟩
    · obtain ⟨rfl, hTurned⟩ := turn_look hInv h hServe rfl rfl rfl hTurn
      exact .inr (.inl ⟨rfl, hRegister ▸ hTurned⟩)
    · obtain ⟨hAnswer, hTurned⟩ := turn_refused hInv h hServe hTurn
      exact .inr (.inr ⟨error, done, hAnswer, .inl rfl, hTurned⟩)
    · obtain ⟨hAnswer, hTurned⟩ := turn_refused hInv h hServe hTurn
      exact .inr (.inr ⟨error, done, hAnswer, .inl rfl, hTurned⟩)
  | some current =>
    rw [hRegister, map_some] at hManifest
    rw [Bucket.serve_delete_present hManifest] at hCases
    by_cases hGeneration : stored.generation = current.generation
    · -- One generation, one proof.
      obtain rfl := hInv.unique stored current (h.seen stored hSeen).2 (hInv.created hRegister) hGeneration
      rw [if_pos (show stored.generation = (stored.manifest codec).generation from rfl)] at hCases
      obtain ⟨hKept, hEmpty⟩ := hInv.kept.erase_manifest hInv.lawful
      have hActed : Acted codec store key (.deleteExact (stored.descriptor codec store key)) done (.remove stored) s
          { s.bucket with objects := s.bucket.objects.erase (store.manifestName key) } := by
        refine ⟨hKept, ?_, ?_, List.Subset.refl _, by rintro stored ⟨⟩, fun hash object hObject => ?_⟩
        · rw [hRegister, hEmpty]
          exact if_pos rfl
        · rw [filter_append, hDone]
          exact .inr ⟨_, rfl, rfl⟩
        · rw [Table.lookup_erase_ite, if_neg (store.contentName_ne_manifestName hash)]
          exact hObject
      have hNoted := noted_removed hRegister hEmpty
      rcases hCases with hServe | ⟨error, hServe | hServe⟩
      · obtain ⟨hAnswer, hTurned⟩ := turn_change hInv h (congrArg Prod.snd hServe) (hNoted _) hActed hTurn
        exact .inl ⟨hAnswer.trans (congrArg Prod.fst hServe), hTurned⟩
      · obtain ⟨hAnswer, hTurned⟩ := turn_refused hInv h hServe hTurn
        exact .inr (.inr ⟨error, done, hAnswer, .inl rfl, hTurned⟩)
      · obtain ⟨hAnswer, hTurned⟩ := turn_change hInv h (congrArg Prod.snd hServe) (hNoted _) hActed hTurn
        exact .inr (.inr ⟨error, _, hAnswer.trans (congrArg Prod.fst hServe), .inr rfl, hTurned⟩)
    · rw [if_neg (show stored.generation ≠ (current.manifest codec).generation from hGeneration)] at hCases
      obtain ⟨error, hServe⟩ : ∃ error, fault.serve s.bucket generation
          (.deleteIfGeneration (store.manifestName key) (some stored.generation)) = (.error error, s.bucket) := by
        rcases hCases with hServe | ⟨error, hServe | hServe⟩
        · exact ⟨_, hServe⟩
        · exact ⟨error, hServe⟩
        · exact ⟨error, hServe⟩
      obtain ⟨hAnswer, hTurned⟩ := turn_refused hInv h hServe hTurn
      exact .inr (.inr ⟨error, done, hAnswer, .inl rfl, hTurned⟩)

end Requests

end Raiko2.Runtime
