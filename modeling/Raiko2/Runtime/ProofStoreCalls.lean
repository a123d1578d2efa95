import Raiko2.Runtime.ProofStoreTurns

/-!
# The calls of the proof store

Each call of the proof store taken through its turns: when it answers, the acts that it has made explain the answer.
-/

namespace Raiko2.Runtime

open Lib Contract RegisterAct List

variable {codec : Codec} {store : GcsProofArtifactStore} {key : ObjectKey}

section Programs

variable {s : Shared} {i : Nat} {call : StoreCall} {done : List RegisterAct}

section Sending

variable (h : Doing codec store key i call done s)

include h

theorem safe_sendReadManifest :
    (storeContract codec store key).SafeOk i (sendRead (store.manifestName key)) (fun object s =>
      ∃ found : Option Stored, object = found.map (Stored.manifest codec) ∧
        Doing codec store key i call (done ++ [.observe found]) s) s := by
  refine Safe.request_of_stable (P := Doing codec store key i call done) ?_ ?_ ?_ h
  · exact fun s s' hRely hDoing => hDoing.rely hRely
  · intro result s s' hRely hPost object hObject
    obtain ⟨found, hFound, hDoing⟩ := hPost object hObject
    exact ⟨found, hFound, hDoing.rely hRely⟩
  · rintro s hInv hDoing answer s' ⟨fault, generation, -, hTurn⟩
    rcases turn_readManifest hInv hDoing hTurn with ⟨found, rfl, hInv', hGrows, hDoing'⟩ | ⟨error, rfl, hInv', hGrows, -⟩
    · refine ⟨hInv', hGrows, ?_⟩
      rintro object ⟨⟩
      exact ⟨found, rfl, hDoing'⟩
    · exact ⟨hInv', hGrows, by rintro object ⟨⟩⟩

theorem safe_sendReadContent {bytes : Bytes} (hContent : HasContent codec store key s.bucket.objects bytes) :
    (storeContract codec store key).SafeOk i (sendRead (store.contentName key (codec.contentHash bytes)))
      (fun object s => (∃ generation, object = some ⟨bytes, generation⟩) ∧ Doing codec store key i call done s) s := by
  refine Safe.request_of_stable
    (P := fun s => Doing codec store key i call done s ∧ HasContent codec store key s.bucket.objects bytes)
    ?_ ?_ ?_ ⟨h, hContent⟩
  · exact fun s s' hRely hBefore => ⟨hBefore.1.rely hRely, hBefore.2.mono hRely.contents⟩
  · intro result s s' hRely hPost object hObject
    exact ⟨(hPost object hObject).1, (hPost object hObject).2.rely hRely⟩
  · rintro s hInv ⟨hDoing, hContent⟩ answer s' ⟨fault, generation, -, hTurn⟩
    obtain ⟨hAnswer, hInv', hGrows, hDoing'⟩ := turn_readContent hInv hDoing hContent hTurn
    refine ⟨hInv', hGrows, ?_⟩
    rintro object rfl
    rcases hAnswer with ⟨created, hObject⟩ | ⟨error, hObject⟩
    · exact ⟨⟨created, Except.ok.inj hObject⟩, hDoing'⟩
    · cases hObject

theorem safe_sendCreateContent {bytes : Bytes} (hBytes : bytes ∈ Offered s.log) :
    (storeContract codec store key).SafeOk i (sendCreate (store.contentName key (codec.contentHash bytes)) bytes)
      (fun _ s => HasContent codec store key s.bucket.objects bytes ∧ Doing codec store key i call done s) s := by
  refine Safe.request_of_stable
    (P := fun s => Doing codec store key i call done s ∧ bytes ∈ Offered s.log) ?_ ?_ ?_ ⟨h, hBytes⟩
  · exact fun s s' hRely hBefore => ⟨hBefore.1.rely hRely, hRely.offered_mono hBefore.2⟩
  · intro result s s' hRely hPost created hCreated
    exact ⟨(hPost created hCreated).1.mono hRely.contents, (hPost created hCreated).2.rely hRely⟩
  · rintro s hInv ⟨hDoing, hBytes⟩ answer s' ⟨fault, generation, -, hTurn⟩
    obtain ⟨⟨hInv', hGrows, hDoing'⟩, hContent⟩ := turn_createContent hInv hDoing hBytes hTurn
    exact ⟨hInv', hGrows, fun created hCreated => ⟨hContent created hCreated, hDoing'⟩⟩

end Sending

theorem safe_sendCreateManifest {bytes : Bytes}
    (h : Doing codec store key i (.putIfAbsent bytes) done s) (hDone : done.filter isEffect = [])
    (hContent : HasContent codec store key s.bucket.objects bytes) :
    (storeContract codec store key).SafeOk i
      (sendCreate (store.manifestName key) (codec.manifestJson (codec.contentHash bytes)))
      (fun result s => ∃ act, Doing codec store key i (.putIfAbsent bytes) (done ++ [act]) s ∧
        ((∃ generation, result = .created generation ∧ act = .create ⟨bytes, generation⟩) ∨
          ∃ found, result = .alreadyExists ∧ act = .observe found)) s := by
  refine Safe.request_of_stable
    (P := fun s => Doing codec store key i (.putIfAbsent bytes) done s ∧
      HasContent codec store key s.bucket.objects bytes)
    ?_ ?_ ?_ ⟨h, hContent⟩
  · exact fun s s' hRely hBefore => ⟨hBefore.1.rely hRely, hBefore.2.mono hRely.contents⟩
  · intro result s s' hRely hPost created hCreated
    obtain ⟨act, hDoing, hAct⟩ := hPost created hCreated
    exact ⟨act, hDoing.rely hRely, hAct⟩
  · rintro s hInv ⟨hDoing, hContent⟩ answer s' ⟨fault, generation, hFresh, hTurn⟩
    rcases turn_createManifest hInv hDoing hDone hContent hFresh hTurn with
      ⟨rfl, hInv', hGrows, hDoing'⟩ | ⟨found, rfl, hInv', hGrows, hDoing'⟩ | ⟨error, done', rfl, hInv', hGrows, -⟩
    · refine ⟨hInv', hGrows, ?_⟩
      rintro result ⟨⟩
      exact ⟨_, hDoing', .inl ⟨generation, rfl, rfl⟩⟩
    · refine ⟨hInv', hGrows, ?_⟩
      rintro result ⟨⟩
      exact ⟨_, hDoing', .inr ⟨found, rfl, rfl⟩⟩
    · exact ⟨hInv', hGrows, by rintro result ⟨⟩⟩

variable (codec store key) in
def AfterDelete (i : Nat) (stored : Stored) (done : List RegisterAct)
    (answer : Except ErrorChain ProofArtifactDeleteResult) (s : Shared) : Prop :=
  ∃ done', Doing codec store key i (.deleteExact (stored.descriptor codec store key)) done' s ∧
    match answer with
    | .ok .removed => done' = done ++ [.remove stored]
    | .ok .missing => done' = done ++ [.observe none]
    | .error _ => i ∈ s.failedDeletes ∧ (done' = done ∨ done' = done ++ [.remove stored])

theorem safe_sendDeleteManifest {stored : Stored}
    (h : Doing codec store key i (.deleteExact (stored.descriptor codec store key)) done s)
    (hDone : done.filter isEffect = []) (hSeen : .observe (some stored) ∈ done) :
    (storeContract codec store key).Safe i (sendDelete (store.manifestName key) (some stored.generation)).run
      (AfterDelete codec store key i stored done) s := by
  refine Safe.request_of_stable
    (P := Doing codec store key i (.deleteExact (stored.descriptor codec store key)) done) ?_ ?_ ?_ h
  · exact fun s s' hRely hDoing => hDoing.rely hRely
  · rintro answer s s' hRely ⟨done', hDoing, hAnswer⟩
    refine ⟨done', hDoing.rely hRely, ?_⟩
    cases answer with
    | ok result => cases result <;> exact hAnswer
    | error error => exact ⟨hRely.failedDeletes hAnswer.1, hAnswer.2⟩
  · rintro s hInv hDoing answer s' ⟨fault, generation, -, hTurn⟩
    rcases turn_deleteManifest hInv hDoing hDone hSeen hTurn with
      ⟨rfl, hInv', hGrows, hDoing'⟩ | ⟨rfl, hInv', hGrows, hDoing'⟩ | ⟨error, done', rfl, hDone', hInv', hGrows, hDoing'⟩
    · exact ⟨hInv', hGrows, _, hDoing', rfl⟩
    · exact ⟨hInv', hGrows, _, hDoing', rfl⟩
    · have hFailed := mem_failedDeletes_of_turn
        (.deleteIfGeneration (store.manifestName key) (some stored.generation)) hTurn rfl
      exact ⟨hInv', hGrows, done', hDoing', hFailed, hDone'⟩

theorem safe_withContext {T : Type} {message : String} {p : Storing T} {Q : T → Shared → Prop}
    (h : (storeContract codec store key).SafeOk i p Q s) :
    (storeContract codec store key).SafeOk i (withContext message p) Q s := by
  apply Safe.bind_done
  apply Safe.mono h
  intro result t _ hResult value hValue
  cases result with
  | ok found =>
    cases hValue
    exact hResult _ rfl
  | error error => cases hValue

theorem safe_ensureThat {condition : Bool} {message : String} {Q : Unit → Shared → Prop} (hCondition : condition = true)
    (h : ∀ s', Grows store key (· ≠ i) s s' → StoreInv codec store key s' → Q () s') :
    (storeContract codec store key).SafeOk i (ensureThat condition message) Q s := by
  rw [hCondition]
  exact SafeOk.pure h

section Reading

variable (h : Doing codec store key i call done s)

include h

theorem safe_readManifest : (storeContract codec store key).SafeOk i (readManifest codec store key) (fun result s =>
      ∃ found : Option Stored, result = found.map (fun stored => (codec.contentHash stored.bytes, stored.generation)) ∧
        Doing codec store key i call (done ++ [.observe found]) s) s := by
  unfold readManifest readNamed
  apply SafeOk.bind
  apply SafeOk.andThen (safe_sendReadManifest h)
  rintro _ t hInv ⟨found, rfl, hDoing⟩
  cases found with
  | none =>
    apply SafeOk.pure
    intro u hRely _
    exact SafeOk.pure fun v hRely' _ => ⟨none, rfl, (hDoing.rely hRely).rely hRely'⟩
  | some stored =>
    have hContent := (hDoing.seen stored (mem_append_right done mem_cons_self)).1
    apply SafeOk.pure
    intro u hRely _
    simp only [Stored.manifest, hInv.lawful.parseManifest_manifestJson _ (hInv.kept.mem_offered hContent)]
    apply SafeOk.pure
    intro v hRely' _
    exact ⟨some stored, rfl, (hDoing.rely hRely).rely hRely'⟩

theorem safe_readContent {bytes : Bytes} {uri : String}
    (hContent : HasContent codec store key s.bucket.objects bytes) :
    (storeContract codec store key).SafeOk i (readNamed codec (store.contentName key (codec.contentHash bytes)) uri)
      (fun object s => (∃ generation, object = some ⟨uri, codec.contentHash bytes, generation, bytes⟩) ∧
        Doing codec store key i call done s) s := by
  apply SafeOk.andThen (safe_sendReadContent h hContent)
  rintro _ t - ⟨⟨generation, rfl⟩, hDoing⟩
  exact SafeOk.pure fun u hRely _ => ⟨⟨some generation, rfl⟩, hDoing.rely hRely⟩

theorem safe_readManifestObject :
    (storeContract codec store key).SafeOk i (readManifestObject codec store key) (fun object s =>
      ∃ found : Option Stored, object = found.map (Stored.object codec store key) ∧
        Doing codec store key i call (done ++ [.observe found]) s) s := by
  apply SafeOk.andThen (safe_readManifest h)
  rintro _ t - ⟨found, rfl, hDoing⟩
  cases found with
  | none => exact SafeOk.pure fun u hRely _ => ⟨none, rfl, hDoing.rely hRely⟩
  | some stored =>
    apply SafeOk.bind
    have hContent := (hDoing.seen stored (mem_append_right done mem_cons_self)).1
    apply SafeOk.mono (safe_readContent hDoing hContent)
    rintro _ u - ⟨⟨generation, rfl⟩, hDoing'⟩
    apply SafeOk.pureThen
    intro v hRely _
    apply SafeOk.bind
    refine safe_ensureThat (decide_eq_true rfl) ?_
    intro w hRely' _
    exact SafeOk.pure fun x hRely'' _ =>
      ⟨some stored, rfl, ((hDoing'.rely hRely).rely hRely').rely hRely''⟩

theorem safe_conflictResult {stored : Stored} (hSeen : .observe (some stored) ∈ done) :
    (storeContract codec store key).SafeOk i (conflictResult codec store key (stored.descriptor codec store key))
      (fun result s =>
        result = .conflict ⟨stored.descriptor codec store key, some (stored.object codec store key)⟩ ∧
          Doing codec store key i call done s) s := by
  apply SafeOk.andThen (safe_readContent h (h.seen stored hSeen).1)
  rintro _ t - ⟨⟨generation, rfl⟩, hDoing⟩
  apply SafeOk.bind
  refine safe_ensureThat (decide_eq_true rfl) ?_
  intro u hRely _
  exact SafeOk.pure fun v hRely' _ => ⟨rfl, (hDoing.rely hRely).rely hRely'⟩

variable (codec store key) in
def Answers (i : Nat) (call : StoreCall) (answer : StoreAnswer) (s : Shared) : Prop :=
  ∃ done, Doing codec store key i call done s ∧
    (reexaminedRegister codec store key).Explains call ⟨.ok answer, s.failedDeletes.contains i⟩ done

theorem answers_of_explains {answer : StoreAnswer}
    (hExplains : ∀ failed, (reexaminedRegister codec store key).Explains call ⟨.ok answer, failed⟩ done) (s' : Shared)
    (hRely : Grows store key (· ≠ i) s s') : Answers codec store key i call answer s' :=
  ⟨done, h.rely hRely, hExplains _⟩

end Reading

theorem safe_getObject (h : Doing codec store key i .get [] s) :
    (storeContract codec store key).SafeOk i (getObject codec store key)
      (fun object => Answers codec store key i .get (.got object)) s := by
  apply SafeOk.mono (safe_readManifestObject h)
  rintro _ t - ⟨found, rfl, hDoing⟩
  exact ⟨_, hDoing, [.observe found], .inl ⟨found, rfl, rfl⟩, List.Sublist.refl _, rfl⟩

theorem safe_getDescriptor (h : Doing codec store key i .getDescriptor [] s) :
    (storeContract codec store key).SafeOk i (getDescriptor codec store key)
      (fun descriptor => Answers codec store key i .getDescriptor (.described descriptor)) s := by
  apply SafeOk.andThen (safe_readManifest h)
  rintro _ t - ⟨found, rfl, hDoing⟩
  have hExplains : ∀ failed, (reexaminedRegister codec store key).Explains .getDescriptor
      ⟨.ok (.described (found.map (Stored.descriptor codec store key))), failed⟩ ([] ++ [.observe found]) :=
    fun _ => ⟨[.observe found], .inl ⟨found, rfl, rfl⟩, List.Sublist.refl _, rfl⟩
  cases found with
  | none => exact SafeOk.pure fun u hRely _ => answers_of_explains hDoing hExplains u hRely
  | some stored => exact SafeOk.pure fun u hRely _ => answers_of_explains hDoing hExplains u hRely

theorem filter_observe (hDone : done.filter isEffect = []) (found : Option Stored) :
    (done ++ [observe found]).filter isEffect = [] := by
  rw [filter_append, hDone]
  rfl

section Put

variable {bytes : Bytes}

section Putting

variable (h : Doing codec store key i (.putIfAbsent bytes) done s)

include h

theorem Doing.mem_offered : bytes ∈ Offered s.log :=
  ⟨i, h.opened.invoked⟩

theorem Doing.bytes_eq (hInv : StoreInv codec store key s) {stored : Stored} (hSeen : .observe (some stored) ∈ done)
    (hHash : codec.contentHash stored.bytes = codec.contentHash bytes) : stored.bytes = bytes :=
  hInv.lawful.contentHash_injOn (hInv.kept.mem_offered (h.seen stored hSeen).1) h.mem_offered hHash

theorem answers_alreadyExists {first second : Stored}
    (hDone : done.filter isEffect = []) (hBytes : first.bytes = bytes)
    (hSeen : [.observe (some first), .observe (some second)].Sublist done) (s' : Shared)
    (hRely : Grows store key (· ≠ i) s s') :
    Answers codec store key i (.putIfAbsent bytes) (.put (.alreadyExists (second.object codec store key))) s' := by
  apply answers_of_explains h _ s' hRely
  intro failed
  exact ⟨_, .inr ⟨first, second, rfl, hBytes, rfl⟩, hSeen, hDone.symm⟩

theorem safe_conflict {stored : Stored}
    (hDone : done.filter isEffect = []) (hBytes : stored.bytes ≠ bytes)
    (hSeen : .observe (some stored) ∈ done) :
    (storeContract codec store key).SafeOk i (conflictResult codec store key (stored.descriptor codec store key))
      (fun result => Answers codec store key i (.putIfAbsent bytes) (.put result)) s := by
  apply SafeOk.mono (safe_conflictResult h hSeen)
  rintro _ t - ⟨rfl, hDoing⟩
  exact ⟨_, hDoing, [.observe (some stored)], .inl ⟨stored, rfl, hBytes, rfl⟩, singleton_sublist.mpr hSeen,
    hDone.symm⟩

theorem safe_putOverManifest {stored : Stored} (hDone : done.filter isEffect = [])
    (hSeen : .observe (some stored) ∈ done) :
    (storeContract codec store key).SafeOk i
      (putOverManifest codec store key bytes (codec.contentHash stored.bytes, stored.generation))
      (fun result => Answers codec store key i (.putIfAbsent bytes) (.put result)) s := by
  unfold putOverManifest
  dsimp only
  split
  · rename_i hHash
    exact safe_conflict h hDone (fun hBytes => hHash (congrArg codec.contentHash hBytes)) hSeen
  · rename_i hHash
    apply SafeOk.bind
    apply safe_withContext
    apply SafeOk.mono (safe_sendCreateContent h h.mem_offered)
    rintro _ t hInv ⟨-, hDoing⟩
    have hBytes := hDoing.bytes_eq hInv hSeen (not_not.mp hHash)
    apply SafeOk.andThen (safe_readManifestObject hDoing)
    rintro _ u - ⟨found, rfl, hDoing'⟩
    cases found with
    | none => exact SafeOk.throw
    | some second =>
      apply SafeOk.pureThen
      intro v hRely _
      apply SafeOk.pure
      intro w hRely' _
      refine answers_alreadyExists (hDoing'.rely hRely) ?_ hBytes ?_ w hRely'
      · exact filter_observe hDone _
      · exact (singleton_sublist.mpr hSeen).append (List.Sublist.refl [observe (some second)])

theorem safe_publishContent :
    (storeContract codec store key).SafeOk i (publishContent codec store key bytes) (fun _ s =>
      Doing codec store key i (.putIfAbsent bytes) done s ∧ HasContent codec store key s.bucket.objects bytes) s := by
  apply SafeOk.bind
  apply safe_withContext
  apply SafeOk.mono (safe_sendCreateContent h h.mem_offered)
  rintro result t - ⟨hContent, hDoing⟩
  refine SafeOk.frame ?_ ?_ ?_ hContent
  · exact fun s s' hRely hContent => hContent.mono hRely.contents
  · exact fun s s' hGuar hContent => hContent.mono hGuar.contents
  cases result with
  | created generation => exact SafeOk.pure fun u hRely _ => hDoing.rely hRely
  | alreadyExists =>
    apply SafeOk.andThen (safe_readContent hDoing hContent)
    rintro _ u - ⟨⟨generation, rfl⟩, hDoing'⟩
    apply SafeOk.pureThen
    intro v hRely _
    exact safe_ensureThat (decide_eq_true rfl) fun w hRely' _ => (hDoing'.rely hRely).rely hRely'

theorem safe_putAfterConflict (hDone : done.filter isEffect = []) :
    (storeContract codec store key).SafeOk i (putAfterConflict codec store key bytes)
      (fun result => Answers codec store key i (.putIfAbsent bytes) (.put result)) s := by
  apply SafeOk.andThen (safe_readManifest h)
  rintro _ t hInv ⟨found, rfl, hDoing⟩
  cases found with
  | none => exact SafeOk.throw
  | some stored =>
    apply SafeOk.pureThen
    intro u hRely _
    have hDoing' := hDoing.rely hRely
    have hSeen : .observe (some stored) ∈ done ++ [.observe (some stored)] :=
      mem_append_right done mem_cons_self
    dsimp only
    split
    · rename_i hHash
      have hBytes := hDoing.bytes_eq hInv hSeen hHash
      apply SafeOk.andThen (safe_readManifestObject hDoing')
      rintro _ v - ⟨second, rfl, hDoing''⟩
      cases second with
      | none => exact SafeOk.throw
      | some second =>
        apply SafeOk.pureThen
        intro w hRely' _
        apply SafeOk.pure
        intro x hRely'' _
        refine answers_alreadyExists (hDoing''.rely hRely') ?_ hBytes ?_ x hRely''
        · exact filter_observe (filter_observe hDone _) _
        · exact (singleton_sublist.mpr hSeen).append (List.Sublist.refl [observe (some second)])
    · rename_i hHash
      exact safe_conflict hDoing' (filter_observe hDone _) (fun hBytes => hHash (congrArg codec.contentHash hBytes)) hSeen

end Putting

theorem safe_putIfAbsent (h : Doing codec store key i (.putIfAbsent bytes) [] s) :
    (storeContract codec store key).SafeOk i (putIfAbsent codec store key bytes)
      (fun result => Answers codec store key i (.putIfAbsent bytes) (.put result)) s := by
  apply SafeOk.andThen (safe_readManifest h)
  rintro _ t - ⟨found, rfl, hDoing⟩
  have hDone : [observe found].filter isEffect = [] := rfl
  cases found with
  | some stored => exact safe_putOverManifest hDoing hDone mem_cons_self
  | none =>
    apply SafeOk.andThen (safe_publishContent hDoing)
    rintro - u - ⟨hDoing', hContent⟩
    apply SafeOk.bind
    apply safe_withContext
    apply SafeOk.mono (safe_sendCreateManifest hDoing' hDone hContent)
    rintro _ v - ⟨_, hDoing'', ⟨generation, rfl, rfl⟩ | ⟨found, rfl, rfl⟩⟩
    · apply SafeOk.pure
      intro w hRely _
      apply answers_of_explains hDoing'' _ w hRely
      intro failed
      exact ⟨[.create ⟨bytes, generation⟩], .inl ⟨⟨bytes, generation⟩, rfl, rfl, rfl⟩, sublist_cons_self _ _, rfl⟩
    · exact safe_putAfterConflict hDoing'' (filter_observe hDone found)

end Put

theorem safe_resolveDelete {stored : Stored} {error : ErrorChain}
    (h : Doing codec store key i (.deleteExact (stored.descriptor codec store key)) done s)
    (hFailed : i ∈ s.failedDeletes)
    (hDone : done = [.observe (some stored)] ∨ done = [.observe (some stored), .remove stored]) :
    (storeContract codec store key).SafeOk i
      (resolveDelete codec store key (stored.descriptor codec store key) error)
      (fun result => Answers codec store key i (.deleteExact (stored.descriptor codec store key)) (.deleted result)) s := by
  apply Safe.bind
  have hRead := Safe.frame (c := storeContract codec store key) (R := fun s => i ∈ s.failedDeletes)
    (fun s s' hRely hMem => hRely.failedDeletes hMem) (fun s s' hGuar hMem => hGuar.failedDeletes hMem)
    (safe_readManifest h) hFailed
  apply Safe.mono hRead
  rintro result t - ⟨hResult, hFailed⟩
  cases result with
  | error readError => exact SafeOk.throw
  | ok result =>
    obtain ⟨found, rfl, hDoing⟩ := hResult _ rfl
    cases found with
    | none =>
      apply SafeOk.pure
      intro u hRely _
      refine ⟨_, hDoing.rely hRely, ?_⟩
      rw [contains_iff_mem.mpr (hRely.failedDeletes hFailed)]
      rcases hDone with rfl | rfl
      · exact ⟨_, .inr ⟨stored, rfl, rfl⟩, List.Sublist.refl _, rfl⟩
      · exact ⟨[.remove stored], .inl ⟨stored, rfl, rfl⟩, by simp, rfl⟩
    | some current =>
      dsimp only [Option.map_some]
      split
      · exact SafeOk.throw
      · rename_i hOther
        apply SafeOk.pure
        intro u hRely _
        refine ⟨_, hDoing.rely hRely, ?_⟩
        rw [contains_iff_mem.mpr (hRely.failedDeletes hFailed)]
        rcases hDone with rfl | rfl
        · exact ⟨[.observe (some current)], .inl ⟨current, rfl, hOther⟩, by simp, rfl⟩
        · exact ⟨[.remove stored, .observe (some current)], .inr ⟨stored, current, rfl, rfl, hOther⟩, by simp, rfl⟩

theorem safe_deleteExact {descriptor : ProofArtifactDescriptor}
    (h : Doing codec store key i (.deleteExact descriptor) [] s) :
    (storeContract codec store key).SafeOk i (deleteExact codec store key descriptor)
      (fun result => Answers codec store key i (.deleteExact descriptor) (.deleted result)) s := by
  apply SafeOk.andThen (safe_readManifest h)
  rintro _ t - ⟨found, rfl, hDoing⟩
  cases found with
  | none =>
    apply SafeOk.pure
    intro u hRely _
    apply answers_of_explains hDoing _ u hRely
    intro failed
    exact ⟨[.observe none], .inl rfl, List.Sublist.refl _, rfl⟩
  | some stored =>
    dsimp only [Option.map_some]
    split
    · rename_i hOther
      apply SafeOk.pure
      intro u hRely _
      apply answers_of_explains hDoing _ u hRely
      intro failed
      exact ⟨[.observe (some stored)], .inl ⟨stored, rfl, hOther⟩, List.Sublist.refl _, rfl⟩
    · rename_i hSame
      obtain rfl : stored.descriptor codec store key = descriptor := not_not.mp hSame
      apply SafeOk.bind
      apply Safe.bind_done
      apply Safe.mono (safe_sendDeleteManifest hDoing rfl mem_cons_self)
      rintro answer u - ⟨done', hDoing', hAnswer⟩ _ ⟨⟩
      cases answer with
      | error error => exact safe_resolveDelete hDoing' hAnswer.1 hAnswer.2
      | ok result =>
        cases result with
        | removed =>
          obtain rfl := hAnswer
          apply SafeOk.pure
          intro v hRely _
          apply answers_of_explains hDoing' _ v hRely
          intro failed
          exact ⟨[.remove stored], .inl ⟨stored, rfl, rfl⟩, sublist_cons_self _ _, rfl⟩
        | missing =>
          obtain rfl := hAnswer
          apply SafeOk.pure
          intro v hRely _
          apply answers_of_explains hDoing' _ v hRely
          intro failed
          exact ⟨[.observe none], .inl rfl, sublist_cons_self _ _, rfl⟩

theorem safe_map {T : Type} {p : Storing T} {g : T → StoreAnswer} {Q : StoreAnswer → Shared → Prop}
    (h : (storeContract codec store key).SafeOk i p (fun value => Q (g value)) s) :
    (storeContract codec store key).SafeOk i (g <$> p) Q s := by
  have hRun : (g <$> p).run = p.run.bind fun result => .done (result.map g) := by
    change p.run.bind _ = _
    congr 1
    funext result
    cases result <;> rfl
  rw [SafeOk, hRun]
  apply Safe.bind_done
  apply Safe.mono h
  intro result t _ hResult answer hAnswer
  cases result with
  | error error => cases hAnswer
  | ok value =>
    cases hAnswer
    exact hResult value rfl

/-- A call from its first turn on. -/
theorem safe_program (h : Doing codec store key i call [] s) :
    (storeContract codec store key).SafeOk i (call.program codec store key) (Answers codec store key i call) s := by
  cases call with
  | putIfAbsent bytes => exact safe_map (safe_putIfAbsent h)
  | get => exact safe_map (safe_getObject h)
  | getDescriptor => exact safe_map (safe_getDescriptor h)
  | deleteExact descriptor => exact safe_map (safe_deleteExact h)

end Programs

end Raiko2.Runtime
