import Raiko2.Engine.Tasks
import Raiko2.Input.Types
import Raiko2.Protocol.LibHash
import Raiko2.Runtime.ProofStore

/-!
# Names of stored objects

Everything that the service keeps in one bucket: manifests and contents of proofs, the runtime state and cached
preflights. References of proofs are any texts here. A name says which object it belongs to, because no part of it
contains the slash between the parts.
-/

namespace Raiko2.Runtime

open Lib Raiko2.Engine GcsProofArtifactStore

section Escapes

theorem slash_not_mem_encodeByte (byte : UInt8) : '/' ∉ encodeByte byte := by
  unfold encodeByte
  split
  · rename_i hByte
    rw [List.mem_singleton]
    intro hEq
    have hValue := congrArg Char.toNat hEq
    rw [toNat_ofNat_byte] at hValue
    obtain rfl : byte = 47 := UInt8.toNat_inj.mp hValue.symm
    cases hByte
  · exact List.not_mem_cons_of_ne_of_not_mem (by decide) (isLetter_upper.slash_not_mem byte)

theorem slash_not_mem_encodeComponent (value : String) : '/' ∉ (encodeComponent value).toList := by
  rw [encodeComponent, String.toList_ofList, List.mem_flatMap]
  rintro ⟨byte, -, hMem⟩
  exact slash_not_mem_encodeByte byte hMem

end Escapes

section Preflights

structure CanonicalPreflightKeyV1 where
  schema : UInt16
  blobProofType : BlobProofType
  l1ChainId : UInt64
  l2ChainId : UInt64
  proposalId : UInt64
  l2BlockRange : L2BlockRange
  l1InclusionBlockNumber : UInt64
  lastAnchorBlockNumber : UInt64
  checkpoint : Option ShastaCheckpoint
  l1InclusionHash : B256
  proposalEventDigest : B256
  chainRulesFingerprint : B256
  deriving DecidableEq

def canonicalPreflightSchemaV1 : UInt16 := 1

/-- `{:x}` of a digest. -/
def lowerHex (digest : B256) : String := hexEncode (wordBytes digest)

theorem lowerHex_injective {a b : B256} (h : lowerHex a = lowerHex b) : a = b :=
  BitVec.eq_of_toNat_eq (beBytes_inj a.isLt b.isLt (hexEncode_injective h))

end Preflights

section Objects

namespace GcsProofArtifactStore

variable (digest : CanonicalPreflightKeyV1 → Except ErrorChain B256) (store : GcsProofArtifactStore)

def runtimeStateName : String := store.scopePrefix ++ "/work/runtime-state.runtime.json"

def validateCanonicalPreflightKey (key : CanonicalPreflightKeyV1) : Except ErrorChain Unit :=
  ensure (key.schema = canonicalPreflightSchemaV1)
    ("unsupported canonical preflight key schema " ++ toString key.schema.toNat)

def canonicalPreflightVersionPrefix (schema : UInt16) : String :=
  store.scopePrefix ++ "/preflights/v" ++ toString schema.toNat

def canonicalPreflightBaseName (key : CanonicalPreflightKeyV1) : Except ErrorChain String := do
  validateCanonicalPreflightKey key
  let hash ← digest key
  return store.canonicalPreflightVersionPrefix key.schema ++ "/" ++ lowerHex hash

def canonicalPreflightObjectName (key : CanonicalPreflightKeyV1) : Except ErrorChain String := do
  let name ← store.canonicalPreflightBaseName digest key
  return name ++ ".preflight.bincode"

end GcsProofArtifactStore

inductive StoredObject where
  | manifest (artifact : ArtifactIdentity)
  | content (artifact : ArtifactIdentity) (hash : String)
  | runtimeState
  | canonicalPreflight (key : CanonicalPreflightKeyV1)
  deriving DecidableEq

namespace StoredObject

variable (digest : CanonicalPreflightKeyV1 → Except ErrorChain B256) (store : GcsProofArtifactStore)

/-- A key that cannot be serialized has no object. -/
def name : StoredObject → Except ErrorChain String
  | manifest artifact => .ok (store.manifestNameOf artifact)
  | content artifact hash => .ok (store.contentNameOf artifact hash)
  | runtimeState => .ok store.runtimeStateName
  | canonicalPreflight key => store.canonicalPreflightObjectName digest key

def artifactPath (artifact : ArtifactIdentity) : List String :=
  ["proofs", encodeComponent artifact.pipelineKey.asStr, encodeComponent artifact.route.text,
    encodeComponent artifact.networkPair, encodeComponent artifact.proofRef]

inductive Path : StoredObject → List String → Prop where
  | manifest (artifact : ArtifactIdentity) :
    Path (.manifest artifact) (artifactPath artifact ++ ["manifest.manifest.json"])
  | content (artifact : ArtifactIdentity) (hash : String) :
    Path (.content artifact hash) (artifactPath artifact ++ ["content", encodeComponent hash ++ ".proof.json"])
  | runtimeState : Path .runtimeState ["work", "runtime-state.runtime.json"]
  | canonicalPreflight (key : CanonicalPreflightKeyV1) (hash : B256) (hDigest : digest key = .ok hash) :
    Path (.canonicalPreflight key) ["preflights", "v1", lowerHex hash ++ ".preflight.bincode"]

variable {digest store} {object : StoredObject} {parts : List String}

theorem exists_path {name : String} (h : object.name digest store = .ok name) :
    ∃ parts, Path digest object parts ∧ name = store.scopePrefix ++ separated '/' parts := by
  cases object with
  | manifest artifact =>
    cases h
    refine ⟨_, .manifest artifact, String.toList_inj.mp ?_⟩
    simp [manifestNameOf, artifactBaseName, artifactPath, separated,
      String.toList_append]
  | content artifact hash =>
    cases h
    refine ⟨_, .content artifact hash, String.toList_inj.mp ?_⟩
    simp [contentNameOf, artifactBaseName, artifactPath, separated,
      String.toList_append]
  | runtimeState =>
    cases h
    refine ⟨_, .runtimeState, String.toList_inj.mp ?_⟩
    simp [runtimeStateName, separated, String.toList_append]
  | canonicalPreflight key =>
    obtain ⟨base, hBase, hName⟩ := except_bind_eq_ok_iff.mp h
    obtain ⟨⟨⟩, hSchema, hBase⟩ := except_bind_eq_ok_iff.mp hBase
    obtain ⟨hash, hDigest, hBase⟩ := except_bind_eq_ok_iff.mp hBase
    obtain rfl := Except.ok.inj hBase
    obtain rfl := Except.ok.inj hName
    rw [validateCanonicalPreflightKey, ensure_eq_ok, decide_eq_true_eq] at hSchema
    refine ⟨_, .canonicalPreflight key hash hDigest, String.toList_inj.mp ?_⟩
    have hVersion : toString key.schema.toNat = "1" := by rw [hSchema]; rfl
    simp [canonicalPreflightVersionPrefix, hVersion, separated, String.toList_append]

theorem Path.slash_not_mem (h : Path digest object parts) :
    ∀ part ∈ parts, '/' ∉ part.toList := by
  have hEncoded := slash_not_mem_encodeComponent
  have hHex (digest : B256) : '/' ∉ (lowerHex digest).toList := slash_not_mem_hexEncode _
  cases h <;> simp [artifactPath, String.toList_append, hEncoded, hHex]

theorem artifactPath_injective {a b : ArtifactIdentity} (h : artifactPath a = artifactPath b) : a = b := by
  simp only [artifactPath, List.cons.injEq, and_true, true_and] at h
  obtain ⟨hPipeline, hRoute, hPair, hRef⟩ := h
  obtain ⟨pair, pipeline, route, ref⟩ := a
  obtain ⟨pair', pipeline', route', ref'⟩ := b
  obtain rfl : pipeline = pipeline' := PipelineKey.asStr_injective (encodeComponent_injective hPipeline)
  obtain rfl : route = route' := PipelineRoute.text_injective (encodeComponent_injective hRoute)
  obtain rfl : pair = pair' := encodeComponent_injective hPair
  obtain rfl : ref = ref' := encodeComponent_injective hRef
  rfl

def depth : StoredObject → Nat
  | manifest _ => 6
  | content _ _ => 7
  | runtimeState => 2
  | canonicalPreflight _ => 3

theorem Path.length_eq (h : Path digest object parts) :
    parts.length = object.depth := by
  cases h <;> rfl

variable (digest) in
def HashCollision (a b : StoredObject) : Prop :=
  ∃ key key' hash, key ≠ key' ∧ a = .canonicalPreflight key ∧ b = .canonicalPreflight key' ∧
    digest key = .ok hash ∧ digest key' = .ok hash

theorem Path.object_eq {a b : StoredObject} (ha : Path digest a parts) (hb : Path digest b parts) :
    a = b ∨ HashCollision digest a b := by
  have hDepth : a.depth = b.depth := ha.length_eq.symm.trans hb.length_eq
  generalize hParts : parts = parts' at hb
  cases ha with
  | manifest artifact =>
    cases hb with
    | manifest artifact' => exact .inl (by rw [artifactPath_injective (List.append_inj_left' hParts rfl)])
    | _ => exact absurd hDepth (by simp [depth])
  | content artifact hash =>
    cases hb with
    | content artifact' hash' =>
      obtain ⟨hArtifact, hHash⟩ := List.append_inj' hParts rfl
      simp only [List.cons.injEq, and_true, true_and, String.append_left_inj] at hHash
      exact .inl (by rw [artifactPath_injective hArtifact, encodeComponent_injective hHash])
    | _ => exact absurd hDepth (by simp [depth])
  | runtimeState =>
    cases hb with
    | runtimeState => exact .inl rfl
    | _ => exact absurd hDepth (by simp [depth])
  | canonicalPreflight key hash hDigest =>
    cases hb with
    | canonicalPreflight key' hash' hDigest' =>
      simp only [List.cons.injEq, and_true, true_and, String.append_left_inj] at hParts
      rw [← lowerHex_injective hParts] at hDigest'
      by_cases hKey : key = key'
      · exact .inl (by rw [hKey])
      · exact .inr ⟨key, key', hash, hKey, rfl, rfl, hDigest, hDigest'⟩
    | _ => exact absurd hDepth (by simp [depth])

theorem eq_of_name_eq {a b : StoredObject} {name : String} (ha : a.name digest store = .ok name)
    (hb : b.name digest store = .ok name) : a = b ∨ HashCollision digest a b := by
  obtain ⟨parts, hParts, hName⟩ := exists_path ha
  obtain ⟨parts', hParts', hName'⟩ := exists_path hb
  rw [hName, String.append_right_inj] at hName'
  obtain rfl := separated_injective hParts.slash_not_mem hParts'.slash_not_mem hName'
  exact hParts.object_eq hParts'

end StoredObject

/-- Equal keys of records belong to the same artifact. Equal names of objects belong to the same object of the bucket,
up to collisions of the hash function that preflight keys are digested with. -/
theorem storage_names_are_unambiguous :
    Function.Injective ArtifactIdentity.recordKey ∧ Function.Injective encodeComponent ∧
      (∀ value : String, '/' ∉ (encodeComponent value).toList) ∧
      ∀ (digest : CanonicalPreflightKeyV1 → Except ErrorChain B256) (store : GcsProofArtifactStore)
        (a b : StoredObject) (name : String), a.name digest store = .ok name → b.name digest store = .ok name →
        a = b ∨ StoredObject.HashCollision digest a b :=
  ⟨fun _ _ => ArtifactIdentity.recordKey_injective, fun _ _ => encodeComponent_injective, slash_not_mem_encodeComponent,
    fun _ _ _ _ _ ha hb => StoredObject.eq_of_name_eq ha hb⟩

theorem ObjectKey.identity_injective : Function.Injective ObjectKey.identity := by
  intro a b h
  simp only [ObjectKey.identity, ArtifactIdentity.mk.injEq] at h
  obtain ⟨hPair, hPipeline, hRoute, hRef⟩ := h
  exact ObjectKey.proofRef_injective hPair hPipeline hRoute hRef

theorem eq_of_proofName_eq {store : GcsProofArtifactStore} {a b : StoredObject} {name : String}
    (ha : a.name (fun _ => .error []) store = .ok name) (hb : b.name (fun _ => .error []) store = .ok name) : a = b := by
  rcases StoredObject.eq_of_name_eq ha hb with hEq | ⟨_, _, _, _, _, _, hDigest, _⟩
  · exact hEq
  · cases hDigest

/-- No two proofs, published or pending, share a manifest or a content object. -/
theorem published_and_pending_proofs_are_apart (store : GcsProofArtifactStore) :
    Function.Injective store.manifestName ∧
      Function.Injective (fun proof : ObjectKey × String => store.contentName proof.1 proof.2) ∧
      ∀ key other hash, store.manifestName key ≠ store.contentName other hash := by
  refine ⟨fun a b h => ?_, fun a b h => ?_, fun key other hash h => ?_⟩
  · have hSame := eq_of_proofName_eq (a := .manifest a.identity) (b := .manifest b.identity) rfl
      (congrArg Except.ok h.symm)
    exact ObjectKey.identity_injective (StoredObject.manifest.inj hSame)
  · have hSame := eq_of_proofName_eq (a := .content a.1.identity a.2) (b := .content b.1.identity b.2) rfl
      (congrArg Except.ok h.symm)
    obtain ⟨hKey, hHash⟩ := StoredObject.content.inj hSame
    exact Prod.ext (ObjectKey.identity_injective hKey) hHash
  · cases eq_of_proofName_eq (a := .manifest key.identity) (b := .content other.identity hash) rfl
      (congrArg Except.ok h.symm)

end Objects

end Raiko2.Runtime
