import Raiko2.Lib.Process
import Raiko2.Lib.Text
import Raiko2.Runtime.Records

/-!
# Proof artifacts in an object store

The calls of the proof store on Google Cloud Storage as programs that read, create and delete single objects. A proof
is a content object under its hash and a manifest that names the hash; the generation of the manifest is that of the
proof. The hash of the content and the JSON text of a manifest come from libraries.
-/

namespace Raiko2.Runtime

open Lib

section Names

def isComponentByte (byte : UInt8) : Bool :=
  (48 ≤ byte && byte ≤ 57) || (65 ≤ byte && byte ≤ 90) || (97 ≤ byte && byte ≤ 122) || byte = 45 || byte = 95 || byte = 46

def encodeByte (byte : UInt8) : List Char :=
  if isComponentByte byte then [Char.ofNat byte.toNat]
  else '~' :: hexPair upperLetter byte

def encodeComponent (value : String) : String := String.ofList (value.toByteArray.data.toList.flatMap encodeByte)

theorem toNat_ofNat_byte (byte : UInt8) : (Char.ofNat byte.toNat).toNat = byte.toNat := by
  have hValid : byte.toNat.isValidChar := .inl (Nat.lt_trans byte.toNat_lt (by decide))
  rw [Char.ofNat, dif_pos hValid]
  rfl

theorem encodeByte_append_inj {a b : UInt8} {x y : List Char} (h : encodeByte a ++ x = encodeByte b ++ y) :
    a = b ∧ x = y := by
  -- An escape starts with a character that stands for no byte by itself.
  have hTilde : ∀ byte : UInt8, isComponentByte byte = true → Char.ofNat byte.toNat ≠ '~' := by
    intro byte hByte hEq
    have hValue := congrArg Char.toNat hEq
    rw [toNat_ofNat_byte] at hValue
    obtain rfl : byte = 126 := UInt8.toNat_inj.mp hValue
    cases hByte
  unfold encodeByte at h
  split at h <;> split at h
  · injection h with hChar hRest
    have hValue := congrArg Char.toNat hChar
    rw [toNat_ofNat_byte, toNat_ofNat_byte] at hValue
    exact ⟨UInt8.toNat_inj.mp hValue, hRest⟩
  · rename_i ha _
    injection h with hChar
    exact absurd hChar (hTilde a ha)
  · rename_i hb
    injection h with hChar
    exact absurd hChar.symm (hTilde b hb)
  · injection h with _ h
    exact isLetter_upper.append_inj h

theorem encodeComponent_injective {a b : String} (h : encodeComponent a = encodeComponent b) : a = b := by
  have hNonempty : ∀ byte, encodeByte byte ≠ [] := by
    intro byte
    unfold encodeByte
    split <;> exact List.cons_ne_nil _ _
  have hBytes := flatMap_injective_of_append_inj hNonempty (fun _ _ _ _ => encodeByte_append_inj)
    (String.ofList_injective h)
  exact String.toByteArray_inj.mp (ByteArray.ext (Array.toList_inj.mp hBytes))

structure GcsProofArtifactStore where
  environment : String
  scopeNamespace : String
  bucketId : String
  objectPrefix : String

def ObjectKey.identity (key : ObjectKey) : ArtifactIdentity :=
  ⟨key.artifact.networkPair, key.artifact.pipelineKey, key.artifact.route, key.proofRef⟩

variable (store : GcsProofArtifactStore) (key : ObjectKey)

namespace GcsProofArtifactStore

def scopePrefix : String :=
  let scope := encodeComponent store.environment ++ "/" ++ encodeComponent store.scopeNamespace
  if store.objectPrefix.isEmpty then scope else store.objectPrefix ++ "/" ++ scope

/-- `artifact_base_name`, for any reference. -/
def artifactBaseName (artifact : ArtifactIdentity) : String :=
  store.scopePrefix ++ "/proofs/" ++ encodeComponent artifact.pipelineKey.asStr ++ "/" ++
    encodeComponent artifact.route.text ++ "/" ++ encodeComponent artifact.networkPair ++ "/" ++
    encodeComponent artifact.proofRef

def manifestNameOf (artifact : ArtifactIdentity) : String := store.artifactBaseName artifact ++ "/manifest.manifest.json"

def contentNameOf (artifact : ArtifactIdentity) (hash : String) : String :=
  store.artifactBaseName artifact ++ "/content/" ++ encodeComponent hash ++ ".proof.json"

def manifestName : String := store.manifestNameOf key.identity

def contentName (hash : String) : String := store.contentNameOf key.identity hash

def contentUri (hash : String) : String := "gs://" ++ store.bucketId ++ "/" ++ store.contentName key hash

variable {store key}

theorem contentName_injective {a b : String} (h : store.contentName key a = store.contentName key b) : a = b := by
  simp only [contentName, contentNameOf, String.append_assoc, String.append_right_inj, String.append_left_inj] at h
  exact encodeComponent_injective h

theorem contentName_ne_manifestName (hash : String) : store.contentName key hash ≠ store.manifestName key := by
  intro h
  simp only [contentName, contentNameOf, manifestName, manifestNameOf, String.append_assoc, String.append_right_inj] at h
  have hList := congrArg String.toList h
  rw [String.toList_append] at hList
  injection hList with _ hList
  injection hList with hChar
  cases hChar

end GcsProofArtifactStore

end Names

section Transport

structure GcsObject where
  bytes : Bytes
  generation : Int64
  deriving DecidableEq

inductive GcsCreateResult where
  | created (generation : Int64)
  | alreadyExists
  deriving DecidableEq

inductive ProofArtifactDeleteResult where
  | removed
  | missing
  deriving DecidableEq

inductive GcsRequest where
  | read (name : String)
  | create (name : String) (bytes : Bytes)
  | deleteIfGeneration (name : String) (generation : Option Int64)
  deriving DecidableEq

abbrev GcsRequest.Ans : GcsRequest → Type
  | read _ => Except ErrorChain (Option GcsObject)
  | create _ _ => Except ErrorChain GcsCreateResult
  | deleteIfGeneration _ _ => Except ErrorChain ProofArtifactDeleteResult

abbrev Storing (T : Type) := ExceptT ErrorChain (Program GcsRequest GcsRequest.Ans) T

variable {T : Type}

def sendRead (name : String) : Storing (Option GcsObject) := ExceptT.mk (Program.request (GcsRequest.read name))

def sendCreate (name : String) (bytes : Bytes) : Storing GcsCreateResult :=
  ExceptT.mk (Program.request (GcsRequest.create name bytes))

def sendDelete (name : String) (generation : Option Int64) : Storing ProofArtifactDeleteResult :=
  ExceptT.mk (Program.request (GcsRequest.deleteIfGeneration name generation))

/-- `with_context` on a call. -/
def withContext (message : String) (p : Storing T) : Storing T :=
  ExceptT.mk (p.run.bind fun result => .done (result.mapError (message :: ·)))

/-- `context` on an option. -/
def orMissing (message : String) : Option T → Storing T
  | none => throw [message]
  | some value => pure value

def ensureThat (condition : Bool) (message : String) : Storing Unit := ExceptT.mk (.done (ensure condition message))

end Transport

structure Codec where
  contentHash : Bytes → String
  manifestJson : String → Bytes
  parseManifest : Bytes → Except ErrorChain String

section Calls

variable (codec : Codec) (store : GcsProofArtifactStore) (key : ObjectKey)

def readNamed (name uri : String) : Storing (Option ProofArtifactObject) := do
  match ← sendRead name with
  | none => return none
  | some object => return some ⟨uri, codec.contentHash object.bytes, some object.generation, object.bytes⟩

def readManifest : Storing (Option (String × Int64)) := do
  let name := store.manifestName key
  match ← readNamed codec name ("gs://" ++ store.bucketId ++ "/" ++ name) with
  | none => return none
  | some object =>
    let hash ← withContext "invalid proof manifest" (ExceptT.mk (.done (codec.parseManifest object.bytes)))
    return some (hash, ← orMissing "GCS proof manifest has no generation" object.generation)

def readManifestObject : Storing (Option ProofArtifactObject) := do
  match ← readManifest codec store key with
  | none => return none
  | some (hash, manifestGeneration) =>
    let object ← orMissing "proof manifest references missing content"
      (← readNamed codec (store.contentName key hash) (store.contentUri key hash))
    ensureThat (object.contentHash = hash) "proof manifest content hash mismatch"
    return some { object with generation := some manifestGeneration }

def descriptorOf (hash : String) (generation : Int64) : ProofArtifactDescriptor :=
  ⟨store.contentUri key hash, hash, some generation⟩

def conflictResult (descriptor : ProofArtifactDescriptor) : Storing ProofArtifactPutResult := do
  match ← readNamed codec (store.contentName key descriptor.contentHash) descriptor.proofUri with
  | none => return .conflict ⟨descriptor, none⟩
  | some object =>
    ensureThat (object.contentHash = descriptor.contentHash) "proof manifest content hash mismatch"
    return .conflict ⟨descriptor, some { object with generation := descriptor.generation }⟩

def putOverManifest (bytes : Bytes) (found : String × Int64) : Storing ProofArtifactPutResult := do
  let hash := codec.contentHash bytes
  let descriptor := descriptorOf store key found.1 found.2
  if descriptor.contentHash ≠ hash then conflictResult codec store key descriptor
  else
    let _ ← withContext "failed to repair immutable GCS proof content" (sendCreate (store.contentName key hash) bytes)
    let existing ← orMissing "GCS manifest exists but content is missing after repair"
      (← readManifestObject codec store key)
    return .alreadyExists existing

def publishContent (bytes : Bytes) : Storing Unit := do
  let hash := codec.contentHash bytes
  let name := store.contentName key hash
  match ← withContext "failed to publish immutable GCS proof content" (sendCreate name bytes) with
  | .created _ => return ()
  | .alreadyExists =>
    let existing ← orMissing "immutable GCS proof content disappeared after create conflict"
      (← readNamed codec name (store.contentUri key hash))
    ensureThat (existing.contentHash = hash) "immutable GCS proof content hash mismatch"

def putAfterConflict (bytes : Bytes) : Storing ProofArtifactPutResult := do
  let (found, generation) ← orMissing "GCS manifest precondition failed but manifest is missing"
    (← readManifest codec store key)
  if found = codec.contentHash bytes then
    let existing ← orMissing "GCS manifest precondition failed but manifest is missing"
      (← readManifestObject codec store key)
    return .alreadyExists existing
  else conflictResult codec store key (descriptorOf store key found generation)

def putIfAbsent (bytes : Bytes) : Storing ProofArtifactPutResult := do
  match ← readManifest codec store key with
  | some found => putOverManifest codec store key bytes found
  | none =>
    publishContent codec store key bytes
    let hash := codec.contentHash bytes
    match ← withContext "failed to publish GCS proof manifest"
      (sendCreate (store.manifestName key) (codec.manifestJson hash)) with
    | .created generation => return .created ⟨store.contentUri key hash, hash, some generation, bytes⟩
    | .alreadyExists => putAfterConflict codec store key bytes

def getObject : Storing (Option ProofArtifactObject) := readManifestObject codec store key

def getDescriptor : Storing (Option ProofArtifactDescriptor) := do
  match ← readManifest codec store key with
  | none => return none
  | some (hash, generation) => return some (descriptorOf store key hash generation)

def resolveDelete (descriptor : ProofArtifactDescriptor) (deleteError : ErrorChain) : Storing ExactDeleteResult :=
  ExceptT.mk ((readManifest codec store key).run.bind fun
    | .ok none => .done (.ok .removed)
    | .ok (some (hash, generation)) =>
      if descriptorOf store key hash generation = descriptor then
        .done (.error ("proof manifest delete failed before commit; exact deletion can be retried" :: deleteError))
      else .done (.ok .stale)
    | .error readError =>
      .done (.error (("proof manifest delete outcome is unknown and read-back failed: " ++ ": ".intercalate readError) ::
        deleteError)))

def deleteExact (descriptor : ProofArtifactDescriptor) : Storing ExactDeleteResult := do
  match ← readManifest codec store key with
  | none => return .missing
  | some (hash, currentGeneration) =>
    if descriptorOf store key hash currentGeneration ≠ descriptor then return .stale
    else
      match ← ExceptT.lift (sendDelete (store.manifestName key) (some currentGeneration)).run with
      | .ok .removed => return .removed
      | .ok .missing => return .missing
      | .error deleteError => resolveDelete codec store key descriptor deleteError

inductive StoreCall where
  | putIfAbsent (bytes : Bytes)
  | get
  | getDescriptor
  | deleteExact (descriptor : ProofArtifactDescriptor)
  deriving DecidableEq

inductive StoreAnswer where
  | put (result : ProofArtifactPutResult)
  | got (object : Option ProofArtifactObject)
  | described (descriptor : Option ProofArtifactDescriptor)
  | deleted (result : ExactDeleteResult)
  deriving DecidableEq

def StoreCall.program : StoreCall → Storing StoreAnswer
  | .putIfAbsent bytes => .put <$> Runtime.putIfAbsent codec store key bytes
  | .get => .got <$> getObject codec store key
  | .getDescriptor => .described <$> Runtime.getDescriptor codec store key
  | .deleteExact descriptor => .deleted <$> Runtime.deleteExact codec store key descriptor

end Calls

end Raiko2.Runtime
