import Raiko2.Lib.Linearizable
import Raiko2.Lib.Run
import Raiko2.Runtime.ProofStore

/-!
# Clients of one proof in an object store

Any number of calls for one key take turns on a bucket. A turn is one request, which the bucket serves atomically; an
error may be reported for a request that was served and for one that was not. What a turn does to the stored proof, or
sees of it, is noted in a log with the calls and their answers.
-/

namespace Raiko2.Runtime

open Lib

section Bucket

structure Bucket where
  objects : Table String GcsObject
  /-- The generations of all objects that were ever created. -/
  used : List Int64

def GcsRequest.name : GcsRequest → String
  | read name | create name _ | deleteIfGeneration name _ => name

def GcsRequest.refuse (error : ErrorChain) : (request : GcsRequest) → request.Ans
  | read _ | create _ _ | deleteIfGeneration _ _ => .error error

def GcsRequest.answered : (request : GcsRequest) → request.Ans → Bool
  | read _, answer => answer.isOk
  | create _ _, answer => answer.isOk
  | deleteIfGeneration _ _, answer => answer.isOk

def GcsRequest.failedToDelete : (request : GcsRequest) → request.Ans → Bool
  | deleteIfGeneration _ _, answer => !answer.isOk
  | _, _ => false

def Bucket.serve (bucket : Bucket) (generation : Int64) : (request : GcsRequest) → request.Ans × Bucket
  | .read name => (.ok (bucket.objects.lookup name), bucket)
  | .create name bytes =>
    match bucket.objects.lookup name with
    | some _ => (.ok .alreadyExists, bucket)
    | none =>
      (.ok (.created generation), ⟨bucket.objects.insert name ⟨bytes, generation⟩, generation :: bucket.used⟩)
  | .deleteIfGeneration name expected =>
    match bucket.objects.lookup name with
    | none => (.ok .missing, bucket)
    | some object =>
      if expected.all (· = object.generation) then (.ok .removed, { bucket with objects := bucket.objects.erase name })
      else (.error ["failed to conditionally delete GCS object"], bucket)

variable {bucket : Bucket} {generation : Int64} {name : String}

theorem Bucket.serve_create_absent {bytes : Bytes} (h : bucket.objects.lookup name = none) :
    bucket.serve generation (.create name bytes) =
      (.ok (.created generation), ⟨bucket.objects.insert name ⟨bytes, generation⟩, generation :: bucket.used⟩) := by
  simp only [serve, h]

theorem Bucket.serve_create_present {bytes : Bytes} {object : GcsObject} (h : bucket.objects.lookup name = some object) :
    bucket.serve generation (.create name bytes) = (.ok .alreadyExists, bucket) := by
  simp only [serve, h]

theorem Bucket.serve_delete_absent {expected : Option Int64} (h : bucket.objects.lookup name = none) :
    bucket.serve generation (.deleteIfGeneration name expected) = (.ok .missing, bucket) := by
  simp only [serve, h]

theorem Bucket.serve_delete_present {expected : Int64} {object : GcsObject}
    (h : bucket.objects.lookup name = some object) :
    bucket.serve generation (.deleteIfGeneration name (some expected)) =
      if expected = object.generation then (.ok .removed, { bucket with objects := bucket.objects.erase name })
      else (.error ["failed to conditionally delete GCS object"], bucket) := by
  simp only [serve, h, Option.all_some, decide_eq_true_eq]

inductive Fault where
  | none
  | before (error : ErrorChain)
  | after (error : ErrorChain)

def Fault.serve (fault : Fault) (bucket : Bucket) (generation : Int64) (request : GcsRequest) :
    request.Ans × Bucket :=
  match fault with
  | .none => bucket.serve generation request
  | .before error => (request.refuse error, bucket)
  | .after error => (request.refuse error, (bucket.serve generation request).2)

end Bucket

section Register

variable (codec : Codec) (store : GcsProofArtifactStore) (key : ObjectKey)

structure Stored where
  bytes : Bytes
  generation : Int64
  deriving DecidableEq

namespace Stored

variable (stored : Stored)

def descriptor : ProofArtifactDescriptor := descriptorOf store key (codec.contentHash stored.bytes) stored.generation

def object : ProofArtifactObject :=
  ⟨store.contentUri key (codec.contentHash stored.bytes), codec.contentHash stored.bytes, some stored.generation,
    stored.bytes⟩

end Stored

def registerOf (objects : Table String GcsObject) : Option Stored := do
  let manifest ← objects.lookup (store.manifestName key)
  let hash ← (codec.parseManifest manifest.bytes).toOption
  let content ← objects.lookup (store.contentName key hash)
  return ⟨content.bytes, manifest.generation⟩

inductive RegisterAct where
  | create (stored : Stored)
  | observe (found : Option Stored)
  | remove (stored : Stored)
  deriving DecidableEq

namespace RegisterAct

def apply (current : Option Stored) : RegisterAct → Option (Option Stored)
  | create stored => if current = none then some (some stored) else none
  | observe found => if current = found then some current else none
  | remove stored => if current = some stored then some none else none

def isEffect : RegisterAct → Bool
  | observe _ => false
  | _ => true

end RegisterAct

structure StoreResponse where
  answer : Except ErrorChain StoreAnswer
  deleteFailed : Bool
  deriving DecidableEq

def MayHaveDone : StoreCall → List RegisterAct → Prop
  | .putIfAbsent bytes, done => done = [] ∨ ∃ stored : Stored, done = [.create stored] ∧ stored.bytes = bytes
  | .deleteExact descriptor, done =>
    done = [] ∨ ∃ stored : Stored, done = [.remove stored] ∧ stored.descriptor codec store key = descriptor
  | _, done => done = []

def CreateOnly : StoreCall → StoreResponse → List RegisterAct → Prop
  | call, ⟨.error _, _⟩, core => MayHaveDone codec store key call core
  | .putIfAbsent bytes, ⟨.ok (.put (.created object)), _⟩, core =>
    ∃ stored : Stored, core = [.create stored] ∧ stored.bytes = bytes ∧ object = stored.object codec store key
  | .putIfAbsent bytes, ⟨.ok (.put (.alreadyExists object)), _⟩, core =>
    ∃ stored : Stored, core = [.observe (some stored)] ∧ stored.bytes = bytes ∧ object = stored.object codec store key
  | .putIfAbsent bytes, ⟨.ok (.put (.conflict found)), _⟩, core =>
    ∃ stored : Stored, core = [.observe (some stored)] ∧ stored.bytes ≠ bytes ∧
      found = ⟨stored.descriptor codec store key, some (stored.object codec store key)⟩
  | .get, ⟨.ok (.got object), _⟩, core =>
    ∃ found : Option Stored, core = [.observe found] ∧ object = found.map (Stored.object codec store key)
  | .getDescriptor, ⟨.ok (.described descriptor), _⟩, core =>
    ∃ found : Option Stored, core = [.observe found] ∧ descriptor = found.map (Stored.descriptor codec store key)
  | .deleteExact descriptor, ⟨.ok (.deleted .removed), _⟩, core =>
    ∃ stored : Stored, core = [.remove stored] ∧ stored.descriptor codec store key = descriptor
  | .deleteExact _, ⟨.ok (.deleted .missing), _⟩, core => core = [.observe none]
  | .deleteExact descriptor, ⟨.ok (.deleted .stale), _⟩, core =>
    ∃ stored : Stored, core = [.observe (some stored)] ∧ stored.descriptor codec store key ≠ descriptor
  | _, _, _ => False

/-- A put that finds its own bytes looks twice. A delete whose request has failed answers with what it sees then. -/
def LooksAgain : StoreCall → StoreResponse → List RegisterAct → Prop
  | .putIfAbsent bytes, ⟨.ok (.put (.alreadyExists object)), _⟩, core =>
    ∃ first second : Stored, core = [.observe (some first), .observe (some second)] ∧ first.bytes = bytes ∧
      object = second.object codec store key
  | .deleteExact descriptor, ⟨.ok (.deleted .removed), true⟩, core =>
    ∃ stored : Stored, core = [.observe (some stored), .observe none] ∧ stored.descriptor codec store key = descriptor
  | .deleteExact descriptor, ⟨.ok (.deleted .stale), true⟩, core =>
    ∃ stored other : Stored, core = [.remove stored, .observe (some other)] ∧
      stored.descriptor codec store key = descriptor ∧ other.descriptor codec store key ≠ descriptor
  | _, _, _ => False

abbrev RegisterSpecification := Specification StoreCall StoreResponse RegisterAct (Option Stored)

def createOnlyRegister : RegisterSpecification where
  init := none
  apply := RegisterAct.apply
  isEffect := RegisterAct.isEffect
  Core := CreateOnly codec store key
  Unfinished := MayHaveDone codec store key

def reexaminedRegister : RegisterSpecification where
  init := none
  apply := RegisterAct.apply
  isEffect := RegisterAct.isEffect
  Core call response core := CreateOnly codec store key call response core ∨ LooksAgain codec store key call response core
  Unfinished := MayHaveDone codec store key

end Register

section System

variable (codec : Codec) (store : GcsProofArtifactStore) (key : ObjectKey)

abbrev StoreMoment := Moment Nat StoreCall StoreResponse RegisterAct

def noted (before after : Table String GcsObject) (request : GcsRequest) (answer : request.Ans) : List RegisterAct :=
  match registerOf codec store key before, registerOf codec store key after with
  | none, some stored => [.create stored]
  | some stored, none => [.remove stored]
  | current, _ => if request.name = store.manifestName key && request.answered answer then [.observe current] else []

structure Shared where
  bucket : Bucket
  log : List StoreMoment
  /-- The calls for which the transport has reported an error of a delete. -/
  failedDeletes : List Nat

abbrev StoreProgram := Program GcsRequest GcsRequest.Ans (Except ErrorChain StoreAnswer)

structure StoreState where
  shared : Shared
  calls : Nat → Option StoreProgram

inductive StoreEvent where
  | invoke (i : Nat) (call : StoreCall)
  | turn (i : Nat) (fault : Fault) (generation : Int64)
  | respond (i : Nat)

def Shared.turn (shared : Shared) (i : Nat) (fault : Fault) (generation : Int64) (request : GcsRequest) :
    request.Ans × Shared :=
  let (answer, bucket) := fault.serve shared.bucket generation request
  (answer, {
    bucket := bucket
    log := shared.log ++ (noted codec store key shared.bucket.objects bucket.objects request answer).map (.act i)
    failedDeletes := if request.failedToDelete answer then i :: shared.failedDeletes else shared.failedDeletes })

namespace StoreState

variable (s : StoreState)

/-- A new call has a new number, and generations are not used again. -/
def Allowed : StoreEvent → Prop
  | .invoke i _ => ∀ moment ∈ s.shared.log, moment.call ≠ i
  | .turn _ _ generation => generation ∉ s.shared.bucket.used
  | .respond _ => True

instance (event : StoreEvent) : Decidable (s.Allowed event) :=
  match event with
  | .invoke i _ => inferInstanceAs (Decidable (∀ moment ∈ s.shared.log, moment.call ≠ i))
  | .turn _ _ generation => inferInstanceAs (Decidable (generation ∉ s.shared.bucket.used))
  | .respond _ => inferInstanceAs (Decidable True)

def step : StoreEvent → StoreState
  | .invoke i call => {
      shared := { s.shared with log := s.shared.log ++ [.invoke i call] }
      calls := Function.update s.calls i (some (call.program codec store key).run) }
  | .turn i fault generation =>
    match s.calls i with
    | some (.ask request next) =>
      let (answer, shared) := s.shared.turn codec store key i fault generation request
      ⟨shared, Function.update s.calls i (some (next answer))⟩
    | _ => s
  | .respond i =>
    match s.calls i with
    | some (.done answer) => {
        shared := { s.shared with
          log := s.shared.log ++ [.response i ⟨answer, s.shared.failedDeletes.contains i⟩] }
        calls := Function.update s.calls i none }
    | _ => s

def history : List StoreMoment := s.shared.log.filter Moment.isVisible

end StoreState

def emptyStore : StoreState := ⟨⟨⟨∅, []⟩, [], []⟩, fun _ => none⟩

end System

end Raiko2.Runtime
