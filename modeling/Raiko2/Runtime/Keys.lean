import Raiko2.Lib.Framed

/-!
# Names of pipelines, tasks and proofs

The runtime state and the object store are keyed by texts that are put together from a network pair, a pipeline, a
route and a reference. Different keys give different texts, so that the tables of the model are keyed by the parts.
-/

namespace Raiko2.Runtime

open Lib

inductive GuestSystem where
  | risc0
  | sp1
  | native
  | sgx
  | sgxGeth
  deriving DecidableEq, Repr

def GuestSystem.asStr : GuestSystem → String
  | risc0 => "risc0"
  | sp1 => "sp1"
  | native => "native"
  | sgx => "sgx"
  | sgxGeth => "sgxgeth"

inductive RunnerKind where
  | localRunner
  | network
  | remote
  deriving DecidableEq, Repr

def RunnerKind.asStr : RunnerKind → String
  | localRunner => "local"
  | network => "network"
  | remote => "remote"

structure PipelineRoute where
  guestSystem : GuestSystem
  runner : RunnerKind
  deriving DecidableEq, Repr

def PipelineRoute.text (route : PipelineRoute) : String := route.guestSystem.asStr ++ "/" ++ route.runner.asStr

theorem PipelineRoute.text_injective {a b : PipelineRoute} (h : a.text = b.text) : a = b := by
  obtain ⟨g, r⟩ := a
  obtain ⟨g', r'⟩ := b
  cases g <;> cases r <;> cases g' <;> cases r' <;> first | rfl | exact absurd h (by decide)

inductive PipelineKey where
  | shastaRisc0
  | shastaSp1
  | shastaNative
  | shastaSgx
  | shastaSgxGeth
  deriving DecidableEq, Repr

namespace PipelineKey

def asStr : PipelineKey → String
  | shastaRisc0 => "shasta-risc0-local"
  | shastaSp1 => "shasta-sp1-local"
  | shastaNative => "shasta-native-local"
  | shastaSgx => "shasta-sgx-remote"
  | shastaSgxGeth => "shasta-sgxgeth-remote"

theorem asStr_injective {a b : PipelineKey} (h : a.asStr = b.asStr) : a = b := by
  cases a <;> cases b <;> first | rfl | exact absurd h (by decide)

def route : PipelineKey → PipelineRoute
  | shastaRisc0 => ⟨.risc0, .localRunner⟩
  | shastaSp1 => ⟨.sp1, .localRunner⟩
  | shastaNative => ⟨.native, .localRunner⟩
  | shastaSgx => ⟨.sgx, .remote⟩
  | shastaSgxGeth => ⟨.sgxGeth, .remote⟩

def supportsRoute : PipelineKey → PipelineRoute → Bool
  | shastaRisc0, ⟨.risc0, .localRunner⟩ => true
  | shastaSp1, ⟨.sp1, .localRunner⟩ => true
  | shastaSp1, ⟨.sp1, .network⟩ => true
  | shastaNative, ⟨.native, .localRunner⟩ => true
  | shastaSgx, ⟨.sgx, .remote⟩ => true
  | shastaSgxGeth, ⟨.sgxGeth, .remote⟩ => true
  | _, _ => false

/-- Routes of state that an older version wrote are read as the current ones. -/
def canonicalizePersistedRoute (key : PipelineKey) (route : PipelineRoute) : Option PipelineRoute :=
  if key.supportsRoute route then some route
  else
    match key, route with
    | shastaSgxGeth, ⟨.sgx, .remote⟩ => some key.route
    | _, _ => none

end PipelineKey

def pendingMark : String := "__pending__:"

structure TaskRef where
  name : String
  unreserved : pendingMark.toList.isPrefixOf name.toList = false
  deriving DecidableEq

inductive RefKind where
  | task
  | stage
  | proof
  deriving DecidableEq, Repr

def RefKind.asStr : RefKind → String
  | task => "task"
  | stage => "stage"
  | proof => "proof"

def stableRef (kind : RefKind) (digest : String) : TaskRef where
  name := kind.asStr ++ "_" ++ digest
  unreserved := by
    rw [String.toList_append, String.toList_append]
    cases kind <;> rfl

structure ProofArtifactKey where
  networkPair : String
  pipelineKey : PipelineKey
  route : PipelineRoute
  proofRef : TaskRef
  deriving DecidableEq

/-- The identity of an artifact, with any text as its reference. -/
structure ArtifactIdentity where
  networkPair : String
  pipelineKey : PipelineKey
  route : PipelineRoute
  proofRef : String
  deriving DecidableEq

def ArtifactIdentity.recordKey (artifact : ArtifactIdentity) : String :=
  "artifact:v1:" ++ frameAll [artifact.networkPair, artifact.pipelineKey.asStr, artifact.route.text, artifact.proofRef]

theorem ArtifactIdentity.recordKey_injective {a b : ArtifactIdentity} (h : a.recordKey = b.recordKey) : a = b := by
  rw [recordKey, recordKey, String.append_right_inj] at h
  have hParts := frameAll_injective (by rfl) h
  simp only [List.cons.injEq, and_true] at hParts
  obtain ⟨hPair, hPipeline, hRoute, hRef⟩ := hParts
  obtain ⟨pair, pipeline, route, ref⟩ := a
  obtain ⟨pair', pipeline', route', ref'⟩ := b
  obtain rfl : pair = pair' := hPair
  obtain rfl : pipeline = pipeline' := PipelineKey.asStr_injective hPipeline
  obtain rfl : route = route' := PipelineRoute.text_injective hRoute
  obtain rfl : ref = ref' := hRef
  rfl

inductive ObjectKey where
  | canonical (key : ProofArtifactKey)
  | pending (key : ProofArtifactKey)
  deriving DecidableEq

namespace ObjectKey

def artifact : ObjectKey → ProofArtifactKey
  | canonical key => key
  | pending key => key

def proofRef : ObjectKey → String
  | canonical key => key.proofRef.name
  | pending key => pendingMark ++ key.proofRef.name

theorem pendingMark_append_ne (name : String) (ref : TaskRef) : pendingMark ++ name ≠ ref.name := by
  intro h
  have hMark := ref.unreserved
  rw [← h, String.toList_append, List.isPrefixOf_iff_prefix.mpr (List.prefix_append _ _)] at hMark
  cases hMark

theorem proofRef_injective {a b : ObjectKey} (hPair : a.artifact.networkPair = b.artifact.networkPair)
    (hPipeline : a.artifact.pipelineKey = b.artifact.pipelineKey) (hRoute : a.artifact.route = b.artifact.route)
    (hRef : a.proofRef = b.proofRef) : a = b := by
  have hKey : ∀ k k' : ProofArtifactKey, k.networkPair = k'.networkPair → k.pipelineKey = k'.pipelineKey →
      k.route = k'.route → k.proofRef.name = k'.proofRef.name → k = k' := by
    rintro ⟨_, _, _, _, _⟩ ⟨_, _, _, _, _⟩ rfl rfl rfl rfl
    rfl
  cases a with
  | canonical key =>
    cases b with
    | canonical key' => rw [hKey key key' hPair hPipeline hRoute hRef]
    | pending key' => exact absurd hRef.symm (pendingMark_append_ne _ _)
  | pending key =>
    cases b with
    | canonical key' => exact absurd hRef (pendingMark_append_ne _ _)
    | pending key' => rw [hKey key key' hPair hPipeline hRoute ((String.append_right_inj _).mp hRef)]

end ObjectKey

end Raiko2.Runtime
