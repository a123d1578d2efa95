import Raiko2.Lib.Canonical
import Raiko2.Protocol.Types

/-!
# Guest inputs

The input of a proposal proof: one stateless input for each block, the manifest of the proposal, the
ancestor header window and the state nodes that the blocks share, and the carry data. Account snapshots,
which no validation reads, are left out.
-/

namespace Raiko2

/-- A header of the witness. Without the full header the other fields are unchecked host data. -/
structure WitnessHeader where
  number : UInt64 := 0
  parentHash : B256 := 0
  timestamp : UInt64 := 0
  hash : B256 := 0
  header : Option Header := none
  deriving DecidableEq, Repr, Inhabited

def WitnessHeader.fromHeaderWithHash (header : Header) (hash : B256) : WitnessHeader where
  number := header.number
  parentHash := header.parentHash
  timestamp := header.timestamp
  hash := hash
  header := some header

def WitnessHeader.fullHeader (header : WitnessHeader) : Option Header := header.header

structure WitnessStateNode where
  hash : B256 := 0
  bytes : Bytes := []
  deriving DecidableEq, Repr, Inhabited

structure ExecutionWitness where
  state : List WitnessStateNode := []
  stateIndices : List UInt32 := []
  codes : List Bytes := []
  keys : List Bytes := []
  headers : List WitnessHeader := []
  deriving DecidableEq, Repr, Inhabited

inductive ProofType where
  | native
  | sp1
  | sgx
  | risc0
  | sgxGeth
  deriving DecidableEq, Repr, Inhabited

inductive TaikoFork where
  | hekla
  | ontake
  | pacaya
  | shasta
  | unzen
  deriving DecidableEq, Repr, Inhabited

/-- An execution spec of `revm`, by its position in that enumeration. -/
abbrev SpecId := Nat

inductive ForkId where
  | standard (spec : SpecId)
  | taiko (fork : TaikoFork)
  deriving DecidableEq, Repr, Inhabited

inductive ForkCondition where
  | block (number : UInt64)
  | timestamp (timestamp : UInt64)
  | tbd
  deriving DecidableEq, Repr, Inhabited

/-- A `BTreeMap`, as the list of its entries in key order. -/
abbrev Entries (κ ν : Type) := List (κ × ν)

structure ChainSpec where
  name : String := ""
  chainId : UInt64 := 0
  hardForks : Entries ForkId ForkCondition := []
  checkpointStoreContract : Option Address := none
  deriving DecidableEq, Inhabited

structure StatelessInput where
  block : Block := {}
  chainSpec : ChainSpec := {}
  witness : ExecutionWitness := {}
  deriving DecidableEq, Inhabited

structure TaikoProverData where
  actualProver : Address := 0
  lastAnchorBlockNumber : Option UInt64 := none
  deriving DecidableEq, Repr, Inhabited

structure ManifestChainSpec where
  chainId : UInt64 := 0
  deriving DecidableEq, Repr, Inhabited

inductive BlobProofType where
  | proofOfEquivalence
  deriving DecidableEq, Repr, Inhabited

structure TaikoManifest where
  proposalId : UInt64 := 0
  l1Header : Header := {}
  proposal : Proposal := {}
  chainSpec : ManifestChainSpec := {}
  proverData : TaikoProverData := {}
  blobProofType : BlobProofType := .proofOfEquivalence
  dataSources : List InputDataSource := []
  l1AncestorHeaders : List Header := []
  deriving DecidableEq, Repr, Inhabited

structure GuestInput where
  witnesses : List StatelessInput := []
  taiko : TaikoManifest := {}
  proposalAncestorHeaders : List WitnessHeader := []
  proposalStateNodes : List WitnessStateNode := []
  proofCarryData : ProofCarryData := {}
  deriving DecidableEq, Inhabited

def ancestorHeaderWindowLimit : Nat := 256

/-- A stable sort by block number, as `sort_by_key` is. -/
def canonicalizeHeaders (headers : List WitnessHeader) : List WitnessHeader :=
  Lib.sortByKey (·.number.toNat) headers

def rollProposalAncestorHeadersInPlace (currentHeaders : List WitnessHeader) (parentHeader : Header)
    (parentHash : B256) : List WitnessHeader :=
  let retainedBeforePush := ancestorHeaderWindowLimit - 1
  currentHeaders.drop (currentHeaders.length - retainedBeforePush) ++
    [WitnessHeader.fromHeaderWithHash parentHeader parentHash]

namespace GuestInput

def ancestorHeaders (input : GuestInput) : List WitnessHeader :=
  if input.proposalAncestorHeaders.isEmpty then
    (input.witnesses.head?.map (·.witness.headers)).getD []
  else input.proposalAncestorHeaders

def initialProposalAncestorHeaders (input : GuestInput) : List WitnessHeader :=
  canonicalizeHeaders input.ancestorHeaders

end GuestInput

end Raiko2
