import Raiko2.Guest.BlockChecks
import Raiko2.Input.Wire

/-!
# Host preflight

The part of the preflight that prepares what the guest will check: the blocks derived from the sources, the L1
headers that link the anchors to the origin block, and the proof of the parent checkpoint. The provider is
arbitrary; a request that is retried is represented by the response that ends its retries.
-/

namespace Raiko2.Host

open Lib Lib.Outcome

abbrev StorageProofTargets := List (List (Address × List B256))

structure Provider where
  batchL1Headers : List UInt64 → Outcome RaikoError (List Header)
  batchStorageProofWitnesses : List UInt64 → StorageProofTargets → Outcome RaikoError (List (List WitnessStateNode))

section Sources

structure PreflightSourceData where
  manifestBlocks : List BlockManifest
  sourceSpans : List AnchorSourceSpan
  deriving DecidableEq, Repr

def debugForkCondition : ForkCondition → String
  | .block number => s!"Block({number})"
  | .timestamp timestamp => s!"Timestamp({timestamp})"
  | .tbd => "Tbd"

def shastaForkTimestampForChainSpec (chainSpec : ChainSpec) : Outcome RaikoError UInt64 :=
  match chainSpec.hardForks.lookup (.taiko .shasta) with
  | some (.timestamp timestamp) => ok timestamp
  | some other =>
    let name := chainSpec.name
    let shown := debugForkCondition other
    error (.invalidRequestConfig s!"unsupported Shasta fork condition for chain {name}: {shown}")
  | none => ok 0

def lastAnchorBlockNumber (manifest : TaikoManifest) : UInt64 := manifest.proverData.lastAnchorBlockNumber.getD 0

def preflightParentContext (parentBlock : Block) (manifest : TaikoManifest) : ParentBlockContext where
  timestamp := parentBlock.header.timestamp
  gasLimit := parentBlock.header.gasLimit
  blockNumber := parentBlock.header.number
  anchorBlockNumber := lastAnchorBlockNumber manifest

def preflightSourceFailure (sourceIndex : Nat) (err : SourceDerivationError) : RaikoError :=
  let shown := err.display
  .preflight s!"failed to decode Shasta tx-list source {sourceIndex}: {shown}"

def derivePreflightSourceData (T : TaikoProtocol) (chainSpec : ChainSpec) (manifest : TaikoManifest)
    (parentBlock : Option Block) (blocks : List Block) : Outcome RaikoError (Option PreflightSourceData) :=
  let sources := manifest.proposal.sources
  if sources.isEmpty then ok none
  else do
    let dataCount := manifest.dataSources.length
    let sourceCount := sources.length
    ensure (sourceCount = dataCount)
      (.preflight s!"data source count ({dataCount}) does not match proposal source count ({sourceCount})")
    let forkTimestamp ← shastaForkTimestampForChainSpec chainSpec
    let parentBlock ← ofOption (.preflight "cannot derive Shasta tx lists without parent block") parentBlock
    let (manifestBlocks, sourceSpans) ← deriveSources T T.anchorV3V4GasLimit preflightSourceFailure
      (proposalMetadata manifest.proposal chainSpec.chainId) forkTimestamp manifest.dataSources 0
      (preflightParentContext parentBlock manifest) sources
    let derived := manifestBlocks.length
    let fetched := blocks.length
    ensure (derived = fetched)
      (.preflight s!"derived tx-list block count ({derived}) does not match fetched block count ({fetched})")
    return some { manifestBlocks := manifestBlocks, sourceSpans := sourceSpans }

end Sources

section Checkpoints

variable (A : Alloy)

abbrev AnchorCheckpoint := DecodedAnchorCheckpoint

/-- Unlike the guest, the host does not ask for the canonical encoding of the call. -/
def decodeAnchorCheckpoint (block : Block) : Outcome RaikoError AnchorCheckpoint := do
  let number := block.header.number
  let anchorTx ← ofOption (.preflight s!"missing anchor transaction in block {number}") block.body.transactions.head?
  let input := (A.txFields anchorTx).input
  ensure (A.anchorV4Selector.isPrefixOf input = true)
    (.preflight s!"block {number} first transaction is not anchorV4")
  let decoded ← ofExcept (fun e => .preflight s!"failed to decode anchorV4 calldata for block {number}: {e}")
    (A.anchorV4Decode input)
  return { blockNumber := toU64 decoded.blockNumber, blockHash := decoded.blockHash, stateRoot := decoded.stateRoot }

inductive ParentCheckpointValidationScope where
  | all
  | forcedPrefix (length : Nat)
  deriving DecidableEq, Repr

def parentCheckpointValidationScope (anchorBlockNumbers : List UInt64) (sourceSpans : Option (List AnchorSourceSpan))
    (lastAnchorBlockNumber originBlockNumber chainId : UInt64) :
    Outcome RaikoError (Option ParentCheckpointValidationScope) :=
  if shouldBypassStalledAnchorLinkage anchorBlockNumbers lastAnchorBlockNumber originBlockNumber chainId then
    ok (some .all)
  else
    match sourceSpans with
    | none => ok none
    | some sourceSpans => do
      let plan ← (validateSourceAwareAnchorProgression anchorBlockNumbers sourceSpans lastAnchorBlockNumber
        originBlockNumber chainId).mapError .preflight
      if plan.requiresParentCheckpoint then ok (some (.forcedPrefix plan.l1HeaderAnchorStartIndex)) else ok none

variable (P : Provider) (R : Reth)

def fetchParentCheckpointWitnessNodes (witnessBlockNumber : UInt64) (checkpointStore : Address)
    (checkpointBlockNumber : UInt64) : Outcome RaikoError (List WitnessStateNode) := do
  let slots := shastaCheckpointStorageSlots A.keccak256 checkpointBlockNumber
  let batches ← P.batchStorageProofWitnesses [witnessBlockNumber] [[(checkpointStore, [slots.1, slots.2])]]
  let count := batches.length
  ensure (count = 1)
    (.provider s!"provider returned {count} checkpoint proof witness batches for 1 requested block")
  let nodes := batches.headD []
  ensure (nodes ≠ [])
    (.provider "provider returned no checkpoint proof witness nodes for Shasta parent checkpoint")
  return nodes

def readFirstWitness (firstWitness : StatelessInput) (label : String) (address : Address) (slot : U256) :
    Outcome RaikoError U256 :=
  (readParentStorageWithWitnessResources R address slot firstWitness.witness firstWitness.witness.headers []).mapError
    fun err =>
      let shown := err.display
      .preflight s!"failed to read parent CheckpointStore {label}: {shown}"

def parentCheckpointFromWitness (chainSpec : ChainSpec) (firstWitness : StatelessInput) (blockNumber : UInt64) :
    Outcome RaikoError AnchorCheckpoint := do
  let checkpointStore ← ofOption
    (.invalidRequestConfig
      "chain_spec.checkpoint_store_contract required for Shasta parent checkpoint validation")
    chainSpec.checkpointStoreContract
  let slots := shastaCheckpointStorageSlots A.keccak256 blockNumber
  let blockHash ← readFirstWitness R firstWitness "blockHash" checkpointStore slots.1
  let stateRoot ← readFirstWitness R firstWitness "stateRoot" checkpointStore slots.2
  ensure (blockHash ≠ 0) (.preflight "parent CheckpointStore blockHash is zero")
  ensure (stateRoot ≠ 0) (.preflight "parent CheckpointStore stateRoot is zero")
  return { blockNumber := blockNumber, blockHash := blockHash, stateRoot := stateRoot }

def validateAnchorCheckpointsMatchParent (parentCheckpoint : AnchorCheckpoint) (label : String) :
    List AnchorCheckpoint → Outcome RaikoError Unit
  | [] => ok ()
  | checkpoint :: rest => do
    let expected := showCheckpoint A parentCheckpoint
    let actual := showCheckpoint A checkpoint
    ensure (checkpoint = parentCheckpoint)
      (.preflight s!"{label} {actual} does not match parent checkpoint {expected}")
    validateAnchorCheckpointsMatchParent parentCheckpoint label rest

def validateScope (anchorCheckpoints : List AnchorCheckpoint) (parentCheckpoint : AnchorCheckpoint) :
    ParentCheckpointValidationScope → Outcome RaikoError Unit
  | .all => validateAnchorCheckpointsMatchParent A parentCheckpoint "anchor checkpoint" anchorCheckpoints
  | .forcedPrefix length => do
    let forcedCheckpoints ← ofOption (.preflight s!"invalid forced inclusion anchor checkpoint range {length}")
      (sliceGet anchorCheckpoints 0 length)
    validateAnchorCheckpointsMatchParent A parentCheckpoint "forced inclusion anchor checkpoint" forcedCheckpoints

def extendState (witness : StatelessInput) (nodes : List WitnessStateNode) : StatelessInput :=
  { witness with
    witness := { witness.witness with state := canonicalizeStateNodes (witness.witness.state ++ nodes) } }

def hydrateShastaParentCheckpointWitness (chainSpec : ChainSpec) (blocks : List Block) (manifest : TaikoManifest)
    (sourceSpans : Option (List AnchorSourceSpan)) (witnesses : List StatelessInput) :
    Outcome RaikoError (List StatelessInput) := do
  let anchorCheckpoints ← blocks.mapM (decodeAnchorCheckpoint A)
  let scope ← parentCheckpointValidationScope (anchorCheckpoints.map (·.blockNumber)) sourceSpans
    (lastAnchorBlockNumber manifest) (toU64 manifest.proposal.originBlockNumber) chainSpec.chainId
  match scope with
  | none => return witnesses
  | some scope =>
    let checkpointStore ← ofOption
      (.invalidRequestConfig
        "chain_spec.checkpoint_store_contract required for stalled Shasta anchor validation")
      chainSpec.checkpointStoreContract
    match witnesses with
    | [] => error (.preflight "cannot hydrate Shasta checkpoint proof without witnesses")
    | firstWitness :: rest =>
      let nodes ← fetchParentCheckpointWitnessNodes A P firstWitness.block.header.number checkpointStore
        (lastAnchorBlockNumber manifest)
      let hydrated := extendState firstWitness nodes
      let parentCheckpoint ← parentCheckpointFromWitness A R chainSpec hydrated (lastAnchorBlockNumber manifest)
      validateScope A anchorCheckpoints parentCheckpoint scope
      return hydrated :: rest

end Checkpoints

section Headers

variable (A : Alloy) (P : Provider)

def hydrateStalledShastaOriginHeader (originBlockNumber : UInt64) (originBlockHash : B256) (manifest : TaikoManifest) :
    Outcome RaikoError TaikoManifest := do
  let originHeaders ← P.batchL1Headers [originBlockNumber]
  let count := originHeaders.length
  ensure (count = 1) (.preflight s!"provider returned {count} origin L1 headers for 1 requested block")
  let originHeader ← ofOption (.preflight "provider returned no origin L1 header") originHeaders.head?
  let number := originHeader.number
  ensure (number = originBlockNumber)
    (.preflight s!"origin L1 header number mismatch: expected {originBlockNumber}, got {number}")
  let expected := A.debugB256 originBlockHash
  let actual := A.debugB256 (A.hashSlow originHeader)
  ensure (A.hashSlow originHeader = originBlockHash)
    (.preflight s!"proposal origin block hash mismatch: expected {expected}, got {actual}")
  return { manifest with l1Header := originHeader, l1AncestorHeaders := [] }

def l1HeaderAnchorStartIndex (anchorBlockNumbers : List UInt64)
    (lastAnchorBlockNumber originBlockNumber chainId : UInt64) :
    Option (List AnchorSourceSpan) → Outcome RaikoError Nat
  | some sourceSpans => do
    let plan ← (validateSourceAwareAnchorProgression anchorBlockNumbers sourceSpans lastAnchorBlockNumber
      originBlockNumber chainId).mapError .preflight
    return plan.l1HeaderAnchorStartIndex
  | none => do
    (validateAnchorProgression anchorBlockNumbers lastAnchorBlockNumber originBlockNumber chainId).mapError .preflight
    return 0

def l1HeaderAnchorCheckpoints (anchorCheckpoints : List AnchorCheckpoint)
    (sourceSpans : Option (List AnchorSourceSpan)) (lastAnchorBlockNumber originBlockNumber chainId : UInt64) :
    Outcome RaikoError (List AnchorCheckpoint) := do
  let start ← l1HeaderAnchorStartIndex (anchorCheckpoints.map (·.blockNumber)) lastAnchorBlockNumber
    originBlockNumber chainId sourceSpans
  ofOption (.preflight s!"invalid Shasta anchor start index {start}")
    (sliceGet anchorCheckpoints start anchorCheckpoints.length)

def checkpointNotFetched (checkpoint : AnchorCheckpoint) : RaikoError :=
  let shown := showCheckpoint A checkpoint
  .preflight s!"anchor checkpoint {shown} not found in fetched L1 header chain"

def takeCheckpoints (header : Header) (headerHash : B256) :
    List AnchorCheckpoint → Outcome RaikoError (List AnchorCheckpoint)
  | [] => ok []
  | checkpoint :: rest =>
    if checkpoint.blockNumber ≠ header.number then ok (checkpoint :: rest)
    else do
      ensure (¬(checkpoint.blockHash ≠ headerHash ∨ checkpoint.stateRoot ≠ header.stateRoot))
        (checkpointNotFetched A checkpoint)
      takeCheckpoints header headerHash rest

def checkParentLink (header : Header) : Option (UInt64 × B256) → Outcome RaikoError Unit
  | none => ok ()
  | some (previousNumber, previousHash) =>
    let number := header.number
    ensure (header.parentHash = previousHash) (.preflight s!"L1 header chain broken at {previousNumber} -> {number}")

def fetchedHeaderLoop : Nat → Option (UInt64 × B256) → List AnchorCheckpoint → List (Header × UInt64) →
    Outcome RaikoError (Option (UInt64 × B256) × List AnchorCheckpoint)
  | _, previous, checkpoints, [] => ok (previous, checkpoints)
  | index, previous, checkpoints, (header, expectedNumber) :: rest => do
    let number := header.number
    ensure (number = expectedNumber)
      (.preflight s!"L1 header {index} number mismatch: expected {expectedNumber}, got {number}")
    let headerHash := A.hashSlow header
    checkParentLink header previous
    let remaining ← takeCheckpoints A header headerHash checkpoints
    fetchedHeaderLoop (index + 1) (some (expectedNumber, headerHash)) remaining rest

def checkAllFetched : List AnchorCheckpoint → Outcome RaikoError Unit
  | [] => ok ()
  | checkpoint :: _ => error (checkpointNotFetched A checkpoint)

def validateL1Headers (headers : List Header) (expectedNumbers : List UInt64)
    (anchorCheckpoints : List AnchorCheckpoint) (expectedOriginHash : B256) : Outcome RaikoError Unit := do
  ensure (headers ≠ []) (.preflight "no L1 headers returned for Shasta linkage")
  let (last, remaining) ← fetchedHeaderLoop A 0 none anchorCheckpoints (headers.zip expectedNumbers)
  checkAllFetched A remaining
  let lastHash := (last.map (·.2)).getD 0
  let expected := A.debugB256 expectedOriginHash
  let actual := A.debugB256 lastHash
  ensure (lastHash = expectedOriginHash)
    (.preflight s!"proposal origin block hash mismatch: expected {expected}, got {actual}")

/-- `(first..=last).collect()`. -/
def inclusiveRange (first last : UInt64) : List UInt64 :=
  (List.range' first.toNat (last.toNat + 1 - first.toNat)).map UInt64.ofNat

def hydrateShastaL1Headers (chainId : UInt64) (blocks : List Block) (manifest : TaikoManifest)
    (sourceSpans : Option (List AnchorSourceSpan)) : Outcome RaikoError TaikoManifest := do
  let origin := toU64 manifest.proposal.originBlockNumber
  let originHash := manifest.proposal.originBlockHash
  ensure (originHash ≠ 0)
    (.invalidRequestConfig "shasta_proposal_event.proposal.originBlockHash is required")
  let anchorCheckpoints ← blocks.mapM (decodeAnchorCheckpoint A)
  let lastAnchor := lastAnchorBlockNumber manifest
  if shouldBypassStalledAnchorLinkage (anchorCheckpoints.map (·.blockNumber)) lastAnchor origin chainId then
    hydrateStalledShastaOriginHeader A P origin originHash manifest
  else
    let headerCheckpoints ← l1HeaderAnchorCheckpoints anchorCheckpoints sourceSpans lastAnchor origin chainId
    let minAnchor ← ofOption (.preflight "cannot derive Shasta anchor checkpoints")
      (headerCheckpoints.map (·.blockNumber)).min?
    let numbers := inclusiveRange (max minAnchor lastAnchor) origin
    let headers ← P.batchL1Headers numbers
    let returned := headers.length
    let requested := numbers.length
    ensure (returned = requested)
      (.preflight s!"provider returned {returned} L1 headers for {requested} requested block numbers")
    validateL1Headers A headers numbers headerCheckpoints originHash
    let originHeader ← ofOption (.preflight "missing Shasta origin L1 header") headers.getLast?
    let number := originHeader.number
    ensure (number = origin)
      (.preflight s!"proposal origin block number mismatch: expected {origin}, got {number}")
    return { manifest with l1Header := originHeader, l1AncestorHeaders := headers }

end Headers

end Raiko2.Host
