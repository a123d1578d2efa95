import Raiko2.Guest.Derive
import Raiko2.Protocol.External

/-!
# L1 anchor linkage

The guest's check that the anchor checkpoints of a proposal are headers of the L1 chain that ends at the
origin block, or the checkpoint that the parent state already stores. Storage of the parent state is read
through an arbitrary reader.
-/

namespace Raiko2

open Lib Lib.Outcome

structure DecodedAnchorCheckpoint where
  blockNumber : UInt64
  blockHash : B256
  stateRoot : B256
  deriving DecidableEq, Repr

structure ShastaParentStorageRead where
  address : Address
  slot : U256
  witness : ExecutionWitness
  ancestorHeaders : List WitnessHeader
  sharedStateNodes : List WitnessStateNode
  deriving DecidableEq

abbrev ParentReader := ShastaParentStorageRead → Outcome Anyhow U256

section ParentStorage

def shastaSignalServiceCheckpointsSlot : U256 := 254

def anchorBlockStateSlot : U256 := 256

def shastaTaikoL2AddressSuffix : List Char := ['1', '0', '0', '0', '1']

def shastaCheckpointStoreAddressSuffix : List Char := ['5']

def addressNibbles : Nat := 40

/-- The address text is the decimal chain id, zeros and the suffix, read as hexadecimal; it consists of
digits only, so that reading it does not fail. -/
def shastaPredeployAddress (chainId : UInt64) (suffix : List Char) : Outcome Anyhow Address := do
  ensure (chainId ≠ 0) ["chain_id must be non-zero to derive Shasta predeploy address"]
  let digits := Nat.toDigits 10 chainId.toNat
  let usedNibbles := digits.length + suffix.length
  ensure (usedNibbles ≤ addressNibbles) [s!"chain_id {chainId} is too long to derive Shasta predeploy address"]
  let text := digits ++ List.replicate (addressNibbles - usedNibbles) '0' ++ suffix
  return BitVec.ofNat 160 (text.foldl (fun value digit => value * 16 + (digit.toNat - 48)) 0)

def shastaTaikoL2Address (chainId : UInt64) : Outcome Anyhow Address :=
  shastaPredeployAddress chainId shastaTaikoL2AddressSuffix

def shastaCheckpointStoreAddress (chainId : UInt64) : Outcome Anyhow Address :=
  shastaPredeployAddress chainId shastaCheckpointStoreAddressSuffix

def shastaCheckpointStorageSlots (keccak256 : Bytes → B256) (blockNumber : UInt64) : U256 × U256 :=
  let blockHashSlot := keccak256 (wordBytes (u64ToB256 blockNumber) ++ wordBytes shastaSignalServiceCheckpointsSlot)
  (blockHashSlot, blockHashSlot + 1)

def anchorBlockNumberFromStorageWord (word : U256) : UInt64 := UInt64.ofNat (word.toNat % 2 ^ 48)

variable (A : Alloy) (readParent : ParentReader) (input : GuestInput)

def parentStorageRead (address : Address) (slot : U256) (witness : StatelessInput) (headers : List WitnessHeader) :
    ShastaParentStorageRead where
  address := address
  slot := slot
  witness := witness.witness
  ancestorHeaders := headers
  sharedStateNodes := input.proposalStateNodes

def verifiedParentShastaCheckpoint (blockNumber : UInt64) : Outcome Anyhow DecodedAnchorCheckpoint := do
  let firstWitness ← ofOption ["GuestInput must contain least one witness"] input.witnesses.head?
  let checkpointStore ← withContext "failed to derive CheckpointStore address"
    (shastaCheckpointStoreAddress firstWitness.chainSpec.chainId)
  let ancestorHeaders ← initialProposalAncestorHeaders input
  let slots := shastaCheckpointStorageSlots A.keccak256 blockNumber
  let blockHash ← withContext "failed to read parent CheckpointStore blockHash"
    (readParent (parentStorageRead input checkpointStore slots.1 firstWitness ancestorHeaders))
  let stateRoot ← withContext "failed to read parent CheckpointStore stateRoot"
    (readParent (parentStorageRead input checkpointStore slots.2 firstWitness ancestorHeaders))
  ensure (blockHash ≠ 0) ["parent CheckpointStore blockHash is zero"]
  ensure (stateRoot ≠ 0) ["parent CheckpointStore stateRoot is zero"]
  return { blockNumber := blockNumber, blockHash := blockHash, stateRoot := stateRoot }

def checkHostAnchor (verifiedAnchor : UInt64) : Option UInt64 → Outcome Anyhow Unit
  | none => ok ()
  | some hostAnchor =>
    ensure (hostAnchor = verifiedAnchor)
      [s!"prover_data.last_anchor_block_number mismatch: expected {verifiedAnchor}, got {hostAnchor}"]

def verifiedParentAnchorBlockNumber : Outcome Anyhow UInt64 := do
  let firstWitness ← ofOption ["GuestInput must contain least one witness"] input.witnesses.head?
  let anchorAddress ← withContext "failed to derive TaikoL2 address"
    (shastaTaikoL2Address firstWitness.chainSpec.chainId)
  let ancestorHeaders ← initialProposalAncestorHeaders input
  let storageWord ← withContext "failed to read parent Anchor._blockState.anchorBlockNumber"
    (readParent (parentStorageRead input anchorAddress anchorBlockStateSlot firstWitness ancestorHeaders))
  let verifiedAnchor := anchorBlockNumberFromStorageWord storageWord
  checkHostAnchor verifiedAnchor input.taiko.proverData.lastAnchorBlockNumber
  return verifiedAnchor

end ParentStorage

section Checks

variable (A : Alloy)

def showCheckpoint (checkpoint : DecodedAnchorCheckpoint) : String :=
  s!"({checkpoint.blockNumber}, {A.debugB256 checkpoint.blockHash}, {A.debugB256 checkpoint.stateRoot})"

def checkL1Header (taiko : TaikoManifest) : Outcome Anyhow Unit := do
  let number := taiko.l1Header.number
  let origin := toU64 taiko.proposal.originBlockNumber
  ensure (number = origin) [s!"taiko.l1_header.number mismatch: expected {origin}, got {number}"]
  ensure (A.hashSlow taiko.l1Header = taiko.proposal.originBlockHash) ["taiko.l1_header hash mismatch"]
  let timestamp := toU64 taiko.proposal.timestamp
  let l1Timestamp := taiko.l1Header.timestamp
  ensure (timestamp > l1Timestamp)
    [s!"proposal.timestamp {timestamp} must be strictly after anchored L1 origin timestamp {l1Timestamp}"]

def checkParentCheckpoints (label : String) (parentCheckpoint : DecodedAnchorCheckpoint) :
    List DecodedAnchorCheckpoint → Outcome Anyhow Unit
  | [] => ok ()
  | checkpoint :: rest => do
    let expected := showCheckpoint A parentCheckpoint
    let actual := showCheckpoint A checkpoint
    ensure (checkpoint = parentCheckpoint) [s!"{label} {actual} does not match parent checkpoint {expected}"]
    checkParentCheckpoints label parentCheckpoint rest

def checkpointNotFound (checkpoint : DecodedAnchorCheckpoint) : Anyhow :=
  let shown := showCheckpoint A checkpoint
  [s!"anchor checkpoint {shown} not found in taiko.l1_ancestor_headers"]

def consumeCheckpoints (header : Header) (headerHash : B256) :
    List DecodedAnchorCheckpoint → Outcome Anyhow (List DecodedAnchorCheckpoint)
  | [] => ok []
  | checkpoint :: rest =>
    if checkpoint.blockNumber ≠ header.number then ok (checkpoint :: rest)
    else do
      ensure (checkpoint.blockHash = headerHash ∧ checkpoint.stateRoot = header.stateRoot)
        (checkpointNotFound A checkpoint)
      consumeCheckpoints header headerHash rest

def checkHeaderLink (index : Nat) (header : Header) : Option (UInt64 × B256) → Outcome Anyhow Unit
  | none => ok ()
  | some (previousNumber, previousHash) => do
    ensure (header.number = previousNumber + 1) [s!"taiko.l1_ancestor_headers must be contiguous at index {index}"]
    ensure (header.parentHash = previousHash) [s!"taiko.l1_ancestor_headers parent hash mismatch at index {index}"]

/-- The pass over the L1 headers: number and hash of the last one, and the checkpoints not met. -/
def l1HeaderLoop : Nat → Option (UInt64 × B256) → List DecodedAnchorCheckpoint → List Header →
    Outcome Anyhow (Option (UInt64 × B256) × List DecodedAnchorCheckpoint)
  | _, previous, checkpoints, [] => ok (previous, checkpoints)
  | index, previous, checkpoints, header :: rest => do
    let headerHash := A.hashSlow header
    checkHeaderLink index header previous
    let remaining ← consumeCheckpoints A header headerHash checkpoints
    l1HeaderLoop (index + 1) (some (header.number, headerHash)) remaining rest

def checkAllFound : List DecodedAnchorCheckpoint → Outcome Anyhow Unit
  | [] => ok ()
  | checkpoint :: _ => error (checkpointNotFound A checkpoint)

def checkL1AncestorHeaders (taiko : TaikoManifest) (checkpoints : List DecodedAnchorCheckpoint) :
    Outcome Anyhow Unit := do
  ensure (taiko.l1AncestorHeaders ≠ []) ["taiko.l1_ancestor_headers must not be empty"]
  let (last, remaining) ← l1HeaderLoop A 0 none checkpoints taiko.l1AncestorHeaders
  let (lastNumber, lastHash) := last.getD (0, 0)
  let origin := toU64 taiko.proposal.originBlockNumber
  ensure (lastNumber = origin)
    [s!"taiko.l1_ancestor_headers last block number mismatch: expected {origin}, got {lastNumber}"]
  ensure (lastHash = taiko.proposal.originBlockHash) ["taiko.l1_ancestor_headers last hash mismatch"]
  checkAllFound A remaining

/-- The anchor-number check; without source spans no checkpoint is taken from the parent state. -/
def anchorPlan (numbers : List UInt64) (parentAnchorBlockNumber originBlockNumber chainId : UInt64) :
    Option (List AnchorSourceSpan) → Outcome Anyhow SourceAwareAnchorPlan
  | some spans =>
    (validateSourceAwareAnchorProgression numbers spans parentAnchorBlockNumber originBlockNumber chainId).mapError
      ([·])
  | none => do
    (validateAnchorProgression numbers parentAnchorBlockNumber originBlockNumber chainId).mapError ([·])
    return { l1HeaderAnchorStartIndex := 0, requiresParentCheckpoint := false }

variable (readParent : ParentReader) (input : GuestInput)

def checkForcedCheckpoints (checkpoints : List DecodedAnchorCheckpoint) (parentAnchorBlockNumber : UInt64)
    (plan : SourceAwareAnchorPlan) : Outcome Anyhow Unit :=
  if plan.requiresParentCheckpoint then do
    let parentCheckpoint ← verifiedParentShastaCheckpoint A readParent input parentAnchorBlockNumber
    let forced ← ofOption ["invalid forced anchor checkpoint range"]
      (sliceGet checkpoints 0 plan.l1HeaderAnchorStartIndex)
    checkParentCheckpoints A "forced inclusion anchor checkpoint" parentCheckpoint forced
  else ok ()

def validateL1AnchorLinkage (checkpoints : List DecodedAnchorCheckpoint) (parentAnchorBlockNumber : UInt64)
    (sourceSpans : Option (List AnchorSourceSpan)) : Outcome Anyhow Unit := do
  let taiko := input.taiko
  let origin := toU64 taiko.proposal.originBlockNumber
  let numbers := checkpoints.map (·.blockNumber)
  let bypass := shouldBypassStalledAnchorLinkage numbers parentAnchorBlockNumber origin taiko.chainSpec.chainId
  checkL1Header A taiko
  if bypass then
    let parentCheckpoint ← verifiedParentShastaCheckpoint A readParent input parentAnchorBlockNumber
    checkParentCheckpoints A "anchor checkpoint" parentCheckpoint checkpoints
  else
    let plan ← anchorPlan numbers parentAnchorBlockNumber origin taiko.chainSpec.chainId sourceSpans
    checkForcedCheckpoints A readParent input checkpoints parentAnchorBlockNumber plan
    let headerCheckpoints ← ofOption ["invalid L1 header anchor checkpoint range"]
      (sliceGet checkpoints plan.l1HeaderAnchorStartIndex checkpoints.length)
    checkL1AncestorHeaders A taiko headerCheckpoints

end Checks

end Raiko2
