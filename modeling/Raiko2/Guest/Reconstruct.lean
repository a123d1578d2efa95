import Raiko2.Guest.Derive
import Raiko2.Protocol.External

/-!
# Block reconstruction

The stateless reconstruction of one block from its anchor transaction and the transactions of the manifest:
the checks of the ancestor header window, the candidate block, and the consensus checks of the result. What
`alethia-reth` and `reth` contribute is the record `Reth`. Execution on the state of the parent is one of its
functions; a run on a witness either gives the same outcome or fails, and `witnessCovers` says which.
-/

namespace Raiko2

open Lib Lib.Outcome

/-- The variants of the validation error that the modelled functions return. -/
inductive StatelessValidationError where
  | invalidAncestorChain
  | sharedWitnessStateIndexOutOfBounds (index : UInt32) (len : Nat)
  | statelessExecutionFailed (message : String)
  | consensusValidationFailed (message : String)
  | missingAncestorHeader
  | headerDeserializationFailed
  | compactAncestorHeaderUnsupported
  | custom (message : String)
  deriving DecidableEq, Repr

def StatelessValidationError.display : StatelessValidationError → String
  | invalidAncestorChain => "invalid ancestor chain"
  | sharedWitnessStateIndexOutOfBounds index len =>
    s!"shared witness state index {index} out of bounds for pool length {len}"
  | statelessExecutionFailed message => s!"stateless block execution failed: {message}"
  | consensusValidationFailed message => s!"consensus validation failed: {message}"
  | missingAncestorHeader => "missing required ancestor headers"
  | headerDeserializationFailed => "could not deserialize ancestor headers"
  | compactAncestorHeaderUnsupported => "compact ancestor headers are not accepted in host-untrusted validation"
  | custom message => message

/-- A `B256Map` collected from the digests of state nodes: of equal digests the last one stays. -/
def digestMap (A : Alloy) (nodes : List WitnessStateNode) : B256 → Option Bytes := fun digest =>
  (nodes.reverse.find? fun node => A.keccak256 node.bytes = digest).map (·.bytes)

/-- `SparseState::rlp_by_digest`: the trie nodes that a block may look up. -/
def rlpByDigest (A : Alloy) (witness : ExecutionWitness) (sharedStateNodes : List WitnessStateNode) :
    Outcome StatelessValidationError (B256 → Option Bytes) :=
  if witness.stateIndices.isEmpty then ok (digestMap A witness.state)
  else do
    let nodes ← witness.stateIndices.mapM fun index =>
      ofOption (.sharedWitnessStateIndexOutOfBounds index sharedStateNodes.length) sharedStateNodes[index.toNat]?
    return digestMap A nodes

structure SealedHeader where
  header : Header
  hash : B256
  deriving DecidableEq, Repr

structure TaikoNextBlockEnvAttributes where
  timestamp : UInt64
  suggestedFeeRecipient : Address
  prevRandao : B256
  gasLimit : UInt64
  extraData : Bytes
  baseFeePerGas : UInt64
  parentBeaconBlockRoot : Option B256
  deriving DecidableEq, Repr

structure AncestorHashes where
  startBlockNumber : UInt64
  hashes : List B256
  deriving DecidableEq, Repr

/-- A difference that does not fit in `usize` is beyond every list, so the conversion is left out. -/
def AncestorHashes.get (ancestors : AncestorHashes) (blockNumber : UInt64) : Option B256 := do
  let index ← U64.checkedSub blockNumber ancestors.startBlockNumber
  ancestors.hashes[index.toNat]?

/-- The outcome of an execution, with the state root it leads to; of the receipts only their status is read. -/
structure DerivedBlockExecutionOutcome where
  committedTransactions : List TransactionSigned
  receiptStatuses : List Bool
  stateRoot : B256
  deriving DecidableEq, Repr

structure Reth where
  unzenActiveAtTimestamp : TaikoNetwork → UInt64 → Bool
  isUnzenActive : TaikoNetwork → UInt64 → Bool
  isShastaActive : TaikoNetwork → UInt64 → Bool
  defaultHeader : Header
  calculateTransactionRoot : List TransactionSigned → B256
  calculateOmmersRoot : List Header → B256
  calculateWithdrawalsRoot : Option (List Withdrawal) → Option B256
  witnessCovers : ExecutionWitness → List WitnessStateNode → B256 → AncestorHashes → SealedHeader → Block →
    Except StatelessValidationError Unit
  storageFromWitness : ExecutionWitness → List WitnessStateNode → B256 → Address → U256 →
    Except StatelessValidationError U256
  executeDerivedBlock : TaikoNetwork → SealedHeader → Block → Except String DerivedBlockExecutionOutcome
  assembleFilteredBlock : TaikoNetwork → SealedHeader → Block → DerivedBlockExecutionOutcome → Except String Block
  consensusRules : TaikoNetwork → Block → List (B256 × UInt64) → SealedHeader → Except String Unit
  validateBlockPostExecution : TaikoNetwork → Block → DerivedBlockExecutionOutcome → Except String Unit
  validateAnchorTransactionInBlock : TaikoNetwork → Block → Except String Unit
  validateAnchorTransaction : TransactionSigned → TaikoNetwork → UInt64 → UInt64 → UInt64 → Except String Unit
  goldenTouch : Except String Unit
  signWithPredefinedK : B256 → Except String Bytes
  encodeExtraData : UInt8 → UInt64 → Bytes
  calculateShastaDifficulty : B256 → UInt64 → B256
  verifyBlobProofOfEquivalence : Bytes → Bytes → Bytes → Except String Unit

section Window

def ensureFullAncestorHeaders (ancestorHeaders : List WitnessHeader) : Outcome StatelessValidationError Unit :=
  if ancestorHeaders.any (fun header => header.fullHeader.isNone) then error .compactAncestorHeaderUnsupported
  else ok ()

def determinePreStateRoot (headers : List WitnessHeader) : Outcome StatelessValidationError B256 :=
  match headers.getLast? with
  | some previous => ofOption .headerDeserializationFailed (previous.fullHeader.map (·.stateRoot))
  | none => error .missingAncestorHeader

def sealedParentHeader (ancestorHeaders : List WitnessHeader) : Outcome StatelessValidationError SealedHeader :=
  ofOption .missingAncestorHeader
    (ancestorHeaders.getLast?.bind fun header => header.fullHeader.map fun full => ⟨full, header.hash⟩)

def readParentStorageWithWitnessResources (R : Reth) (address : Address) (slot : U256) (witness : ExecutionWitness)
    (ancestorHeaders : List WitnessHeader) (sharedStateNodes : List WitnessStateNode) :
    Outcome StatelessValidationError U256 := do
  let preStateRoot ← determinePreStateRoot ancestorHeaders
  ofExcept id (R.storageFromWitness witness sharedStateNodes preStateRoot address slot)

def checkAncestorChain (childNumber : UInt64) (childParentHash : B256) :
    List WitnessHeader → Outcome StatelessValidationError Unit
  | [] => ok ()
  | parent :: rest =>
    if childParentHash ≠ parent.hash ∨ parent.number + 1 ≠ childNumber then error .invalidAncestorChain
    else checkAncestorChain parent.number parent.parentHash rest

def computeAncestorHashesForChild (childNumber : UInt64) (childParentHash : B256)
    (ancestorHeaders : List WitnessHeader) : Outcome StatelessValidationError AncestorHashes := do
  ensureFullAncestorHeaders ancestorHeaders
  checkAncestorChain childNumber childParentHash ancestorHeaders.reverse
  return { startBlockNumber := (ancestorHeaders.head?.map (·.number)).getD 0, hashes := ancestorHeaders.map (·.hash) }

def computeNextBlockAncestorHashes (ancestorHeaders : List WitnessHeader) :
    Outcome StatelessValidationError AncestorHashes := do
  let parent ← ofOption .missingAncestorHeader ancestorHeaders.getLast?
  computeAncestorHashesForChild (parent.number + 1) parent.hash ancestorHeaders

end Window

section Reconstruction

variable (A : Alloy) (R : Reth) (network : TaikoNetwork)

def ensureUnzenActive (timestamp : UInt64) : Outcome StatelessValidationError Unit :=
  ensure (R.isUnzenActive network timestamp = true) (.custom "only Unzen and later blocks are supported")

def ensureSupportedParentBeaconBlockRoot (root : Option B256) : Outcome StatelessValidationError Unit :=
  ensure (root.all (· == 0)) (.custom "non-zero parent_beacon_block_root is unsupported on Taiko")

def ensureCanonicalParentBeaconBlockRoot (root : Option B256) : Outcome StatelessValidationError Unit := do
  ensureSupportedParentBeaconBlockRoot root
  ensure (root = some 0) (.custom "parent_beacon_block_root does not match the active Taiko fork")

def ensureAnchorReceiptSuccess (receiptStatuses : List Bool) : Outcome StatelessValidationError Unit := do
  let status ← ofOption (.statelessExecutionFailed "missing anchor transaction receipt") receiptStatuses.head?
  ensure (status = true) (.statelessExecutionFailed "anchor transaction execution did not succeed")

/-- The candidate block. Transactions whose signer cannot be recovered are left out. -/
def buildDerivedBlock (parent : SealedHeader) (anchorTx : TransactionSigned) (transactions : List TransactionSigned)
    (blockEnv : TaikoNextBlockEnvAttributes) : Block :=
  let body : BlockBody :=
    { transactions := anchorTx :: transactions.filter (fun tx => (A.recoverSigner tx).isSome)
      ommers := []
      withdrawals := some [] }
  { header :=
      { R.defaultHeader with
        parentHash := parent.hash
        number := parent.header.number + 1
        timestamp := blockEnv.timestamp
        beneficiary := blockEnv.suggestedFeeRecipient
        gasLimit := blockEnv.gasLimit
        baseFeePerGas := some blockEnv.baseFeePerGas
        mixHash := blockEnv.prevRandao
        extraData := blockEnv.extraData
        parentBeaconBlockRoot := blockEnv.parentBeaconBlockRoot
        transactionsRoot := R.calculateTransactionRoot body.transactions
        ommersHash := R.calculateOmmersRoot body.ommers
        withdrawalsRoot := R.calculateWithdrawalsRoot body.withdrawals }
    body := body }

def validateBlockConsensus (block : Block) (ancestorHeaders : List WitnessHeader) :
    Outcome StatelessValidationError Unit := do
  ensureCanonicalParentBeaconBlockRoot block.header.parentBeaconBlockRoot
  ensureFullAncestorHeaders ancestorHeaders
  let parent ← sealedParentHeader ancestorHeaders
  ensure (¬(R.isShastaActive network block.header.timestamp = true ∧ parent.header.number ≠ 0 ∧
    ancestorHeaders.length < 2)) .missingAncestorHeader
  ofExcept .consensusValidationFailed
    (R.consensusRules network block (ancestorHeaders.map fun header => (header.hash, header.timestamp)) parent)

def executeAndAssemble (parent : SealedHeader) (derived : Block) :
    Outcome StatelessValidationError (Block × DerivedBlockExecutionOutcome) := do
  let outcome ← ofExcept .statelessExecutionFailed (R.executeDerivedBlock network parent derived)
  ensureAnchorReceiptSuccess outcome.receiptStatuses
  let block ← ofExcept .statelessExecutionFailed (R.assembleFilteredBlock network parent derived outcome)
  return (block, outcome)

def reconstructBlockFromTransactions (anchorTx : TransactionSigned) (transactions : List TransactionSigned)
    (blockEnv : TaikoNextBlockEnvAttributes) (witness : ExecutionWitness) (ancestorHeaders : List WitnessHeader)
    (sharedStateNodes : List WitnessStateNode) : Outcome StatelessValidationError Block := do
  ensureUnzenActive R network blockEnv.timestamp
  ensureSupportedParentBeaconBlockRoot blockEnv.parentBeaconBlockRoot
  let parent ← sealedParentHeader ancestorHeaders
  let preStateRoot ← determinePreStateRoot ancestorHeaders
  let ancestorHashes ← computeNextBlockAncestorHashes ancestorHeaders
  let derived := buildDerivedBlock A R parent anchorTx transactions blockEnv
  ofExcept id (R.witnessCovers witness sharedStateNodes preStateRoot ancestorHashes parent derived)
  let (block, outcome) ← executeAndAssemble R network parent derived
  validateBlockConsensus R network block ancestorHeaders
  ofExcept .consensusValidationFailed (R.validateBlockPostExecution network block outcome)
  ofExcept .consensusValidationFailed (R.validateAnchorTransactionInBlock network block)
  return block

end Reconstruction

end Raiko2
