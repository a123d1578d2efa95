import Raiko2.Guest.Linkage
import Raiko2.Guest.Reconstruct

/-!
# Checks of one block

The checks that the proof of a proposal makes of its blobs and of each witness block: the blobs against the
hashes of the proposal, the anchor transaction, the metadata of the derived block, and the comparison of the
reconstructed block with the block of the witness.
-/

namespace Raiko2

open Lib Lib.Outcome

section Blobs

variable (A : Alloy) (R : Reth)

def readKzgBytes (value : Bytes) (label : String) (idx : Nat) : Outcome RaikoError Bytes := do
  let length := value.length
  ensure (length = 48)
    (.invalidBlobOption s!"{label} at index {idx} has invalid length (expected 48 bytes, got {length})")
  return value

/-- The loop over the blobs of one source; its three lists have one length. -/
def verifyBlobs (sourceIdx : Nat) : Nat → List Bytes → List Bytes → List Bytes → List B256 →
    Outcome RaikoError Unit
  | idx, blob :: blobs, commitment :: commitments, proof :: proofs, expected :: rest => do
    let commitmentArray ← readKzgBytes commitment "Commitment" idx
    let proofArray ← readKzgBytes proof "Proof" idx
    ofExcept (fun e => .invalidBlobOption s!"Blob proof-of-equivalence verification failed at index {idx}: {e}")
      (R.verifyBlobProofOfEquivalence blob commitmentArray proofArray)
    let versionedHash := A.commitmentToVersionHash commitmentArray
    let shownExpected := A.debugB256 expected
    let shownHash := A.debugB256 versionedHash
    ensure (versionedHash = expected) (.invalidBlobOption
      (s!"blob versioned hash mismatch at source {sourceIdx}, index {idx}: " ++
        s!"expected {shownExpected}, got {shownHash}"))
    verifyBlobs sourceIdx (idx + 1) blobs commitments proofs rest
  | _, _, _, _, _ => ok ()

def verifySourceBlobs (sourceIdx : Nat) (dataSource : InputDataSource) (expectedBlobHashes : List B256) :
    Outcome RaikoError Unit :=
  if expectedBlobHashes.isEmpty then
    ensure (dataSource.txDataFromCalldata = [] ∧ dataSource.txDataFromBlob = [] ∧ dataSource.blobCommitments = [] ∧
      dataSource.blobProofs = [])
      (.invalidBlobOption s!"inline payloads are not accepted for ZK proposal source {sourceIdx}")
  else do
    ensure (dataSource.txDataFromBlob ≠ [])
      (.invalidBlobOption s!"blob-backed source {sourceIdx} is missing blob data")
    let blobs := dataSource.txDataFromBlob.length
    let commitments := dataSource.blobCommitments.length
    let proofs := dataSource.blobProofs.length
    let hashes := expectedBlobHashes.length
    ensure (blobs = commitments)
      (.invalidBlobOption s!"blob count ({blobs}) does not match commitment count ({commitments})")
    ensure (commitments = proofs)
      (.invalidBlobOption s!"commitment count ({commitments}) does not match proof count ({proofs})")
    ensure (hashes = commitments) (.invalidBlobOption
      (s!"expected blob hash count ({hashes}) does not match commitment count ({commitments}) " ++
        s!"for source {sourceIdx}"))
    verifyBlobs A R sourceIdx 0 dataSource.txDataFromBlob dataSource.blobCommitments dataSource.blobProofs
      expectedBlobHashes

def verifySources (sources : List DerivationSource) : Nat → List InputDataSource → Outcome RaikoError Unit
  | _, [] => ok ()
  | sourceIdx, dataSource :: rest => do
    let source ← ofOption (.invalidBlobOption s!"missing proposal source for data source index {sourceIdx}")
      sources[sourceIdx]?
    verifySourceBlobs A R sourceIdx dataSource source.blobSlice.blobHashes
    verifySources sources (sourceIdx + 1) rest

def verifyProposalModeBlobUsage (taiko : TaikoManifest) : Outcome RaikoError Unit := do
  let sources := taiko.proposal.sources
  let dataCount := taiko.dataSources.length
  let sourceCount := sources.length
  ensure (sources = [] ∨ dataCount = sourceCount) (.invalidBlobOption
    s!"data source count ({dataCount}) does not match proposal source count ({sourceCount})")
  verifySources A R sources 0 taiko.dataSources

end Blobs

section AnchorTransaction

variable (A : Alloy) (R : Reth)

def decodeAnchorCheckpoint (block : Block) : Outcome Anyhow DecodedAnchorCheckpoint := do
  let number := block.header.number
  let anchorTx ← ofOption ["missing anchor transaction"] block.body.transactions.head?
  let input := (A.txFields anchorTx).input
  ensure (A.anchorV4Selector.isPrefixOf input = true) [s!"block {number} first transaction is not anchorV4"]
  let decoded ← ofExcept (fun e => [s!"failed to decode anchorV4 calldata for block {number}", e])
    (A.anchorV4Decode input)
  ensure (input = A.anchorV4Encode decoded)
    [s!"block {number} anchor transaction calldata must use canonical anchorV4 encoding"]
  return { blockNumber := toU64 decoded.blockNumber, blockHash := decoded.blockHash, stateRoot := decoded.stateRoot }

def debugOption {α : Type} (debug : α → String) : Option α → String
  | none => "None"
  | some a => s!"Some({debug a})"

def validateAnchorTransactionCommon (network : TaikoNetwork) (witness : StatelessInput) :
    Outcome Anyhow DecodedAnchorCheckpoint := do
  let block := witness.block
  let chainId := witness.chainSpec.chainId
  let anchorTx ← ofOption ["missing anchor transaction"] block.body.transactions.head?
  let fields := A.txFields anchorTx
  ensure (fields.isEip1559 = true) ["anchor transaction must use EIP-1559 envelope"]
  let recipient ← withContext "failed to derive TaikoL2 address" (shastaTaikoL2Address chainId)
  let shownRecipient := A.debugAddress recipient
  let shownTo := debugOption A.debugAddress fields.recipient
  ensure (fields.recipient = some recipient)
    [s!"anchor transaction recipient mismatch: expected {shownRecipient}, got {shownTo}"]
  let shownChainId := debugOption (fun id => s!"{id}") fields.chainId
  ensure (fields.chainId = some chainId)
    [s!"anchor transaction chain_id mismatch: expected {chainId}, got {shownChainId}"]
  let baseFee ← ofOption ["missing base fee per gas in Shasta block header"] block.header.baseFeePerGas
  ofExcept ([·]) (R.validateAnchorTransaction anchorTx network block.header.timestamp block.header.number baseFee)
  let checkpoint ← decodeAnchorCheckpoint A block
  let maxFee := fields.maxFeePerGas
  ensure (maxFee = baseFee.toNat)
    [s!"anchor transaction max_fee_per_gas mismatch: expected {baseFee}, got {maxFee}"]
  ensure (fields.maxPriorityFeePerGas = some 0) ["anchor transaction max_priority_fee_per_gas mismatch"]
  ensure (fields.accessList.all (·.isEmpty)) ["anchor transaction access list must be empty"]
  let expectedSignature ← ofExcept (fun e => ["failed to derive canonical anchor transaction signature", e])
    (R.signWithPredefinedK fields.signatureHash)
  ensure (fields.signature = expectedSignature) ["anchor transaction signature mismatch"]
  return checkpoint

end AnchorTransaction

section Metadata

variable (A : Alloy) (R : Reth)

def validateAnchorTransactionBinding (witness : StatelessInput) (expectedBlock : BlockManifest) :
    Outcome Anyhow Unit := do
  let checkpoint ← decodeAnchorCheckpoint A witness.block
  let actual := checkpoint.blockNumber
  let expected := expectedBlock.anchorBlockNumber
  ensure (actual = expected) [s!"anchor checkpoint block number mismatch: expected {expected}, got {actual}"]

def validateShastaManifestBlockMetadata (taiko : TaikoManifest) (witness : StatelessInput)
    (expectedBlock : BlockManifest) (parentHeader : Header) : Outcome Anyhow Unit := do
  let header := witness.block.header
  let number := header.number
  let expectedTimestamp := expectedBlock.timestamp
  let timestamp := header.timestamp
  ensure (timestamp = expectedTimestamp)
    [s!"block {number} timestamp mismatch: expected {expectedTimestamp}, got {timestamp}"]
  let expectedCoinbase := A.debugAddress expectedBlock.coinbase
  let beneficiary := A.debugAddress header.beneficiary
  ensure (header.beneficiary = expectedBlock.coinbase)
    [s!"block {number} coinbase mismatch: expected {expectedCoinbase}, got {beneficiary}"]
  let expectedGasLimit := U64.saturatingAdd expectedBlock.gasLimit anchorGasLimit
  let gasLimit := header.gasLimit
  ensure (gasLimit = expectedGasLimit)
    [s!"block {number} gas limit mismatch: expected {expectedGasLimit}, got {gasLimit}"]
  ensure (header.extraData = R.encodeExtraData taiko.proposal.basefeeSharingPctg taiko.proposalId)
    [s!"block {number} extra_data mismatch"]
  ensure (header.mixHash = R.calculateShastaDifficulty parentHeader.difficulty number)
    [s!"block {number} mix_hash mismatch"]
  validateAnchorTransactionBinding A witness expectedBlock

def compareTransactions : Nat → List (TransactionSigned × TransactionSigned) → Outcome Anyhow Unit
  | _, [] => ok ()
  | txIndex, (generated, canonical) :: rest => do
    ensure (generated.rlp = canonical.rlp) [s!"generated block transaction {txIndex} mismatch"]
    compareTransactions (txIndex + 1) rest

def validateGeneratedBlockMatchesCanonical (generatedBlock canonicalBlock : Block) : Outcome Anyhow Unit := do
  ensure (generatedBlock.header = canonicalBlock.header) ["generated block header mismatch"]
  let generated := generatedBlock.body.transactions.length
  let canonical := canonicalBlock.body.transactions.length
  ensure (generated = canonical)
    [s!"generated block transaction count mismatch: expected {canonical}, got {generated}"]
  compareTransactions 0 (generatedBlock.body.transactions.zip canonicalBlock.body.transactions)

def manifestTransactionsForReconstruction (expectedBlock : BlockManifest) :
    Outcome Anyhow (List TransactionSigned) :=
  expectedBlock.transactions.mapM fun transaction =>
    ofExcept (fun e => ["failed to decode Shasta manifest transaction", e]) (A.decodeTransaction transaction)

def shastaBlockEnvAttributes (witness : StatelessInput) : Outcome Anyhow TaikoNextBlockEnvAttributes := do
  let header := witness.block.header
  let baseFee ← ofOption ["missing base fee per gas in Shasta block header"] header.baseFeePerGas
  return {
    timestamp := header.timestamp
    suggestedFeeRecipient := header.beneficiary
    prevRandao := header.mixHash
    gasLimit := header.gasLimit
    extraData := header.extraData
    baseFeePerGas := baseFee
    parentBeaconBlockRoot := none }

end Metadata

end Raiko2
