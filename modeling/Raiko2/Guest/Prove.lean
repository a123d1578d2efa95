import Raiko2.Guest.BlockChecks
import Raiko2.Protocol.Instance

/-!
# Proof of a proposal

The function that the guests and the SGX runtime run: the invariants of the proposal, the derivation of its
blocks, one pass over the witnesses, the L1 linkage and the carry data. The verification of one block and the
reads of the parent state are parameters of the pass, as in the source.
-/

namespace Raiko2

open Lib Lib.Outcome

/-- The check of one block: its index, its witness, the derived block and the window before it. -/
abbrev BlockVerifier :=
  Nat → StatelessInput → Option BlockManifest → Option Header → List WitnessHeader → TaikoNetwork →
    Outcome Anyhow B256

/-- What the pass over the witnesses carries from one block to the next. -/
structure ProposalPass where
  ancestorHeaders : List WitnessHeader
  canonicalParentHeader : Option Header
  anchorCheckpoints : List DecodedAnchorCheckpoint := []
  firstParentBlockHash : Option B256 := none
  previousBlockHash : Option B256 := none
  previousBlockNumber : Option UInt64 := none
  lastBlockNumber : Option UInt64 := none
  lastBlockHash : Option B256 := none
  lastStateRoot : Option B256 := none

section Pass

variable (A : Alloy) (R : Reth) (network : TaikoNetwork) (taiko : TaikoManifest)
  (expectedBlocks : Option (List BlockManifest)) (verifyBlock : BlockVerifier)

def checkDerivedMetadata (index : Nat) (witness : StatelessInput) :
    Option BlockManifest → Option Header → Outcome Anyhow Unit
  | some expectedBlock, some parentHeader =>
    withContext s!"canonical Shasta derivation mismatch at index {index}"
      (validateShastaManifestBlockMetadata A R taiko witness expectedBlock parentHeader)
  | _, _ => ok ()

def checkPreviousHash (index : Nat) (header : Header) : Option B256 → Outcome Anyhow Unit
  | none => ok ()
  | some previousHash =>
    ensure (header.parentHash = previousHash) [s!"block {index} must link to previous block hash"]

def checkPreviousNumber (index : Nat) (header : Header) : Option UInt64 → Outcome Anyhow Unit
  | none => ok ()
  | some previousNumber =>
    ensure (previousNumber + 1 = header.number) [s!"block {index} must increment block number by 1"]

/-- The body of the loop over the witnesses, its checks in the order of the source. -/
def passWitness (index : Nat) (pass : ProposalPass) (witness : StatelessInput) : Outcome Anyhow ProposalPass := do
  let header := witness.block.header
  let anchorCheckpoint ← withContext s!"anchor transaction validation failed at index {index}"
    (validateAnchorTransactionCommon A R network witness)
  let expectedBlock := expectedBlocks.bind (·[index]?)
  let parentHeader := pass.canonicalParentHeader
  checkDerivedMetadata A R taiko index witness expectedBlock parentHeader
  checkPreviousHash index header pass.previousBlockHash
  checkPreviousNumber index header pass.previousBlockNumber
  let validatedHash ← withContext s!"stateless block validation failed at index {index}"
    (verifyBlock index witness expectedBlock parentHeader pass.ancestorHeaders network)
  return {
    ancestorHeaders := rollProposalAncestorHeadersInPlace pass.ancestorHeaders header validatedHash
    canonicalParentHeader := pass.canonicalParentHeader.map fun _ => header
    anchorCheckpoints := pass.anchorCheckpoints ++ [anchorCheckpoint]
    firstParentBlockHash := some (pass.firstParentBlockHash.getD header.parentHash)
    previousBlockHash := some validatedHash
    previousBlockNumber := some header.number
    lastBlockNumber := some header.number
    lastBlockHash := some validatedHash
    lastStateRoot := some header.stateRoot }

def passWitnesses : Nat → ProposalPass → List StatelessInput → Outcome Anyhow ProposalPass
  | _, pass, [] => ok pass
  | index, pass, witness :: rest => do
    let next ← passWitness A R network taiko expectedBlocks verifyBlock index pass witness
    passWitnesses (index + 1) next rest

end Pass

section Invariants

variable (A : Alloy) (R : Reth)

def checkWitnessesUnzen (network : TaikoNetwork) : Nat → List StatelessInput → Outcome Anyhow Unit
  | _, [] => ok ()
  | index, witness :: rest => do
    ensure (R.unzenActiveAtTimestamp network witness.block.header.timestamp = true)
      [s!"witness {index} block timestamp must be at or after Unzen activation"]
    checkWitnessesUnzen network (index + 1) rest

def checkWitnessChainIds (firstChainId : UInt64) : Nat → List StatelessInput → Outcome Anyhow Unit
  | _, [] => ok ()
  | i, witness :: rest => do
    let chainId := witness.chainSpec.chainId
    ensure (chainId = firstChainId) [s!"witness {i} chain_id mismatch: expected {firstChainId}, got {chainId}"]
    checkWitnessChainIds firstChainId (i + 1) rest

def checkProposalBinding (taiko : TaikoManifest) (carry : ProofCarryData) : Outcome Anyhow Unit := do
  let proposal := taiko.proposal
  let transitionInput := carry.transitionInput
  let proposalId := taiko.proposalId
  let carryProposalId := transitionInput.proposalId
  ensure (carryProposalId = proposalId)
    [s!"proof_carry_data.proposal_id mismatch: expected {proposalId}, got {carryProposalId}"]
  ensure (transitionInput.actualProver = taiko.proverData.actualProver) ["proof_carry_data.actual_prover mismatch"]
  let eventId := toU64 proposal.id
  ensure (proposalId ≤ shastaUint48Max) [s!"taiko.proposal_id does not fit in uint48: {proposalId}"]
  ensure (proposalId = eventId) [s!"taiko.proposal_id mismatch: expected {eventId}, got {proposalId}"]
  let timestamp := transitionInput.transition.timestamp
  ensure (fitsShastaUint48 timestamp = true)
    [s!"proof_carry_data.transition.timestamp does not fit in uint48: {timestamp}"]
  let blockNumber := toU64 transitionInput.checkpoint.blockNumber
  ensure (fitsShastaUint48 blockNumber = true)
    [s!"proof_carry_data.checkpoint.blockNumber does not fit in uint48: {blockNumber}"]
  ensure (transitionInput.proposalHash = A.hashProposal proposal) ["proof_carry_data.proposal_hash mismatch"]
  ensure (transitionInput.parentProposalHash = proposal.parentProposalHash)
    ["proof_carry_data.parent_proposal_hash mismatch"]
  ensure (transitionInput.transition.proposer = proposal.proposer) ["proof_carry_data.transition.proposer mismatch"]
  ensure (timestamp = toU64 proposal.timestamp) ["proof_carry_data.transition.timestamp mismatch"]

def checkProposalInvariants (input : GuestInput) (firstChainId : UInt64) : Outcome Anyhow Unit := do
  let _ ← builtinTaikoChainSpec firstChainId
  let chainId := input.taiko.chainSpec.chainId
  ensure (chainId = firstChainId)
    [s!"taiko.chain_spec.chain_id mismatch: expected {firstChainId}, got {chainId}"]
  checkWitnessChainIds firstChainId 0 input.witnesses
  let carryChainId := input.proofCarryData.chainId
  ensure (carryChainId = firstChainId)
    [s!"proof_carry_data.chain_id mismatch: expected {firstChainId}, got {carryChainId}"]
  checkProposalBinding A input.taiko input.proofCarryData

/-- The comparison of the carry data with the first and last block of the pass. -/
def checkCarryCheckpoint (carry : ProofCarryData) (pass : ProposalPass) : Outcome Anyhow Unit := do
  let transitionInput := carry.transitionInput
  let firstParentBlockHash ← expect "checked" pass.firstParentBlockHash
  let lastBlockNumber ← expect "checked" pass.lastBlockNumber
  let lastBlockHash ← expect "checked" pass.lastBlockHash
  let lastStateRoot ← expect "checked" pass.lastStateRoot
  ensure (transitionInput.parentBlockHash = firstParentBlockHash) ["proof_carry_data.parent_block_hash mismatch"]
  ensure (toU64 transitionInput.checkpoint.blockNumber = lastBlockNumber)
    ["proof_carry_data.checkpoint.blockNumber mismatch"]
  ensure (transitionInput.checkpoint.blockHash = lastBlockHash) ["proof_carry_data.checkpoint.blockHash mismatch"]
  ensure (transitionInput.checkpoint.stateRoot = lastStateRoot) ["proof_carry_data.checkpoint.stateRoot mismatch"]

end Invariants

section Prove

variable (A : Alloy) (R : Reth) (T : TaikoProtocol) (activations : ForkActivations)

/-- The pass starts from the sorted window and, if blocks were derived, its last header. -/
def initialPass (derived : Option DerivedShastaBlocks) (headers : List WitnessHeader) : ProposalPass where
  ancestorHeaders := headers
  canonicalParentHeader := derived.bind fun _ => headers.getLast?.bind WitnessHeader.fullHeader

def proveShastaProposalWithBlockVerifierAndParentReader (verifyBlock : BlockVerifier) (readParent : ParentReader)
    (input : GuestInput) : Outcome Anyhow B256 := do
  let firstWitness ← ofOption ["GuestInput must contain at least one witness"] input.witnesses.head?
  let firstChainId := firstWitness.chainSpec.chainId
  let network ← withContext "Failed to build Taiko runtime from GuestInput chain_id"
    (builtinTaikoChainSpec firstChainId)
  ensure (R.unzenActiveAtTimestamp network (toU64 input.taiko.proposal.timestamp) = true)
    ["proposal timestamp must be at or after Unzen activation"]
  checkWitnessesUnzen R network 0 input.witnesses
  validateProposalAncestorHeaderCount input
  (verifyProposalModeBlobUsage A R input.taiko).mapError
    fun e => ["proposal mode blob usage verification failed", e.display]
  checkProposalInvariants A input firstChainId
  ofExcept (fun e => ["failed to initialize Golden Touch fixed-k signer", e]) R.goldenTouch
  let parentAnchorBlockNumber ← verifiedParentAnchorBlockNumber readParent input
  let derived ← deriveExpectedShastaBlocks T activations network input parentAnchorBlockNumber
  let headers ← initialProposalAncestorHeaders input
  let pass ← passWitnesses A R network input.taiko (derived.map (·.blocks)) verifyBlock 0 (initialPass derived headers)
    input.witnesses
  validateL1AnchorLinkage A readParent input pass.anchorCheckpoints parentAnchorBlockNumber
    (derived.map (·.sourceSpans))
  checkCarryCheckpoint input.proofCarryData pass
  hashShastaSubproofInput A.keccak256 input.proofCarryData

/-- What the proof passes on for the reconstruction of one block. -/
structure ShastaBlockReconstruction where
  index : Nat
  anchorTx : TransactionSigned
  transactions : List TransactionSigned
  blockEnv : TaikoNextBlockEnvAttributes
  witness : ExecutionWitness
  ancestorHeaders : List WitnessHeader
  sharedStateNodes : List WitnessStateNode
  network : TaikoNetwork

def reconstructingVerifier (reconstruct : ShastaBlockReconstruction → Outcome Anyhow Block)
    (sharedStateNodes : List WitnessStateNode) : BlockVerifier :=
  fun index witness expectedBlock _ ancestorHeaders network => do
    let expectedBlock ← ofOption [s!"missing expected Shasta block at index {index}"] expectedBlock
    let anchorTx ← ofOption ["missing canonical anchor transaction"] witness.block.body.transactions.head?
    ensure ((A.recoverSigner anchorTx).isSome = true) ["failed to recover canonical anchor transaction"]
    let transactions ← manifestTransactionsForReconstruction A expectedBlock
    let blockEnv ← shastaBlockEnvAttributes witness
    let generatedBlock ← withContext s!"failed to reconstruct Shasta block at index {index}"
      (reconstruct { index := index, anchorTx := anchorTx, transactions := transactions, blockEnv := blockEnv
                     witness := witness.witness, ancestorHeaders := ancestorHeaders
                     sharedStateNodes := sharedStateNodes, network := network })
    withContext s!"generated Shasta block mismatch at index {index}"
      (validateGeneratedBlockMatchesCanonical generatedBlock witness.block)
    return A.hashSlow generatedBlock.header

def proveShastaProposalWithReconstructorAndParentReader
    (reconstruct : ShastaBlockReconstruction → Outcome Anyhow Block) (readParent : ParentReader)
    (input : GuestInput) : Outcome Anyhow B256 :=
  proveShastaProposalWithBlockVerifierAndParentReader A R T activations
    (reconstructingVerifier A reconstruct input.proposalStateNodes) readParent input

def statelessReconstructor (request : ShastaBlockReconstruction) : Outcome Anyhow Block :=
  (reconstructBlockFromTransactions A R request.network request.anchorTx request.transactions request.blockEnv
    request.witness request.ancestorHeaders request.sharedStateNodes).mapError fun e => [e.display]

def defaultParentStorageReader : ParentReader := fun request =>
  (readParentStorageWithWitnessResources R request.address request.slot request.witness request.ancestorHeaders
    request.sharedStateNodes).mapError fun e => [e.display]

def proveShastaProposal (input : GuestInput) : Outcome Anyhow B256 :=
  proveShastaProposalWithReconstructorAndParentReader A R T activations (statelessReconstructor A R)
    (defaultParentStorageReader R) input

end Prove

end Raiko2
