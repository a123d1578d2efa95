import Raiko2.Guest.Prove
import Raiko2.Input.Wire

/-!
# Acceptance of one block

What one step of the pass over the witnesses says: the witness block is the block derived for its index, on the last
header of the window, and it becomes the last header.
-/

namespace Raiko2

open Lib Lib.Outcome

section Reconstruction

variable {A : Alloy} {R : Reth} {network : TaikoNetwork} {headers : List WitnessHeader}

theorem sealedParentHeader_eq_ok_iff {parent : SealedHeader} :
    sealedParentHeader headers = ok parent ↔
      ∃ last, headers.getLast? = some last ∧ last.fullHeader = some parent.header ∧ last.hash = parent.hash := by
  rcases parent with ⟨header, hash⟩
  simp only [sealedParentHeader, ofOption_eq_ok_iff, Option.bind_eq_some_iff, Option.map_eq_some_iff,
    SealedHeader.mk.injEq]
  constructor
  · rintro ⟨last, hLast, full, hFull, rfl, rfl⟩
    exact ⟨last, hLast, hFull, rfl⟩
  · rintro ⟨last, hLast, hFull, hHash⟩
    exact ⟨last, hLast, header, hFull, rfl, hHash⟩

theorem ensureFullAncestorHeaders_eq_ok_iff {u : Unit} :
    ensureFullAncestorHeaders headers = ok u ↔ ∀ header ∈ headers, header.fullHeader.isSome = true := by
  rw [ensureFullAncestorHeaders]
  split <;> rename_i h
  · simp only [reduceCtorEq, false_iff]
    obtain ⟨header, hMem, hNone⟩ := List.any_eq_true.mp h
    intro hAll
    have hSome := hAll header hMem
    simp_all
  · simp only [true_iff]
    intro header hMem
    rw [Option.isSome_iff_ne_none]
    intro hNone
    exact h (List.any_eq_true.mpr ⟨header, hMem, by simp [hNone]⟩)

def IsExecuted (A : Alloy) (R : Reth) (network : TaikoNetwork) (parent : SealedHeader) (anchorTx : TransactionSigned)
    (transactions : List TransactionSigned) (blockEnv : TaikoNextBlockEnvAttributes) (block : Block) : Prop :=
  ∃ outcome, executeAndAssemble R network parent (buildDerivedBlock A R parent anchorTx transactions blockEnv) =
    ok (block, outcome)

theorem executed_of_reconstruct {anchorTx : TransactionSigned} {transactions : List TransactionSigned}
    {blockEnv : TaikoNextBlockEnvAttributes} {witness : ExecutionWitness} {nodes : List WitnessStateNode} {block : Block}
    (h : reconstructBlockFromTransactions A R network anchorTx transactions blockEnv witness headers nodes = ok block) :
    ∃ parent, sealedParentHeader headers = ok parent ∧ (∀ header ∈ headers, header.fullHeader.isSome = true) ∧
      IsExecuted A R network parent anchorTx transactions blockEnv block := by
  simp only [reconstructBlockFromTransactions, unit_bind_eq_ok_iff] at h
  obtain ⟨-, -, h⟩ := h
  simp only [bind_eq_ok_iff, Prod.exists] at h
  obtain ⟨parent, hParent, -, -, -, -, -, -, generated, outcome, hExecute, _, hConsensus, -, -, -, -, hEq⟩ := h
  cases hEq
  simp only [validateBlockConsensus, unit_bind_eq_ok_iff, ensureFullAncestorHeaders_eq_ok_iff] at hConsensus
  exact ⟨parent, hParent, hConsensus.2.1, outcome, hExecute⟩

end Reconstruction

section Comparison

theorem compareTransactions_eq_ok_iff {i : Nat} {pairs : List (TransactionSigned × TransactionSigned)} {u : Unit} :
    compareTransactions i pairs = ok u ↔ ∀ pair ∈ pairs, pair.1 = pair.2 := by
  induction pairs generalizing i with
  | nil => simp [compareTransactions]
  | cons pair rest ih =>
    obtain ⟨⟨generated⟩, ⟨canonical⟩⟩ := pair
    simp [compareTransactions, unit_bind_eq_ok_iff, ih]

theorem eq_of_zip_eq {α : Type} {xs ys : List α} (hLength : xs.length = ys.length)
    (h : ∀ pair ∈ xs.zip ys, pair.1 = pair.2) : xs = ys := by
  induction xs generalizing ys with
  | nil => exact (List.length_eq_zero_iff.mp hLength.symm).symm
  | cons x xs ih =>
    cases ys with
    | nil => cases hLength
    | cons y ys =>
      simp only [List.zip_cons_cons, List.mem_cons, forall_eq_or_imp] at h
      rw [h.1, ih (Nat.succ.inj hLength) h.2]

theorem validateGeneratedBlockMatchesCanonical_eq_ok_iff {generated canonical : Block} {u : Unit} :
    validateGeneratedBlockMatchesCanonical generated canonical = ok u ↔
      generated.header = canonical.header ∧ generated.body.transactions = canonical.body.transactions := by
  simp only [validateGeneratedBlockMatchesCanonical, unit_bind_eq_ok_iff, ensure_eq_ok_iff,
    compareTransactions_eq_ok_iff]
  constructor
  · rintro ⟨hHeader, hLength, hPairs⟩
    exact ⟨hHeader, eq_of_zip_eq hLength hPairs⟩
  · rintro ⟨hHeader, hTransactions⟩
    refine ⟨hHeader, by rw [hTransactions], ?_⟩
    rw [hTransactions]
    intro pair hPair
    obtain ⟨i, hi⟩ := List.mem_iff_getElem?.mp hPair
    simp only [List.getElem?_zip_eq_some] at hi
    exact Option.some.inj (hi.1.symm.trans hi.2)

end Comparison

section Step

variable {A : Alloy} {R : Reth} {network : TaikoNetwork} {taiko : TaikoManifest}

/-- The law assumed of execution: the block it gives lies on its parent and has the metadata of the block
environment. -/
def ExecutesOnParent (A : Alloy) (R : Reth) : Prop :=
  ∀ network parent anchorTx transactions blockEnv block,
    IsExecuted A R network parent anchorTx transactions blockEnv block →
      block.header.parentHash = parent.hash ∧ block.header.number = parent.header.number + 1 ∧
        block.header.timestamp = blockEnv.timestamp ∧ block.header.beneficiary = blockEnv.suggestedFeeRecipient ∧
        block.header.gasLimit = blockEnv.gasLimit ∧ block.header.extraData = blockEnv.extraData ∧
        block.header.mixHash = blockEnv.prevRandao

/-- The block that executing the first transaction of a witness block and then the transactions of a manifest
gives, in the environment of the witness block. -/
def ExecutedFrom (A : Alloy) (R : Reth) (network : TaikoNetwork) (parent : SealedHeader) (manifest : BlockManifest)
    (witness : StatelessInput) (generated : Block) : Prop :=
  ∃ anchorTx transactions blockEnv, witness.block.body.transactions.head? = some anchorTx ∧
    manifestTransactionsForReconstruction A manifest = ok transactions ∧
    shastaBlockEnvAttributes witness = ok blockEnv ∧
    IsExecuted A R network parent anchorTx transactions blockEnv generated

/-- A witness block that is the derived block `manifest` on `parent`. -/
structure AcceptedBlock (A : Alloy) (R : Reth) (network : TaikoNetwork) (taiko : TaikoManifest) (parent : Header)
    (manifest : BlockManifest) (witness : StatelessInput) : Prop where
  timestamp : witness.block.header.timestamp = manifest.timestamp
  coinbase : witness.block.header.beneficiary = manifest.coinbase
  gasLimit : witness.block.header.gasLimit = U64.saturatingAdd manifest.gasLimit anchorGasLimit
  extraData : witness.block.header.extraData =
    R.encodeExtraData taiko.proposal.basefeeSharingPctg taiko.proposalId
  mixHash : witness.block.header.mixHash =
    R.calculateShastaDifficulty parent.difficulty witness.block.header.number
  anchor : ∃ checkpoint, decodeAnchorCheckpoint A witness.block = ok checkpoint ∧
    checkpoint.blockNumber = manifest.anchorBlockNumber
  parentHash : witness.block.header.parentHash = A.hashSlow parent
  number : witness.block.header.number = parent.number + 1
  executed : ∃ generated, ExecutedFrom A R network ⟨parent, A.hashSlow parent⟩ manifest witness generated ∧
    generated.header = witness.block.header ∧ generated.body.transactions = witness.block.body.transactions

variable {witness : StatelessInput}

theorem validateShastaManifestBlockMetadata_eq_ok_iff {manifest : BlockManifest} {parent : Header} {u : Unit} :
    validateShastaManifestBlockMetadata A R taiko witness manifest parent = ok u ↔
      witness.block.header.timestamp = manifest.timestamp ∧ witness.block.header.beneficiary = manifest.coinbase ∧
        witness.block.header.gasLimit = U64.saturatingAdd manifest.gasLimit anchorGasLimit ∧
        witness.block.header.extraData = R.encodeExtraData taiko.proposal.basefeeSharingPctg taiko.proposalId ∧
        witness.block.header.mixHash =
          R.calculateShastaDifficulty parent.difficulty witness.block.header.number ∧
        ∃ checkpoint, decodeAnchorCheckpoint A witness.block = ok checkpoint ∧
          checkpoint.blockNumber = manifest.anchorBlockNumber := by
  simp only [validateShastaManifestBlockMetadata, validateAnchorTransactionBinding, unit_bind_eq_ok_iff,
    ensure_eq_ok_iff]
  simp only [bind_eq_ok_iff, ensure_eq_ok_iff]

structure VerifiedBlock (A : Alloy) (R : Reth) (network : TaikoNetwork) (headers : List WitnessHeader)
    (expected : Option BlockManifest) (witness : StatelessInput) (parent : SealedHeader) (manifest : BlockManifest)
    (generated : Block) : Prop where
  isExpected : expected = some manifest
  onParent : sealedParentHeader headers = ok parent
  full : ∀ header ∈ headers, header.fullHeader.isSome = true
  executed : ExecutedFrom A R network parent manifest witness generated
  header : generated.header = witness.block.header
  transactions : generated.body.transactions = witness.block.body.transactions

theorem verifiedBlock_of_reconstructingVerifier {index : Nat} {expected : Option BlockManifest}
    {parent? : Option Header} {headers : List WitnessHeader} {nodes : List WitnessStateNode} {hash : B256}
    (h : reconstructingVerifier A (statelessReconstructor A R) nodes index witness expected parent? headers network =
      ok hash) :
    ∃ parent manifest generated, VerifiedBlock A R network headers expected witness parent manifest generated ∧
      hash = A.hashSlow witness.block.header := by
  simp only [reconstructingVerifier, bind_eq_ok_iff, ofOption_eq_ok_iff, withContext_eq_ok_iff,
    statelessReconstructor, mapError_eq_ok_iff, ensure_eq_ok_iff, validateGeneratedBlockMatchesCanonical_eq_ok_iff,
    pure_eq_ok, Outcome.ok.injEq] at h
  obtain ⟨manifest, hExpected, anchorTx, hAnchor, -, -, transactions, hTransactions, blockEnv, hEnv, generated,
    hReconstruct, -, ⟨hHeader, hBody⟩, rfl⟩ := h
  obtain ⟨parent, hParent, hFull, hExecuted⟩ := executed_of_reconstruct hReconstruct
  exact ⟨parent, manifest, generated, ⟨hExpected, hParent, hFull,
    ⟨anchorTx, transactions, blockEnv, hAnchor, hTransactions, hEnv, hExecuted⟩, hHeader, hBody⟩, by rw [hHeader]⟩

theorem decodeAnchorCheckpoint_of_common {checkpoint : DecodedAnchorCheckpoint}
    (h : validateAnchorTransactionCommon A R network witness = ok checkpoint) :
    decodeAnchorCheckpoint A witness.block = ok checkpoint := by
  simp only [validateAnchorTransactionCommon, bind_eq_ok_iff, pure_eq_ok, Outcome.ok.injEq] at h
  obtain ⟨_, -, -, -, _, -, -, -, -, -, _, -, -, -, decoded, hDecoded, -, -, -, -, -, -, _, -, -, -, rfl⟩ := h
  exact hDecoded

structure PassOk (A : Alloy) (pass : ProposalPass) : Prop where
  honest : ∀ header ∈ pass.ancestorHeaders, HonestHeader A header
  parent : pass.canonicalParentHeader = pass.ancestorHeaders.getLast?.bind WitnessHeader.fullHeader

theorem acceptedBlock_of_passWitness (hLaw : ExecutesOnParent A R) {blocks : List BlockManifest}
    {nodes : List WitnessStateNode} {index : Nat} {pass next : ProposalPass} (hPass : PassOk A pass)
    (h : passWitness A R network taiko (some blocks) (reconstructingVerifier A (statelessReconstructor A R) nodes) index
      pass witness = ok next) :
    ∃ parent manifest checkpoint, pass.ancestorHeaders.getLast? = some (.fromHeader A parent) ∧
      (∀ header ∈ pass.ancestorHeaders, header.fullHeader.isSome = true) ∧
      blocks[index]? = some manifest ∧ AcceptedBlock A R network taiko parent manifest witness ∧
      decodeAnchorCheckpoint A witness.block = ok checkpoint ∧
      next = {
        ancestorHeaders := rollProposalAncestorHeadersInPlace pass.ancestorHeaders witness.block.header
          (A.hashSlow witness.block.header)
        canonicalParentHeader := some witness.block.header
        anchorCheckpoints := pass.anchorCheckpoints ++ [checkpoint]
        firstParentBlockHash := some (pass.firstParentBlockHash.getD witness.block.header.parentHash)
        previousBlockHash := some (A.hashSlow witness.block.header)
        previousBlockNumber := some witness.block.header.number
        lastBlockNumber := some witness.block.header.number
        lastBlockHash := some (A.hashSlow witness.block.header)
        lastStateRoot := some witness.block.header.stateRoot } := by
  simp only [passWitness, bind_eq_ok_iff, withContext_eq_ok_iff, Option.bind_some, pure_eq_ok, Outcome.ok.injEq] at h
  obtain ⟨checkpoint, hAnchor, _, hMetadata, -, -, -, -, hash, hVerify, rfl⟩ := h
  obtain ⟨parent, manifest, generated, hVerified, rfl⟩ := verifiedBlock_of_reconstructingVerifier hVerify
  obtain ⟨last, hLast, hFull, hHash⟩ := sealedParentHeader_eq_ok_iff.mp hVerified.onParent
  obtain ⟨parent, sealedHash⟩ := parent
  -- The last header is present in full, so it is what the window was built from and its hash is its own.
  have hHonest : last = .fromHeader A parent :=
    hPass.honest last (List.mem_of_getLast? hLast) parent hFull
  obtain rfl : A.hashSlow parent = sealedHash := by
    rw [hHonest] at hHash
    exact hHash
  have hParent : pass.canonicalParentHeader = some parent := by
    rw [hPass.parent, hLast, Option.bind_some, hFull]
  rw [hVerified.isExpected, hParent, checkDerivedMetadata, withContext_eq_ok_iff,
    validateShastaManifestBlockMetadata_eq_ok_iff] at hMetadata
  obtain ⟨hTimestamp, hCoinbase, hGas, hExtra, hMix, hBinding⟩ := hMetadata
  obtain ⟨anchorTx, transactions, blockEnv, hAnchorTx, hTransactions, hEnv, hExecuted⟩ := hVerified.executed
  obtain ⟨hParentHash, hNumber, -⟩ := hLaw _ _ _ _ _ _ hExecuted
  rw [hVerified.header] at hParentHash hNumber
  refine ⟨parent, manifest, checkpoint, hHonest ▸ hLast, hVerified.full, hVerified.isExpected, ?_, ?_, ?_⟩
  · exact ⟨hTimestamp, hCoinbase, hGas, hExtra, hMix, hBinding, hParentHash, hNumber,
      generated, hVerified.executed, hVerified.header, hVerified.transactions⟩
  · exact decodeAnchorCheckpoint_of_common hAnchor
  · rw [hParent]
    rfl

end Step

end Raiko2
