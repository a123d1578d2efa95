import Raiko2.Guest.BlockSound
import Raiko2.Guest.LinkageExact
import Raiko2.Protocol.DerivedAnchors

/-!
# Soundness of the proof of a proposal

What holds of an input on which the proof of a proposal succeeds: by induction over the pass every block of
the proposal is accepted on the block before it, the first one on the last header of the window, and the
carry data names the first parent and the last block.
-/

namespace Raiko2

open Lib Lib.Outcome

section Pass

variable {A : Alloy} {R : Reth} {network : TaikoNetwork} {taiko : TaikoManifest} {blocks : List BlockManifest}
  {nodes : List WitnessStateNode} {witnesses : List StatelessInput}

def parentHeaders (parent : Header) (witnesses : List StatelessInput) : List Header :=
  parent :: witnesses.map (·.block.header)

structure PassResult (A : Alloy) (R : Reth) (network : TaikoNetwork) (taiko : TaikoManifest)
    (blocks : List BlockManifest) (index : Nat) (parent : Header) (pass : ProposalPass) (witnesses : List StatelessInput)
    (final : ProposalPass) : Prop where
  accepted : ∀ i witness, witnesses[i]? = some witness → ∃ manifest header, blocks[index + i]? = some manifest ∧
    (parentHeaders parent witnesses)[i]? = some header ∧ AcceptedBlock A R network taiko header manifest witness
  checkpoints : ∃ checkpoints, final.anchorCheckpoints = pass.anchorCheckpoints ++ checkpoints ∧
    List.Forall₂ (fun witness checkpoint => decodeAnchorCheckpoint A witness.block = ok checkpoint) witnesses checkpoints
  first : ∀ witness, witnesses.head? = some witness →
    final.firstParentBlockHash = some (pass.firstParentBlockHash.getD witness.block.header.parentHash)
  last : ∀ witness, witnesses.getLast? = some witness → final.lastBlockNumber = some witness.block.header.number ∧
    final.lastBlockHash = some (A.hashSlow witness.block.header) ∧
    final.lastStateRoot = some witness.block.header.stateRoot

theorem getLast?_roll (headers : List WitnessHeader) (header : Header) (hash : B256) :
    (rollProposalAncestorHeadersInPlace headers header hash).getLast? =
      some (WitnessHeader.fromHeaderWithHash header hash) := by
  simp [rollProposalAncestorHeadersInPlace]

theorem PassOk.roll {pass next : ProposalPass} {header : Header} (h : PassOk A pass)
    (hHeaders : next.ancestorHeaders = rollProposalAncestorHeadersInPlace pass.ancestorHeaders header (A.hashSlow header))
    (hParent : next.canonicalParentHeader = some header) : PassOk A next := by
  refine ⟨?_, ?_⟩
  · rw [hHeaders]
    intro w hw
    rcases List.mem_append.mp hw with hw | hw
    · exact h.honest w (List.mem_of_mem_drop hw)
    · obtain rfl := List.mem_singleton.mp hw
      exact honestHeader_fromHeader header
  · rw [hParent, hHeaders, getLast?_roll]
    rfl

theorem passResult_of_passWitnesses (hLaw : ExecutesOnParent A R) {index : Nat} {parent : Header}
    {pass final : ProposalPass} (hPass : PassOk A pass)
    (hLast : pass.ancestorHeaders.getLast? = some (.fromHeader A parent))
    (h : passWitnesses A R network taiko (some blocks) (reconstructingVerifier A (statelessReconstructor A R) nodes) index
      pass witnesses = ok final) :
    PassResult A R network taiko blocks index parent pass witnesses final := by
  induction witnesses generalizing index parent pass with
  | nil =>
    cases h
    exact ⟨by simp, ⟨[], by simp, .nil⟩, by simp, by simp⟩
  | cons witness rest ih =>
    obtain ⟨next, hStep, hRest⟩ := bind_eq_ok_iff.mp h
    obtain ⟨parent', manifest, checkpoint, hLast', -, hManifest, hBlock, hCheckpoint, hNext⟩ :=
      acceptedBlock_of_passWitness hLaw hPass hStep
    obtain rfl : parent' = parent := by
      have hEq := Option.some.inj (hLast'.symm.trans hLast)
      exact Option.some.inj (congrArg WitnessHeader.header hEq)
    have hTail := ih (hPass.roll (by rw [hNext]) (by rw [hNext])) (by rw [hNext]; exact getLast?_roll ..) hRest
    refine ⟨?_, ?_, ?_, ?_⟩
    · intro i w hw
      cases i with
      | zero =>
        cases hw
        exact ⟨manifest, parent', hManifest, rfl, hBlock⟩
      | succ i =>
        obtain ⟨m, header, hm, hHeader, hAccepted⟩ := hTail.accepted i w hw
        refine ⟨m, header, ?_, hHeader, hAccepted⟩
        rw [← hm]
        congr 1
        omega
    · obtain ⟨checkpoints, hCheckpoints, hAll⟩ := hTail.checkpoints
      refine ⟨checkpoint :: checkpoints, ?_, .cons hCheckpoint hAll⟩
      rw [hCheckpoints, hNext]
      simp
    · intro w hw
      cases hw
      cases rest with
      | nil =>
        cases hRest
        rw [hNext]
      | cons w' rest =>
        rw [hTail.first w' rfl, hNext]
        rfl
    · intro w hw
      cases rest with
      | nil =>
        cases hw
        cases hRest
        rw [hNext]
        exact ⟨rfl, rfl, rfl⟩
      | cons w' rest =>
        rw [List.getLast?_cons_cons] at hw
        exact hTail.last w hw

end Pass

section Proposal

variable {A : Alloy} {R : Reth} {T : TaikoProtocol} {activations : ForkActivations} {input : GuestInput}

/-- The carry data names the proposal, the block before it and its last block. -/
structure CarryBinds (A : Alloy) (input : GuestInput) (parent : Header) (last : StatelessInput) : Prop where
  chainId : input.taiko.chainSpec.chainId = input.proofCarryData.chainId ∧
    ∀ witness ∈ input.witnesses, witness.chainSpec.chainId = input.proofCarryData.chainId
  proposalId : input.proofCarryData.transitionInput.proposalId = toU64 input.taiko.proposal.id
  proposalHash : input.proofCarryData.transitionInput.proposalHash = A.hashProposal input.taiko.proposal
  parentProposalHash :
    input.proofCarryData.transitionInput.parentProposalHash = input.taiko.proposal.parentProposalHash
  actualProver : input.proofCarryData.transitionInput.actualProver = input.taiko.proverData.actualProver
  proposer : input.proofCarryData.transitionInput.transition.proposer = input.taiko.proposal.proposer
  timestamp : input.proofCarryData.transitionInput.transition.timestamp = toU64 input.taiko.proposal.timestamp
  parentBlockHash : input.proofCarryData.transitionInput.parentBlockHash = A.hashSlow parent
  isLast : input.witnesses.getLast? = some last
  blockNumber : toU64 input.proofCarryData.transitionInput.checkpoint.blockNumber = last.block.header.number
  blockHash : input.proofCarryData.transitionInput.checkpoint.blockHash = A.hashSlow last.block.header
  stateRoot : input.proofCarryData.transitionInput.checkpoint.stateRoot = last.block.header.stateRoot

theorem checkWitnessChainIds_eq_ok_iff {firstChainId : UInt64} {i : Nat} {witnesses : List StatelessInput} {u : Unit} :
    checkWitnessChainIds firstChainId i witnesses = ok u ↔
      ∀ witness ∈ witnesses, witness.chainSpec.chainId = firstChainId := by
  induction witnesses generalizing i with
  | nil => simp [checkWitnessChainIds]
  | cons witness rest ih =>
    simp only [checkWitnessChainIds, unit_bind_eq_ok_iff, ensure_eq_ok_iff, ih, List.mem_cons, forall_eq_or_imp]

theorem lastFullHeader_of_getLast? {headers : List WitnessHeader} {header : WitnessHeader} {full : Header}
    (hLast : headers.getLast? = some header) (hFull : header.fullHeader = some full) :
    lastFullHeader headers = ok full := by
  obtain ⟨rest, rfl⟩ := List.getLast?_eq_some_iff.mp hLast
  simp [lastFullHeader, hFull]

theorem passWitness_none_ne_ok {network : TaikoNetwork} {taiko : TaikoManifest} {nodes : List WitnessStateNode}
    {index : Nat} {pass : ProposalPass} {witness : StatelessInput} (next : ProposalPass) :
    passWitness A R network taiko none (reconstructingVerifier A (statelessReconstructor A R) nodes) index pass witness ≠
      ok next := by
  intro h
  simp only [passWitness, bind_eq_ok_iff, withContext_eq_ok_iff] at h
  obtain ⟨_, -, _, -, _, -, _, -, _, hVerify, -⟩ := h
  obtain ⟨_, _, _, hVerified, -⟩ := verifiedBlock_of_reconstructingVerifier hVerify
  cases hVerified.isExpected

theorem checkProposalInvariants_eq_ok {chainId : UInt64} {u : Unit}
    (h : checkProposalInvariants A input chainId = ok u) :
    input.taiko.chainSpec.chainId = chainId ∧ (∀ witness ∈ input.witnesses, witness.chainSpec.chainId = chainId) ∧
      input.proofCarryData.chainId = chainId ∧
      checkProposalBinding A input.taiko input.proofCarryData = ok () := by
  obtain ⟨_, -, h⟩ := bind_eq_ok_iff.mp h
  simp only [unit_bind_eq_ok_iff, ensure_eq_ok_iff, checkWitnessChainIds_eq_ok_iff] at h
  obtain ⟨hTaiko, hWitnesses, hCarry, hBinding⟩ := h
  exact ⟨hTaiko, hWitnesses, hCarry, hBinding⟩

/-- Everything that a successful proof of a proposal establishes. -/
structure AcceptedProposal (A : Alloy) (R : Reth) (T : TaikoProtocol) (activations : ForkActivations)
    (input : GuestInput) (hash : B256) (network : TaikoNetwork) (parentAnchor : UInt64) (derived : DerivedShastaBlocks)
    (parent : Header) (last : StatelessInput) : Prop where
  sources : input.taiko.proposal.sources ≠ []
  runtime : builtinTaikoChainSpec input.proofCarryData.chainId = ok network
  anchor : verifiedParentAnchorBlockNumber (defaultParentStorageReader R) input = ok parentAnchor
  derivation : deriveExpectedShastaBlocks T activations network input parentAnchor = ok (some derived)
  count : input.witnesses.length = derived.blocks.length
  window : input.initialProposalAncestorHeaders.getLast? = some (.fromHeader A parent) ∧
    ∀ header ∈ input.initialProposalAncestorHeaders, ∃ full, header = .fromHeader A full
  derivedOn : lastFullHeader input.initialProposalAncestorHeaders = ok parent
  blocks : ∀ (i : Nat) witness, input.witnesses[i]? = some witness → ∃ manifest header, derived.blocks[i]? = some manifest ∧
    (parentHeaders parent input.witnesses)[i]? = some header ∧
    AcceptedBlock A R network input.taiko header manifest witness
  linkage : ∃ checkpoints, List.Forall₂ (fun witness checkpoint =>
      decodeAnchorCheckpoint A witness.block = ok checkpoint) input.witnesses checkpoints ∧
    validateL1AnchorLinkage A (defaultParentStorageReader R) input checkpoints parentAnchor
      (some derived.sourceSpans) = ok ()
  carry : CarryBinds A input parent last
  hash : hash = subproofInputHash A.keccak256 input.proofCarryData

/-- The proof of a proposal is sound for every input that was decoded from bytes. -/
theorem proveShastaProposal_sound (hLaw : ExecutesOnParent A R) {form : SerdeForm}
    {parse : Bytes → Except String GuestInputWire} {bytes : Bytes} {hash : B256}
    (hDecode : GuestInput.decode A form parse bytes = ok input)
    (hProve : proveShastaProposal A R T activations input = ok hash) :
    ∃ network parentAnchor derived parent last,
      AcceptedProposal A R T activations input hash network parentAnchor derived parent last := by
  simp only [proveShastaProposal, proveShastaProposalWithReconstructorAndParentReader,
    proveShastaProposalWithBlockVerifierAndParentReader, bind_eq_ok_iff, ofOption_eq_ok_iff, withContext_eq_ok_iff]
    at hProve
  obtain ⟨first, hFirst, network, hNetwork, -, -, -, -, -, -, -, -, _, hInvariants, -, -, parentAnchor, hAnchor, derived?,
    hDerived, headers, hHeaders, final, hPass, _, hLinkage, _, hCarry, hHash⟩ := hProve
  obtain ⟨-, -, rfl⟩ := initialProposalAncestorHeaders_eq_ok_iff.mp hHeaders
  obtain ⟨witnesses, hWitnesses⟩ : ∃ rest, input.witnesses = first :: rest := List.head?_eq_some_iff.mp hFirst
  obtain ⟨last, hLast⟩ : ∃ last, input.witnesses.getLast? = some last := by
    rw [hWitnesses]
    exact ⟨_, List.getLast?_cons⟩
  -- A proposal without sources derives nothing, and then the first block cannot be verified.
  cases derived? with
  | none =>
    rw [hWitnesses, passWitnesses] at hPass
    obtain ⟨next, hStep, -⟩ := bind_eq_ok_iff.mp hPass
    exact absurd hStep (passWitness_none_ne_ok next)
  | some derived =>
    have hOk : PassOk A (initialPass (some derived) input.initialProposalAncestorHeaders) :=
      ⟨honestHeaders_of_decode hDecode, rfl⟩
    obtain ⟨parent, hParent, hFull⟩ : ∃ parent,
        input.initialProposalAncestorHeaders.getLast? = some (.fromHeader A parent) ∧
          ∀ header ∈ input.initialProposalAncestorHeaders, header.fullHeader.isSome = true := by
      rw [hWitnesses, passWitnesses] at hPass
      obtain ⟨next, hStep, -⟩ := bind_eq_ok_iff.mp hPass
      obtain ⟨parent, -, -, hParent, hFull, -⟩ := acceptedBlock_of_passWitness hLaw hOk hStep
      exact ⟨parent, hParent, hFull⟩
    have hResult := passResult_of_passWitnesses hLaw hOk hParent hPass
    obtain ⟨fork, header, hDerivation⟩ := deriveExpectedShastaBlocks_eq_some_iff.mp hDerived
    obtain ⟨checkpoints, hCheckpoints, hDecoded⟩ := hResult.checkpoints
    obtain ⟨hTaikoId, hIds, hCarryId, hBinding⟩ := checkProposalInvariants_eq_ok hInvariants
    refine ⟨network, parentAnchor, derived, parent, last, hDerivation.sources, ?_, hAnchor, hDerived,
      hDerivation.count.symm, ⟨hParent, ?_⟩, lastFullHeader_of_getLast? hParent rfl, ?_, ⟨checkpoints, hDecoded, ?_⟩, ?_,
      (hashShastaSubproofInput_eq_ok A.keccak256 hHash).2⟩
    · rw [hCarryId]
      exact hNetwork
    · intro header hMem
      obtain ⟨full, hHeader⟩ := Option.isSome_iff_exists.mp (hFull header hMem)
      exact ⟨full, honestHeaders_of_decode hDecode header hMem full hHeader⟩
    · intro i witness hi
      obtain ⟨manifest, header, hm, hHeader, hAccepted⟩ := hResult.accepted i witness hi
      rw [Nat.zero_add] at hm
      exact ⟨manifest, header, hm, hHeader, hAccepted⟩
    · rw [hCheckpoints] at hLinkage
      exact hLinkage
    · have hZero := hResult.accepted 0 first (by rw [hWitnesses]; rfl)
      obtain ⟨_, header, -, hHeader, hAccepted⟩ := hZero
      obtain rfl : parent = header := Option.some.inj hHeader
      have hFirstHash := hResult.first first hFirst
      obtain ⟨hNumber, hBlockHash, hRoot⟩ := hResult.last last hLast
      simp only [checkCarryCheckpoint, hFirstHash, hNumber, hBlockHash, hRoot, bind_eq_ok_iff, expect_eq_ok_iff,
        ensure_eq_ok_iff, Option.some.injEq] at hCarry
      obtain ⟨_, rfl, _, rfl, _, rfl, _, rfl, -, hParentHash, -, hCarryNumber, -, hCarryHash, hCarryRoot⟩ := hCarry
      simp only [checkProposalBinding, unit_bind_eq_ok_iff, ensure_eq_ok_iff] at hBinding
      obtain ⟨hId, hProver, -, hEvent, -, -, hProposal, hParentProposal, hProposer, hTime⟩ := hBinding
      refine ⟨?_, hId.trans hEvent, hProposal, hParentProposal, hProver, hProposer, hTime, ?_, hLast, hCarryNumber,
        hCarryHash, hCarryRoot⟩
      · rw [hCarryId]
        exact ⟨hTaikoId, hIds⟩
      · rw [hParentHash]
        exact hAccepted.parentHash

end Proposal

section Sample

def sampleReth : Reth where
  unzenActiveAtTimestamp _ _ := true
  isUnzenActive _ _ := true
  isShastaActive _ _ := true
  defaultHeader := {}
  calculateTransactionRoot transactions := sampleAlloy.keccak256 (transactions.flatMap (·.rlp))
  calculateOmmersRoot _ := 2
  calculateWithdrawalsRoot _ := some 3
  witnessCovers _ _ _ _ _ _ := .ok ()
  storageFromWitness _ _ _ _ _ := .ok 8
  executeDerivedBlock _ _ derived :=
    .ok ⟨derived.body.transactions, derived.body.transactions.map fun _ => true, 77⟩
  assembleFilteredBlock _ _ derived outcome :=
    .ok { header := { derived.header with stateRoot := outcome.stateRoot, parentBeaconBlockRoot := some 0 }
          body := { derived.body with transactions := outcome.committedTransactions } }
  consensusRules _ _ _ _ := .ok ()
  validateBlockPostExecution _ _ _ := .ok ()
  validateAnchorTransactionInBlock _ _ := .ok ()
  validateAnchorTransaction _ _ _ _ _ := .ok ()
  goldenTouch := .ok ()
  signWithPredefinedK _ := .ok []
  encodeExtraData pctg proposalId := [pctg, proposalId.toUInt8]
  calculateShastaDifficulty difficulty number := difficulty + u64ToB256 number
  verifyBlobProofOfEquivalence _ _ _ := .ok ()

theorem executesOnParent_sample : ExecutesOnParent sampleAlloy sampleReth := by
  rintro network parent anchorTx transactions blockEnv block ⟨outcome, h⟩
  simp only [executeAndAssemble, sampleReth, bind_eq_ok_iff, ofExcept_eq_ok_iff, Except.ok.injEq] at h
  obtain ⟨_, rfl, _, -, _, rfl, hEq⟩ := h
  cases hEq
  exact ⟨rfl, rfl, rfl, rfl, rfl, rfl, rfl⟩

def sampleParentHeader (gasLimit : UInt64) : Header :=
  { number := 0, gasLimit := gasLimit, timestamp := 1000, difficulty := 5, stateRoot := 11 }

def sampleOrigin : Header := sampleL1Header 8 0

def sampleAnchorTx : TransactionSigned :=
  ⟨sampleAlloy.anchorV4Encode ⟨8, sampleAlloy.hashSlow sampleOrigin, sampleOrigin.stateRoot⟩⟩

def sampleBlock (gasLimit blockGasLimit : UInt64) (ommers : List Header) : Block :=
  let parent := sampleParentHeader gasLimit
  let derived := buildDerivedBlock sampleAlloy sampleReth ⟨parent, sampleAlloy.hashSlow parent⟩ sampleAnchorTx []
    { timestamp := 1001, suggestedFeeRecipient := 0x22, prevRandao := 6, gasLimit := blockGasLimit
      extraData := [10, 3], baseFeePerGas := 7, parentBeaconBlockRoot := none }
  { header := { derived.header with stateRoot := 77, parentBeaconBlockRoot := some 0 }
    body := { derived.body with ommers := ommers } }

def sampleProposal : Proposal :=
  { id := 3, timestamp := 1100, originBlockNumber := 8, originBlockHash := sampleAlloy.hashSlow sampleOrigin
    proposer := 0x22, basefeeSharingPctg := 10, sources := [{}] }

def sampleWire (gasLimit blockGasLimit : UInt64) (ommers : List Header) : GuestInputWire :=
  let block := sampleBlock gasLimit blockGasLimit ommers
  { witnesses := [{ block := block, chainSpec := { chainId := 167013 }, witness := ⟨[], [], [], [], []⟩ }]
    taiko := { proposalId := 3, l1Header := sampleOrigin, proposal := sampleProposal
               chainSpec := { chainId := 167013 }, dataSources := [{}], l1AncestorHeaders := [sampleOrigin] }
    proposalAncestorHeaders := [.bincode 0 0 0 0 (some (sampleParentHeader gasLimit))]
    proposalStateNodes := []
    proofCarryData :=
      { chainId := 167013
        transitionInput :=
          { proposalId := 3, proposalHash := sampleAlloy.hashProposal sampleProposal
            parentBlockHash := sampleAlloy.hashSlow (sampleParentHeader gasLimit)
            transition := { proposer := 0x22, timestamp := 1100 }
            checkpoint := ⟨1, sampleAlloy.hashSlow block.header, 77⟩ } } }

def sampleInput (gasLimit blockGasLimit : UInt64) (ommers : List Header) : GuestInput :=
  let wire := sampleWire gasLimit blockGasLimit ommers
  { witnesses := wire.witnesses.map fun witness => { block := witness.block, chainSpec := witness.chainSpec }
    taiko := wire.taiko
    proposalAncestorHeaders := [.fromHeader sampleAlloy (sampleParentHeader gasLimit)]
    proofCarryData := wire.proofCarryData }

def sampleActivations : ForkActivations := fun _ _ => .timestamp 0

theorem proveShastaProposal_sound_sampleInput :
    GuestInput.decode sampleAlloy .binary (fun _ : Bytes => .ok (sampleWire 30000000 31000000 [])) [] =
        ok (sampleInput 30000000 31000000 []) ∧
      ∃ hash network parentAnchor derived parent last,
        AcceptedProposal sampleAlloy sampleReth sampleProtocol sampleActivations (sampleInput 30000000 31000000 []) hash
          network parentAnchor derived parent last := by
  have hDecode : GuestInput.decode sampleAlloy .binary (fun _ : Bytes => .ok (sampleWire 30000000 31000000 [])) [] =
      ok (sampleInput 30000000 31000000 []) := by decide +kernel
  have hProve : proveShastaProposal sampleAlloy sampleReth sampleProtocol sampleActivations
      (sampleInput 30000000 31000000 []) =
      ok (subproofInputHash sampleAlloy.keccak256 (sampleInput 30000000 31000000 []).proofCarryData) := by
    decide +kernel
  exact ⟨hDecode, _, proveShastaProposal_sound executesOnParent_sample hDecode hProve⟩

def sampleOmmersInput : GuestInput := sampleInput 18446744073709551615 18446744073709551615 [{}]

/-- Two ways in which an accepted block is not exactly the derived one: the anchor gas saturates, and the body
of the witness block may hold ommers that execution did not give. -/
theorem accepted_block_saturates_and_keeps_ommers :
    GuestInput.decode sampleAlloy .binary
        (fun _ : Bytes => .ok (sampleWire 18446744073709551615 18446744073709551615 [{}])) [] = ok sampleOmmersInput ∧
      (proveShastaProposal sampleAlloy sampleReth sampleProtocol sampleActivations sampleOmmersInput).isOk = true ∧
      ∃ witness manifest generated, sampleOmmersInput.witnesses = [witness] ∧
        deriveExpectedShastaBlocks sampleProtocol sampleActivations .hoodi sampleOmmersInput 8 =
          ok (some ⟨[manifest], [⟨false, 1⟩]⟩) ∧
        witness.block.header.gasLimit.toNat ≠ manifest.gasLimit.toNat + 1000000 ∧
        ExecutedFrom sampleAlloy sampleReth .hoodi
          ⟨sampleParentHeader 18446744073709551615, sampleAlloy.hashSlow (sampleParentHeader 18446744073709551615)⟩
          manifest witness generated ∧
        witness.block ≠ generated := by
  refine ⟨by decide +kernel, by decide +kernel, _,
    { timestamp := 1001, coinbase := 0x22, anchorBlockNumber := 8, gasLimit := 18446744073709551615 },
    sampleBlock 18446744073709551615 18446744073709551615 [], rfl, by decide +kernel, by decide +kernel, ?_,
    by decide +kernel⟩
  exact ⟨sampleAnchorTx, [], _, rfl, rfl, rfl, _, rfl⟩

end Sample

end Raiko2
