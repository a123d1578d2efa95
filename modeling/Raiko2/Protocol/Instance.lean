import Raiko2.Lib.Chain
import Raiko2.Protocol.LibHash

/-!
# Carry vectors and aggregation outputs

The validation of a vector of carry data and the commitment built from it. A commitment is built only
from a vector that passed the validation, which is what keeps the 48-bit conversions from aborting.
-/

namespace Raiko2

open Lib Lib.Outcome

def shastaUint48Max : UInt64 := 0xffffffffffff

def fitsShastaUint48 (value : UInt64) : Bool := value ≤ shastaUint48Max

def carryFitsUint48 (item : ProofCarryData) : Bool :=
  fitsShastaUint48 item.transitionInput.proposalId &&
    fitsShastaUint48 item.transitionInput.transition.timestamp &&
    fitsShastaUint48 (toU64 item.transitionInput.checkpoint.blockNumber)

def carryFollows (prev next : ProofCarryData) : Bool :=
  U64.checkedAdd prev.transitionInput.proposalId 1 == some next.transitionInput.proposalId &&
    prev.transitionInput.proposalHash == next.transitionInput.parentProposalHash &&
    prev.chainId == next.chainId &&
    prev.verifier == next.verifier &&
    prev.transitionInput.checkpoint.blockHash == next.transitionInput.parentBlockHash

def validateShastaProofCarryDataVec (proofCarryDataVec : List ProofCarryData) : Bool :=
  match proofCarryDataVec.head? with
  | none => false
  | some first =>
    proofCarryDataVec.all carryFitsUint48 &&
      proofCarryDataVec.all (fun item => item.transitionInput.actualProver == first.transitionInput.actualProver) &&
      (windows2 proofCarryDataVec).all (fun w => carryFollows w.1 w.2)

variable {ε : Type}

/-- `Uint::<48, 1>::from(u64)`, which panics on a wider value. -/
def uint48From (value : UInt64) : Outcome ε U48 :=
  if value ≤ shastaUint48Max then ok (BitVec.ofNat 48 value.toNat) else abort "Uint conversion error"

def carryTransition (item : ProofCarryData) : Outcome ε Transition := do
  let timestamp ← uint48From item.transitionInput.transition.timestamp
  return {
    proposer := item.transitionInput.transition.proposer
    timestamp := timestamp
    blockHash := item.transitionInput.checkpoint.blockHash }

/-- `None` of the source is the error case. -/
def buildShastaCommitmentFromProofCarryDataVec (proofCarryDataVec : List ProofCarryData) :
    Outcome Unit Commitment := do
  ensure (validateShastaProofCarryDataVec proofCarryDataVec) ()
  let first ← ofOption () proofCarryDataVec.head?
  let last ← ofOption () proofCarryDataVec.getLast?
  let transitions ← proofCarryDataVec.mapM carryTransition
  let firstProposalId ← uint48From first.transitionInput.proposalId
  return {
    firstProposalId := firstProposalId
    firstProposalParentBlockHash := first.transitionInput.parentBlockHash
    lastProposalHash := last.transitionInput.proposalHash
    actualProver := first.transitionInput.actualProver
    endBlockNumber := last.transitionInput.checkpoint.blockNumber
    endStateRoot := last.transitionInput.checkpoint.stateRoot
    transitions := transitions }

section Outputs

variable (keccak256 : Bytes → B256)

def shastaAggregationOutput (proveInput : Commitment) (chainId : UInt64) (verifierAddress sgxInstance : Address) :
    B256 :=
  hashPublicInput keccak256 (hashCommitment keccak256 proveInput) chainId verifierAddress sgxInstance

def shastaZkAggregationOutput (subImageId subInputHash : B256) : B256 :=
  hashTwoValues keccak256 subImageId subInputHash

def shastaZkAggregationPublicInputFromProofCarryDataVec (subImageId : B256)
    (proofCarryDataVec : List ProofCarryData) (proverAddress : Address) : Outcome Unit B256 := do
  let commitment ← buildShastaCommitmentFromProofCarryDataVec proofCarryDataVec
  let first ← ofOption () proofCarryDataVec.head?
  let aggregationHash :=
    shastaAggregationOutput keccak256 commitment first.chainId first.verifier proverAddress
  return shastaZkAggregationOutput keccak256 subImageId aggregationHash

end Outputs

/-- What the validation of a carry vector is for: one prover, chain and verifier, proposal ids without
gaps, and every carry starting where the previous one ended. -/
structure CarryChain (carries : List ProofCarryData) : Prop where
  nonempty : carries ≠ []
  fits : ∀ c ∈ carries, c.transitionInput.proposalId.toNat < 2 ^ 48 ∧
    c.transitionInput.transition.timestamp.toNat < 2 ^ 48 ∧
    c.transitionInput.checkpoint.blockNumber.toNat < 2 ^ 48
  shared : ∀ a ∈ carries, ∀ b ∈ carries,
    a.transitionInput.actualProver = b.transitionInput.actualProver ∧ a.chainId = b.chainId ∧
      a.verifier = b.verifier
  follows : ∀ i prev next, carries[i]? = some prev → carries[i + 1]? = some next →
    next.transitionInput.proposalId.toNat = prev.transitionInput.proposalId.toNat + 1 ∧
      next.transitionInput.parentProposalHash = prev.transitionInput.proposalHash ∧
      next.transitionInput.parentBlockHash = prev.transitionInput.checkpoint.blockHash

theorem le_shastaUint48Max_iff {value : UInt64} : value ≤ shastaUint48Max ↔ value.toNat < 2 ^ 48 := by
  have hMax : shastaUint48Max.toNat = 2 ^ 48 - 1 := by decide
  rw [UInt64.le_iff_toNat_le, hMax]
  omega

theorem fitsShastaUint48_iff {value : UInt64} : fitsShastaUint48 value = true ↔ value.toNat < 2 ^ 48 := by
  rw [fitsShastaUint48, decide_eq_true_eq, le_shastaUint48Max_iff]

theorem carryFitsUint48_iff {c : ProofCarryData} :
    carryFitsUint48 c = true ↔ c.transitionInput.proposalId.toNat < 2 ^ 48 ∧
      c.transitionInput.transition.timestamp.toNat < 2 ^ 48 ∧
      c.transitionInput.checkpoint.blockNumber.toNat < 2 ^ 48 := by
  simp only [carryFitsUint48, Bool.and_eq_true, fitsShastaUint48_iff, toNat_toU64_u48, and_assoc]

theorem carryFollows_iff {prev next : ProofCarryData} :
    carryFollows prev next = true ↔
      next.transitionInput.proposalId.toNat = prev.transitionInput.proposalId.toNat + 1 ∧
        next.transitionInput.parentProposalHash = prev.transitionInput.proposalHash ∧
        prev.chainId = next.chainId ∧ prev.verifier = next.verifier ∧
        next.transitionInput.parentBlockHash = prev.transitionInput.checkpoint.blockHash := by
  have hOne : (1 : UInt64).toNat = 1 := rfl
  simp only [carryFollows, Bool.and_eq_true, beq_iff_eq, U64.checkedAdd_eq_some_iff, hOne, and_assoc]
  constructor
  · rintro ⟨hId, hHash, hChain, hVerifier, hBlock⟩
    exact ⟨hId.symm, hHash.symm, hChain, hVerifier, hBlock.symm⟩
  · rintro ⟨hId, hHash, hChain, hVerifier, hBlock⟩
    exact ⟨hId.symm, hHash.symm, hChain, hVerifier, hBlock.symm⟩

variable {carries : List ProofCarryData}

theorem CarryChain.isChain (h : CarryChain carries) :
    carries.IsChain (fun prev next => carryFollows prev next = true) := by
  refine isChain_iff_getElem?.mpr fun i prev next hPrev hNext => carryFollows_iff.mpr ?_
  obtain ⟨hId, hHash, hBlock⟩ := h.follows i prev next hPrev hNext
  obtain ⟨_, hChainId, hVerifier⟩ :=
    h.shared prev (List.mem_of_getElem? hPrev) next (List.mem_of_getElem? hNext)
  exact ⟨hId, hHash, hChainId, hVerifier, hBlock⟩

theorem validateShastaProofCarryDataVec_cons {first : ProofCarryData} {rest : List ProofCarryData} :
    validateShastaProofCarryDataVec (first :: rest) = true ↔
      (∀ c ∈ first :: rest, carryFitsUint48 c = true) ∧
        (∀ c ∈ first :: rest, c.transitionInput.actualProver = first.transitionInput.actualProver) ∧
        (first :: rest).IsChain (fun prev next => carryFollows prev next = true) := by
  simp only [validateShastaProofCarryDataVec, List.head?_cons, Bool.and_eq_true, all_windows2_iff, and_assoc]
  simp only [List.all_eq_true, beq_iff_eq]

theorem validateShastaProofCarryDataVec_iff :
    validateShastaProofCarryDataVec carries = true ↔ CarryChain carries := by
  cases carries with
  | nil =>
    constructor
    · intro h
      cases h
    · intro h
      exact absurd rfl h.nonempty
  | cons first rest =>
    rw [validateShastaProofCarryDataVec_cons]
    constructor
    · rintro ⟨hFits, hProver, hChain⟩
      have hChainId := hChain.imp fun a b h => (carryFollows_iff.mp h).2.2.1
      have hVerifier := hChain.imp fun a b h => (carryFollows_iff.mp h).2.2.2.1
      refine ⟨by simp, fun c hc => carryFitsUint48_iff.mp (hFits c hc), ?_, ?_⟩
      · intro a ha b hb
        exact ⟨(hProver a ha).trans (hProver b hb).symm, IsChain.eq_of_mem hChainId ha hb,
          IsChain.eq_of_mem hVerifier ha hb⟩
      · intro i prev next hPrev hNext
        obtain ⟨hId, hHash, _, _, hBlock⟩ :=
          carryFollows_iff.mp (isChain_iff_getElem?.mp hChain i prev next hPrev hNext)
        exact ⟨hId, hHash, hBlock⟩
    · intro h
      refine ⟨fun c hc => carryFitsUint48_iff.mpr (h.fits c hc), ?_, ?_⟩
      · intro c hc
        exact (h.shared c hc first (by simp)).1
      · exact h.isChain

def transitionOf (item : ProofCarryData) : Transition where
  proposer := item.transitionInput.transition.proposer
  timestamp := BitVec.ofNat 48 item.transitionInput.transition.timestamp.toNat
  blockHash := item.transitionInput.checkpoint.blockHash

def commitmentOf (first last : ProofCarryData) (carries : List ProofCarryData) : Commitment where
  firstProposalId := BitVec.ofNat 48 first.transitionInput.proposalId.toNat
  firstProposalParentBlockHash := first.transitionInput.parentBlockHash
  lastProposalHash := last.transitionInput.proposalHash
  actualProver := first.transitionInput.actualProver
  endBlockNumber := last.transitionInput.checkpoint.blockNumber
  endStateRoot := last.transitionInput.checkpoint.stateRoot
  transitions := carries.map transitionOf

theorem uint48From_of_lt {value : UInt64} (h : value.toNat < 2 ^ 48) :
    (uint48From value : Outcome ε U48) = ok (BitVec.ofNat 48 value.toNat) := by
  rw [uint48From, if_pos (le_shastaUint48Max_iff.mpr h)]

theorem buildShastaCommitment_of_chain {first last : ProofCarryData} (h : CarryChain carries)
    (hFirst : carries.head? = some first) (hLast : carries.getLast? = some last) :
    buildShastaCommitmentFromProofCarryDataVec carries = ok (commitmentOf first last carries) := by
  have hTransitions : carries.mapM carryTransition = (ok (carries.map transitionOf) : Outcome Unit _) := by
    refine mapM_eq_ok fun c hc => ?_
    rw [carryTransition, uint48From_of_lt (h.fits c hc).2.1]
    rfl
  have hFirstMem : first ∈ carries := List.mem_of_mem_head? hFirst
  rw [buildShastaCommitmentFromProofCarryDataVec,
    ensure_of_pos (validateShastaProofCarryDataVec_iff.mpr h), hFirst, hLast, hTransitions]
  simp only [ok_bind, ofOption, uint48From_of_lt (h.fits first hFirstMem).1]
  rfl

theorem buildShastaCommitment_of_not_chain (h : ¬CarryChain carries) :
    buildShastaCommitmentFromProofCarryDataVec carries = error () := by
  rw [buildShastaCommitmentFromProofCarryDataVec,
    ensure_of_neg (fun hValid => h (validateShastaProofCarryDataVec_iff.mp hValid)), error_bind]

theorem exists_first_last {α : Type} {xs : List α} (h : xs ≠ []) :
    ∃ first last, xs.head? = some first ∧ xs.getLast? = some last :=
  ⟨xs.head h, xs.getLast h, List.head?_eq_some_head h, List.getLast?_eq_some_getLast h⟩

theorem buildShastaCommitment_eq_ok_iff {commitment : Commitment} :
    buildShastaCommitmentFromProofCarryDataVec carries = ok commitment ↔
      CarryChain carries ∧ ∃ first last, carries.head? = some first ∧ carries.getLast? = some last ∧
        commitment = commitmentOf first last carries := by
  by_cases h : CarryChain carries
  · obtain ⟨first, last, hFirst, hLast⟩ := exists_first_last h.nonempty
    rw [buildShastaCommitment_of_chain h hFirst hLast, Outcome.ok.injEq]
    simp [h, hFirst, hLast, eq_comm]
  · rw [buildShastaCommitment_of_not_chain h]
    simp [h]

end Raiko2
