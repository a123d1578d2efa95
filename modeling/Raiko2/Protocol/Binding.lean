import Mathlib.Data.List.Forall2
import Raiko2.Protocol.Instance

/-!
# Public inputs bind what they attest

Equal public inputs come from equal attested data, as long as `keccak256` has no collision among the strings that the
two computations hash. The argument peels one hash at a time: equal digests give equal words, and each word encoding
is injective.
-/

namespace Raiko2

open Lib Lib.Outcome List

def CollisionFree (keccak256 : Bytes → B256) (preimages : List Bytes) : Prop :=
  ∀ x ∈ preimages, ∀ y ∈ preimages, keccak256 x = keccak256 y → x = y

instance (keccak256 : Bytes → B256) (preimages : List Bytes) : Decidable (CollisionFree keccak256 preimages) :=
  inferInstanceAs (Decidable (∀ x ∈ preimages, ∀ y ∈ preimages, keccak256 x = keccak256 y → x = y))

section Subproof

variable (keccak256 : Bytes → B256)

def checkpointWords (checkpoint : Checkpoint) : List B256 :=
  [uint48ToB256 checkpoint.blockNumber, checkpoint.blockHash, checkpoint.stateRoot]

def subproofPreimages (carry : ProofCarryData) : List Bytes :=
  [wordsBytes (checkpointWords carry.transitionInput.checkpoint),
    wordsBytes (transitionInputWords keccak256 carry.transitionInput
      (u64ToB256 carry.transitionInput.transition.timestamp)
      (u64ToB256 (toU64 carry.transitionInput.checkpoint.blockNumber))),
    wordsBytes (subproofWords keccak256 carry)]

variable {keccak256} {preimages : List Bytes}

theorem CollisionFree.words_eq (h : CollisionFree keccak256 preimages) {xs ys : List B256}
    (hx : wordsBytes xs ∈ preimages) (hy : wordsBytes ys ∈ preimages)
    (hEq : hashValuesImpl keccak256 xs = hashValuesImpl keccak256 ys) : xs = ys :=
  wordsBytes_inj (h _ hx _ hy hEq)

theorem CollisionFree.mono (h : CollisionFree keccak256 preimages) {fewer : List Bytes}
    (hSub : ∀ x ∈ fewer, x ∈ preimages) : CollisionFree keccak256 fewer :=
  fun x hx y hy => h x (hSub x hx) y (hSub y hy)

theorem transitionInputWords_inj {ti₁ ti₂ : TransitionInputData} {number₁ number₂ : B256}
    (h : transitionInputWords keccak256 ti₁ (u64ToB256 ti₁.transition.timestamp) number₁ =
      transitionInputWords keccak256 ti₂ (u64ToB256 ti₂.transition.timestamp) number₂)
    (hNumber : number₁ = number₂ → ti₁.checkpoint.blockNumber = ti₂.checkpoint.blockNumber) : ti₁ = ti₂ := by
  simp only [transitionInputWords, cons.injEq, and_true] at h
  obtain ⟨hId, hHash, hParent, hParentBlock, hProver, hProposer, hTimestamp, -, hEnd, hBlock, hRoot⟩ := h
  have hNumberEq := hNumber hEnd
  have hIdEq := u64ToB256_inj hId
  have hProverEq := addressToB256_inj hProver
  have hProposerEq := addressToB256_inj hProposer
  have hTimestampEq := u64ToB256_inj hTimestamp
  obtain ⟨_, _, _, _, _, ⟨_, _⟩, ⟨_, _, _⟩⟩ := ti₁
  obtain ⟨_, _, _, _, _, ⟨_, _⟩, ⟨_, _, _⟩⟩ := ti₂
  subst hIdEq hHash hParent hParentBlock hProverEq hProposerEq hTimestampEq hNumberEq hBlock hRoot
  rfl

theorem subproofInputHash_inj {carry₁ carry₂ : ProofCarryData}
    (hFree : CollisionFree keccak256 (subproofPreimages keccak256 carry₁ ++ subproofPreimages keccak256 carry₂))
    (h : subproofInputHash keccak256 carry₁ = subproofInputHash keccak256 carry₂) : carry₁ = carry₂ := by
  have hOuter := hFree.words_eq (by simp [subproofPreimages]) (by simp [subproofPreimages]) h
  simp only [subproofWords, cons.injEq, and_true, true_and] at hOuter
  obtain ⟨hChain, hVerifier, hTransition⟩ := hOuter
  have hInner := hFree.words_eq (by simp [subproofPreimages]) (by simp [subproofPreimages]) hTransition
  have hInput := transitionInputWords_inj hInner fun hNumber => toU64_u48_inj (u64ToB256_inj hNumber)
  have hChainEq := u64ToB256_inj hChain
  have hVerifierEq := addressToB256_inj hVerifier
  obtain ⟨_, _, _⟩ := carry₁
  obtain ⟨_, _, _⟩ := carry₂
  subst hChainEq hVerifierEq hInput
  rfl

end Subproof

section Aggregate

variable (keccak256 : Bytes → B256)

def aggregationPreimages (subImageId : B256) (commitment : Commitment) (chainId : UInt64)
    (verifier instanceAddress : Address) : List Bytes :=
  [wordsBytes (commitmentWords commitment),
    wordsBytes (publicInputWords (hashCommitment keccak256 commitment) chainId verifier instanceAddress),
    wordsBytes [subImageId, shastaAggregationOutput keccak256 commitment chainId verifier instanceAddress]]

theorem transitionWords_inj {t₁ t₂ : Transition} (h : transitionWords t₁ = transitionWords t₂) : t₁ = t₂ := by
  simp only [transitionWords, cons.injEq, and_true] at h
  obtain ⟨hProposer, hTimestamp, hBlock⟩ := h
  have hProposerEq := addressToB256_inj hProposer
  have hTimestampEq := uint48ToB256_inj hTimestamp
  obtain ⟨_, _, _⟩ := t₁
  obtain ⟨_, _, _⟩ := t₂
  subst hProposerEq hTimestampEq hBlock
  rfl

theorem commitmentWords_inj {c₁ c₂ : Commitment} (h : commitmentWords c₁ = commitmentWords c₂) : c₁ = c₂ := by
  obtain ⟨hFixed, hTail⟩ := append_inj h rfl
  have hTransitions : c₁.transitions = c₂.transitions :=
    flatMap_fixed_inj (fun t => show (transitionWords t).length = 3 from rfl) (by omega)
      (fun _ _ => transitionWords_inj) hTail
  simp only [cons.injEq, and_true, true_and] at hFixed
  obtain ⟨hId, hParent, hHash, hProver, hNumber, hRoot, -⟩ := hFixed
  have hIdEq := uint48ToB256_inj hId
  have hProverEq := addressToB256_inj hProver
  have hNumberEq := uint48ToB256_inj hNumber
  obtain ⟨_, _, _, _, _, _, _⟩ := c₁
  obtain ⟨_, _, _, _, _, _, _⟩ := c₂
  subst hIdEq hParent hHash hProverEq hNumberEq hRoot hTransitions
  rfl

variable {keccak256} {subImageId : B256} {chainId₁ chainId₂ : UInt64} {verifier₁ verifier₂ instanceAddress : Address}

theorem shastaZkAggregationOutput_inj {c₁ c₂ : Commitment}
    (hFree : CollisionFree keccak256 (aggregationPreimages keccak256 subImageId c₁ chainId₁ verifier₁ instanceAddress ++
      aggregationPreimages keccak256 subImageId c₂ chainId₂ verifier₂ instanceAddress))
    (h : shastaZkAggregationOutput keccak256 subImageId
        (shastaAggregationOutput keccak256 c₁ chainId₁ verifier₁ instanceAddress) =
      shastaZkAggregationOutput keccak256 subImageId
        (shastaAggregationOutput keccak256 c₂ chainId₂ verifier₂ instanceAddress)) :
    c₁ = c₂ ∧ chainId₁ = chainId₂ ∧ verifier₁ = verifier₂ := by
  have hZk := hFree.words_eq (by simp [aggregationPreimages]) (by simp [aggregationPreimages]) h
  simp only [cons.injEq, and_true, true_and] at hZk
  have hPublic := hFree.words_eq (by simp [aggregationPreimages]) (by simp [aggregationPreimages]) hZk
  simp only [publicInputWords, cons.injEq, and_true, true_and] at hPublic
  obtain ⟨hChain, hVerifier, hCommitment⟩ := hPublic
  have hWords := hFree.words_eq (by simp [aggregationPreimages]) (by simp [aggregationPreimages]) hCommitment
  exact ⟨commitmentWords_inj hWords, u64ToB256_inj hChain, addressToB256_inj hVerifier⟩

end Aggregate

structure CarryAgrees (c₁ c₂ : ProofCarryData) : Prop where
  chainId : c₁.chainId = c₂.chainId
  verifier : c₁.verifier = c₂.verifier
  actualProver : c₁.transitionInput.actualProver = c₂.transitionInput.actualProver
  proposalId : c₁.transitionInput.proposalId = c₂.transitionInput.proposalId
  proposer : c₁.transitionInput.transition.proposer = c₂.transitionInput.transition.proposer
  timestamp : c₁.transitionInput.transition.timestamp = c₂.transitionInput.transition.timestamp
  blockHash : c₁.transitionInput.checkpoint.blockHash = c₂.transitionInput.checkpoint.blockHash
  parentBlockHash : c₁.transitionInput.parentBlockHash = c₂.transitionInput.parentBlockHash

/-- Two carry vectors that no public input tells apart: they agree carry by carry, and on where they end. -/
structure AggregatesAgree (v₁ v₂ : List ProofCarryData) : Prop where
  length : v₁.length = v₂.length
  carries : List.Forall₂ CarryAgrees v₁ v₂
  last : ∀ l₁ ∈ v₁.getLast?, ∀ l₂ ∈ v₂.getLast?,
    l₁.transitionInput.proposalHash = l₂.transitionInput.proposalHash ∧
      l₁.transitionInput.checkpoint.blockNumber = l₂.transitionInput.checkpoint.blockNumber ∧
      l₁.transitionInput.checkpoint.stateRoot = l₂.transitionInput.checkpoint.stateRoot

section Carries

theorem ofNat_u48_inj {a b : UInt64} (ha : a.toNat < 2 ^ 48) (hb : b.toNat < 2 ^ 48)
    (h : BitVec.ofNat 48 a.toNat = BitVec.ofNat 48 b.toNat) : a = b := by
  have hNat := congrArg BitVec.toNat h
  simp only [BitVec.toNat_ofNat] at hNat
  rw [Nat.mod_eq_of_lt ha, Nat.mod_eq_of_lt hb] at hNat
  exact UInt64.toNat_inj.mp hNat

structure HeadAgrees (c₁ c₂ : ProofCarryData) : Prop where
  chainId : c₁.chainId = c₂.chainId
  verifier : c₁.verifier = c₂.verifier
  proposalId : c₁.transitionInput.proposalId = c₂.transitionInput.proposalId
  parentBlockHash : c₁.transitionInput.parentBlockHash = c₂.transitionInput.parentBlockHash

theorem HeadAgrees.next {c₁ c₂ next₁ next₂ : ProofCarryData} (h : HeadAgrees c₁ c₂)
    (hBlock : c₁.transitionInput.checkpoint.blockHash = c₂.transitionInput.checkpoint.blockHash)
    (h₁ : carryFollows c₁ next₁ = true) (h₂ : carryFollows c₂ next₂ = true) : HeadAgrees next₁ next₂ := by
  obtain ⟨hId₁, _, hChain₁, hVerifier₁, hParent₁⟩ := carryFollows_iff.mp h₁
  obtain ⟨hId₂, _, hChain₂, hVerifier₂, hParent₂⟩ := carryFollows_iff.mp h₂
  refine ⟨?_, ?_, ?_, ?_⟩
  · rw [← hChain₁, ← hChain₂, h.chainId]
  · rw [← hVerifier₁, ← hVerifier₂, h.verifier]
  · rw [← UInt64.toNat_inj, hId₁, hId₂, h.proposalId]
  · rw [hParent₁, hParent₂, hBlock]

theorem forall₂_carryAgrees {v₁ v₂ : List ProofCarryData} {prover : Address}
    (hChain₁ : v₁.IsChain (fun prev next => carryFollows prev next = true))
    (hChain₂ : v₂.IsChain (fun prev next => carryFollows prev next = true))
    (hCarry₁ : ∀ c ∈ v₁, c.transitionInput.actualProver = prover ∧ c.transitionInput.transition.timestamp.toNat < 2 ^ 48)
    (hCarry₂ : ∀ c ∈ v₂, c.transitionInput.actualProver = prover ∧ c.transitionInput.transition.timestamp.toNat < 2 ^ 48)
    (hHead : ∀ c₁ ∈ v₁.head?, ∀ c₂ ∈ v₂.head?, HeadAgrees c₁ c₂)
    (hTransitions : v₁.map transitionOf = v₂.map transitionOf) : List.Forall₂ CarryAgrees v₁ v₂ := by
  induction v₁ generalizing v₂ with
  | nil =>
    rw [map_nil, eq_comm, map_eq_nil_iff] at hTransitions
    subst hTransitions
    exact .nil
  | cons c₁ rest₁ ih =>
    cases v₂ with
    | nil => cases hTransitions
    | cons c₂ rest₂ =>
      rw [map_cons, map_cons, cons.injEq] at hTransitions
      obtain ⟨hTransition, hRest⟩ := hTransitions
      simp only [transitionOf, Transition.mk.injEq] at hTransition
      obtain ⟨hProposer, hTimestamp, hBlock⟩ := hTransition
      obtain ⟨hProver₁, hFits₁⟩ := hCarry₁ c₁ (by simp)
      obtain ⟨hProver₂, hFits₂⟩ := hCarry₂ c₂ (by simp)
      have hHeads := hHead c₁ rfl c₂ rfl
      have hAgrees : CarryAgrees c₁ c₂ := ⟨hHeads.chainId, hHeads.verifier, hProver₁.trans hProver₂.symm,
        hHeads.proposalId, hProposer, ofNat_u48_inj hFits₁ hFits₂ hTimestamp, hBlock, hHeads.parentBlockHash⟩
      refine .cons hAgrees (ih hChain₁.tail hChain₂.tail (fun c hc => hCarry₁ c (by simp [hc]))
        (fun c hc => hCarry₂ c (by simp [hc])) ?_ hRest)
      intro next₁ hNext₁ next₂ hNext₂
      exact hHeads.next hBlock (hChain₁.rel_head? hNext₁) (hChain₂.rel_head? hNext₂)

theorem aggregatesAgree_of_commitmentOf_eq {v₁ v₂ : List ProofCarryData} {first₁ first₂ last₁ last₂ : ProofCarryData}
    (h₁ : CarryChain v₁) (h₂ : CarryChain v₂) (hFirst₁ : v₁.head? = some first₁) (hFirst₂ : v₂.head? = some first₂)
    (hLast₁ : v₁.getLast? = some last₁) (hLast₂ : v₂.getLast? = some last₂)
    (hChainId : first₁.chainId = first₂.chainId) (hVerifier : first₁.verifier = first₂.verifier)
    (h : commitmentOf first₁ last₁ v₁ = commitmentOf first₂ last₂ v₂) : AggregatesAgree v₁ v₂ := by
  simp only [commitmentOf, Commitment.mk.injEq] at h
  obtain ⟨hId, hParent, hHash, hProver, hNumber, hRoot, hTransitions⟩ := h
  have hMem₁ : first₁ ∈ v₁ := mem_of_mem_head? hFirst₁
  have hMem₂ : first₂ ∈ v₂ := mem_of_mem_head? hFirst₂
  have hHead : HeadAgrees first₁ first₂ :=
    ⟨hChainId, hVerifier, ofNat_u48_inj (h₁.fits _ hMem₁).1 (h₂.fits _ hMem₂).1 hId, hParent⟩
  have hCarries : List.Forall₂ CarryAgrees v₁ v₂ := by
    refine forall₂_carryAgrees h₁.isChain h₂.isChain
      (fun c hc => ⟨(h₁.shared c hc first₁ hMem₁).1, (h₁.fits c hc).2.1⟩)
      (fun c hc => ⟨(h₂.shared c hc first₂ hMem₂).1.trans hProver.symm, (h₂.fits c hc).2.1⟩) ?_ hTransitions
    simpa [hFirst₁, hFirst₂] using hHead
  refine ⟨hCarries.length_eq, hCarries, ?_⟩
  simpa [hLast₁, hLast₂] using ⟨hHash, hNumber, hRoot⟩

end Carries

/-- Equal sub-proof inputs come from equal carry data. Equal aggregation outputs, for one image id and one
instance address, come from carry vectors that agree on everything `AggregatesAgree` lists. -/
theorem publicInputs_bind_attested_data (keccak256 : Bytes → B256) :
    (∀ carry₁ carry₂ : ProofCarryData, carryFitsUint48 carry₁ = true → carryFitsUint48 carry₂ = true →
      CollisionFree keccak256 (subproofPreimages keccak256 carry₁ ++ subproofPreimages keccak256 carry₂) →
      (hashShastaSubproofInput keccak256 carry₁ : Outcome Unit B256) = hashShastaSubproofInput keccak256 carry₂ →
        carry₁.chainId = carry₂.chainId ∧ carry₁.verifier = carry₂.verifier ∧
          carry₁.transitionInput = carry₂.transitionInput) ∧
    (∀ (v₁ v₂ : List ProofCarryData) (first₁ first₂ : ProofCarryData) (commitment₁ commitment₂ : Commitment)
        (subImageId : B256) (instanceAddress : Address),
      buildShastaCommitmentFromProofCarryDataVec v₁ = ok commitment₁ → v₁.head? = some first₁ →
      buildShastaCommitmentFromProofCarryDataVec v₂ = ok commitment₂ → v₂.head? = some first₂ →
      CollisionFree keccak256
        (aggregationPreimages keccak256 subImageId commitment₁ first₁.chainId first₁.verifier instanceAddress ++
          aggregationPreimages keccak256 subImageId commitment₂ first₂.chainId first₂.verifier instanceAddress) →
      shastaZkAggregationPublicInputFromProofCarryDataVec keccak256 subImageId v₁ instanceAddress =
        shastaZkAggregationPublicInputFromProofCarryDataVec keccak256 subImageId v₂ instanceAddress →
        AggregatesAgree v₁ v₂) := by
  constructor
  · intro carry₁ carry₂ hFits₁ hFits₂ hFree h
    have hLe₁ := le_shastaUint48Max_iff.mpr (carryFitsUint48_iff.mp hFits₁).2.1
    have hLe₂ := le_shastaUint48Max_iff.mpr (carryFitsUint48_iff.mp hFits₂).2.1
    rw [hashShastaSubproofInput_of_fits keccak256 hLe₁, hashShastaSubproofInput_of_fits keccak256 hLe₂] at h
    have hEq := subproofInputHash_inj hFree (Outcome.ok.inj h)
    subst hEq
    exact ⟨rfl, rfl, rfl⟩
  · intro v₁ v₂ first₁ first₂ commitment₁ commitment₂ subImageId instanceAddress hBuild₁ hFirst₁ hBuild₂ hFirst₂
      hFree h
    simp only [shastaZkAggregationPublicInputFromProofCarryDataVec, hBuild₁, hBuild₂, hFirst₁, hFirst₂, ofOption,
      ok_bind, pure_eq_ok, Outcome.ok.injEq] at h
    obtain ⟨hCommitment, hChainId, hVerifier⟩ := shastaZkAggregationOutput_inj hFree h
    obtain ⟨hChain₁, _, last₁, hHead₁, hLast₁, rfl⟩ := buildShastaCommitment_eq_ok_iff.mp hBuild₁
    obtain ⟨hChain₂, _, last₂, hHead₂, hLast₂, rfl⟩ := buildShastaCommitment_eq_ok_iff.mp hBuild₂
    cases hFirst₁.symm.trans hHead₁
    cases hFirst₂.symm.trans hHead₂
    exact aggregatesAgree_of_commitmentOf_eq hChain₁ hChain₂ hFirst₁ hFirst₂ hLast₁ hLast₂ hChainId hVerifier
      hCommitment

def sampleCarriesWith (innerHash innerRoot : B256) : List ProofCarryData :=
  [{ chainId := 167000, verifier := 0xaa, transitionInput := {
      proposalId := 1, proposalHash := innerHash, parentBlockHash := 0xa0, actualProver := 0xbb
      transition := { proposer := 0xcc, timestamp := 101 }
      checkpoint := { blockNumber := 10, blockHash := 0xb0, stateRoot := innerRoot } } },
    { chainId := 167000, verifier := 0xaa, transitionInput := {
      proposalId := 2, proposalHash := 0x22, parentProposalHash := innerHash, parentBlockHash := 0xb0
      actualProver := 0xbb
      transition := { proposer := 0xcc, timestamp := 102 }
      checkpoint := { blockNumber := 11, blockHash := 0xd0, stateRoot := 0xe0 } } }]

def sampleCarries : List ProofCarryData := sampleCarriesWith 0x11 0xc0

def lengthHash (bytes : Bytes) : B256 := BitVec.ofNat 256 bytes.length

/-- Two vectors with different inner proposal hashes and one aggregation output. -/
theorem publicInputs_bind_sampleCarries :
    sampleCarriesWith 0x11 0xc0 ≠ sampleCarriesWith 0x33 0xc1 ∧
      AggregatesAgree (sampleCarriesWith 0x11 0xc0) (sampleCarriesWith 0x33 0xc1) :=
  ⟨by decide +kernel, (publicInputs_bind_attested_data lengthHash).2 (sampleCarriesWith 0x11 0xc0)
    (sampleCarriesWith 0x33 0xc1) _ _ _ _ 7 0 rfl rfl rfl rfl (by decide +kernel) (by decide +kernel)⟩

end Raiko2
