import Raiko2.Guest.Aggregate
import Raiko2.Protocol.Binding

/-!
# What the aggregation guest accepts

The acceptance condition of the aggregation guest as one predicate on its input, the absence of aborts, and
the agreement with the host: the public input is the one the host computes, and an input the host builds is
accepted whenever the proofs themselves verify.
-/

namespace Raiko2

open Lib Lib.Outcome List

section Guest

variable {σ : Type} (keccak256 : Bytes → B256) (showAddress : Address → String)

/-- The condition under which the aggregation guest returns a public input. -/
structure AggregationAccepted (input : ShastaZkAggregationGuestInput) (verifyProof : ProofVerifier σ) (state : σ) :
    Prop where
  lengths : input.blockInputs.length = input.proofCarryDataVec.length
  nonzero : 0 < input.proofCarryDataVec.length
  proverZero : input.proverAddress = 0
  chain : CarryChain input.proofCarryDataVec
  verified : AcceptsAll verifyProof 0 input.blockInputs state
  bound : ∀ (i : Nat) blockInput carry, input.blockInputs[i]? = some blockInput →
    input.proofCarryDataVec[i]? = some carry →
      (hashShastaSubproofInput keccak256 carry : Outcome Anyhow B256) = ok blockInput

variable {keccak256} {verifyProof : ProofVerifier σ} {carries : List ProofCarryData} {inputs : List B256}

variable (keccak256) in
theorem CarryChain.hash_eq {ε : Type} (h : CarryChain carries) {carry : ProofCarryData} (hMem : carry ∈ carries) :
    (hashShastaSubproofInput keccak256 carry : Outcome ε B256) = ok (subproofInputHash keccak256 carry) := by
  exact hashShastaSubproofInput_of_fits keccak256 (le_shastaUint48Max_iff.mpr (h.fits carry hMem).2.1)

theorem verifyBlockInputs_cons_eq_ok_iff (hChain : CarryChain carries) {i : Nat} {carry : ProofCarryData}
    (hCarry : carries[i]? = some carry) {blockInput : B256} {rest : List B256} {state : σ} {u : Unit} :
    verifyBlockInputs keccak256 verifyProof carries i (blockInput :: rest) state = ok u ↔
      ∃ state', verifyProof i blockInput state = (.ok (), state') ∧
        blockInput = subproofInputHash keccak256 carry ∧
        verifyBlockInputs keccak256 verifyProof carries (i + 1) rest state' = ok u := by
  have hHash := hChain.hash_eq keccak256 (ε := Anyhow) (mem_of_getElem? hCarry)
  rw [verifyBlockInputs]
  rcases hCall : verifyProof i blockInput state with ⟨_ | _, state'⟩
  · simp
  · simp only [indexVec, hCarry, ok_bind, hHash, ensure_bind_eq_ok_iff]
    constructor
    · rintro ⟨hInput, hRest⟩
      exact ⟨state', rfl, hInput, hRest⟩
    · rintro ⟨_, hState, hInput, hRest⟩
      cases hState
      exact ⟨hInput, hRest⟩

theorem verifyBlockInputs_eq_ok_iff (hChain : CarryChain carries) {i : Nat} {state : σ} {u : Unit}
    (hLength : i + inputs.length = carries.length) :
    verifyBlockInputs keccak256 verifyProof carries i inputs state = ok u ↔
      AcceptsAll verifyProof i inputs state ∧ inputs = (carries.drop i).map (subproofInputHash keccak256) := by
  induction inputs generalizing i state with
  | nil =>
    have hDrop : carries.drop i = [] := drop_eq_nil_of_le (by simp_all)
    simp [verifyBlockInputs, AcceptsAll, hDrop]
  | cons blockInput rest ih =>
    have hi : i < carries.length := by
      simp only [length_cons] at hLength
      omega
    have hTail : i + 1 + rest.length = carries.length := by
      simp only [length_cons] at hLength
      omega
    rw [verifyBlockInputs_cons_eq_ok_iff hChain (getElem?_eq_getElem hi), drop_eq_getElem_cons hi,
      map_cons, cons.injEq]
    constructor
    · rintro ⟨state', hCall, hInput, hRest⟩
      obtain ⟨hAccepts, hInputs⟩ := (ih hTail).mp hRest
      exact ⟨⟨state', hCall, hAccepts⟩, hInput, hInputs⟩
    · rintro ⟨⟨state', hCall, hAccepts⟩, hInput, hInputs⟩
      exact ⟨state', hCall, hInput, (ih hTail).mpr ⟨hAccepts, hInputs⟩⟩

theorem verifyBlockInputs_ne_abort (hChain : CarryChain carries) {i : Nat} {state : σ} {message : String}
    (hLength : i + inputs.length = carries.length) :
    verifyBlockInputs keccak256 verifyProof carries i inputs state ≠ abort message := by
  induction inputs generalizing i state with
  | nil => simp [verifyBlockInputs]
  | cons blockInput rest ih =>
    have hi : i < carries.length := by
      simp only [length_cons] at hLength
      omega
    have hTail : i + 1 + rest.length = carries.length := by
      simp only [length_cons] at hLength
      omega
    have hHash := hChain.hash_eq keccak256 (ε := Anyhow) (getElem_mem hi)
    rw [verifyBlockInputs]
    rcases verifyProof i blockInput state with ⟨_ | _, state'⟩
    · simp
    · simp only [indexVec, getElem?_eq_getElem hi, ok_bind, hHash, ne_eq, bind_eq_abort_iff, ensure_ne_abort,
        false_or, not_exists, not_and]
      intro _ _
      exact ih hTail

variable {showAddress : Address → String} {input : ShastaZkAggregationGuestInput} {imageIdB256 hash : B256} {state : σ}

theorem aggregateShastaZk_eq_ok_iff :
    aggregateShastaZkWithVerifier keccak256 showAddress input imageIdB256 verifyProof state = ok hash ↔
      input.blockInputs.length = input.proofCarryDataVec.length ∧ input.proofCarryDataVec ≠ [] ∧
        input.proverAddress = 0 ∧
        ∃ commitment, buildShastaCommitmentFromProofCarryDataVec input.proofCarryDataVec = ok commitment ∧
          verifyBlockInputs keccak256 verifyProof input.proofCarryDataVec 0 input.blockInputs state = ok () ∧
          ∃ first, input.proofCarryDataVec.head? = some first ∧
            shastaZkAggregationOutput keccak256 imageIdB256 (shastaAggregationOutput keccak256 commitment
              first.chainId first.verifier input.proverAddress) = hash := by
  simp only [aggregateShastaZkWithVerifier, unit_bind_eq_ok_iff, ensure_eq_ok_iff]
  simp only [bind_eq_ok_iff, mapError_eq_ok_iff, pure_eq_ok]
  cases input.proofCarryDataVec <;> simp

theorem verifyBlockInputs_all_iff (hChain : CarryChain carries) (hLength : inputs.length = carries.length) :
    verifyBlockInputs keccak256 verifyProof carries 0 inputs state = ok () ↔
      AcceptsAll verifyProof 0 inputs state ∧
        ∀ (i : Nat) blockInput carry, inputs[i]? = some blockInput → carries[i]? = some carry →
          (hashShastaSubproofInput keccak256 carry : Outcome Anyhow B256) = ok blockInput := by
  rw [verifyBlockInputs_eq_ok_iff hChain (by omega), drop_zero, and_congr_right_iff]
  intro _
  constructor
  · rintro rfl i blockInput carry hInput hCarry
    rw [getElem?_map, hCarry] at hInput
    rw [hChain.hash_eq keccak256 (mem_of_getElem? hCarry)]
    simpa using hInput
  · intro hBound
    refine ext_getElem (by simpa using hLength) fun i hi hj => ?_
    have hCarry : i < carries.length := by omega
    have hHash := hBound i _ _ (getElem?_eq_getElem hi) (getElem?_eq_getElem hCarry)
    rw [hChain.hash_eq keccak256 (getElem_mem hCarry)] at hHash
    simpa using (Outcome.ok.inj hHash).symm

theorem exists_aggregateShastaZk_iff :
    (∃ hash, aggregateShastaZkWithVerifier keccak256 showAddress input imageIdB256 verifyProof state = ok hash) ↔
      AggregationAccepted keccak256 input verifyProof state := by
  simp only [aggregateShastaZk_eq_ok_iff]
  constructor
  · rintro ⟨hash, hLengths, hNonempty, hProver, commitment, hCommitment, hLoop, -⟩
    obtain ⟨hChain, -⟩ := buildShastaCommitment_eq_ok_iff.mp hCommitment
    obtain ⟨hVerified, hBound⟩ := (verifyBlockInputs_all_iff hChain hLengths).mp hLoop
    exact ⟨hLengths, length_pos_iff.mpr hNonempty, hProver, hChain, hVerified, hBound⟩
  · intro h
    obtain ⟨first, last, hFirst, hLast⟩ := exists_first_last h.chain.nonempty
    have hLoop := (verifyBlockInputs_all_iff h.chain h.lengths).mpr ⟨h.verified, h.bound⟩
    exact ⟨_, h.lengths, h.chain.nonempty, h.proverZero, _, buildShastaCommitment_of_chain h.chain hFirst hLast,
      hLoop, first, hFirst, rfl⟩

theorem aggregateShastaZk_ne_abort {message : String} :
    aggregateShastaZkWithVerifier keccak256 showAddress input imageIdB256 verifyProof state ≠ abort message := by
  intro h
  simp only [aggregateShastaZkWithVerifier, bind_eq_abort_iff, ensure_ne_abort, ensure_eq_ok_iff, mapError_eq_ok_iff,
    mapError_eq_abort_iff, false_or, pure_eq_ok] at h
  obtain ⟨_, hLengths, _, hNonempty, _, hProver, hAbort | ⟨commitment, hCommitment, hRest⟩⟩ := h
  · by_cases hChain : CarryChain input.proofCarryDataVec
    · obtain ⟨first, last, hFirst, hLast⟩ := exists_first_last hChain.nonempty
      rw [buildShastaCommitment_of_chain hChain hFirst hLast] at hAbort
      cases hAbort
    · rw [buildShastaCommitment_of_not_chain hChain] at hAbort
      cases hAbort
  · obtain ⟨hChain, -⟩ := buildShastaCommitment_eq_ok_iff.mp hCommitment
    rcases hRest with hLoop | ⟨_, _, hFirst⟩
    · exact verifyBlockInputs_ne_abort hChain (by omega) hLoop
    · cases hCarries : input.proofCarryDataVec with
      | nil => exact hNonempty hCarries
      | cons first rest => simp [hCarries] at hFirst

theorem publicInput_of_aggregateShastaZk
    (h : aggregateShastaZkWithVerifier keccak256 showAddress input imageIdB256 verifyProof state = ok hash) :
    shastaZkAggregationPublicInputFromProofCarryDataVec keccak256 imageIdB256 input.proofCarryDataVec 0 = ok hash := by
  obtain ⟨_, _, hProver, commitment, hCommitment, _, first, hFirst, hHash⟩ := aggregateShastaZk_eq_ok_iff.mp h
  rw [shastaZkAggregationPublicInputFromProofCarryDataVec, hCommitment, hFirst, ← hHash, hProver]
  rfl

end Guest

section Host

variable {J : SerdeJson} {keccak256 : Bytes → B256} {words : String → Except String (List UInt32)}
  {proofs : List (Proof J)} {input : ShastaZkAggregationGuestInput}

theorem length_collectCarries {index : Nat} {carries : List ProofCarryData}
    (h : collectCarries index proofs = ok carries) : carries.length = proofs.length := by
  induction proofs generalizing index carries with
  | nil =>
    cases h
    rfl
  | cons proof rest ih =>
    simp only [collectCarries, bind_eq_ok_iff] at h
    obtain ⟨_, _, carry, _, tail, hTail, hCons⟩ := h
    cases hCons
    simp [ih hTail]

theorem collectBlockInputs_eq {pairs : List (Proof J × ProofCarryData)} {index : Nat} {inputs : List B256}
    (h : collectBlockInputs keccak256 index pairs = ok inputs) :
    inputs = pairs.map (fun pair => subproofInputHash keccak256 pair.2) := by
  induction pairs generalizing index inputs with
  | nil =>
    cases h
    rfl
  | cons pair rest ih =>
    simp only [collectBlockInputs, bind_eq_ok_iff] at h
    obtain ⟨expected, hExpected, _, _, tail, hTail, hCons⟩ := h
    cases hCons
    rw [(hashShastaSubproofInput_eq_ok keccak256 hExpected).2, ih hTail]
    rfl

theorem buildShastaAggregationInput_spec (h : buildShastaAggregationInput keccak256 words proofs = ok input) :
    CarryChain input.proofCarryDataVec ∧ input.proverAddress = 0 ∧
      input.blockInputs = input.proofCarryDataVec.map (subproofInputHash keccak256) := by
  simp only [buildShastaAggregationInput, bind_eq_ok_iff, mapError_eq_ok_iff] at h
  obtain ⟨imageId, _, carries, hCarries, commitment, hCommitment, inputs, hInputs, hInput⟩ := h
  cases hInput
  obtain ⟨hChain, -⟩ := buildShastaCommitment_eq_ok_iff.mp hCommitment
  refine ⟨hChain, rfl, ?_⟩
  have hZip : (proofs.zip carries).map Prod.snd = carries :=
    map_snd_zip (length_collectCarries hCarries).le
  calc inputs = (proofs.zip carries).map (fun pair => subproofInputHash keccak256 pair.2) :=
        collectBlockInputs_eq hInputs
    _ = ((proofs.zip carries).map Prod.snd).map (subproofInputHash keccak256) := by rw [map_map]; rfl
    _ = carries.map (subproofInputHash keccak256) := by rw [hZip]

theorem accepted_of_buildShastaAggregationInput {σ : Type} {verifyProof : ProofVerifier σ} {state : σ}
    (h : buildShastaAggregationInput keccak256 words proofs = ok input)
    (hVerified : AcceptsAll verifyProof 0 input.blockInputs state) :
    AggregationAccepted keccak256 input verifyProof state := by
  obtain ⟨hChain, hProver, hInputs⟩ := buildShastaAggregationInput_spec h
  refine ⟨by simp [hInputs], length_pos_iff.mpr hChain.nonempty, hProver, hChain, hVerified, ?_⟩
  intro i blockInput carry hInput hCarry
  rw [hInputs, getElem?_map, hCarry] at hInput
  rw [hChain.hash_eq keccak256 (mem_of_getElem? hCarry)]
  simpa using hInput

end Host

/-- The aggregation guest accepts exactly the inputs described by `AggregationAccepted`, never aborts, and
returns the public input that the host computes; every input the host builds is accepted under every
verifier that accepts its block inputs. -/
theorem aggregateShastaZk_exact_and_host_agrees (keccak256 : Bytes → B256) (showAddress : Address → String) :
    (∀ (σ : Type) (verifyProof : ProofVerifier σ) (state : σ) (input : ShastaZkAggregationGuestInput)
        (imageIdB256 : B256),
      ((∃ hash, aggregateShastaZkWithVerifier keccak256 showAddress input imageIdB256 verifyProof state = ok hash) ↔
        AggregationAccepted keccak256 input verifyProof state) ∧
      (∀ message, aggregateShastaZkWithVerifier keccak256 showAddress input imageIdB256 verifyProof state ≠
        abort message) ∧
      (∀ hash, aggregateShastaZkWithVerifier keccak256 showAddress input imageIdB256 verifyProof state = ok hash →
        shastaZkAggregationPublicInputFromProofCarryDataVec keccak256 imageIdB256 input.proofCarryDataVec 0 =
          ok hash)) ∧
    (∀ (J : SerdeJson) (words : String → Except String (List UInt32)) (proofs : List (Proof J))
        (input : ShastaZkAggregationGuestInput),
      buildShastaAggregationInput keccak256 words proofs = ok input →
      ∀ (σ : Type) (verifyProof : ProofVerifier σ) (state : σ), AcceptsAll verifyProof 0 input.blockInputs state →
      ∀ imageIdB256, ∃ hash,
        aggregateShastaZkWithVerifier keccak256 showAddress input imageIdB256 verifyProof state = ok hash ∧
          shastaZkAggregationPublicInputFromProofCarryDataVec keccak256 imageIdB256 input.proofCarryDataVec 0 =
            ok hash) := by
  constructor
  · intro σ verifyProof state input imageIdB256
    exact ⟨exists_aggregateShastaZk_iff, fun _ => aggregateShastaZk_ne_abort,
      fun _ => publicInput_of_aggregateShastaZk⟩
  · intro J words proofs input hInput σ verifyProof state hVerified imageIdB256
    obtain ⟨hash, hOk⟩ := exists_aggregateShastaZk_iff.mpr (accepted_of_buildShastaAggregationInput hInput hVerified)
    exact ⟨hash, hOk, publicInput_of_aggregateShastaZk hOk⟩

def carryJson : SerdeJson where
  Value := ProofCarryData
  get _ _ := none
  proofCarryFromValue carry := .ok carry

def sampleProofs : List (Proof carryJson) :=
  sampleCarries.map fun carry => { input := none, uuid := none, extraData := some carry }

def sampleAggregationInput : ShastaZkAggregationGuestInput where
  imageId := replicate 8 0
  blockInputs := [128, 128]
  proofCarryDataVec := sampleCarries
  proverAddress := 0

theorem aggregateShastaZk_accepts_sampleAggregationInput :
    ∃ hash, aggregateShastaZkWithVerifier lengthHash (fun _ => "") sampleAggregationInput 7
        (fun _ _ state => (.ok (), state)) () = ok hash ∧
      shastaZkAggregationPublicInputFromProofCarryDataVec lengthHash 7 sampleCarries 0 = ok hash :=
  (aggregateShastaZk_exact_and_host_agrees lengthHash fun _ => "").2 carryJson (fun _ => .error "") sampleProofs
    sampleAggregationInput (by decide +kernel) Unit _ () ⟨(), rfl, (), rfl, trivial⟩ 7

end Raiko2
