import Raiko2.Protocol.Instance

/-!
# Aggregation of sub-proofs

The guest side of aggregation and the host function that prepares its input. The verifier callback of the
guest is an arbitrary state transformer, since the source takes an `FnMut`. JSON values, the reading of an
image id from a uuid and the display of an address belong to other crates and are parameters.
-/

namespace Raiko2

open Lib Lib.Outcome

structure ShastaZkAggregationGuestInput where
  imageId : List UInt32
  blockInputs : List B256
  proofCarryDataVec : List ProofCarryData
  proverAddress : Address
  deriving DecidableEq

abbrev ProofVerifier (σ : Type) := Nat → B256 → σ → Except Anyhow Unit × σ

section Guest

variable {σ : Type} (keccak256 : Bytes → B256) (showAddress : Address → String)

def indexVec {ε α : Type} (xs : List α) (i : Nat) : Outcome ε α :=
  match xs[i]? with
  | some x => ok x
  | none => abort "index out of bounds"

def verifyBlockInputs (verifyProof : ProofVerifier σ) (carries : List ProofCarryData) :
    Nat → List B256 → σ → Outcome Anyhow Unit
  | _, [], _ => ok ()
  | i, blockInput :: rest, state =>
    match verifyProof i blockInput state with
    | (.error e, _) => error (s!"proof verification failed at index {i}" :: e)
    | (.ok (), state') => do
      let carry ← indexVec carries i
      let expected ← hashShastaSubproofInput keccak256 carry
      ensure (blockInput = expected) [s!"block_input mismatch at index {i}"]
      verifyBlockInputs verifyProof carries (i + 1) rest state'

def aggregateShastaZkWithVerifier (input : ShastaZkAggregationGuestInput) (imageIdB256 : B256)
    (verifyProof : ProofVerifier σ) (state : σ) : Outcome Anyhow B256 := do
  let inputs := input.blockInputs.length
  let carries := input.proofCarryDataVec.length
  ensure (inputs = carries) [s!"block_inputs/proof_carry_data_vec length mismatch: {inputs} vs {carries}"]
  ensure (input.proofCarryDataVec ≠ []) ["proof_carry_data_vec must not be empty"]
  let prover := showAddress input.proverAddress
  ensure (input.proverAddress = 0) [s!"ZK aggregation prover_address must be address(0), got {prover}"]
  let commitment ← (buildShastaCommitmentFromProofCarryDataVec input.proofCarryDataVec).mapError
    (fun _ => ["invalid proof_carry_data_vec"])
  verifyBlockInputs keccak256 verifyProof input.proofCarryDataVec 0 input.blockInputs state
  let first ← match input.proofCarryDataVec.head? with
    | some first => ok first
    | none => abort "checked"
  let aggregationHash :=
    shastaAggregationOutput keccak256 commitment first.chainId first.verifier input.proverAddress
  return shastaZkAggregationOutput keccak256 imageIdB256 aggregationHash

def AcceptsAll (verifyProof : ProofVerifier σ) : Nat → List B256 → σ → Prop
  | _, [], _ => True
  | i, blockInput :: rest, state =>
    ∃ state', verifyProof i blockInput state = (.ok (), state') ∧ AcceptsAll verifyProof (i + 1) rest state'

end Guest

section Host

/-- The part of `serde_json` that the host uses: object lookup and the derived decoder of carry data. -/
structure SerdeJson where
  Value : Type
  get : Value → String → Option Value
  proofCarryFromValue : Value → Except String ProofCarryData

variable (J : SerdeJson) (keccak256 : Bytes → B256)
  (shastaImageIdWordsFromUuid : String → Except String (List UInt32))

structure Proof where
  input : Option B256
  uuid : Option String
  extraData : Option J.Value

variable {J} in
def decodeProofCarryData (value : J.Value) : Outcome RaikoError ProofCarryData :=
  let fromValue (v : J.Value) : Outcome RaikoError ProofCarryData :=
    match J.proofCarryFromValue v with
    | .ok carry => ok carry
    | .error message => error (.serializationWithFormat "json" message)
  match (J.get value "shasta").bind (J.get · "proof_carry_data") with
  | some carry => fromValue carry
  | none =>
    match J.get value "proof_carry_data" with
    | some carry => fromValue carry
    | none => fromValue value

variable {J} in
def proofCarryFromProof (proof : Proof J) : Outcome RaikoError (Option ProofCarryData) :=
  match proof.extraData with
  | some value => do
    let carry ← decodeProofCarryData value
    return some carry
  | none => ok none

variable {J} in
def collectImageId : Nat → Option (List UInt32) → List (Proof J) → Outcome RaikoError (Option (List UInt32))
  | _, imageId, [] => ok imageId
  | index, imageId, proof :: rest =>
    match proof.uuid with
    | none => collectImageId (index + 1) imageId rest
    | some uuid =>
      match shastaImageIdWordsFromUuid uuid with
      | .error err => error (.invalidRequestConfig s!"proof {index} invalid uuid/image id: {err}")
      | .ok words =>
        match imageId with
        | some existing =>
          if existing ≠ words then error (.invalidRequestConfig "proofs do not share the same image id")
          else collectImageId (index + 1) imageId rest
        | none => collectImageId (index + 1) (some words) rest

variable {J} in
def shastaAggregationImageIdWords (proofs : List (Proof J)) : Outcome RaikoError (List UInt32) := do
  let imageId ← collectImageId shastaImageIdWordsFromUuid 0 none proofs
  return imageId.getD (List.replicate 8 0)

variable {J} in
def collectCarries : Nat → List (Proof J) → Outcome RaikoError (List ProofCarryData)
  | _, [] => ok []
  | index, proof :: rest => do
    let carry ← (proofCarryFromProof proof).mapError fun err =>
      .invalidRequestConfig (s!"proof {index} invalid shasta carry data: " ++ err.display)
    let carry ← ofOption (.invalidRequestConfig s!"proof {index} missing shasta carry data") carry
    let carries ← collectCarries (index + 1) rest
    return carry :: carries

variable {J} in
def collectBlockInputs : Nat → List (Proof J × ProofCarryData) → Outcome RaikoError (List B256)
  | _, [] => ok []
  | index, (proof, carry) :: rest => do
    let expectedInput ← hashShastaSubproofInput keccak256 carry
    ensure (proof.input.all (· == expectedInput))
      (.invalidRequestConfig s!"proof {index} input hash does not match shasta carry data")
    let blockInputs ← collectBlockInputs (index + 1) rest
    return expectedInput :: blockInputs

variable {J} in
def buildShastaAggregationInput (proofs : List (Proof J)) : Outcome RaikoError ShastaZkAggregationGuestInput := do
  let imageId ← shastaAggregationImageIdWords shastaImageIdWordsFromUuid proofs
  let proofCarryDataVec ← collectCarries 0 proofs
  let _ ← (buildShastaCommitmentFromProofCarryDataVec proofCarryDataVec).mapError
    (fun _ => .invalidRequestConfig "invalid shasta proof carry data")
  let blockInputs ← collectBlockInputs keccak256 0 (proofs.zip proofCarryDataVec)
  return {
    imageId := imageId
    blockInputs := blockInputs
    proofCarryDataVec := proofCarryDataVec
    proverAddress := 0 }

end Host

end Raiko2
