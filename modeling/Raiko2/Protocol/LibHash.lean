import Mathlib.Data.Set.Function
import Raiko2.Protocol.Types

/-!
# Public-input hashing

The hashes of `libhash`: every preimage is a concatenation of 32-byte words. `keccak256` is a parameter.
That it has no collisions is never assumed of the whole function, which maps into 256 bits, but of the
strings that the compared computations hash.
-/

namespace Raiko2

open Lib Lib.Outcome

section Words

def wordBytes (w : B256) : Bytes := beBytes 32 w.toNat

def wordsBytes (values : List B256) : Bytes := values.flatMap wordBytes

theorem wordsBytes_inj {xs ys : List B256} (h : wordsBytes xs = wordsBytes ys) : xs = ys := by
  refine flatMap_fixed_inj (fun _ => length_beBytes 32 _) (by omega) ?_ h
  intro a b hab
  exact BitVec.eq_of_toNat_eq (beBytes_inj a.isLt b.isLt hab)

def u64ToB256 (val : UInt64) : B256 := BitVec.ofNat 256 val.toNat

def addressToB256 (address : Address) : B256 := address.setWidth 256

/-- `U256::from` of a `uint48`. -/
def uint48ToB256 (val : U48) : B256 := val.setWidth 256

variable {ε : Type}

def u48ToB256 (val : UInt64) : Outcome ε B256 :=
  if val ≤ 0xffffffffffff then ok (u64ToB256 val) else abort s!"value {val} does not fit in uint48"

theorem u64ToB256_inj {a b : UInt64} (h : u64ToB256 a = u64ToB256 b) : a = b := by
  have hNat := congrArg BitVec.toNat h
  have ha := a.toNat_lt
  have hb := b.toNat_lt
  simp only [u64ToB256, BitVec.toNat_ofNat] at hNat
  rw [Nat.mod_eq_of_lt (by omega), Nat.mod_eq_of_lt (by omega)] at hNat
  exact UInt64.toNat_inj.mp hNat

theorem addressToB256_inj {a b : Address} (h : addressToB256 a = addressToB256 b) : a = b := by
  simp only [addressToB256] at h
  bv_omega

theorem uint48ToB256_inj {a b : U48} (h : uint48ToB256 a = uint48ToB256 b) : a = b := by
  simp only [uint48ToB256] at h
  bv_omega

theorem u48ToB256_of_fits {val : UInt64} (h : val ≤ 0xffffffffffff) :
    (u48ToB256 val : Outcome ε B256) = ok (u64ToB256 val) := by
  simp [u48ToB256, h]

theorem toU64_u48_fits (val : U48) : toU64 val ≤ 0xffffffffffff := by
  have hVal := val.isLt
  rw [UInt64.le_iff_toNat_le, toNat_toU64_u48]
  have hMax : (0xffffffffffff : UInt64).toNat = 2 ^ 48 - 1 := by decide
  omega

end Words

def verifyProofB256 : B256 := 0x5645524946595f50524f4f460000000000000000000000000000000000000000#256

variable (keccak256 : Bytes → B256)

def hashValuesImpl (values : List B256) : B256 := keccak256 (wordsBytes values)

def hashTwoValues (value0 value1 : B256) : B256 := hashValuesImpl keccak256 [value0, value1]

def hashThreeValues (value0 value1 value2 : B256) : B256 := hashValuesImpl keccak256 [value0, value1, value2]

def hashFourValues (value0 value1 value2 value3 : B256) : B256 :=
  hashValuesImpl keccak256 [value0, value1, value2, value3]

def hashCheckpoint (checkpoint : Checkpoint) : B256 :=
  hashThreeValues keccak256 (uint48ToB256 checkpoint.blockNumber) checkpoint.blockHash checkpoint.stateRoot

/-- The eleven words of a transition input, once the two guarded encoders have returned. -/
def transitionInputWords (ti : TransitionInputData) (timestamp endBlockNumber : B256) : List B256 :=
  [u64ToB256 ti.proposalId, ti.proposalHash, ti.parentProposalHash, ti.parentBlockHash,
    addressToB256 ti.actualProver, addressToB256 ti.transition.proposer, timestamp,
    hashCheckpoint keccak256 ti.checkpoint, endBlockNumber, ti.checkpoint.blockHash, ti.checkpoint.stateRoot]

variable {ε : Type}

def hashShastaTransitionInput (ti : TransitionInputData) : Outcome ε B256 := do
  let timestamp ← u48ToB256 ti.transition.timestamp
  let endBlockNumber ← u48ToB256 (toU64 ti.checkpoint.blockNumber)
  return hashValuesImpl keccak256 (transitionInputWords keccak256 ti timestamp endBlockNumber)

def hashShastaSubproofInput (carry : ProofCarryData) : Outcome ε B256 := do
  let transitionHash ← hashShastaTransitionInput keccak256 carry.transitionInput
  return hashFourValues keccak256 verifyProofB256 (u64ToB256 carry.chainId) (addressToB256 carry.verifier)
    transitionHash

def transitionInputHash (ti : TransitionInputData) : B256 :=
  hashValuesImpl keccak256 (transitionInputWords keccak256 ti (u64ToB256 ti.transition.timestamp)
    (u64ToB256 (toU64 ti.checkpoint.blockNumber)))

def subproofWords (carry : ProofCarryData) : List B256 :=
  [verifyProofB256, u64ToB256 carry.chainId, addressToB256 carry.verifier,
    transitionInputHash keccak256 carry.transitionInput]

def subproofInputHash (carry : ProofCarryData) : B256 := hashValuesImpl keccak256 (subproofWords keccak256 carry)

theorem hashShastaSubproofInput_of_fits {carry : ProofCarryData}
    (h : carry.transitionInput.transition.timestamp ≤ 0xffffffffffff) :
    (hashShastaSubproofInput keccak256 carry : Outcome ε B256) = ok (subproofInputHash keccak256 carry) := by
  have hTimestamp := u48ToB256_of_fits (ε := ε) h
  have hNumber := u48ToB256_of_fits (ε := ε) (toU64_u48_fits carry.transitionInput.checkpoint.blockNumber)
  simp only [hashShastaSubproofInput, hashShastaTransitionInput, hTimestamp, hNumber, ok_bind, pure_eq_ok]
  rfl

theorem hashShastaSubproofInput_eq_ok {carry : ProofCarryData} {hash : B256}
    (h : (hashShastaSubproofInput keccak256 carry : Outcome ε B256) = ok hash) :
    carry.transitionInput.transition.timestamp ≤ 0xffffffffffff ∧ hash = subproofInputHash keccak256 carry := by
  by_cases hFits : carry.transitionInput.transition.timestamp ≤ 0xffffffffffff
  · rw [hashShastaSubproofInput_of_fits keccak256 hFits] at h
    cases h
    exact ⟨hFits, rfl⟩
  · simp [hashShastaSubproofInput, hashShastaTransitionInput, u48ToB256, hFits] at h

def transitionWords (transition : Transition) : List B256 :=
  [addressToB256 transition.proposer, uint48ToB256 transition.timestamp, transition.blockHash]

def commitmentWords (commitment : Commitment) : List B256 :=
  [0x20#256, uint48ToB256 commitment.firstProposalId, commitment.firstProposalParentBlockHash,
    commitment.lastProposalHash, addressToB256 commitment.actualProver, uint48ToB256 commitment.endBlockNumber,
    commitment.endStateRoot, 0xe0#256, BitVec.ofNat 256 commitment.transitions.length] ++
    commitment.transitions.flatMap transitionWords

def hashCommitment (commitment : Commitment) : B256 := hashValuesImpl keccak256 (commitmentWords commitment)

def publicInputWords (proveInputHash : B256) (chainId : UInt64) (verifierAddress sgxInstance : Address) :
    List B256 :=
  [verifyProofB256, u64ToB256 chainId, addressToB256 verifierAddress, proveInputHash, addressToB256 sgxInstance]

def hashPublicInput (proveInputHash : B256) (chainId : UInt64) (verifierAddress sgxInstance : Address) : B256 :=
  hashValuesImpl keccak256 (publicInputWords proveInputHash chainId verifierAddress sgxInstance)

end Raiko2
