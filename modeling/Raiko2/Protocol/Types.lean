import Raiko2.Lib.Outcome
import Raiko2.Lib.Word
import Raiko2.Lib.BigEndian

/-!
# Protocol data

The records shared by the guest, the SGX runtime and the host: headers and transactions as the accessors of
`alloy` return them, the Solidity structs of the Shasta inbox, and the carry data of a sub-proof. Solidity
integers keep their width; `u64` is `UInt64` with wrapping addition; `usize` is `Nat`.
-/

namespace Raiko2

abbrev Bytes := List UInt8
abbrev B256 := BitVec 256
abbrev U256 := BitVec 256
abbrev Address := BitVec 160
abbrev U48 := BitVec 48
abbrev U24 := BitVec 24

/-- `Uint::to::<u64>` for the widths of the protocol, none of which exceeds 64 bits. -/
def toU64 {w : Nat} (x : BitVec w) : UInt64 := UInt64.ofNat x.toNat

theorem toNat_toU64 {w : Nat} (hw : w ≤ 64) (x : BitVec w) : (toU64 x).toNat = x.toNat := by
  have hLt : x.toNat < 2 ^ 64 := lt_of_lt_of_le x.isLt (Nat.pow_le_pow_right (by omega) hw)
  simpa [toU64] using Nat.mod_eq_of_lt hLt

@[simp] theorem toNat_toU64_u48 (x : U48) : (toU64 x).toNat = x.toNat := toNat_toU64 (by omega) x

theorem toU64_u48_inj {x y : U48} (h : toU64 x = toU64 y) : x = y := by
  apply BitVec.eq_of_toNat_eq
  rw [← toNat_toU64_u48 x, ← toNat_toU64_u48 y, h]

/-- An `anyhow` error: its chain of messages, the outermost context first. -/
abbrev Anyhow := List String

def withContext {α : Type} (message : String) (x : Lib.Outcome Anyhow α) : Lib.Outcome Anyhow α :=
  x.mapError (message :: ·)

@[simp] theorem withContext_eq_ok_iff {α : Type} {message : String} {x : Lib.Outcome Anyhow α} {a : α} :
    withContext message x = .ok a ↔ x = .ok a := Lib.Outcome.mapError_eq_ok_iff

@[simp] theorem withContext_eq_abort_iff {α : Type} {message reason : String} {x : Lib.Outcome Anyhow α} :
    withContext message x = .abort reason ↔ x = .abort reason := Lib.Outcome.mapError_eq_abort_iff

/-- The variants of the host error type that the modelled functions return. -/
inductive RaikoError where
  | invalidBlobOption (message : String)
  | invalidRequestConfig (message : String)
  | serializationWithFormat (format message : String)
  | preflight (message : String)
  | provider (message : String)
  deriving DecidableEq, Repr

def RaikoError.display : RaikoError → String
  | invalidBlobOption message => s!"Invalid blob option: {message}"
  | invalidRequestConfig message => s!"Invalid proof request: {message}"
  | serializationWithFormat format message => s!"Serialization error ({format}): {message}"
  | preflight message => s!"There was an error running the preflight: {message}"
  | provider message => s!"Provider error: {message}"

structure Header where
  parentHash : B256 := 0
  ommersHash : B256 := 0
  beneficiary : Address := 0
  stateRoot : B256 := 0
  transactionsRoot : B256 := 0
  receiptsRoot : B256 := 0
  logsBloom : Bytes := []
  difficulty : U256 := 0
  number : UInt64 := 0
  gasLimit : UInt64 := 0
  gasUsed : UInt64 := 0
  timestamp : UInt64 := 0
  extraData : Bytes := []
  mixHash : B256 := 0
  nonce : UInt64 := 0
  baseFeePerGas : Option UInt64 := none
  withdrawalsRoot : Option B256 := none
  blobGasUsed : Option UInt64 := none
  excessBlobGas : Option UInt64 := none
  parentBeaconBlockRoot : Option B256 := none
  requestsHash : Option B256 := none
  deriving DecidableEq, Repr, Inhabited

/-- A signed transaction, as the canonical RLP bytes it is compared by. Its accessors belong to the external
transaction type. -/
structure TransactionSigned where
  rlp : Bytes := []
  deriving DecidableEq, Repr, Inhabited

structure Withdrawal where
  index : UInt64
  validatorIndex : UInt64
  address : Address
  amount : UInt64
  deriving DecidableEq, Repr, Inhabited

structure BlockBody where
  transactions : List TransactionSigned := []
  ommers : List Header := []
  withdrawals : Option (List Withdrawal) := none
  deriving DecidableEq, Repr, Inhabited

structure Block where
  header : Header := {}
  body : BlockBody := {}
  deriving DecidableEq, Repr, Inhabited

structure BlobSlice where
  blobHashes : List B256 := []
  offset : U24 := 0
  timestamp : U48 := 0
  deriving DecidableEq, Repr, Inhabited

structure DerivationSource where
  isForcedInclusion : Bool := false
  blobSlice : BlobSlice := {}
  deriving DecidableEq, Repr, Inhabited

structure Proposal where
  id : U48 := 0
  timestamp : U48 := 0
  endOfSubmissionWindowTimestamp : U48 := 0
  proposer : Address := 0
  parentProposalHash : B256 := 0
  originBlockNumber : U48 := 0
  originBlockHash : B256 := 0
  basefeeSharingPctg : UInt8 := 0
  sources : List DerivationSource := []
  deriving DecidableEq, Repr, Inhabited

structure Checkpoint where
  blockNumber : U48 := 0
  blockHash : B256 := 0
  stateRoot : B256 := 0
  deriving DecidableEq, Repr, Inhabited

structure Transition where
  proposer : Address
  timestamp : U48
  blockHash : B256
  deriving DecidableEq, Repr, Inhabited

structure Commitment where
  firstProposalId : U48
  firstProposalParentBlockHash : B256
  lastProposalHash : B256
  actualProver : Address
  endBlockNumber : U48
  endStateRoot : B256
  transitions : List Transition
  deriving DecidableEq, Repr, Inhabited

structure ShastaTransitionInput where
  proposer : Address := 0
  timestamp : UInt64 := 0
  deriving DecidableEq, Repr, Inhabited

structure TransitionInputData where
  proposalId : UInt64 := 0
  proposalHash : B256 := 0
  parentProposalHash : B256 := 0
  parentBlockHash : B256 := 0
  actualProver : Address := 0
  transition : ShastaTransitionInput := {}
  checkpoint : Checkpoint := {}
  deriving DecidableEq, Repr, Inhabited

structure ProofCarryData where
  chainId : UInt64 := 0
  verifier : Address := 0
  transitionInput : TransitionInputData := {}
  deriving DecidableEq, Repr, Inhabited

structure InputDataSource where
  txDataFromCalldata : Bytes := []
  txDataFromBlob : List Bytes := []
  blobCommitments : List Bytes := []
  blobProofs : List Bytes := []
  isForcedInclusion : Bool := false
  deriving DecidableEq, Repr, Inhabited

end Raiko2
