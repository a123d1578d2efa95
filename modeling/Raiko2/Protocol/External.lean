import Raiko2.Protocol.LibHash

/-!
# External primitives

Hashing, encodings and transaction accessors that come from `alloy`. They are the fields of one record, which
every function that uses them takes; nothing is assumed of them here. A field of its own says which characters beyond
ASCII are printed as they are.
-/

namespace Raiko2

structure AnchorV4Checkpoint where
  blockNumber : U48 := 0
  blockHash : B256 := 0
  stateRoot : B256 := 0
  deriving DecidableEq, Repr, Inhabited

structure TxFields where
  input : Bytes := []
  isEip1559 : Bool := true
  recipient : Option Address := none
  chainId : Option UInt64 := none
  maxFeePerGas : Nat := 0
  maxPriorityFeePerGas : Option Nat := none
  accessList : Option (List (Address × List B256)) := none
  signatureHash : B256 := 0
  signature : Bytes := []
  deriving DecidableEq, Repr, Inhabited

structure Alloy where
  keccak256 : Bytes → B256
  sha256 : Bytes → B256
  encodeHeader : Header → Bytes
  decodeHeader : Bytes → Except String Header
  encodeProposal : Proposal → Bytes
  txFields : TransactionSigned → TxFields
  recoverSigner : TransactionSigned → Option Address
  decodeTransaction : Bytes → Except String TransactionSigned
  anchorV4Selector : Bytes
  anchorV4Decode : Bytes → Except String AnchorV4Checkpoint
  anchorV4Encode : AnchorV4Checkpoint → Bytes
  debugB256 : B256 → String
  debugAddress : Address → String
  printable : Char → Bool

namespace Alloy

variable (A : Alloy)

/-- `Header::hash_slow`. -/
def hashSlow (header : Header) : B256 := A.keccak256 (A.encodeHeader header)

def hashProposal (proposal : Proposal) : B256 := A.keccak256 (A.encodeProposal proposal)

def commitmentToVersionHash (commitment : Bytes) : B256 := 1#8 ++ (A.sha256 commitment).setWidth 248

end Alloy

end Raiko2
