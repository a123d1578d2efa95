import Raiko2.Guest.Prove
import Raiko2.Input.Packet
import Raiko2.Lib.Text

/-!
# Requests to an SGX instance

The two request handlers of the SGX runtime. A handler first decides which hash it may sign, without touching
any state, and then loads the key and the quote and signs that hash. The two halves are separate definitions,
since requests that run side by side interleave between them.
-/

namespace Raiko2

open Lib Lib.Outcome

/-- The signature scheme, from the `secp256k1` crate. -/
structure Secp256k1 where
  SecretKey : Type
  PublicKey : Type
  Message : Type
  RecoveryId : Type
  RecoverableSignature : Type
  fromSecretKey : SecretKey → PublicKey
  serializeUncompressed : PublicKey → Bytes
  fromDigestSlice : Bytes → Except String Message
  signEcdsaRecoverable : Message → SecretKey → RecoverableSignature
  serializeCompact : RecoverableSignature → RecoveryId × Bytes
  recoveryIdToInt : RecoveryId → Int
  recoveryIdTryFrom : Int → Option RecoveryId
  fromCompact : Bytes → RecoveryId → Except String RecoverableSignature
  recoverEcdsa : Message → RecoverableSignature → Except String PublicKey

structure TeeProvider (S : Secp256k1) where
  loadPrivateKey : Except Anyhow S.SecretKey
  loadQuote : Address → Except Anyhow Bytes

structure RequestFailure where
  status : Nat
  code : String
  message : String
  deriving DecidableEq, Repr

namespace RequestFailure

def invalidRequest (message : String) : RequestFailure := ⟨400, "INVALID_REQUEST", message⟩

def proverError (message : String) : RequestFailure := ⟨500, "PROVER_ERROR", message⟩

end RequestFailure

inductive Raiko2ProofStatus where
  | ok
  | error
  deriving DecidableEq, Repr

structure Raiko2ProofResult where
  proof : Option String
  quote : Option String
  publicKey : Option String
  instanceAddress : Option String
  input : String
  deriving DecidableEq, Repr

structure Raiko2ProofError where
  code : String
  message : String
  deriving DecidableEq, Repr

structure Raiko2ProofResponse where
  schema : String
  status : Raiko2ProofStatus
  result : Option Raiko2ProofResult
  error : Option Raiko2ProofError
  deriving DecidableEq, Repr

def Raiko2ProofResponse.success (result : Raiko2ProofResult) : Raiko2ProofResponse where
  schema := raiko2ProofResponseSchema
  status := .ok
  result := some result
  error := none

/-- `to_string` of an `anyhow` error, which shows the outermost message only. -/
def Anyhow.display (err : Anyhow) : String := err.head?.getD ""

section Protocol

variable (A : Alloy) (S : Secp256k1)

def publicKeyToAddress (publicKey : S.PublicKey) : Address :=
  (A.keccak256 ((S.serializeUncompressed publicKey).drop 1)).setWidth 160

structure SignerIdentity where
  instanceAddress : Address
  deriving DecidableEq, Repr

def loadSignerIdentity (provider : TeeProvider S) : Outcome Anyhow SignerIdentity := do
  let secretKey ← withContext "load SGX private key" (ofExcept id provider.loadPrivateKey)
  return ⟨publicKeyToAddress A S (S.fromSecretKey secretKey)⟩

def signHash (secretKey : S.SecretKey) (hash : B256) : Outcome Anyhow Bytes := do
  let message ← ofExcept (fun err => ["decode input hash", err]) (S.fromDigestSlice (wordBytes hash))
  let (recoveryId, data) := S.serializeCompact (S.signEcdsaRecoverable message secretKey)
  let v := S.recoveryIdToInt recoveryId + 27
  ensure (0 ≤ v ∧ v ≤ 255)
    ["encode recovery id", "out of range integral type conversion attempted"]
  return data ++ [UInt8.ofNat v.toNat]

def addressBytes (address : Address) : Bytes := beBytes 20 address.toNat

def buildShastaProofBytes (instanceId : UInt32) (instanceAddress : Address) (signature : Bytes) : Bytes :=
  beBytes 4 instanceId.toNat ++ addressBytes instanceAddress ++ signature

/-- `{:#x}` of a hash or an address is the same text of its bytes. -/
def prefixedHex (bytes : Bytes) : String := "0x" ++ hexEncode bytes

def proofResultFromInputHash (provider : TeeProvider S) (instanceId : UInt32) (inputHash : B256) :
    Outcome Anyhow Raiko2ProofResult := do
  let secretKey ← withContext "load SGX private key" (ofExcept id provider.loadPrivateKey)
  let publicKey := S.fromSecretKey secretKey
  let instanceAddress := publicKeyToAddress A S publicKey
  let quote ← withContext "load SGX quote" (ofExcept id (provider.loadQuote instanceAddress))
  let signature ← signHash S secretKey inputHash
  return {
    proof := some (prefixedHex (buildShastaProofBytes instanceId instanceAddress signature))
    quote := if quote.isEmpty then none else some (prefixedHex quote)
    publicKey := some (prefixedHex (S.serializeUncompressed publicKey))
    instanceAddress := some (prefixedHex (addressBytes instanceAddress))
    input := prefixedHex (wordBytes inputHash) }

def respondWithProof (provider : TeeProvider S) (instanceId : UInt32) (inputHash : B256) :
    Outcome RequestFailure Raiko2ProofResponse := do
  let result ← (proofResultFromInputHash A S provider instanceId inputHash).mapError
    fun err => .proverError err.display
  return .success result

end Protocol

section Proposal

variable (A : Alloy) (R : Reth) (T : TaikoProtocol) (activations : ForkActivations) (S : Secp256k1)

def validateSchema (request : Raiko2ShastaRequest) : Outcome RequestFailure Unit :=
  ensure (request.schema = raiko2ShastaRequestSchema)
    (.invalidRequest ("unsupported schema " ++ quoted A.printable '\x22' request.schema.toList))

def validateProposalRequest (guestInput : GuestInput) : Outcome RequestFailure Unit := do
  let carry := guestInput.proofCarryData
  let firstWitness ← ofOption (.invalidRequest "GuestInput must include at least one witness")
    guestInput.witnesses.head?
  let witnessChainId := firstWitness.chainSpec.chainId
  ensure (witnessChainId = carry.chainId) (.invalidRequest
    s!"GuestInput chain_id mismatch: proof_carry_data={carry.chainId} witness={witnessChainId}")

/-- The first half of `prove_request`: the hash that the request may have signed. -/
def proposalInputHash (request : Raiko2ShastaRequest) : Outcome RequestFailure B256 := do
  validateSchema A request
  let guestInput := request.payload.guestInput.toGuestInput
  validateProposalRequest guestInput
  let inputHash ← (proveShastaProposal A R T activations guestInput).mapError fun err =>
    .invalidRequest s!"invalid raiko2-sgx GuestInput: {err.display}"
  let expectedInput ← hashShastaSubproofInput A.keccak256 guestInput.proofCarryData
  ensure (inputHash = expectedInput) (.invalidRequest
    (s!"GuestInput output hash mismatch: got {prefixedHex (wordBytes inputHash)} " ++
      s!"expected {prefixedHex (wordBytes expectedInput)}"))
  return inputHash

def proveRequest (provider : TeeProvider S) (instanceId : UInt32) (request : Raiko2ShastaRequest) :
    Outcome RequestFailure Raiko2ProofResponse := do
  let inputHash ← proposalInputHash A R T activations request
  respondWithProof A S provider instanceId inputHash

end Proposal

section Aggregation

variable (A : Alloy) (S : Secp256k1)

def shastaSgxProofLen : Nat := 89

def sliceIndex {ε α : Type} (xs : List α) (start stop : Nat) : Outcome ε (List α) :=
  expect "range end index out of range for slice" (sliceGet xs start stop)

def parseHash (value : String) : Outcome String B256 := do
  let decoded ← ofExcept id (hexDecode A.printable (withoutMarkers (trim value)))
  ensure (decoded.length = 32) s!"expected 32 bytes, got {decoded.length}"
  return BitVec.ofNat 256 (ofBeBytes decoded)

def checkProofLength (index : Nat) (proofBytes : Bytes) : Outcome RequestFailure Unit :=
  ensure (proofBytes.length = shastaSgxProofLen) (.invalidRequest
    s!"aggregate proof {index} length mismatch: got {proofBytes.length} expected {shastaSgxProofLen}")

def recoverChildKey (index : Nat) (proofBytes : Bytes) (inputHash : B256) : Outcome RequestFailure S.PublicKey := do
  let v ← expect "index out of bounds" proofBytes[88]?
  let recoveryId ← ofOption
    (.invalidRequest s!"aggregate proof {index} has invalid SGX signature recovery id {v}")
    (S.recoveryIdTryFrom ((v.toNat : Int) - 27))
  let compact ← sliceIndex proofBytes 24 88
  let signature ← ofExcept
    (fun err => .invalidRequest s!"aggregate proof {index} has invalid SGX signature: {err}")
    (S.fromCompact compact recoveryId)
  let message ← ofExcept (fun err => .invalidRequest s!"aggregate proof {index} has invalid input hash: {err}")
    (S.fromDigestSlice (wordBytes inputHash))
  ofExcept (fun err => .invalidRequest s!"aggregate proof {index} signature recovery failed: {err}")
    (S.recoverEcdsa message signature)

def validateSgxChildProof (index : Nat) (proofBytes : Bytes) (inputHash : B256) (expectedInstanceId : UInt32)
    (expectedInstanceAddress : Address) : Outcome RequestFailure Unit := do
  checkProofLength index proofBytes
  let idBytes ← sliceIndex proofBytes 0 4
  let instanceId := UInt32.ofNat (ofBeBytes idBytes)
  ensure (instanceId = expectedInstanceId) (.invalidRequest
    s!"aggregate proof {index} SGX instance id mismatch: got {instanceId} expected {expectedInstanceId}")
  let addressSlice ← sliceIndex proofBytes 4 24
  let instanceAddress : Address := BitVec.ofNat 160 (ofBeBytes addressSlice)
  ensure (instanceAddress = expectedInstanceAddress) (.invalidRequest
    (s!"aggregate proof {index} SGX instance address mismatch: got {prefixedHex (addressBytes instanceAddress)} " ++
      s!"expected {prefixedHex (addressBytes expectedInstanceAddress)}"))
  let recoveredKey ← recoverChildKey S index proofBytes inputHash
  let recoveredAddress := publicKeyToAddress A S recoveredKey
  ensure (recoveredAddress = instanceAddress) (.invalidRequest
    (s!"aggregate proof {index} SGX signature signer mismatch: recovered {prefixedHex (addressBytes recoveredAddress)} " ++
      s!"expected {prefixedHex (addressBytes instanceAddress)}"))

def decodeProofBytes (index : Nat) (item : Raiko2AggregateProof) : Outcome RequestFailure Bytes :=
  ofExcept (fun err => .invalidRequest s!"decode aggregate proof {index}: {err}")
    (hexDecode A.printable (withoutMarkers item.proof))

def validateAggregateItem (expectedInstanceId : UInt32) (expectedInstanceAddress : Address) (index : Nat)
    (item : Raiko2AggregateProof) : Outcome RequestFailure Unit := do
  ensure (trim item.input ≠ "") (.invalidRequest s!"aggregate proof {index} is missing input")
  ensure (trim item.proof ≠ "") (.invalidRequest s!"aggregate proof {index} is missing proof")
  let proofBytes ← decodeProofBytes A index item
  checkProofLength index proofBytes
  let inputHash ← (parseHash A item.input).mapError fun err =>
    .invalidRequest s!"decode aggregate proof {index} input: {err}"
  let expectedInput ← hashShastaSubproofInput A.keccak256 item.proofCarryData
  ensure (inputHash = expectedInput) (.invalidRequest
    (s!"aggregate proof {index} input mismatch: got {prefixedHex (wordBytes inputHash)} " ++
      s!"expected {prefixedHex (wordBytes expectedInput)}"))
  validateSgxChildProof A S index proofBytes expectedInput expectedInstanceId expectedInstanceAddress

def validateAggregateItems (expectedInstanceId : UInt32) (expectedInstanceAddress : Address) :
    Nat → List Raiko2AggregateProof → Outcome RequestFailure Unit
  | _, [] => ok ()
  | index, item :: rest => do
    validateAggregateItem A S expectedInstanceId expectedInstanceAddress index item
    validateAggregateItems expectedInstanceId expectedInstanceAddress (index + 1) rest

structure ValidatedAggregateRequest where
  carries : List ProofCarryData
  commitment : Commitment

def validateAggregateRequest (request : Raiko2ShastaAggregateRequest) (expectedInstanceId : UInt32)
    (expectedInstanceAddress : Address) : Outcome RequestFailure ValidatedAggregateRequest := do
  ensure (request.schema = raiko2ShastaAggregateRequestSchema)
    (.invalidRequest ("unsupported schema " ++ quoted A.printable '\x22' request.schema.toList))
  ensure (request.payload.proofs ≠ []) (.invalidRequest "request must include at least one aggregate proof")
  let carries := request.payload.proofs.map (·.proofCarryData)
  let commitment ← (buildShastaCommitmentFromProofCarryDataVec carries).mapError fun _ =>
    .invalidRequest "invalid shasta proof carry data"
  validateAggregateItems A S expectedInstanceId expectedInstanceAddress 0 request.payload.proofs
  return ⟨carries, commitment⟩

/-- The first half of `aggregate_request`. -/
def aggregateInputHash (provider : TeeProvider S) (instanceId : UInt32) (request : Raiko2ShastaAggregateRequest) :
    Outcome RequestFailure B256 := do
  let identity ← (loadSignerIdentity A S provider).mapError fun err => .proverError err.display
  let validated ← validateAggregateRequest A S request instanceId identity.instanceAddress
  let first ← ofOption (.invalidRequest "request must include at least one aggregate proof") validated.carries.head?
  return shastaAggregationOutput A.keccak256 validated.commitment first.chainId first.verifier
    identity.instanceAddress

def aggregateRequest (provider : TeeProvider S) (instanceId : UInt32) (request : Raiko2ShastaAggregateRequest) :
    Outcome RequestFailure Raiko2ProofResponse := do
  let inputHash ← aggregateInputHash A S provider instanceId request
  respondWithProof A S provider instanceId inputHash

end Aggregation

end Raiko2
