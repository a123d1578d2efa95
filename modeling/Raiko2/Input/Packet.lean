import Raiko2.Input.Compact

/-!
# Requests to the remote prover

The packets that the host sends to a remote prover and the receiver turns into guest inputs. The conversion on
arrival copies every field; nothing is sorted or checked by it.
-/

namespace Raiko2

open Lib Lib.Outcome

def raiko2ShastaRequestSchema : String := "raiko2-shasta-request-v1"

def raiko2ShastaAggregateRequestSchema : String := "raiko2-shasta-aggregate-request-v1"

def raiko2ProofResponseSchema : String := "raiko2-proof-v1"

structure Raiko2ReplayBlock where
  block : Block := {}
  chainSpec : ChainSpec := {}
  witness : ExecutionWitness := {}
  deriving DecidableEq, Inhabited

def Raiko2ReplayBlock.fromStatelessInput (value : StatelessInput) : Raiko2ReplayBlock where
  block := value.block
  chainSpec := value.chainSpec
  witness := value.witness

def Raiko2ReplayBlock.toStatelessInput (value : Raiko2ReplayBlock) : StatelessInput where
  block := value.block
  chainSpec := value.chainSpec
  witness := value.witness

structure Raiko2ShastaGuestInput where
  witnesses : List Raiko2ReplayBlock := []
  taiko : TaikoManifest := {}
  proposalAncestorHeaders : List WitnessHeader := []
  proposalStateNodes : List WitnessStateNode := []
  proofCarryData : ProofCarryData := {}
  deriving DecidableEq, Inhabited

def Raiko2ShastaGuestInput.toGuestInput (value : Raiko2ShastaGuestInput) : GuestInput where
  witnesses := value.witnesses.map (·.toStatelessInput)
  taiko := value.taiko
  proposalAncestorHeaders := value.proposalAncestorHeaders
  proposalStateNodes := value.proposalStateNodes
  proofCarryData := value.proofCarryData

structure Raiko2ShastaPayload where
  guestInput : Raiko2ShastaGuestInput := {}
  deriving DecidableEq, Inhabited

structure Raiko2ShastaRequest where
  schema : String := ""
  payload : Raiko2ShastaPayload := {}
  deriving DecidableEq, Inhabited

structure Raiko2AggregateProof where
  input : String := ""
  proof : String := ""
  proofCarryData : ProofCarryData := {}
  deriving DecidableEq, Inhabited

structure Raiko2ShastaAggregatePayload where
  proofs : List Raiko2AggregateProof := []
  deriving DecidableEq, Inhabited

structure Raiko2ShastaAggregateRequest where
  schema : String := ""
  payload : Raiko2ShastaAggregatePayload := {}
  deriving DecidableEq, Inhabited

section Build

variable (A : Alloy)

def shastaPacketChainId (input : GuestInput) : Outcome RaikoError UInt64 := do
  ensure (input.witnesses ≠ [])
    (.invalidRequestConfig "cannot build remote prover shasta packet without witnesses")
  ensure (input.proofCarryData.chainId ≠ 0) (.invalidRequestConfig
    "cannot build remote prover shasta packet with unset proof_carry_data.chain_id")
  return input.proofCarryData.chainId

def replayHeaders (witness : ExecutionWitness) (ancestorHeaders : List WitnessHeader) : List WitnessHeader :=
  if ancestorHeaders.isEmpty then witness.headers else ancestorHeaders

def expandState (witness : ExecutionWitness) (sharedStateNodes : List WitnessStateNode) :
    Outcome RaikoError ExecutionWitness :=
  if witness.state.isEmpty && !witness.stateIndices.isEmpty then do
    let len := sharedStateNodes.length
    let state ← witness.stateIndices.mapM fun index => ofOption
      (.invalidRequestConfig s!"remote prover shared witness state index {index} out of bounds for pool length {len}")
      sharedStateNodes[index.toNat]?
    return { witness with state := state, stateIndices := [] }
  else ok witness

def buildReplayBlock (statelessInput : StatelessInput) (ancestorHeaders : List WitnessHeader)
    (sharedStateNodes : List WitnessStateNode) : Outcome RaikoError Raiko2ReplayBlock := do
  let headers := replayHeaders statelessInput.witness ancestorHeaders
  ensure (headers.all (·.fullHeader.isSome) = true)
    (.invalidRequestConfig "remote prover replay witness requires full ancestor headers")
  let witness ← expandState { statelessInput.witness with headers := headers } sharedStateNodes
  ensure (witness.headers ≠ [])
    (.invalidRequestConfig "remote prover replay witness is missing the parent header")
  return .fromStatelessInput { statelessInput with witness := witness }

def buildReplayBlocks (sharedStateNodes : List WitnessStateNode) :
    List WitnessHeader → List StatelessInput → Outcome RaikoError (List Raiko2ReplayBlock)
  | _, [] => ok []
  | ancestorHeaders, statelessInput :: rest => do
    let header := statelessInput.block.header
    let block ← buildReplayBlock statelessInput ancestorHeaders sharedStateNodes
    let blocks ← buildReplayBlocks sharedStateNodes
      (rollProposalAncestorHeadersInPlace ancestorHeaders header (A.hashSlow header)) rest
    return block :: blocks

def buildShastaPacket (input : GuestInput) : Outcome RaikoError Raiko2ShastaRequest := do
  let _ ← shastaPacketChainId input
  let proposalAncestorHeaders := input.initialProposalAncestorHeaders
  let witnesses ← buildReplayBlocks A input.proposalStateNodes proposalAncestorHeaders input.witnesses
  return {
    schema := raiko2ShastaRequestSchema
    payload := ⟨{
      witnesses := witnesses
      taiko := input.taiko
      proposalAncestorHeaders := proposalAncestorHeaders
      proposalStateNodes := input.proposalStateNodes
      proofCarryData := input.proofCarryData }⟩ }

end Build

section Json

/-- What `serde` sees of a request. The fields of its guest input are those of a guest input. -/
structure Raiko2ShastaRequestWire where
  schema : String
  guestInput : GuestInputWire
  deriving DecidableEq

def Raiko2ShastaRequest.serialize (request : Raiko2ShastaRequest) : Raiko2ShastaRequestWire where
  schema := request.schema
  guestInput := request.payload.guestInput.toGuestInput.wire .human

/-- Reading a request from JSON: every witness is canonicalized, the pool and the window are not. -/
def Raiko2ShastaRequest.deserialize (A : Alloy) (wire : Raiko2ShastaRequestWire) :
    Outcome String Raiko2ShastaRequest := do
  let guestInput ← GuestInput.readFields A .human wire.guestInput
  return {
    schema := wire.schema
    payload := ⟨{
      witnesses := guestInput.witnesses.map .fromStatelessInput
      taiko := guestInput.taiko
      proposalAncestorHeaders := guestInput.proposalAncestorHeaders
      proposalStateNodes := guestInput.proposalStateNodes
      proofCarryData := guestInput.proofCarryData }⟩ }

end Json

end Raiko2
