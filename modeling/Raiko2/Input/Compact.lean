import Raiko2.Input.Wire
import Raiko2.Lib.Pool

/-!
# Compaction

The shared pool of state nodes and the shared header window of a guest input. When some witness already holds
positions in the pool, the pool keeps its order and grows at the end; otherwise it is sorted. Writing an input
out compacts it on the way.
-/

namespace Raiko2

open Lib Lib.Outcome

variable {ε : Type}

/-- `u32::try_from(index).expect(..)`. -/
def poolIndex (index : Nat) : Outcome ε UInt32 :=
  if index < 2 ^ 32 then ok (UInt32.ofNat index) else abort "proposal state pool index exceeds u32"

/-- The loop that maps every hash to the first position at which the pool holds it. -/
def indexByHashLoop : Nat → List (B256 × UInt32) → List WitnessStateNode → Outcome ε (List (B256 × UInt32))
  | _, indexByHash, [] => ok indexByHash
  | index, indexByHash, node :: rest =>
    if (indexByHash.lookup node.hash).isSome then indexByHashLoop (index + 1) indexByHash rest
    else do
      let position ← poolIndex index
      indexByHashLoop (index + 1) (indexByHash ++ [(node.hash, position)]) rest

def witnessStateIndices (indexByHash : List (B256 × UInt32)) (witness : ExecutionWitness) : List UInt32 :=
  if witness.stateIndices.isEmpty then
    canonicalizeStateIndices (witness.state.filterMap fun node => indexByHash.lookup node.hash)
  else witness.stateIndices

def setStateIndices (witness : StatelessInput) (stateIndices : List UInt32) : StatelessInput :=
  { witness with witness := { witness.witness with state := [], stateIndices := stateIndices } }

def clearHeaders (witness : StatelessInput) : StatelessInput :=
  { witness with witness := { witness.witness with headers := [] } }

namespace GuestInput

def inlineStateNodes (input : GuestInput) : List WitnessStateNode :=
  input.witnesses.flatMap (·.witness.state)

def mergedStateNodes (input : GuestInput) : List WitnessStateNode :=
  if input.hasPositionalProposalStatePool then
    extendPool (·.hash.toNat) input.proposalStateNodes (canonicalizeStateNodes input.inlineStateNodes)
  else canonicalizeStateNodes (input.proposalStateNodes ++ input.inlineStateNodes)

def initialProposalStatePool (input : GuestInput) : Outcome ε (List WitnessStateNode × List (List UInt32)) :=
  if input.mergedStateNodes.isEmpty then ok (input.mergedStateNodes, input.witnesses.map fun _ => [])
  else do
    let indexByHash ← indexByHashLoop 0 [] input.mergedStateNodes
    return (input.mergedStateNodes, input.witnesses.map fun witness => witnessStateIndices indexByHash witness.witness)

def compactProposalAncestorHeaders (input : GuestInput) : GuestInput :=
  if input.initialProposalAncestorHeaders.isEmpty then input
  else
    { input with
      proposalAncestorHeaders := input.initialProposalAncestorHeaders
      witnesses := input.witnesses.map clearHeaders }

def compactProposalStateNodes (input : GuestInput) : Outcome ε GuestInput := do
  let (proposalStateNodes, witnessStateIndices) ← input.initialProposalStatePool
  if proposalStateNodes.isEmpty then return input
  return { input with
    proposalStateNodes := proposalStateNodes
    witnesses := input.witnesses.zipWith setStateIndices witnessStateIndices }

def compactProposalWitnessData (input : GuestInput) : Outcome ε GuestInput :=
  input.compactProposalAncestorHeaders.compactProposalStateNodes

end GuestInput

section Write

def WitnessHeader.serialize (form : SerdeForm) (header : WitnessHeader) : WitnessHeaderWire :=
  match form, header.fullHeader with
  | .human, some full => .full full header.hash
  | .human, none => .compact header.number header.parentHash header.timestamp header.hash
  | .binary, full => .bincode header.number header.parentHash header.timestamp header.hash full

def WitnessStateNode.serialize (form : SerdeForm) (node : WitnessStateNode) : WitnessStateNodeWire :=
  match form with
  | .human => .legacy node.bytes
  | .binary => .structured node.hash node.bytes

def ExecutionWitness.serialize (form : SerdeForm) (witness : ExecutionWitness) : ExecutionWitnessWire where
  state := witness.state.map (WitnessStateNode.serialize form)
  stateIndices := witness.stateIndices
  codes := witness.codes
  keys := witness.keys
  headers := witness.headers.map (WitnessHeader.serialize form)

def StatelessInput.serialize (form : SerdeForm) (input : StatelessInput) : StatelessInputWire where
  block := input.block
  chainSpec := input.chainSpec
  witness := input.witness.serialize form

def GuestInput.toSerde (input : GuestInput) : Outcome ε GuestInput := do
  let headers := input.initialProposalAncestorHeaders
  let (proposalStateNodes, witnessStateIndices) ← input.initialProposalStatePool
  let witnesses := if headers.isEmpty then input.witnesses else input.witnesses.map clearHeaders
  return { input with
    proposalAncestorHeaders := headers
    proposalStateNodes := proposalStateNodes
    witnesses := if proposalStateNodes.isEmpty then witnesses else witnesses.zipWith setStateIndices witnessStateIndices }

def GuestInput.wire (form : SerdeForm) (input : GuestInput) : GuestInputWire where
  witnesses := input.witnesses.map (StatelessInput.serialize form)
  taiko := input.taiko
  proposalAncestorHeaders := input.proposalAncestorHeaders.map (WitnessHeader.serialize form)
  proposalStateNodes := input.proposalStateNodes.map (WitnessStateNode.serialize form)
  proofCarryData := input.proofCarryData

def GuestInput.serialize (form : SerdeForm) (input : GuestInput) : Outcome ε GuestInputWire := do
  let value ← input.toSerde
  return value.wire form

end Write

end Raiko2
