import Raiko2.Input.Types
import Raiko2.Protocol.External

/-!
# Wire forms

What `serde` sees of a guest input, and the conversions in both directions. The byte formats themselves are
external: a parser is a function into these forms. A header that is present in full and a state node are
hashed again when they are read, so that the hash on the wire never reaches the guest input.
-/

namespace Raiko2

open Lib Lib.Outcome GuestInput

inductive SerdeForm where
  | binary
  | human
  deriving DecidableEq, Repr

inductive WitnessHeaderWire where
  | bincode (number : UInt64) (parentHash : B256) (timestamp : UInt64) (hash : B256) (header : Option Header)
  | legacy (bytes : Bytes)
  | full (header : Header) (hash : B256)
  | compact (number : UInt64) (parentHash : B256) (timestamp : UInt64) (hash : B256)
  deriving DecidableEq, Repr

inductive WitnessStateNodeWire where
  | structured (hash : B256) (bytes : Bytes)
  | legacy (bytes : Bytes)
  deriving DecidableEq, Repr

structure ExecutionWitnessWire where
  state : List WitnessStateNodeWire
  stateIndices : List UInt32
  codes : List Bytes
  keys : List Bytes
  headers : List WitnessHeaderWire
  deriving DecidableEq

structure StatelessInputWire where
  block : Block
  chainSpec : ChainSpec
  witness : ExecutionWitnessWire
  deriving DecidableEq

structure GuestInputWire where
  witnesses : List StatelessInputWire
  taiko : TaikoManifest
  proposalAncestorHeaders : List WitnessHeaderWire
  proposalStateNodes : List WitnessStateNodeWire
  proofCarryData : ProofCarryData
  deriving DecidableEq

def canonicalizeStateNodes (state : List WitnessStateNode) : List WitnessStateNode :=
  canonicalByKey (·.hash.toNat) state

def canonicalizeStateIndices (stateIndices : List UInt32) : List UInt32 :=
  canonicalByKey (·.toNat) stateIndices

section Read

variable (A : Alloy)

def WitnessHeader.fromHeader (header : Header) : WitnessHeader :=
  .fromHeaderWithHash header (A.hashSlow header)

def WitnessHeader.deserialize : WitnessHeaderWire → Outcome String WitnessHeader
  | .bincode _ _ _ _ (some header) => ok (.fromHeader A header)
  | .bincode number parentHash timestamp hash none | .compact number parentHash timestamp hash =>
    ok { number := number, parentHash := parentHash, timestamp := timestamp, hash := hash, header := none }
  | .legacy bytes => do
    let header ← ofExcept id (A.decodeHeader bytes)
    return .fromHeader A header
  | .full header _ => ok (.fromHeader A header)

def WitnessStateNode.fromBytes (bytes : Bytes) : WitnessStateNode where
  hash := A.keccak256 bytes
  bytes := bytes

def WitnessStateNode.deserialize : WitnessStateNodeWire → WitnessStateNode
  | .structured _ bytes | .legacy bytes => .fromBytes A bytes

def ExecutionWitness.deserialize (form : SerdeForm) (wire : ExecutionWitnessWire) :
    Outcome String ExecutionWitness := do
  let state := wire.state.map (WitnessStateNode.deserialize A)
  let headers ← wire.headers.mapM (WitnessHeader.deserialize A)
  match form with
  | .binary =>
    return { state := state, stateIndices := wire.stateIndices, codes := wire.codes, keys := wire.keys
             headers := headers }
  | .human =>
    return { state := canonicalizeStateNodes state, stateIndices := canonicalizeStateIndices wire.stateIndices
             codes := wire.codes, keys := wire.keys, headers := canonicalizeHeaders headers }

def StatelessInput.deserialize (form : SerdeForm) (wire : StatelessInputWire) : Outcome String StatelessInput := do
  let witness ← ExecutionWitness.deserialize A form wire.witness
  return { block := wire.block, chainSpec := wire.chainSpec, witness := witness }

def GuestInput.hasPositionalProposalStatePool (input : GuestInput) : Bool :=
  !input.proposalStateNodes.isEmpty && input.witnesses.any (fun witness => !witness.witness.stateIndices.isEmpty)

def GuestInput.fromSerde (input : GuestInput) : GuestInput :=
  { input with
    proposalAncestorHeaders := canonicalizeHeaders input.proposalAncestorHeaders
    proposalStateNodes :=
      if !input.hasPositionalProposalStatePool then canonicalizeStateNodes input.proposalStateNodes
      else input.proposalStateNodes }

def GuestInput.readFields (form : SerdeForm) (wire : GuestInputWire) : Outcome String GuestInput := do
  let witnesses ← wire.witnesses.mapM (StatelessInput.deserialize A form)
  let headers ← wire.proposalAncestorHeaders.mapM (WitnessHeader.deserialize A)
  return {
    witnesses := witnesses
    taiko := wire.taiko
    proposalAncestorHeaders := headers
    proposalStateNodes := wire.proposalStateNodes.map (WitnessStateNode.deserialize A)
    proofCarryData := wire.proofCarryData }

def GuestInput.deserialize (form : SerdeForm) (wire : GuestInputWire) : Outcome String GuestInput := do
  let input ← readFields A form wire
  return input.fromSerde

/-- Reading an encoded input, for a parser of the format. What is parsed may be bytes or text. -/
def GuestInput.decode {β : Type} (form : SerdeForm) (parse : β → Except String GuestInputWire) (encoded : β) :
    Outcome String GuestInput := do
  let wire ← ofExcept id (parse encoded)
  deserialize A form wire

end Read

section Honest

variable {A : Alloy}

/-- A header that is present in full carries its own hash, number, parent hash and timestamp. -/
def HonestHeader (A : Alloy) (header : WitnessHeader) : Prop :=
  ∀ full, header.fullHeader = some full → header = .fromHeader A full

theorem honestHeader_fromHeader (header : Header) : HonestHeader A (.fromHeader A header) := by
  rintro full hFull
  obtain rfl : header = full := Option.some.inj hFull
  rfl

theorem honestHeader_of_deserialize {wire : WitnessHeaderWire} {header : WitnessHeader}
    (h : WitnessHeader.deserialize A wire = ok header) : HonestHeader A header := by
  rcases wire with ⟨_, _, _, _, _ | full⟩ | bytes | full | _
  · cases h
    intro _ hFull
    cases hFull
  · cases h
    exact honestHeader_fromHeader full
  · obtain ⟨full, -, hEq⟩ := bind_eq_ok_iff.mp h
    cases hEq
    exact honestHeader_fromHeader full
  · cases h
    exact honestHeader_fromHeader full
  · cases h
    intro _ hFull
    cases hFull

theorem honestHeaders_of_mapM {wires : List WitnessHeaderWire} {headers : List WitnessHeader}
    (h : wires.mapM (WitnessHeader.deserialize A) = ok headers) : ∀ header ∈ headers, HonestHeader A header := by
  intro header hMem
  obtain ⟨_, -, hRead⟩ := mem_mapM_ok h header hMem
  exact honestHeader_of_deserialize hRead

theorem honestHeaders_of_deserialize_witness {form : SerdeForm} {wire : StatelessInputWire} {witness : StatelessInput}
    (h : StatelessInput.deserialize A form wire = ok witness) :
    ∀ header ∈ witness.witness.headers, HonestHeader A header := by
  simp only [StatelessInput.deserialize, ExecutionWitness.deserialize, bind_eq_ok_iff, pure_eq_ok,
    Outcome.ok.injEq] at h
  obtain ⟨_, ⟨headers, hHeaders, hForm⟩, rfl⟩ := h
  cases form <;> cases hForm
  · exact honestHeaders_of_mapM hHeaders
  · intro header hMem
    exact honestHeaders_of_mapM hHeaders header (mem_sortByKey.mp hMem)

theorem honestHeaders_of_decode {form : SerdeForm} {parse : Bytes → Except String GuestInputWire} {bytes : Bytes}
    {input : GuestInput} (h : decode A form parse bytes = ok input) :
    ∀ header ∈ input.initialProposalAncestorHeaders, HonestHeader A header := by
  simp only [decode, deserialize, readFields, bind_eq_ok_iff, pure_eq_ok,
    Outcome.ok.injEq] at h
  obtain ⟨wire, -, _, ⟨witnesses, hWitnesses, headers, hHeaders, rfl⟩, rfl⟩ := h
  intro header hMem
  have hMem := mem_sortByKey.mp hMem
  rw [GuestInput.ancestorHeaders] at hMem
  split at hMem
  · cases witnesses with
    | nil => cases hMem
    | cons witness rest =>
      obtain ⟨_, -, hRead⟩ := mem_mapM_ok hWitnesses witness (by simp)
      exact honestHeaders_of_deserialize_witness hRead header hMem
  · exact honestHeaders_of_mapM hHeaders header (mem_sortByKey.mp hMem)

end Honest

end Raiko2
