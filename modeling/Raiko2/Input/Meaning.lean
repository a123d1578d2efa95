import Raiko2.Guest.Reconstruct
import Raiko2.Input.Packet
import Raiko2.Protocol.Binding

/-!
# The meaning of a witness

What a witness means is the set of state nodes that it denotes, inline or by position in the pool. A step from
one input to another refines it if every witness keeps its meaning, the header window stays, and the pool that
compaction would build does not grow.
-/

namespace Raiko2

open Lib Lib.Outcome GuestInput

section Meaning

/-- The nodes of a witness over a shared pool: its own, unless it holds positions. -/
def Denotes (pool : List WitnessStateNode) (witness : ExecutionWitness) (nodes : List WitnessStateNode) : Prop :=
  if witness.stateIndices = [] then nodes = witness.state
  else Resolves pool (witness.stateIndices.map (·.toNat)) nodes

variable {A : Alloy} {pool : List WitnessStateNode} {witness : ExecutionWitness} {nodes : List WitnessStateNode}
  {bytes : List Bytes}

/-- Every node carries the hash of its bytes, which are among the given ones. -/
def HonestNodes (A : Alloy) (bytes : List Bytes) (nodes : List WitnessStateNode) : Prop :=
  ∀ node ∈ nodes, node.hash = A.keccak256 node.bytes ∧ node.bytes ∈ bytes

/-- What a witness denotes over one pool, another one denotes over another pool. -/
def WitnessKept (before after : List WitnessStateNode) (witness next : ExecutionWitness) : Prop :=
  ∀ nodes, Denotes before witness nodes → ∃ others, Denotes after next others ∧ Same others nodes

theorem WitnessKept.trans {pool₁ pool₂ pool₃ : List WitnessStateNode} {witness₁ witness₂ witness₃ : ExecutionWitness}
    (h₁ : WitnessKept pool₁ pool₂ witness₁ witness₂) (h₂ : WitnessKept pool₂ pool₃ witness₂ witness₃) :
    WitnessKept pool₁ pool₃ witness₁ witness₃ := by
  intro nodes hNodes
  obtain ⟨others, hOthers, hSame⟩ := h₁ nodes hNodes
  obtain ⟨last, hLast, hSame'⟩ := h₂ others hOthers
  exact ⟨last, hLast, hSame'.trans hSame⟩

end Meaning

section Pool

variable {A : Alloy} {bytes : List Bytes} {input output : GuestInput}

def GuestInput.stateNodes (input : GuestInput) : List WitnessStateNode :=
  input.proposalStateNodes ++ input.inlineStateNodes

end Pool

section Refines

/-- A step from one input to another that keeps what the witnesses denote and the header window. -/
structure Refines (A : Alloy) (bytes : List Bytes) (input output : GuestInput) : Prop where
  witnesses : ∀ (i : Nat) before, input.witnesses[i]? = some before → ∃ after, output.witnesses[i]? = some after ∧
    WitnessKept input.proposalStateNodes output.proposalStateNodes before.witness after.witness
  nodes : HonestNodes A bytes output.stateNodes
  pool : output.mergedStateNodes.length ≤ input.mergedStateNodes.length
  window : (∀ header ∈ input.initialProposalAncestorHeaders, HonestHeader A header) →
    output.initialProposalAncestorHeaders = input.initialProposalAncestorHeaders

variable {A : Alloy} {bytes : List Bytes} {input output last : GuestInput}

theorem Refines.refl (h : HonestNodes A bytes input.stateNodes) : Refines A bytes input input :=
  ⟨fun _ before hBefore => ⟨before, hBefore, fun nodes hNodes => ⟨nodes, hNodes, Same.refl _⟩⟩, h, le_rfl, fun _ => rfl⟩

theorem Refines.trans (h₁ : Refines A bytes input output) (h₂ : Refines A bytes output last) :
    Refines A bytes input last := by
  refine ⟨fun i before hBefore => ?_, h₂.nodes, h₂.pool.trans h₁.pool, fun hHonest => ?_⟩
  · obtain ⟨after, hAfter, hKept⟩ := h₁.witnesses i before hBefore
    obtain ⟨next, hNext, hKept'⟩ := h₂.witnesses i after hAfter
    exact ⟨next, hNext, hKept.trans hKept'⟩
  · have hWindow := h₁.window hHonest
    rw [h₂.window (by rwa [hWindow]), hWindow]

end Refines

end Raiko2
