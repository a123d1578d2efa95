import Mathlib.Data.Set.List
import Raiko2.Guest.ProposalSound

/-!
# The block hashes that execution reads

`BLOCKHASH` is answered from the window of ancestor headers, which the pass over the witnesses rolls on by one block at
a time. The lookup is an index into a list; that it is the right one rests on the check that walks the window backwards
before the block is executed.
-/

namespace Raiko2

open Lib Lib.Outcome WitnessHeader List

section Rolling

variable {A : Alloy} {R : Reth} {network : TaikoNetwork} {taiko : TaikoManifest}
  {expectedBlocks : Option (List BlockManifest)} {verifyBlock : BlockVerifier}

theorem roll_rtake (chain : List WitnessHeader) (header : Header) (hash : B256) :
    rollProposalAncestorHeadersInPlace (chain.rtake ancestorHeaderWindowLimit) header hash =
      (chain ++ [fromHeaderWithHash header hash]).rtake ancestorHeaderWindowLimit := by
  have hLimit : ancestorHeaderWindowLimit = ancestorHeaderWindowLimit - 1 + 1 := by decide
  rw [rollProposalAncestorHeadersInPlace, ← rtake, hLimit, Nat.add_sub_cancel, rtake_rtake_append_singleton]

theorem rtake_of_length_le {α : Type} {xs : List α} {n : Nat} (h : xs.length ≤ n) : xs.rtake n = xs := by
  rw [rtake, Nat.sub_eq_zero_of_le h, drop_zero]

def Validated (verifyBlock : BlockVerifier) (network : TaikoNetwork) (witness : StatelessInput) (hash : B256) : Prop :=
  ∃ index expectedBlock parentHeader window,
    verifyBlock index witness expectedBlock parentHeader window network = ok hash

theorem rolled_of_passWitness {index : Nat} {pass next : ProposalPass} {witness : StatelessInput}
    (h : passWitness A R network taiko expectedBlocks verifyBlock index pass witness = ok next) :
    ∃ hash, Validated verifyBlock network witness hash ∧ next.ancestorHeaders =
      rollProposalAncestorHeadersInPlace pass.ancestorHeaders witness.block.header hash := by
  simp only [passWitness, bind_eq_ok_iff, withContext_eq_ok_iff, pure_eq_ok, Outcome.ok.injEq] at h
  obtain ⟨_, -, _, -, -, -, -, -, hash, hVerify, rfl⟩ := h
  exact ⟨hash, ⟨_, _, _, _, hVerify⟩, rfl⟩

theorem rolled_of_passWitnesses {index : Nat} {pass final : ProposalPass} {witnesses : List StatelessInput}
    {chain : List WitnessHeader} (hWindow : pass.ancestorHeaders = chain.rtake ancestorHeaderWindowLimit)
    (h : passWitnesses A R network taiko expectedBlocks verifyBlock index pass witnesses = ok final) :
    ∃ hashes, List.Forall₂ (Validated verifyBlock network) witnesses hashes ∧
      final.ancestorHeaders = (chain ++ zipWith (fun witness hash =>
        fromHeaderWithHash witness.block.header hash) witnesses hashes).rtake ancestorHeaderWindowLimit := by
  induction witnesses generalizing index pass chain with
  | nil =>
    cases h
    exact ⟨[], .nil, by rw [hWindow, zipWith_nil_left, append_nil]⟩
  | cons witness rest ih =>
    rw [passWitnesses, bind_eq_ok_iff] at h
    obtain ⟨next, hNext, hRest⟩ := h
    obtain ⟨hash, hValidated, hRolled⟩ := rolled_of_passWitness hNext
    rw [hWindow, roll_rtake] at hRolled
    obtain ⟨hashes, hHashes, hFinal⟩ := ih hRolled hRest
    refine ⟨hash :: hashes, .cons hValidated hHashes, ?_⟩
    rw [hFinal, zipWith_cons_cons, append_assoc, singleton_append]

variable {reconstruct : ShastaBlockReconstruction → Outcome Anyhow Block}

theorem validated_reconstructing {nodes : List WitnessStateNode} {witness : StatelessInput} {hash : B256}
    (h : Validated (reconstructingVerifier A reconstruct nodes) network witness hash) :
    hash = A.hashSlow witness.block.header := by
  obtain ⟨index, expectedBlock, parentHeader, window, h⟩ := h
  simp only [reconstructingVerifier, bind_eq_ok_iff, withContext_eq_ok_iff,
    validateGeneratedBlockMatchesCanonical_eq_ok_iff, pure_eq_ok, Outcome.ok.injEq] at h
  obtain ⟨_, -, _, -, _, -, _, -, _, -, generated, -, _, ⟨hHeader, -⟩, rfl⟩ := h
  rw [hHeader]

theorem zipWith_of_validated {nodes : List WitnessStateNode} {witnesses : List StatelessInput} {hashes : List B256}
    (h : List.Forall₂ (Validated (reconstructingVerifier A reconstruct nodes) network) witnesses hashes) :
    zipWith (fun witness hash => fromHeaderWithHash witness.block.header hash) witnesses hashes =
      witnesses.map fun witness => fromHeader A witness.block.header := by
  induction h with
  | nil => rfl
  | cons hHead _ ih =>
    rw [zipWith_cons_cons, map_cons, ih, validated_reconstructing hHead]
    rfl

theorem window_of_passWitnesses {nodes : List WitnessStateNode} {index : Nat} {pass final : ProposalPass}
    {witnesses : List StatelessInput} {chain : List WitnessHeader}
    (hWindow : pass.ancestorHeaders = chain.rtake ancestorHeaderWindowLimit)
    (h : passWitnesses A R network taiko expectedBlocks (reconstructingVerifier A reconstruct nodes) index pass
      witnesses = ok final) :
    final.ancestorHeaders = (chain ++ witnesses.map fun witness =>
      fromHeader A witness.block.header).rtake ancestorHeaderWindowLimit := by
  obtain ⟨hashes, hHashes, hFinal⟩ := rolled_of_passWitnesses hWindow h
  rw [hFinal, zipWith_of_validated hHashes]

theorem passWitnesses_append {index : Nat} {pass final : ProposalPass} {before after : List StatelessInput}
    (h : passWitnesses A R network taiko expectedBlocks verifyBlock index pass (before ++ after) = ok final) :
    ∃ middle, passWitnesses A R network taiko expectedBlocks verifyBlock index pass before = ok middle ∧
      passWitnesses A R network taiko expectedBlocks verifyBlock (index + before.length) middle after = ok final := by
  induction before generalizing index pass with
  | nil => exact ⟨pass, rfl, h⟩
  | cons witness rest ih =>
    obtain ⟨next, hNext, hRest⟩ := bind_eq_ok_iff.mp h
    obtain ⟨middle, hMiddle, hAfter⟩ := ih hRest
    refine ⟨middle, bind_eq_ok_iff.mpr ⟨next, hNext, hMiddle⟩, ?_⟩
    rw [length_cons, Nat.add_comm rest.length, ← Nat.add_assoc]
    exact hAfter

end Rolling

section Lookup

variable {window : List WitnessHeader} {hashes : AncestorHashes}

/-- What the walk compares: the hash of a header with the parent hash of the next, and their numbers, which wrap. -/
def Linked (parent child : WitnessHeader) : Prop :=
  child.parentHash = parent.hash ∧ parent.number + 1 = child.number

def Precedes (parent child : WitnessHeader) : Prop :=
  child.parentHash = parent.hash ∧ child.number.toNat = parent.number.toNat + 1

theorem linked_of_checkAncestorChain {childNumber : UInt64} {childParentHash : B256} {headers : List WitnessHeader}
    {u : Unit} (h : checkAncestorChain childNumber childParentHash headers = ok u) :
    headers.IsChain fun child parent => Linked parent child := by
  induction headers generalizing childNumber childParentHash with
  | nil => exact .nil
  | cons child rest ih =>
    rw [checkAncestorChain] at h
    split at h
    · cases h
    · cases rest with
      | nil => exact .singleton child
      | cons parent others =>
        refine isChain_cons_cons.mpr ⟨?_, ih h⟩
        rw [checkAncestorChain] at h
        split at h
        · cases h
        · rename_i hLinked
          simpa [Linked, not_or] using hLinked

theorem computeNextBlockAncestorHashes_eq_ok (h : computeNextBlockAncestorHashes window = ok hashes) :
    ∃ first, window.head? = some first ∧ (∀ header ∈ window, header.fullHeader.isSome = true) ∧ window.IsChain Linked ∧
      hashes = ⟨first.number, window.map (·.hash)⟩ := by
  simp only [computeNextBlockAncestorHashes, computeAncestorHashesForChild, bind_eq_ok_iff,
    ofOption_eq_ok_iff, ensureFullAncestorHeaders_eq_ok_iff, pure_eq_ok, Outcome.ok.injEq] at h
  obtain ⟨last, hLast, _, hFull, _, hWalk, rfl⟩ := h
  have hLinked := isChain_reverse.mp (linked_of_checkAncestorChain hWalk)
  cases window with
  | nil => cases hLast
  | cons first rest => exact ⟨first, rfl, hFull, hLinked, rfl⟩

def NumbersFit (window : List WitnessHeader) : Prop := ∀ header ∈ window.dropLast, header.number ≠ U64.maxValue

theorem precedes_of_linked (hFit : NumbersFit window) (h : window.IsChain Linked) : window.IsChain Precedes := by
  induction window with
  | nil => exact .nil
  | cons parent rest ih =>
    cases rest with
    | nil => exact .singleton parent
    | cons child others =>
      obtain ⟨⟨hHash, hNumber⟩, hRest⟩ := isChain_cons_cons.mp h
      rw [NumbersFit, dropLast_cons_cons] at hFit
      refine isChain_cons_cons.mpr ⟨⟨hHash, ?_⟩, ih (fun header hMem => hFit header (.tail _ hMem)) hRest⟩
      have hRoom := hFit parent mem_cons_self
      rw [ne_eq, ← UInt64.toNat_inj, U64.toNat_maxValue] at hRoom
      have hLt := parent.number.toNat_lt
      rw [← hNumber, UInt64.toNat_add, UInt64.toNat_one, Nat.mod_eq_of_lt (by omega)]

theorem numbersFit_of_precedes (h : window.IsChain Precedes) : NumbersFit window := by
  induction window with
  | nil => simp [NumbersFit]
  | cons parent rest ih =>
    cases rest with
    | nil => simp [NumbersFit]
    | cons child others =>
      obtain ⟨⟨_, hNumber⟩, hRest⟩ := isChain_cons_cons.mp h
      rw [NumbersFit, dropLast_cons_cons, forall_mem_cons]
      refine ⟨?_, ih hRest⟩
      rw [ne_eq, ← UInt64.toNat_inj, U64.toNat_maxValue]
      have hLt := child.number.toNat_lt
      omega

theorem getElem?_of_number (hChain : window.IsChain Precedes) {first entry : WitnessHeader} {i : Nat}
    (hFirst : window.head? = some first) (h : window[i]? = some entry) :
    entry.number.toNat = first.number.toNat + i :=
  IsChain.grade_getElem? (fun _ _ h => h.2) hChain hFirst h

theorem get_eq_some_iff (hChain : window.IsChain Precedes) {first : WitnessHeader} (hFirst : window.head? = some first)
    (n : UInt64) (h : B256) : (⟨first.number, window.map (·.hash)⟩ : AncestorHashes).get n = some h ↔
      ∃ entry ∈ window, entry.number = n ∧ entry.hash = h := by
  rw [AncestorHashes.get, Option.bind_eq_bind, Option.bind_eq_some_iff]
  simp only [U64.checkedSub_eq_some_iff, getElem?_map, Option.map_eq_some_iff]
  constructor
  · rintro ⟨index, hIndex, entry, hEntry, hHash⟩
    refine ⟨entry, mem_of_getElem? hEntry, ?_, hHash⟩
    rw [← UInt64.toNat_inj, getElem?_of_number hChain hFirst hEntry, hIndex]
  · rintro ⟨entry, hMem, rfl, hHash⟩
    obtain ⟨i, hEntry⟩ := mem_iff_getElem?.mp hMem
    have hNumber := getElem?_of_number hChain hFirst hEntry
    have hLt := entry.number.toNat_lt
    have hSmall : (UInt64.ofNat i).toNat = i := by
      rw [UInt64.toNat_ofNat', Nat.mod_eq_of_lt (by omega)]
    refine ⟨UInt64.ofNat i, by omega, entry, ?_, hHash⟩
    rw [hSmall, hEntry]

theorem exists_number_iff (hChain : window.IsChain Precedes) {first last : WitnessHeader}
    (hFirst : window.head? = some first) (hLast : window.getLast? = some last) (n : UInt64) :
    (∃ entry ∈ window, entry.number = n) ↔ first.number ≤ n ∧ n ≤ last.number := by
  have hEnd : window[window.length - 1]? = some last := by rw [← getLast?_eq_getElem?, hLast]
  have hLength := getElem?_of_number hChain hFirst hEnd
  have hPos : 0 < window.length := length_pos_of_mem (mem_of_getLast? hLast)
  rw [UInt64.le_iff_toNat_le, UInt64.le_iff_toNat_le]
  constructor
  · rintro ⟨entry, hMem, rfl⟩
    obtain ⟨i, hEntry⟩ := mem_iff_getElem?.mp hMem
    have hNumber := getElem?_of_number hChain hFirst hEntry
    have hi := (List.getElem?_eq_some_iff.mp hEntry).1
    omega
  · rintro ⟨hLow, hHigh⟩
    have hi : n.toNat - first.number.toNat < window.length := by omega
    refine ⟨_, getElem_mem hi, ?_⟩
    rw [← UInt64.toNat_inj, getElem?_of_number hChain hFirst (getElem?_eq_getElem hi)]
    omega

end Lookup

section Exact

variable {A : Alloy} {R : Reth} {network : TaikoNetwork} {taiko : TaikoManifest}
  {expectedBlocks : Option (List BlockManifest)} {nodes : List WitnessStateNode} {window : List WitnessHeader}
  {hashes : AncestorHashes}

def ParentOf (A : Alloy) (parent child : Header) : Prop :=
  child.parentHash = A.hashSlow parent ∧ child.number.toNat = parent.number.toNat + 1

def OnChain (A : Alloy) (header last : Header) : Prop := Relation.ReflTransGen (ParentOf A) header last

def ChainCollisionFree (A : Alloy) (last : Header) : Prop :=
  ∀ a b, OnChain A a last → OnChain A b last → A.hashSlow a = A.hashSlow b → a = b

/-- The lookups in a window: they answer for its numbers, with the hashes of the chain that ends at the parent of the
block that is executed on it. -/
structure BlockHashesExact (A : Alloy) (window : List WitnessHeader) (hashes : AncestorHashes) : Prop where
  linked : window.IsChain Precedes
  within : ∀ n, (hashes.get n).isSome = true ↔ ∃ first last, window.head? = some first ∧
    window.getLast? = some last ∧ first.number ≤ n ∧ n ≤ last.number
  value : (∀ header ∈ window, HonestHeader A header) → ∀ n h, hashes.get n = some h →
    ∃ parent header, sealedParentHeader window = ok ⟨parent, A.hashSlow parent⟩ ∧ OnChain A header parent ∧
      header.number = n ∧ A.hashSlow header = h
  only : (∀ header ∈ window, HonestHeader A header) → ∀ parent, sealedParentHeader window = ok parent →
    ChainCollisionFree A parent.header → ∀ header h, OnChain A header parent.header → hashes.get header.number = some h →
      A.hashSlow header = h

theorem exists_map_fromHeader (hFull : ∀ header ∈ window, header.fullHeader.isSome = true)
    (hHonest : ∀ header ∈ window, HonestHeader A header) : ∃ headers : List Header,
      headers.map (fromHeader A) = window := by
  have hAll : ∀ entry ∈ window, entry ∈ Set.range (fromHeader A) := by
    intro entry hMem
    obtain ⟨full, hEq⟩ := Option.isSome_iff_exists.mp (hFull entry hMem)
    exact ⟨full, (hHonest entry hMem full hEq).symm⟩
  have hRange : window ∈ Set.range (map (fromHeader A)) := by
    rw [Set.range_list_map]
    exact hAll
  exact hRange

theorem onChain_of_mem {headers : List Header} {header parent : Header}
    (hChain : (headers.map (fromHeader A)).IsChain Precedes) (hMem : header ∈ headers)
    (hLast : headers.getLast? = some parent) : OnChain A header parent :=
  IsChain.reflTransGen_getLast (isChain_map (fromHeader A) |>.mp hChain) hMem hLast

theorem sealedParentHeader_map {headers : List Header} {parent : SealedHeader}
    (h : sealedParentHeader (headers.map (fromHeader A)) = ok parent) :
    headers.getLast? = some parent.header := by
  obtain ⟨last, hLast, hFull, _⟩ := sealedParentHeader_eq_ok_iff.mp h
  rw [getLast?_map, Option.map_eq_some_iff] at hLast
  obtain ⟨header, hHeader, rfl⟩ := hLast
  rw [hHeader]
  exact hFull

theorem blockHashesExact_of_compute (h : computeNextBlockAncestorHashes window = ok hashes) (hFit : NumbersFit window) :
    BlockHashesExact A window hashes := by
  obtain ⟨first, hFirst, hFull, hLinked, rfl⟩ := computeNextBlockAncestorHashes_eq_ok h
  have hChain := precedes_of_linked hFit hLinked
  have hGet := get_eq_some_iff hChain hFirst
  constructor
  · exact hChain
  · intro n
    rw [Option.isSome_iff_exists]
    constructor
    · rintro ⟨hash, hSome⟩
      obtain ⟨entry, hMem, hNumber, _⟩ := (hGet n hash).mp hSome
      obtain ⟨last, hLast⟩ : ∃ last, window.getLast? = some last :=
        Option.isSome_iff_exists.mp (getLast?_isSome.mpr (ne_nil_of_mem hMem))
      exact ⟨first, last, hFirst, hLast, (exists_number_iff hChain hFirst hLast n).mp ⟨entry, hMem, hNumber⟩⟩
    · rintro ⟨first', last, hFirst', hLast, hBetween⟩
      cases hFirst.symm.trans hFirst'
      obtain ⟨entry, hMem, hNumber⟩ := (exists_number_iff hChain hFirst hLast n).mpr hBetween
      exact ⟨entry.hash, (hGet n entry.hash).mpr ⟨entry, hMem, hNumber, rfl⟩⟩
  · intro hHonest n hash hSome
    obtain ⟨headers, rfl⟩ := exists_map_fromHeader hFull hHonest
    obtain ⟨entry, hMem, hNumber, hHash⟩ := (hGet n hash).mp hSome
    obtain ⟨header, hHeader, rfl⟩ := mem_map.mp hMem
    obtain ⟨parent, hLast⟩ : ∃ parent, headers.getLast? = some parent :=
      Option.isSome_iff_exists.mp (getLast?_isSome.mpr (ne_nil_of_mem hHeader))
    refine ⟨parent, header, ?_, onChain_of_mem hChain hHeader hLast, hNumber, hHash⟩
    exact sealedParentHeader_eq_ok_iff.mpr ⟨.fromHeader A parent, by rw [getLast?_map, hLast]; rfl, rfl, rfl⟩
  · intro hHonest parent hParent hFree header hash hOn hSome
    obtain ⟨headers, rfl⟩ := exists_map_fromHeader hFull hHonest
    obtain ⟨entry, hMem, hNumber, hHash⟩ := (hGet header.number hash).mp hSome
    obtain ⟨other, hOther, rfl⟩ := mem_map.mp hMem
    have hOtherOn := onChain_of_mem hChain hOther (sealedParentHeader_map hParent)
    -- Two headers of one number on a chain without collisions are one.
    have hUnique : ∀ a b c, ParentOf A a c → ParentOf A b c → Relation.ReflTransGen (ParentOf A) c parent.header →
        a = b := fun a b c ha hb hc => hFree a b (.head ha hc) (.head hb hc) (ha.1.symm.trans hb.1)
    obtain rfl : other = header :=
      eq_of_grade_eq (fun _ _ h => h.2) hUnique hOtherOn hOn (congrArg UInt64.toNat hNumber)
    exact hHash

/-- The block of the witness was executed with the hashes that the walk over the window returned, which are exact if
and only if its numbers do not wrap. -/
def ReadsBlockHashes (A : Alloy) (R : Reth) (nodes : List WitnessStateNode) (window : List WitnessHeader)
    (witness : StatelessInput) : Prop :=
  ∃ hashes preStateRoot parent derived, computeNextBlockAncestorHashes window = ok hashes ∧
    R.witnessCovers witness.witness nodes preStateRoot hashes parent derived = .ok () ∧
    (NumbersFit window ↔ BlockHashesExact A window hashes)

theorem exact_iff_of_compute (h : computeNextBlockAncestorHashes window = ok hashes) :
    NumbersFit window ↔ BlockHashesExact A window hashes :=
  ⟨blockHashesExact_of_compute h, fun hExact => numbersFit_of_precedes hExact.linked⟩

theorem readsBlockHashes_of_passWitness {index : Nat} {pass next : ProposalPass} {witness : StatelessInput}
    (h : passWitness A R network taiko expectedBlocks (reconstructingVerifier A (statelessReconstructor A R) nodes) index
      pass witness = ok next) : ReadsBlockHashes A R nodes pass.ancestorHeaders witness := by
  simp only [passWitness, reconstructingVerifier, statelessReconstructor, bind_eq_ok_iff, withContext_eq_ok_iff,
    mapError_eq_ok_iff] at h
  obtain ⟨_, -, _, -, _, -, _, -, _, ⟨_, -, _, -, _, -, _, -, _, -, _, hReconstruct, -⟩, -⟩ := h
  simp only [reconstructBlockFromTransactions, unit_bind_eq_ok_iff] at hReconstruct
  obtain ⟨-, -, hReconstruct⟩ := hReconstruct
  simp only [bind_eq_ok_iff, ofExcept_eq_ok_iff] at hReconstruct
  obtain ⟨parent, -, preStateRoot, -, hashes, hHashes, _, hCovers, -⟩ := hReconstruct
  exact ⟨hashes, preStateRoot, parent, _, hHashes, hCovers, exact_iff_of_compute hHashes⟩

/-- The window that the pass rolls on, for every verification of blocks and with the true hashes for the one that
reconstructs them; the lookups in every window that passes the walk; and the window of every block of a pass. -/
theorem block_hashes_of_proven_chain (A : Alloy) (R : Reth) (network : TaikoNetwork) (taiko : TaikoManifest)
    (expectedBlocks : Option (List BlockManifest)) :
    (∀ (verifyBlock : BlockVerifier) (index : Nat) (pass final : ProposalPass) (witnesses : List StatelessInput),
      pass.ancestorHeaders.length ≤ ancestorHeaderWindowLimit →
      passWitnesses A R network taiko expectedBlocks verifyBlock index pass witnesses = ok final →
      final.ancestorHeaders.length ≤ ancestorHeaderWindowLimit ∧
      ∃ hashes, List.Forall₂ (Validated verifyBlock network) witnesses hashes ∧
        final.ancestorHeaders = (pass.ancestorHeaders ++ zipWith (fun witness hash =>
          fromHeaderWithHash witness.block.header hash) witnesses hashes).rtake
            ancestorHeaderWindowLimit) ∧
    (∀ (reconstruct : ShastaBlockReconstruction → Outcome Anyhow Block) (nodes : List WitnessStateNode) (index : Nat)
      (pass final : ProposalPass) (witnesses : List StatelessInput) (headers : List Header),
      headers.length ≤ ancestorHeaderWindowLimit →
      pass.ancestorHeaders = headers.map (fromHeader A) →
      passWitnesses A R network taiko expectedBlocks (reconstructingVerifier A reconstruct nodes) index pass witnesses =
        ok final →
      final.ancestorHeaders = (headers.map (fromHeader A) ++ witnesses.map fun witness =>
        fromHeader A witness.block.header).rtake ancestorHeaderWindowLimit) ∧
    (∀ window hashes, computeNextBlockAncestorHashes window = ok hashes →
      (NumbersFit window ↔ BlockHashesExact A window hashes)) ∧
    ∀ (nodes : List WitnessStateNode) (index : Nat) (pass final : ProposalPass)
      (before : List StatelessInput) (witness : StatelessInput) (after : List StatelessInput) (headers : List Header),
      headers.length ≤ ancestorHeaderWindowLimit →
      pass.ancestorHeaders = headers.map (fromHeader A) →
      passWitnesses A R network taiko expectedBlocks (reconstructingVerifier A (statelessReconstructor A R) nodes) index
        pass (before ++ witness :: after) = ok final →
      ReadsBlockHashes A R nodes ((headers.map (fromHeader A) ++ before.map fun witness =>
        fromHeader A witness.block.header).rtake ancestorHeaderWindowLimit) witness := by
  refine ⟨?_, ?_, fun window hashes h => exact_iff_of_compute h, ?_⟩
  · intro verifyBlock index pass final witnesses hLength h
    obtain ⟨hashes, hHashes, hFinal⟩ := rolled_of_passWitnesses (rtake_of_length_le hLength).symm h
    refine ⟨?_, hashes, hHashes, hFinal⟩
    rw [hFinal]
    exact length_rtake_le _ _
  · intro reconstruct nodes index pass final witnesses headers hLength hWindow h
    have hShort : pass.ancestorHeaders.length ≤ ancestorHeaderWindowLimit := by
      rw [hWindow, length_map]
      exact hLength
    rw [window_of_passWitnesses (rtake_of_length_le hShort).symm h, hWindow]
  · intro nodes index pass final before witness after headers hLength hWindow h
    have hShort : pass.ancestorHeaders.length ≤ ancestorHeaderWindowLimit := by
      rw [hWindow, length_map]
      exact hLength
    obtain ⟨middle, hBefore, hRest⟩ := passWitnesses_append h
    obtain ⟨next, hNext, -⟩ := bind_eq_ok_iff.mp hRest
    rw [← hWindow, ← window_of_passWitnesses (rtake_of_length_le hShort).symm hBefore]
    exact readsBlockHashes_of_passWitness hNext

def sampleWindow (number : UInt64) : List WitnessHeader :=
  [.fromHeader sampleAlloy { number := number },
    .fromHeader sampleAlloy { number := number + 1, parentHash := sampleAlloy.hashSlow { number := number } }]

theorem sampleWindow_hashes_exact :
    ∃ hashes, computeNextBlockAncestorHashes (sampleWindow 7) = ok hashes ∧
      hashes.get 7 = some (sampleAlloy.hashSlow { number := 7 }) ∧ hashes.get 9 = none ∧
      BlockHashesExact sampleAlloy (sampleWindow 7) hashes := by
  refine ⟨⟨7, (sampleWindow 7).map (·.hash)⟩, by decide +kernel, by decide +kernel, by decide +kernel, ?_⟩
  exact (block_hashes_of_proven_chain sampleAlloy sampleReth .hoodi {} none).2.2.1 (sampleWindow 7) _ (by decide +kernel)
    |>.mp (by unfold NumbersFit; decide +kernel)

/-- A block number that wraps to zero passes the walk: the lookup then answers for the last number, which is not
between the first and the last of the window, and not for the number of its last header. -/
theorem sampleWindow_wraps :
    ∃ hashes, computeNextBlockAncestorHashes (sampleWindow 18446744073709551615) = ok hashes ∧
      (sampleWindow 18446744073709551615).map (·.number) = [18446744073709551615, 0] ∧
      hashes.get 18446744073709551615 = some (sampleAlloy.hashSlow { number := 18446744073709551615 }) ∧
      hashes.get 0 = none :=
  ⟨⟨18446744073709551615, (sampleWindow 18446744073709551615).map (·.hash)⟩, by decide +kernel, by decide +kernel,
    by decide +kernel, by decide +kernel⟩

end Exact

end Raiko2
