import Mathlib.Tactic.Tauto
import Raiko2.Protocol.Types

/-!
# Anchor numbers

The checks of a proposal's anchor block numbers against the parent anchor and the origin block, and the
bypass for a chain whose anchor has stalled. The source-aware check knows which blocks come from forced
inclusions: these keep the parent anchor, and only the blocks of the last source may advance it.
-/

namespace Raiko2

open Lib Lib.Outcome List

/-- The largest `usize` of a 64-bit target. -/
def usizeMax : Nat := 2 ^ 64 - 1

def usizeCheckedAdd (a b : Nat) : Option Nat := if a + b ≤ usizeMax then some (a + b) else none

def anchorMaxOffset : UInt64 := 128
def mainnetAnchorMaxOffset : UInt64 := 512
def taikoMainnetChainId : UInt64 := 167000

def anchorMaxOffsetForChain (chainId : UInt64) : UInt64 :=
  if chainId = taikoMainnetChainId then mainnetAnchorMaxOffset else anchorMaxOffset

structure AnchorSourceSpan where
  isForcedInclusion : Bool
  blockCount : Nat
  deriving DecidableEq, Repr

structure SourceAwareAnchorPlan where
  l1HeaderAnchorStartIndex : Nat
  requiresParentCheckpoint : Bool
  deriving DecidableEq, Repr

def shouldBypassStalledAnchorLinkage (anchorBlockNumbers : List UInt64)
    (lastAnchorBlockNumber originBlockNumber chainId : UInt64) : Bool :=
  match anchorBlockNumbers.head? with
  | none => false
  | some first =>
    first == lastAnchorBlockNumber &&
      U64.saturatingSub originBlockNumber first > anchorMaxOffsetForChain chainId &&
      anchorBlockNumbers.all (· == first)

def checkNotRegressed (anchor : UInt64) : Option UInt64 → Outcome String Unit
  | none => ok ()
  | some previous => ensure (¬anchor < previous) s!"anchor {anchor} regressed below previous anchor {previous}"

def anchorProgressionLoop (lastAnchorBlockNumber originBlockNumber minAnchorBlockNumber : UInt64) :
    Option UInt64 → List UInt64 → Outcome String Unit
  | _, [] => ok ()
  | previous, anchor :: rest => do
    ensure (¬anchor < lastAnchorBlockNumber)
      s!"anchor {anchor} is below last_anchor_block_number {lastAnchorBlockNumber}"
    ensure (¬(anchor < minAnchorBlockNumber ∨ anchor > originBlockNumber))
      s!"anchor {anchor} is outside valid range [{minAnchorBlockNumber}, {originBlockNumber}]"
    checkNotRegressed anchor previous
    anchorProgressionLoop lastAnchorBlockNumber originBlockNumber minAnchorBlockNumber (some anchor) rest

def validateAnchorProgression (anchorBlockNumbers : List UInt64)
    (lastAnchorBlockNumber originBlockNumber chainId : UInt64) : Outcome String Unit :=
  if anchorBlockNumbers.isEmpty then error "anchor_block_numbers must not be empty"
  else
    anchorProgressionLoop lastAnchorBlockNumber originBlockNumber
      (U64.saturatingSub originBlockNumber (anchorMaxOffsetForChain chainId)) none anchorBlockNumbers

/-- `slice.get(start..end)`. -/
def sliceGet {α : Type} (xs : List α) (start stop : Nat) : Option (List α) :=
  if start ≤ stop ∧ stop ≤ xs.length then some ((xs.drop start).take (stop - start)) else none

def checkForcedAnchors (sourceIndex : Nat) (lastAnchorBlockNumber : UInt64) : List UInt64 → Outcome String Unit
  | [] => ok ()
  | anchor :: rest =>
    if anchor ≠ lastAnchorBlockNumber then
      error s!"forced inclusion source {sourceIndex} anchor {anchor} must equal parent anchor {lastAnchorBlockNumber}"
    else checkForcedAnchors sourceIndex lastAnchorBlockNumber rest

def forcedSourcesLoop (anchorBlockNumbers : List UInt64) (lastAnchorBlockNumber : UInt64) :
    Nat → Nat → List AnchorSourceSpan → Outcome String Nat
  | _, cursor, [] => ok cursor
  | sourceIndex, cursor, span :: rest => do
    ensure (span.isForcedInclusion = true)
      (s!"Shasta derivation source {sourceIndex} must be forced inclusion; " ++ "only the final source may be normal")
    ensure (span.blockCount ≠ 0) s!"forced inclusion source {sourceIndex} must contain at least one block"
    let stop ← ofOption s!"forced inclusion source {sourceIndex} block count overflow"
      (usizeCheckedAdd cursor span.blockCount)
    let anchors ← ofOption s!"source spans cover more blocks than anchor_block_numbers at source {sourceIndex}"
      (sliceGet anchorBlockNumbers cursor stop)
    checkForcedAnchors sourceIndex lastAnchorBlockNumber anchors
    forcedSourcesLoop anchorBlockNumbers lastAnchorBlockNumber (sourceIndex + 1) stop rest

def validateSourceAwareAnchorProgression (anchorBlockNumbers : List UInt64) (sourceSpans : List AnchorSourceSpan)
    (lastAnchorBlockNumber originBlockNumber chainId : UInt64) : Outcome String SourceAwareAnchorPlan := do
  ensure (anchorBlockNumbers ≠ []) "anchor_block_numbers must not be empty"
  let normalSource ← ofOption "source_spans must not be empty" sourceSpans.getLast?
  ensure (normalSource.isForcedInclusion = false) "last Shasta derivation source must be a normal source"
  ensure (normalSource.blockCount ≠ 0) "normal Shasta derivation source must contain at least one block"
  let cursor ← forcedSourcesLoop anchorBlockNumbers lastAnchorBlockNumber 0 0 sourceSpans.dropLast
  let stop ← ofOption "normal Shasta derivation source block count overflow"
    (usizeCheckedAdd cursor normalSource.blockCount)
  let count := anchorBlockNumbers.length
  ensure (stop = count) s!"source spans cover {stop} blocks but anchor_block_numbers has {count}"
  validateAnchorProgression ((anchorBlockNumbers.drop cursor).take (stop - cursor)) lastAnchorBlockNumber
    originBlockNumber chainId
  return { l1HeaderAnchorStartIndex := cursor, requiresParentCheckpoint := decide (cursor > 0) }

section Specs

variable {last origin chainId : UInt64} {numbers : List UInt64}

theorem shouldBypassStalledAnchorLinkage_iff :
    shouldBypassStalledAnchorLinkage numbers last origin chainId = true ↔
      numbers ≠ [] ∧ (∀ n ∈ numbers, n = last) ∧
        (anchorMaxOffsetForChain chainId).toNat < origin.toNat - last.toNat := by
  cases numbers with
  | nil => simp [shouldBypassStalledAnchorLinkage]
  | cons first rest =>
    simp only [shouldBypassStalledAnchorLinkage, head?_cons, Bool.and_eq_true, beq_iff_eq, decide_eq_true_eq,
      all_eq_true, gt_iff_lt, UInt64.lt_iff_toNat_lt, U64.toNat_saturatingSub]
    constructor
    · rintro ⟨⟨rfl, hFar⟩, hAll⟩
      exact ⟨by simp, hAll, hFar⟩
    · rintro ⟨-, hAll, hFar⟩
      obtain rfl := hAll first (by simp)
      exact ⟨⟨rfl, hFar⟩, hAll⟩

def InAnchorWindow (last origin chainId n : UInt64) : Prop :=
  last ≤ n ∧ origin.toNat - (anchorMaxOffsetForChain chainId).toNat ≤ n.toNat ∧ n ≤ origin

theorem checkNotRegressed_eq_ok_iff {n : UInt64} {previous : Option UInt64} {u : Unit} :
    checkNotRegressed n previous = ok u ↔ ∀ m ∈ previous, m ≤ n := by
  cases previous <;> simp [checkNotRegressed]

theorem anchorProgressionLoop_eq_ok_iff {previous : Option UInt64} {u : Unit} :
    anchorProgressionLoop last origin (U64.saturatingSub origin (anchorMaxOffsetForChain chainId)) previous numbers =
        ok u ↔
      (∀ n ∈ numbers, InAnchorWindow last origin chainId n) ∧ (previous.toList ++ numbers).IsChain (· ≤ ·) := by
  induction numbers generalizing previous with
  | nil => cases previous <;> simp [anchorProgressionLoop]
  | cons n rest ih =>
    have hWindow : InAnchorWindow last origin chainId n ↔ ¬n < last ∧
        ¬(n < U64.saturatingSub origin (anchorMaxOffsetForChain chainId) ∨ n > origin) := by
      simp only [InAnchorWindow, gt_iff_lt, UInt64.lt_iff_toNat_lt, UInt64.le_iff_toNat_le, U64.toNat_saturatingSub]
      omega
    have hChain : (previous.toList ++ n :: rest).IsChain (· ≤ ·) ↔
        (∀ m ∈ previous, m ≤ n) ∧ (n :: rest).IsChain (· ≤ ·) := by
      cases previous <;> simp
    simp only [anchorProgressionLoop, unit_bind_eq_ok_iff, ensure_eq_ok_iff, checkNotRegressed_eq_ok_iff, ih,
      mem_cons, forall_eq_or_imp, hWindow, hChain, Option.toList_some, cons_append, nil_append]
    tauto

theorem validateAnchorProgression_eq_ok_iff {u : Unit} :
    validateAnchorProgression numbers last origin chainId = ok u ↔
      numbers ≠ [] ∧ (∀ n ∈ numbers, InAnchorWindow last origin chainId n) ∧ numbers.IsChain (· ≤ ·) := by
  cases numbers with
  | nil => simp [validateAnchorProgression]
  | cons n rest =>
    rw [validateAnchorProgression, isEmpty_cons, if_neg Bool.false_ne_true, anchorProgressionLoop_eq_ok_iff]
    simp

theorem checkForcedAnchors_eq_ok_iff {sourceIndex : Nat} {u : Unit} :
    checkForcedAnchors sourceIndex last numbers = ok u ↔ ∀ n ∈ numbers, n = last := by
  induction numbers with
  | nil => simp [checkForcedAnchors]
  | cons n rest ih =>
    rw [checkForcedAnchors]
    split <;> rename_i h
    · simp [h]
    · simp [ih, not_not.mp h]

theorem sliceGet_eq_some_iff {α : Type} {xs ys : List α} {start stop : Nat} :
    sliceGet xs start stop = some ys ↔
      start ≤ stop ∧ stop ≤ xs.length ∧ ys = (xs.drop start).take (stop - start) := by
  rw [sliceGet]
  split <;> rename_i h
  · simp [h, eq_comm]
  · simp only [reduceCtorEq, false_iff]
    rintro ⟨hStart, hStop, -⟩
    exact h ⟨hStart, hStop⟩

theorem usizeCheckedAdd_eq_some_iff {a b c : Nat} : usizeCheckedAdd a b = some c ↔ a + b ≤ usizeMax ∧ c = a + b := by
  rw [usizeCheckedAdd]
  split <;> simp_all [eq_comm]

def spanBlocks (spans : List AnchorSourceSpan) : Nat := (spans.map (·.blockCount)).sum

@[simp] theorem spanBlocks_cons (span : AnchorSourceSpan) (spans : List AnchorSourceSpan) :
    spanBlocks (span :: spans) = span.blockCount + spanBlocks spans := by
  simp [spanBlocks]

structure ForcedSpansOk (numbers : List UInt64) (last : UInt64) (cursor : Nat) (spans : List AnchorSourceSpan) :
    Prop where
  forced : ∀ span ∈ spans, span.isForcedInclusion = true ∧ span.blockCount ≠ 0
  covered : cursor + spanBlocks spans ≤ numbers.length
  inherited : ∀ n ∈ (numbers.drop cursor).take (spanBlocks spans), n = last

theorem forcedSpansOk_cons_iff {cursor : Nat} {span : AnchorSourceSpan} {spans : List AnchorSourceSpan} :
    ForcedSpansOk numbers last cursor (span :: spans) ↔
      (span.isForcedInclusion = true ∧ span.blockCount ≠ 0) ∧ cursor + span.blockCount ≤ numbers.length ∧
        (∀ n ∈ (numbers.drop cursor).take span.blockCount, n = last) ∧
        ForcedSpansOk numbers last (cursor + span.blockCount) spans := by
  have hTake : (numbers.drop cursor).take (spanBlocks (span :: spans)) =
      (numbers.drop cursor).take span.blockCount ++
        (numbers.drop (cursor + span.blockCount)).take (spanBlocks spans) := by
    rw [spanBlocks_cons, take_add, drop_drop]
  constructor
  · rintro ⟨hForced, hCovered, hInherited⟩
    rw [spanBlocks_cons] at hCovered
    rw [hTake] at hInherited
    exact ⟨hForced span (by simp), by omega, fun n hn => hInherited n (mem_append_left _ hn),
      fun s hs => hForced s (by simp [hs]), by omega, fun n hn => hInherited n (mem_append_right _ hn)⟩
  · rintro ⟨hSpan, hHere, hAnchors, hForced, hCovered, hInherited⟩
    refine ⟨?_, by rw [spanBlocks_cons]; omega, ?_⟩
    · intro s hs
      rcases mem_cons.mp hs with rfl | hs
      · exact hSpan
      · exact hForced s hs
    · rw [hTake]
      intro n hn
      rcases mem_append.mp hn with hn | hn
      · exact hAnchors n hn
      · exact hInherited n hn

theorem forcedSourcesLoop_eq_ok_iff (hLength : numbers.length ≤ usizeMax) {sourceIndex cursor stop : Nat}
    {spans : List AnchorSourceSpan} (hCursor : cursor ≤ numbers.length) :
    forcedSourcesLoop numbers last sourceIndex cursor spans = ok stop ↔
      ForcedSpansOk numbers last cursor spans ∧ stop = cursor + spanBlocks spans := by
  induction spans generalizing sourceIndex cursor with
  | nil =>
    have hOk : ForcedSpansOk numbers last cursor [] := ⟨by simp, by simpa [spanBlocks] using hCursor, by simp [spanBlocks]⟩
    simp [forcedSourcesLoop, hOk, spanBlocks, eq_comm]
  | cons span spans ih =>
    simp only [forcedSourcesLoop, unit_bind_eq_ok_iff, ensure_eq_ok_iff]
    simp only [bind_eq_ok_iff, ofOption_eq_ok_iff, usizeCheckedAdd_eq_some_iff, sliceGet_eq_some_iff,
      forcedSpansOk_cons_iff, spanBlocks_cons]
    constructor
    · rintro ⟨hForced, hCount, _, ⟨-, rfl⟩, _, ⟨-, hWithin, rfl⟩, _, hAnchors, hRest⟩
      obtain ⟨hTail, rfl⟩ := (ih hWithin).mp hRest
      rw [checkForcedAnchors_eq_ok_iff, Nat.add_sub_cancel_left] at hAnchors
      exact ⟨⟨⟨hForced, hCount⟩, hWithin, hAnchors, hTail⟩, by omega⟩
    · rintro ⟨⟨⟨hForced, hCount⟩, hWithin, hAnchors, hTail⟩, rfl⟩
      refine ⟨hForced, hCount, _, ⟨hWithin.trans hLength, rfl⟩, _, ⟨by omega, hWithin, rfl⟩, (), ?_, ?_⟩
      · rw [checkForcedAnchors_eq_ok_iff, Nat.add_sub_cancel_left]
        exact hAnchors
      · exact (ih hWithin).mpr ⟨hTail, by omega⟩

theorem validateSourceAwareAnchorProgression_eq_ok_iff (hLength : numbers.length ≤ usizeMax)
    {forced : List AnchorSourceSpan} {normal : AnchorSourceSpan} {plan : SourceAwareAnchorPlan} :
    validateSourceAwareAnchorProgression numbers (forced ++ [normal]) last origin chainId = ok plan ↔
      normal.isForcedInclusion = false ∧ normal.blockCount ≠ 0 ∧ ForcedSpansOk numbers last 0 forced ∧
        spanBlocks forced + normal.blockCount = numbers.length ∧
        validateAnchorProgression (numbers.drop (spanBlocks forced)) last origin chainId = ok () ∧
        plan = ⟨spanBlocks forced, decide (spanBlocks forced > 0)⟩ := by
  have hTake : spanBlocks forced + normal.blockCount = numbers.length →
      (numbers.drop (spanBlocks forced)).take (spanBlocks forced + normal.blockCount - spanBlocks forced) =
        numbers.drop (spanBlocks forced) := by
    intro hCount
    rw [take_of_length_le]
    rw [length_drop]
    omega
  simp only [validateSourceAwareAnchorProgression, unit_bind_eq_ok_iff, ensure_eq_ok_iff, getLast?_concat,
    ofOption_some, ok_bind, dropLast_concat]
  simp only [bind_eq_ok_iff, ofOption_eq_ok_iff, usizeCheckedAdd_eq_some_iff, forcedSourcesLoop_eq_ok_iff hLength (Nat.zero_le _), Nat.zero_add, pure_eq_ok,
    Outcome.ok.injEq]
  constructor
  · rintro ⟨-, hNormal, hCount, _, ⟨hForced, rfl⟩, _, ⟨-, rfl⟩, _, hTotal, _, hProgress, rfl⟩
    rw [ensure_eq_ok_iff] at hTotal
    rw [hTake hTotal] at hProgress
    exact ⟨hNormal, hCount, hForced, hTotal, hProgress, rfl⟩
  · rintro ⟨hNormal, hCount, hForced, hTotal, hProgress, rfl⟩
    have hNumbers : numbers ≠ [] := by
      rintro rfl
      simp only [length_nil] at hTotal
      omega
    refine ⟨hNumbers, hNormal, hCount, _, ⟨hForced, rfl⟩, _, ⟨hTotal.le.trans hLength, rfl⟩, (),
      ensure_of_pos hTotal, (), ?_, rfl⟩
    rw [hTake hTotal]
    exact hProgress

theorem validateSourceAwareAnchorProgression_nil (plan : SourceAwareAnchorPlan) :
    validateSourceAwareAnchorProgression numbers [] last origin chainId ≠ ok plan := by
  intro h
  simp only [validateSourceAwareAnchorProgression, unit_bind_eq_ok_iff] at h
  obtain ⟨_, h⟩ := h
  cases h

end Specs

end Raiko2
