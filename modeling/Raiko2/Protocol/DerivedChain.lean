import Mathlib.Tactic.Tauto
import Raiko2.Lib.Run
import Raiko2.Protocol.Anchor
import Raiko2.Protocol.Derivation

/-!
# The chain of derived blocks

The loop that derives the sources of a proposal in order, threading the parent context, and the relation between each
derived block and the block before it. The relation is stated on tips: the timestamp, the anchor and the gas limit
without anchor gas of a block.
-/

namespace Raiko2

open Lib Lib.Outcome

def nextParent (anchorGas : UInt64) (parent : ParentBlockContext) (block : BlockManifest) : ParentBlockContext where
  timestamp := block.timestamp
  gasLimit := U64.saturatingAdd block.gasLimit anchorGas
  blockNumber := parent.blockNumber + 1
  anchorBlockNumber := block.anchorBlockNumber

/-- The loop over the derivation sources. The guest and the host differ in the anchor gas they add back to
a derived gas limit and in the error they report. -/
def deriveSources {ε : Type} (T : TaikoProtocol) (anchorGas : UInt64) (fail : Nat → SourceDerivationError → ε)
    (metadata : ProposalMetadata) (forkTimestamp : UInt64) (dataSources : List InputDataSource) :
    Nat → ParentBlockContext → List DerivationSource → Outcome ε (List BlockManifest × List AnchorSourceSpan)
  | _, _, [] => ok ([], [])
  | sourceIndex, parent, source :: rest => do
    let manifest ← (prepareSourceManifestWithMaxBlocks T source dataSources[sourceIndex]? parent metadata
      forkTimestamp T.unzenDerivationSourceMaxBlocks).mapError (fail sourceIndex)
    let (blocks, spans) ← deriveSources T anchorGas fail metadata forkTimestamp dataSources (sourceIndex + 1)
      (manifest.blocks.foldl (nextParent anchorGas) parent) rest
    return (manifest.blocks ++ blocks, ⟨source.isForcedInclusion, manifest.blocks.length⟩ :: spans)

structure Tip where
  timestamp : UInt64
  gasLimit : UInt64
  anchorBlockNumber : UInt64
  deriving DecidableEq

def BlockManifest.tip (block : BlockManifest) : Tip :=
  ⟨block.timestamp, block.gasLimit, block.anchorBlockNumber⟩

variable (T : TaikoProtocol)

def ParentBlockContext.tip (parent : ParentBlockContext) : Tip :=
  ⟨parent.timestamp, effectiveParentGasLimit T parent.blockNumber parent.gasLimit, parent.anchorBlockNumber⟩

def TimeFollows (metadata : ProposalMetadata) (forkTimestamp prev next : UInt64) : Prop :=
  computeTimestampLowerBound T prev metadata.proposalTimestamp forkTimestamp metadata.chainId ≤ next ∧
    (next = computeTimestampLowerBound T prev metadata.proposalTimestamp forkTimestamp metadata.chainId ∨
      next ≤ metadata.proposalTimestamp)

def AnchorFollows (origin prev next : UInt64) : Prop := prev ≤ next ∧ (next = prev ∨ next ≤ origin)

def GasFollows (prev next : UInt64) : Prop :=
  next = prev ∨ (gasLimitBounds T prev).1 ≤ next ∧ next ≤ (gasLimitBounds T prev).2

instance (prev next : UInt64) : Decidable (GasFollows T prev next) :=
  inferInstanceAs (Decidable (next = prev ∨ (gasLimitBounds T prev).1 ≤ next ∧ next ≤ (gasLimitBounds T prev).2))

structure Follows (metadata : ProposalMetadata) (forkTimestamp : UInt64) (prev next : Tip) : Prop where
  time : TimeFollows T metadata forkTimestamp prev.timestamp next.timestamp
  anchor : AnchorFollows metadata.originBlockNumber prev.anchorBlockNumber next.anchorBlockNumber
  gas : GasFollows T prev.gasLimit next.gasLimit

variable {T} {metadata : ProposalMetadata} {forkTimestamp : UInt64} {rest : List BlockManifest} {block : BlockManifest}

theorem inheritBlocks_isChain {parent : ParentBlockContext} {gasLimit parentTs : UInt64}
    {blocks : List BlockManifest} :
    (⟨parentTs, gasLimit, parent.anchorBlockNumber⟩ :: (inheritBlocks T
      (inheritedMetadataInput parent metadata forkTimestamp) gasLimit parentTs blocks).map BlockManifest.tip).IsChain
        (Follows T metadata forkTimestamp) := by
  induction blocks generalizing parentTs with
  | nil => simp [inheritBlocks]
  | cons block rest ih =>
    rw [inheritBlocks, List.map_cons, List.isChain_cons_cons]
    exact ⟨⟨⟨UInt64.le_refl _, Or.inl rfl⟩, ⟨UInt64.le_refl _, Or.inl rfl⟩, Or.inl rfl⟩, ih⟩

theorem validateTimestamps_cons {proposal fork chainId parentTs : UInt64}
    (h : validateTimestamps T proposal fork chainId parentTs (block :: rest) = true) :
    computeTimestampLowerBound T parentTs proposal fork chainId ≤ block.timestamp ∧ block.timestamp ≤ proposal ∧
      validateTimestamps T proposal fork chainId block.timestamp rest = true := by
  rw [validateTimestamps] at h
  split at h
  · cases h
  split at h
  · cases h
  rename_i hRange
  simp only [Bool.or_eq_true, decide_eq_true_eq, not_or, gt_iff_lt, UInt64.not_lt] at hRange
  exact ⟨hRange.1, hRange.2, h⟩

theorem anchorNumbersLoop_cons {origin maxOffset parentAnchor highest result : UInt64}
    (h : anchorNumbersLoop origin maxOffset parentAnchor highest (block :: rest) = some result) :
    parentAnchor ≤ block.anchorBlockNumber ∧ block.anchorBlockNumber ≤ origin ∧
      origin.toNat - maxOffset.toNat ≤ block.anchorBlockNumber.toNat ∧
      ∃ highest', anchorNumbersLoop origin maxOffset block.anchorBlockNumber highest' rest = some result := by
  rw [anchorNumbersLoop] at h
  split at h
  · cases h
  rename_i hRange
  split at h
  · cases h
  rename_i hOffset
  simp only [Bool.or_eq_true, decide_eq_true_eq, not_or, gt_iff_lt, UInt64.not_lt] at hRange
  refine ⟨hRange.1, hRange.2, ?_, _, h⟩
  simp only [Bool.and_eq_true, decide_eq_true_eq, gt_iff_lt, not_and, UInt64.not_lt] at hOffset
  by_cases hFar : maxOffset < origin
  · have hLower := UInt64.le_iff_toNat_le.mp (hOffset hFar)
    rwa [UInt64.toNat_sub_of_le _ _ (UInt64.le_of_lt hFar)] at hLower
  · rw [UInt64.not_lt, UInt64.le_iff_toNat_le] at hFar
    omega

theorem gasLimitLoop_cons {parentGasLimit : UInt64} (h : gasLimitLoop T parentGasLimit (block :: rest) = true) :
    (gasLimitBounds T parentGasLimit).1 ≤ block.gasLimit ∧ block.gasLimit ≤ (gasLimitBounds T parentGasLimit).2 ∧
      gasLimitLoop T block.gasLimit rest = true := by
  simp only [gasLimitLoop] at h
  split at h
  · cases h
  rename_i hRange
  simp only [Bool.or_eq_true, decide_eq_true_eq, not_or, gt_iff_lt, UInt64.not_lt] at hRange
  exact ⟨hRange.1, hRange.2, h⟩

theorem validated_isChain {maxOffset parentTs gasLimit parentAnchor highest result : UInt64}
    {blocks : List BlockManifest}
    (hTimestamps : validateTimestamps T metadata.proposalTimestamp forkTimestamp metadata.chainId parentTs blocks = true)
    (hAnchors : anchorNumbersLoop metadata.originBlockNumber maxOffset parentAnchor highest blocks = some result)
    (hGas : gasLimitLoop T gasLimit blocks = true) :
    (⟨parentTs, gasLimit, parentAnchor⟩ :: blocks.map BlockManifest.tip).IsChain (Follows T metadata forkTimestamp) := by
  induction blocks generalizing parentTs gasLimit parentAnchor highest with
  | nil => simp
  | cons block rest ih =>
    obtain ⟨hLower, hUpper, hTimestamps⟩ := validateTimestamps_cons hTimestamps
    obtain ⟨hAnchor, hOrigin, -, highest', hAnchors⟩ := anchorNumbersLoop_cons hAnchors
    obtain ⟨hGasLower, hGasUpper, hGas⟩ := gasLimitLoop_cons hGas
    rw [List.map_cons, List.isChain_cons_cons]
    exact ⟨⟨⟨hLower, Or.inr hUpper⟩, ⟨hAnchor, Or.inr hOrigin⟩, Or.inr ⟨hGasLower, hGasUpper⟩⟩,
      ih hTimestamps hAnchors hGas⟩

theorem validateSourceManifest_eq_ok_iff {manifest : DerivationSourceManifest} {ctx : ValidationContext} {u : Unit} :
    validateSourceManifest T manifest ctx = ok u ↔ manifest.blocks ≠ [] ∧
      validateTimestamps T ctx.proposalTimestamp ctx.forkTimestamp ctx.chainId ctx.parentTimestamp manifest.blocks = true ∧
      validateAnchorNumbers T manifest ctx.originBlockNumber ctx.parentAnchorBlockNumber ctx.isForcedInclusion
        ctx.chainId = true ∧
      validateGasLimit T manifest ctx.parentBlockNumber ctx.parentGasLimit = true := by
  rw [validateSourceManifest]
  split
  · simp_all
  split
  · rename_i hInvalid
    simp only [reduceCtorEq, false_iff, not_and]
    simp only [Bool.or_eq_true, Bool.not_eq_true'] at hInvalid
    intro _ hTimestamps hAnchors hGas
    simp [hTimestamps, hAnchors, hGas] at hInvalid
  · simp_all

section Prepare

variable {source : DerivationSource} {dataSource : Option InputDataSource} {parent : ParentBlockContext}
  {maxBlocks : Nat} {manifest : DerivationSourceManifest}

theorem prepareSourceManifest_cases
    (h : prepareSourceManifestWithMaxBlocks T source dataSource parent metadata forkTimestamp maxBlocks = ok manifest) :
    (∃ base, manifest = applyInheritedMetadata T base (inheritedMetadataInput parent metadata forkTimestamp) ∧
      (base = T.defaultManifest ∨ sourceManifest T source dataSource maxBlocks = ok base ∧
        (source.isForcedInclusion || manifestIsDefault base) = true)) ∨
    (source.isForcedInclusion = false ∧
      validateSourceManifest T manifest (validationContext source parent metadata forkTimestamp) = ok ()) := by
  rw [prepareSourceManifestWithMaxBlocks, bind_eq_ok_iff] at h
  obtain ⟨base, hBase, h⟩ := h
  simp only at h
  split at h
  · rename_i hValid
    cases h
    split
    · rename_i hInherit
      exact Or.inl ⟨base, rfl, Or.inr ⟨hBase, hInherit⟩⟩
    · rename_i hDecoded
      simp only [Bool.or_eq_true, not_or, Bool.not_eq_true] at hDecoded
      rw [if_neg (by simp [hDecoded])] at hValid
      exact Or.inr ⟨hDecoded.1, hValid⟩
  · cases h
    exact Or.inl ⟨T.defaultManifest, rfl, Or.inl rfl⟩

theorem isChain_of_prepareSourceManifest
    (h : prepareSourceManifestWithMaxBlocks T source dataSource parent metadata forkTimestamp maxBlocks = ok manifest) :
    (parent.tip T :: manifest.blocks.map BlockManifest.tip).IsChain (Follows T metadata forkTimestamp) := by
  rcases prepareSourceManifest_cases h with ⟨base, rfl, -⟩ | ⟨-, hValid⟩
  · exact inheritBlocks_isChain
  · obtain ⟨-, hTimestamps, hAnchors, hGas⟩ := validateSourceManifest_eq_ok_iff.mp hValid
    rw [validateAnchorNumbers] at hAnchors
    split at hAnchors
    · cases hAnchors
    · exact validated_isChain hTimestamps (by assumption) hGas

end Prepare

section Sources

variable {ε β : Type} {anchorGas : UInt64} {fail : Nat → SourceDerivationError → ε} {dataSources : List InputDataSource}
  {sourceIndex : Nat} {parent : ParentBlockContext} {blocks : List BlockManifest} {spans : List AnchorSourceSpan}

theorem deriveSources_cons {source : DerivationSource} {rest : List DerivationSource}
    (h : deriveSources T anchorGas fail metadata forkTimestamp dataSources sourceIndex parent (source :: rest) =
      ok (blocks, spans)) :
    ∃ manifest restBlocks restSpans,
      prepareSourceManifestWithMaxBlocks T source dataSources[sourceIndex]? parent metadata forkTimestamp
        T.unzenDerivationSourceMaxBlocks = ok manifest ∧
      deriveSources T anchorGas fail metadata forkTimestamp dataSources (sourceIndex + 1)
        (manifest.blocks.foldl (nextParent anchorGas) parent) rest = ok (restBlocks, restSpans) ∧
      blocks = manifest.blocks ++ restBlocks ∧
      spans = ⟨source.isForcedInclusion, manifest.blocks.length⟩ :: restSpans := by
  simp only [deriveSources, bind_eq_ok_iff, mapError_eq_ok_iff] at h
  obtain ⟨manifest, hManifest, ⟨restBlocks, restSpans⟩, hRest, hEq⟩ := h
  cases hEq
  exact ⟨manifest, restBlocks, restSpans, hManifest, hRest, rfl, rfl⟩

/-- Whatever `Follows` says about a view of the tips holds along all sources, provided the context that the
loop passes on to another block shows the same view as the block it was made from. -/
theorem isChain_of_deriveSources {R : β → β → Prop} (view : Tip → β)
    (hFollows : ∀ prev next, Follows T metadata forkTimestamp prev next → R (view prev) (view next))
    {sources : List DerivationSource}
    (h : deriveSources T anchorGas fail metadata forkTimestamp dataSources sourceIndex parent sources =
      ok (blocks, spans))
    (hRun : Run (fun context block => view ((nextParent anchorGas context block).tip T) = view block.tip)
      (nextParent anchorGas) parent blocks.dropLast) :
    (view (parent.tip T) :: blocks.map (fun block => view block.tip)).IsChain R := by
  induction sources generalizing sourceIndex parent blocks spans with
  | nil =>
    cases h
    simp
  | cons source rest ih =>
    obtain ⟨manifest, restBlocks, restSpans, hManifest, hRest, rfl, -⟩ := deriveSources_cons h
    have hFirst := (List.isChain_map view).mpr ((isChain_of_prepareSourceManifest hManifest).imp hFollows)
    rw [List.map_cons, List.map_map] at hFirst
    by_cases hLast : restBlocks = []
    · rw [hLast, List.append_nil]
      exact hFirst
    rw [List.dropLast_append_of_ne_nil hLast] at hRun
    obtain ⟨hHere, hThere⟩ := Run.append.mp hRun
    exact Run.isChain_append (fun context : ParentBlockContext => view (context.tip T)) hHere hFirst (ih hRest hThere)

end Sources

end Raiko2
