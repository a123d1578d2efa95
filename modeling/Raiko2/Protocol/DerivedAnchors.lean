import Raiko2.Protocol.DerivedChain

/-!
# Derived anchors pass the anchor check

Derivation and the anchor check are written separately and follow different rules: derivation replaces an
invalid manifest by the default one, the check only accepts or rejects. Whatever fallback derivation takes,
the anchors it produces are accepted, or the stalled-anchor bypass applies to them.
-/

namespace Raiko2

open Lib Lib.Outcome List

section Source

variable {T : TaikoProtocol} {metadata : ProposalMetadata} {forkTimestamp : UInt64} {source : DerivationSource}
  {dataSource : Option InputDataSource} {parent : ParentBlockContext} {maxBlocks : Nat}
  {manifest : DerivationSourceManifest} {blocks : List BlockManifest}

theorem length_inheritBlocks {input : InheritedMetadataInput} {gasLimit parentTs : UInt64} :
    (inheritBlocks T input gasLimit parentTs blocks).length = blocks.length := by
  induction blocks generalizing parentTs with
  | nil => rfl
  | cons block rest ih => simp [inheritBlocks, ih]

theorem anchor_of_mem_inheritBlocks {input : InheritedMetadataInput} {gasLimit parentTs : UInt64}
    {block : BlockManifest} (h : block ∈ inheritBlocks T input gasLimit parentTs blocks) :
    block.anchorBlockNumber = input.anchorBlockNumber := by
  induction blocks generalizing parentTs with
  | nil => cases h
  | cons first rest ih =>
    rcases mem_cons.mp h with rfl | h
    · rfl
    · exact ih h

theorem length_of_manifestIsDefault (h : manifestIsDefault manifest = true) : manifest.blocks.length = 1 := by
  rw [manifestIsDefault] at h
  split at h
  · rename_i hBlocks
    rw [hBlocks]
    rfl
  · cases h

theorem sourceManifest_forced (hForced : source.isForcedInclusion = true)
    (hDefault : manifestIsDefault T.defaultManifest = true)
    (h : sourceManifest T source dataSource maxBlocks = ok manifest) : manifest.blocks.length = 1 := by
  rw [sourceManifest, bind_eq_ok_iff] at h
  obtain ⟨decoded, -, h⟩ := h
  simp only [hForced, Bool.true_and, bne_iff_ne, ne_eq, ite_not, pure_eq_ok, Outcome.ok.injEq] at h
  split at h
  · rw [← h]
    assumption
  · rw [← h]
    exact length_of_manifestIsDefault hDefault

theorem prepareSourceManifest_forced (hForced : source.isForcedInclusion = true)
    (hDefault : manifestIsDefault T.defaultManifest = true)
    (h : prepareSourceManifestWithMaxBlocks T source dataSource parent metadata forkTimestamp maxBlocks = ok manifest) :
    ∃ block, manifest.blocks = [block] ∧ block.anchorBlockNumber = parent.anchorBlockNumber := by
  rcases prepareSourceManifest_cases h with ⟨base, rfl, hBase⟩ | ⟨hNormal, -⟩
  · have hLength : base.blocks.length = 1 := by
      rcases hBase with rfl | ⟨hSource, -⟩
      · exact length_of_manifestIsDefault hDefault
      · exact sourceManifest_forced hForced hDefault hSource
    obtain ⟨block, hBlock⟩ := length_eq_one_iff.mp ((length_inheritBlocks (T := T)).trans hLength)
    refine ⟨block, hBlock, ?_⟩
    exact anchor_of_mem_inheritBlocks (hBlock ▸ mem_singleton_self block)
  · rw [hForced] at hNormal
    cases hNormal

theorem anchorNumbersLoop_eq_some {origin maxOffset parentAnchor highest result : UInt64}
    (h : anchorNumbersLoop origin maxOffset parentAnchor highest blocks = some result) :
    (parentAnchor :: blocks.map (·.anchorBlockNumber)).IsChain (· ≤ ·) ∧
      ∀ block ∈ blocks, parentAnchor ≤ block.anchorBlockNumber ∧ block.anchorBlockNumber ≤ origin ∧
        origin.toNat - maxOffset.toNat ≤ block.anchorBlockNumber.toNat := by
  induction blocks generalizing parentAnchor highest with
  | nil => simp
  | cons block rest ih =>
    obtain ⟨hParent, hOrigin, hOffset, highest', hRest⟩ := anchorNumbersLoop_cons h
    obtain ⟨hChain, hWindow⟩ := ih hRest
    refine ⟨isChain_cons_cons.mpr ⟨hParent, hChain⟩, ?_⟩
    intro other hOther
    rcases mem_cons.mp hOther with rfl | hOther
    · exact ⟨hParent, hOrigin, hOffset⟩
    · obtain ⟨hLower, hRange⟩ := hWindow other hOther
      exact ⟨UInt64.le_trans hParent hLower, hRange⟩

theorem prepareSourceManifest_normal (hNormal : source.isForcedInclusion = false)
    (hDefault : manifestIsDefault T.defaultManifest = true)
    (hOffset : T.maxAnchorOffsetForChain metadata.chainId = anchorMaxOffsetForChain metadata.chainId)
    (h : prepareSourceManifestWithMaxBlocks T source dataSource parent metadata forkTimestamp maxBlocks = ok manifest) :
    manifest.blocks ≠ [] ∧
      ((∀ block ∈ manifest.blocks, block.anchorBlockNumber = parent.anchorBlockNumber) ∨
        validateAnchorProgression (manifest.blocks.map (·.anchorBlockNumber)) parent.anchorBlockNumber
          metadata.originBlockNumber metadata.chainId = ok ()) := by
  rcases prepareSourceManifest_cases h with ⟨base, rfl, hBase⟩ | ⟨-, hValid⟩
  · have hLength : base.blocks.length = 1 := by
      rcases hBase with rfl | ⟨-, hBase⟩
      · exact length_of_manifestIsDefault hDefault
      · rw [hNormal, Bool.false_or] at hBase
        exact length_of_manifestIsDefault hBase
    refine ⟨ne_nil_of_length_pos ?_, Or.inl fun block hBlock => anchor_of_mem_inheritBlocks hBlock⟩
    rw [applyInheritedMetadata, length_inheritBlocks, hLength]
    omega
  · obtain ⟨hBlocks, -, hAnchors, -⟩ := validateSourceManifest_eq_ok_iff.mp hValid
    refine ⟨hBlocks, Or.inr ?_⟩
    rw [validateAnchorNumbers] at hAnchors
    split at hAnchors
    · cases hAnchors
    rename_i hLoop
    obtain ⟨hChain, hWindow⟩ := anchorNumbersLoop_eq_some hLoop
    refine validateAnchorProgression_eq_ok_iff.mpr ⟨by simpa using hBlocks, ?_, hChain.tail⟩
    rintro n hn
    obtain ⟨block, hBlock, rfl⟩ := mem_map.mp hn
    obtain ⟨hLower, hUpper, hNear⟩ := hWindow block hBlock
    have hNear' : metadata.originBlockNumber.toNat - (anchorMaxOffsetForChain metadata.chainId).toNat ≤
        block.anchorBlockNumber.toNat := hOffset ▸ hNear
    exact ⟨hLower, hNear', hUpper⟩

end Source

section Proposal

variable {ε : Type} {T : TaikoProtocol} {anchorGas : UInt64} {fail : Nat → SourceDerivationError → ε}
  {metadata : ProposalMetadata} {forkTimestamp : UInt64} {dataSources : List InputDataSource} {sourceIndex : Nat}
  {parent : ParentBlockContext} {blocks : List BlockManifest} {spans : List AnchorSourceSpan}

/-- The blocks of the forced sources, which keep the parent anchor, followed by those of the normal source. -/
structure ForcedThenNormal (metadata : ProposalMetadata) (anchor : UInt64) (forcedBlocks normalBlocks : List BlockManifest)
    (forcedSpans : List AnchorSourceSpan) : Prop where
  forced : ∀ span ∈ forcedSpans, span.isForcedInclusion = true ∧ span.blockCount ≠ 0
  covered : spanBlocks forcedSpans = forcedBlocks.length
  inherited : ∀ block ∈ forcedBlocks, block.anchorBlockNumber = anchor
  nonempty : normalBlocks ≠ []
  normal : (∀ block ∈ normalBlocks, block.anchorBlockNumber = anchor) ∨
    validateAnchorProgression (normalBlocks.map (·.anchorBlockNumber)) anchor metadata.originBlockNumber
      metadata.chainId = ok ()

theorem deriveSources_forcedThenNormal (hDefault : manifestIsDefault T.defaultManifest = true)
    (hOffset : T.maxAnchorOffsetForChain metadata.chainId = anchorMaxOffsetForChain metadata.chainId)
    {forced : List DerivationSource} {normal : DerivationSource}
    (hForced : ∀ source ∈ forced, source.isForcedInclusion = true) (hNormal : normal.isForcedInclusion = false)
    (h : deriveSources T anchorGas fail metadata forkTimestamp dataSources sourceIndex parent (forced ++ [normal]) =
      ok (blocks, spans)) :
    ∃ forcedBlocks normalBlocks forcedSpans, blocks = forcedBlocks ++ normalBlocks ∧
      spans = forcedSpans ++ [⟨false, normalBlocks.length⟩] ∧ forcedSpans.length = forced.length ∧
      ForcedThenNormal metadata parent.anchorBlockNumber forcedBlocks normalBlocks forcedSpans := by
  induction forced generalizing sourceIndex parent blocks spans with
  | nil =>
    obtain ⟨manifest, restBlocks, restSpans, hManifest, hRest, rfl, rfl⟩ := deriveSources_cons h
    cases hRest
    obtain ⟨hBlocks, hAnchors⟩ := prepareSourceManifest_normal hNormal hDefault hOffset hManifest
    refine ⟨[], manifest.blocks, [], by simp, by simp [hNormal], rfl, ?_⟩
    exact ⟨by simp, rfl, by simp, hBlocks, hAnchors⟩
  | cons source forced ih =>
    obtain ⟨manifest, restBlocks, restSpans, hManifest, hRest, rfl, rfl⟩ := deriveSources_cons h
    have hSource := hForced source (by simp)
    obtain ⟨block, hBlock, hAnchor⟩ := prepareSourceManifest_forced hSource hDefault hManifest
    obtain ⟨forcedBlocks, normalBlocks, forcedSpans, rfl, rfl, hCount, hSplit⟩ :=
      ih (fun s hs => hForced s (by simp [hs])) hRest
    have hNext : (manifest.blocks.foldl (nextParent anchorGas) parent).anchorBlockNumber = parent.anchorBlockNumber := by
      simp [hBlock, nextParent, hAnchor]
    rw [hNext] at hSplit
    refine ⟨block :: forcedBlocks, normalBlocks, ⟨true, 1⟩ :: forcedSpans, by simp [hBlock], by simp [hSource, hBlock],
      by simp [hCount], ?_⟩
    exact ⟨by simpa using hSplit.forced, by simp [hSplit.covered, Nat.add_comm], by simpa [hAnchor] using hSplit.inherited,
      hSplit.nonempty, hSplit.normal⟩

theorem validateAnchorProgression_of_eq {anchor origin chainId : UInt64} {numbers : List UInt64}
    (hNumbers : numbers ≠ []) (hEq : ∀ n ∈ numbers, n = anchor) (hOrigin : anchor ≤ origin)
    (hNear : origin.toNat - anchor.toNat ≤ (anchorMaxOffsetForChain chainId).toNat) :
    validateAnchorProgression numbers anchor origin chainId = ok () := by
  refine validateAnchorProgression_eq_ok_iff.mpr ⟨hNumbers, ?_, ?_⟩
  · intro n hn
    rw [hEq n hn]
    exact ⟨UInt64.le_refl _, by omega, hOrigin⟩
  · rw [eq_replicate_of_mem hEq]
    exact isChain_replicate_of_rel _ (UInt64.le_refl _)

theorem ForcedThenNormal.accepted {anchor : UInt64} {forcedBlocks normalBlocks : List BlockManifest}
    {forcedSpans : List AnchorSourceSpan}
    (h : ForcedThenNormal metadata anchor forcedBlocks normalBlocks forcedSpans)
    (hLength : (forcedBlocks ++ normalBlocks).length ≤ usizeMax)
    (hProgress : validateAnchorProgression (normalBlocks.map (·.anchorBlockNumber)) anchor metadata.originBlockNumber
      metadata.chainId = ok ()) :
    validateSourceAwareAnchorProgression ((forcedBlocks ++ normalBlocks).map (·.anchorBlockNumber))
        (forcedSpans ++ [⟨false, normalBlocks.length⟩]) anchor metadata.originBlockNumber metadata.chainId =
      ok ⟨spanBlocks forcedSpans, decide (spanBlocks forcedSpans > 0)⟩ := by
  have hDrop : ((forcedBlocks ++ normalBlocks).map (·.anchorBlockNumber)).drop (spanBlocks forcedSpans) =
      normalBlocks.map (·.anchorBlockNumber) := by
    rw [h.covered, map_append, drop_left' (length_map _)]
  have hTake : ((forcedBlocks ++ normalBlocks).map (·.anchorBlockNumber)).take (spanBlocks forcedSpans) =
      forcedBlocks.map (·.anchorBlockNumber) := by
    rw [h.covered, map_append, take_left' (length_map _)]
  refine (validateSourceAwareAnchorProgression_eq_ok_iff (by simpa using hLength)).mpr
    ⟨rfl, by simpa using h.nonempty, ⟨h.forced, by simp [h.covered], ?_⟩, by simp [h.covered], ?_, rfl⟩
  · rw [drop_zero, hTake]
    simpa using h.inherited
  · rwa [hDrop]

/-- Anchors derived from forced sources followed by one normal source pass the anchor check of the guest,
or fall under the bypass for a stalled anchor. -/
theorem derived_anchors_bypassed_or_accepted (hDefault : manifestIsDefault T.defaultManifest = true)
    (hOffset : ∀ chainId, T.maxAnchorOffsetForChain chainId = anchorMaxOffsetForChain chainId)
    {forced : List DerivationSource} {normal : DerivationSource}
    (hForced : ∀ source ∈ forced, source.isForcedInclusion = true) (hNormal : normal.isForcedInclusion = false)
    (hParent : parent.anchorBlockNumber ≤ metadata.originBlockNumber) (hLength : blocks.length ≤ usizeMax)
    (h : deriveSources T anchorGas fail metadata forkTimestamp dataSources 0 parent (forced ++ [normal]) =
      ok (blocks, spans)) :
    shouldBypassStalledAnchorLinkage (blocks.map (·.anchorBlockNumber)) parent.anchorBlockNumber
        metadata.originBlockNumber metadata.chainId = true ∨
      ∃ plan, validateSourceAwareAnchorProgression (blocks.map (·.anchorBlockNumber)) spans parent.anchorBlockNumber
          metadata.originBlockNumber metadata.chainId = ok plan ∧
        plan.l1HeaderAnchorStartIndex = spanBlocks (spans.take forced.length) := by
  obtain ⟨forcedBlocks, normalBlocks, forcedSpans, rfl, rfl, hCount, hSplit⟩ :=
    deriveSources_forcedThenNormal hDefault (hOffset metadata.chainId) hForced hNormal h
  by_cases hBypass : shouldBypassStalledAnchorLinkage ((forcedBlocks ++ normalBlocks).map (·.anchorBlockNumber))
      parent.anchorBlockNumber metadata.originBlockNumber metadata.chainId = true
  · exact Or.inl hBypass
  refine Or.inr ⟨_, hSplit.accepted hLength ?_, by simp [← hCount]⟩
  rcases hSplit.normal with hStalled | hProgress
  · -- All anchors are the parent anchor, so only its distance to the origin can have kept the bypass off.
    have hNear : metadata.originBlockNumber.toNat - parent.anchorBlockNumber.toNat ≤
        (anchorMaxOffsetForChain metadata.chainId).toNat := by
      by_contra hFar
      refine hBypass (shouldBypassStalledAnchorLinkage_iff.mpr ⟨by simp [hSplit.nonempty], ?_, by omega⟩)
      intro n hn
      obtain ⟨block, hBlock, rfl⟩ := mem_map.mp hn
      rcases mem_append.mp hBlock with hBlock | hBlock
      · exact hSplit.inherited block hBlock
      · exact hStalled block hBlock
    exact validateAnchorProgression_of_eq (by simpa using hSplit.nonempty) (by simpa using hStalled) hParent hNear
  · exact hProgress

end Proposal

def sampleProtocol : TaikoProtocol where
  maxBlockGasLimit := 45000000
  minBlockGasLimit := 10000000
  blockGasLimitMaxChange := 200
  gasLimitDenominator := 1000000
  anchorV3V4GasLimit := 1000000
  unzenDerivationSourceMaxBlocks := 192
  bytesPerBlob := 131072
  maxAnchorOffsetForChain := anchorMaxOffsetForChain
  timestampMaxOffsetForChain _ := 1536
  defaultManifest := ⟨[{}]⟩
  decodeBlobs blobs := some blobs
  decompressAndDecodeWithMaxBlocks _ _ _ :=
    some ⟨[{ timestamp := 1010, coinbase := 0x11, anchorBlockNumber := 950, gasLimit := 29000000 }]⟩

def sampleForced : DerivationSource := { isForcedInclusion := true }

def sampleNormal : DerivationSource := { blobSlice := { blobHashes := [0xaa] } }

def sampleMetadata : ProposalMetadata :=
  { proposalTimestamp := 1100, originBlockNumber := 1000, proposer := 0x22, chainId := 167013 }

def sampleParent : ParentBlockContext :=
  { timestamp := 1000, gasLimit := 30000000, blockNumber := 10, anchorBlockNumber := 900 }

def sampleBlocks : List BlockManifest :=
  [{ timestamp := 1001, coinbase := 0x22, anchorBlockNumber := 900, gasLimit := 29000000 },
    { timestamp := 1010, coinbase := 0x11, anchorBlockNumber := 950, gasLimit := 29000000 }]

theorem prepareSourceManifest_sampleNormal {raw : Bytes} (h : raw.length = 131072) :
    prepareSourceManifestWithMaxBlocks sampleProtocol sampleNormal (some { txDataFromBlob := [raw] })
      ((sampleBlocks.take 1).foldl (nextParent 1000000) sampleParent) sampleMetadata 0 192 = ok ⟨sampleBlocks.drop 1⟩ := by
  have hDecoded : decodedManifest sampleProtocol sampleNormal (some { txDataFromBlob := [raw] }) 192 =
      ok ⟨sampleBlocks.drop 1⟩ := by
    simp [decodedManifest, sampleNormal, isSourceOffsetValid, decodeBlobBackedManifest, checkBlobLengths, h,
      sampleProtocol, sampleBlocks]
  rw [prepareSourceManifestWithMaxBlocks, sourceManifest, hDecoded]
  decide +kernel

theorem deriveSources_sample {raw : Bytes} (h : raw.length = 131072) :
    deriveSources sampleProtocol 1000000 (fun _ e => [e.display]) sampleMetadata 0 [{}, { txDataFromBlob := [raw] }] 0
      sampleParent ([sampleForced] ++ [sampleNormal]) = ok (sampleBlocks, [⟨true, 1⟩, ⟨false, 1⟩]) := by
  have hForced : prepareSourceManifestWithMaxBlocks sampleProtocol sampleForced (some {}) sampleParent sampleMetadata 0
      192 = ok ⟨sampleBlocks.take 1⟩ := by decide +kernel
  have hNormal := prepareSourceManifest_sampleNormal h
  simp only [deriveSources, cons_append, nil_append, getElem?_cons_zero, getElem?_cons_succ]
  rw [show sampleProtocol.unzenDerivationSourceMaxBlocks = 192 from rfl, hForced]
  simp only [mapError_ok, ok_bind]
  rw [hNormal]
  rfl

theorem derived_anchors_accepted_sampleBlocks :
    ∃ plan, validateSourceAwareAnchorProgression (sampleBlocks.map (·.anchorBlockNumber)) [⟨true, 1⟩, ⟨false, 1⟩] 900 1000
        167013 = ok plan ∧ plan.l1HeaderAnchorStartIndex = 1 := by
  have hRaw : (replicate 131072 (0 : UInt8)).length = 131072 := length_replicate
  have hAccepted := derived_anchors_bypassed_or_accepted (by decide) (fun _ => rfl) (by decide) rfl (by decide) (by decide)
    (deriveSources_sample hRaw)
  exact hAccepted.resolve_left (by decide +kernel)

end Raiko2
