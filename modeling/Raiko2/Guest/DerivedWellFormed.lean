import Raiko2.Guest.Derive
import Raiko2.Protocol.PreparedManifest

/-!
# The derived chain is well formed

Timestamps, anchors and gas limits of the derived blocks, as one chain over all sources. The gas limits need two facts
about machine integers: the block number that the loop counts must not wrap before the last block, since block number
zero has no anchor gas to take off, and the anchor gas must fit on top of every derived gas limit but the last.
-/

namespace Raiko2

open Lib Lib.Outcome

variable {T : TaikoProtocol} {metadata : ProposalMetadata} {forkTimestamp : UInt64}

theorem computeTimestampLowerBound_bounds (parentTs proposal fork chainId : UInt64) :
    min (parentTs.toNat + 1) (2 ^ 64 - 1) ≤ (computeTimestampLowerBound T parentTs proposal fork chainId).toNat ∧
      fork.toNat ≤ (computeTimestampLowerBound T parentTs proposal fork chainId).toNat ∧
      (computeTimestampLowerBound T parentTs proposal fork chainId).toNat ≤
        max (parentTs.toNat + 1) (max proposal.toNat fork.toNat) := by
  have hOne : (1 : UInt64).toNat = 1 := rfl
  simp only [computeTimestampLowerBound]
  split
  · rename_i hFar
    have hSub : (proposal - T.timestampMaxOffsetForChain chainId).toNat ≤ proposal.toNat := by
      rw [UInt64.toNat_sub_of_le _ _ (UInt64.le_of_lt hFar)]
      omega
    simp only [U64.toNat_maxOf, U64.toNat_saturatingAdd, hOne]
    omega
  · simp only [U64.toNat_maxOf, U64.toNat_saturatingAdd, hOne]
    omega

theorem timestamps_increase {parentTs : UInt64} {timestamps : List UInt64} {k : Nat}
    (hChain : (parentTs :: timestamps).IsChain (TimeFollows T metadata forkTimestamp))
    (hProposal : metadata.proposalTimestamp.toNat < 2 ^ 63) (hFork : forkTimestamp.toNat < 2 ^ 63)
    (hParent : parentTs.toNat < 2 ^ 63 + k) (hLength : k + timestamps.length < 2 ^ 63) :
    (parentTs :: timestamps).IsChain (· < ·) ∧ ∀ t ∈ timestamps, forkTimestamp ≤ t := by
  induction timestamps generalizing parentTs k with
  | nil => simp
  | cons t rest ih =>
    obtain ⟨⟨hLower, hUpper⟩, hRest⟩ := List.isChain_cons_cons.mp hChain
    rw [List.length_cons] at hLength
    obtain ⟨hNext, hForkLe, hMax⟩ := computeTimestampLowerBound_bounds (T := T) parentTs metadata.proposalTimestamp
      forkTimestamp metadata.chainId
    rw [UInt64.le_iff_toNat_le] at hLower
    have hBound : t.toNat < 2 ^ 63 + (k + 1) := by
      rcases hUpper with rfl | hUpper
      · omega
      · rw [UInt64.le_iff_toNat_le] at hUpper
        omega
    obtain ⟨hIncrease, hForkAll⟩ := ih hRest hBound (by omega)
    refine ⟨List.isChain_cons_cons.mpr ⟨?_, hIncrease⟩, ?_⟩
    · rw [UInt64.lt_iff_toNat_lt]
      omega
    · intro other hOther
      rcases List.mem_cons.mp hOther with rfl | hOther
      · rw [UInt64.le_iff_toNat_le]
        omega
      · exact hForkAll other hOther

theorem anchors_bounded {origin parentAnchor : UInt64} {anchors : List UInt64}
    (hChain : (parentAnchor :: anchors).IsChain (AnchorFollows origin)) :
    ∀ a ∈ anchors, a.toNat ≤ max parentAnchor.toNat origin.toNat := by
  induction anchors generalizing parentAnchor with
  | nil => simp
  | cons a rest ih =>
    obtain ⟨hNext, hRest⟩ := List.isChain_cons_cons.mp hChain
    have hHead : a.toNat ≤ max parentAnchor.toNat origin.toNat := by
      rcases hNext.2 with rfl | hLe
      · omega
      · rw [UInt64.le_iff_toNat_le] at hLe
        omega
    intro other hOther
    rcases List.mem_cons.mp hOther with rfl | hOther
    · exact hHead
    · have hTail := ih hRest other hOther
      omega

theorem gasLimitBounds_range (hMin : T.minBlockGasLimit ≤ T.maxBlockGasLimit)
    (hChange : T.blockGasLimitMaxChange < T.gasLimitDenominator) {gasLimit : UInt64}
    (hLower : T.minBlockGasLimit ≤ gasLimit) :
    T.minBlockGasLimit ≤ (gasLimitBounds T gasLimit).1 ∧ (gasLimitBounds T gasLimit).2 ≤ T.maxBlockGasLimit := by
  have hDenominator : 0 < T.gasLimitDenominator.toNat := by
    rw [UInt64.lt_iff_toNat_lt] at hChange
    omega
  have hReach := le_u128SaturatingMul_div (c := T.blockGasLimitMaxChange.toNat) hDenominator gasLimit.toNat_lt
    T.gasLimitDenominator.toNat_lt
  obtain ⟨hUpper, hLow⟩ := toNat_gasLimitBounds gasLimit (T := T)
  simp only [UInt64.le_iff_toNat_le] at *
  constructor <;> omega

theorem gasLimits_in_range (hMin : T.minBlockGasLimit ≤ T.maxBlockGasLimit)
    (hChange : T.blockGasLimitMaxChange < T.gasLimitDenominator) {parentGas : UInt64} {gasLimits : List UInt64}
    (hChain : (parentGas :: gasLimits).IsChain (GasFollows T))
    (hLower : T.minBlockGasLimit ≤ parentGas) (hUpper : parentGas ≤ T.maxBlockGasLimit) :
    ∀ g ∈ gasLimits, T.minBlockGasLimit ≤ g ∧ g ≤ T.maxBlockGasLimit := by
  induction gasLimits generalizing parentGas with
  | nil => simp
  | cons g rest ih =>
    obtain ⟨hNext, hRest⟩ := List.isChain_cons_cons.mp hChain
    have hHead : T.minBlockGasLimit ≤ g ∧ g ≤ T.maxBlockGasLimit := by
      rcases hNext with rfl | ⟨hGe, hLe⟩
      · exact ⟨hLower, hUpper⟩
      · obtain ⟨hBoundLower, hBoundUpper⟩ := gasLimitBounds_range hMin hChange hLower
        exact ⟨UInt64.le_trans hBoundLower hGe, UInt64.le_trans hLe hBoundUpper⟩
    intro other hOther
    rcases List.mem_cons.mp hOther with rfl | hOther
    · exact hHead
    · exact ih hRest hHead.1 hHead.2 other hOther

theorem effectiveParentGasLimit_nextParent {anchorGas : UInt64} (hGas : T.anchorV3V4GasLimit = anchorGas)
    {context : ParentBlockContext} {block : BlockManifest} (hNumber : context.blockNumber.toNat + 1 < 2 ^ 64)
    (hFits : block.gasLimit.toNat + anchorGas.toNat < 2 ^ 64) :
    ((nextParent anchorGas context block).tip T).gasLimit = block.gasLimit := by
  have hOne : (1 : UInt64).toNat = 1 := rfl
  have hNonzero : context.blockNumber + 1 ≠ 0 := by
    rw [ne_eq, ← UInt64.toNat_inj, U64.toNat_add_of_lt (by rw [hOne]; exact hNumber)]
    simp
  simp only [ParentBlockContext.tip, nextParent, effectiveParentGasLimit, hNonzero, if_false, hGas, ← UInt64.toNat_inj,
    U64.toNat_saturatingSub, U64.toNat_saturatingAdd]
  omega

theorem run_gasLimit {anchorGas : UInt64} (hGas : T.anchorV3V4GasLimit = anchorGas) {parent : ParentBlockContext}
    {blocks : List BlockManifest} (hNumber : parent.blockNumber.toNat + blocks.length < 2 ^ 64)
    (hFits : ∀ block ∈ blocks, block.gasLimit.toNat + anchorGas.toNat < 2 ^ 64) :
    Run (fun context block => ((nextParent anchorGas context block).tip T).gasLimit = block.tip.gasLimit)
      (nextParent anchorGas) parent blocks := by
  have hOne : (1 : UInt64).toNat = 1 := rfl
  refine Run.of_invariant (fun context rest => context.blockNumber.toNat + rest.length < 2 ^ 64 ∧
    ∀ block ∈ rest, block.gasLimit.toNat + anchorGas.toNat < 2 ^ 64) ⟨hNumber, hFits⟩ ?_
  rintro context block rest ⟨hNumber, hFits⟩
  rw [List.length_cons] at hNumber
  refine ⟨effectiveParentGasLimit_nextParent hGas (by omega) (hFits block (by simp)), ?_, ?_⟩
  · simp only [nextParent]
    rw [U64.toNat_add_of_lt (by rw [hOne]; omega), hOne]
    omega
  · exact fun other hOther => hFits other (by simp [hOther])

structure DerivedTimesOk (origin forkTimestamp parentAnchor : UInt64) (header : Header) (blocks : List BlockManifest) :
    Prop where
  timestamps : (header.timestamp :: blocks.map (·.timestamp)).IsChain (· < ·)
  fork : ∀ block ∈ blocks, forkTimestamp ≤ block.timestamp
  anchors : (parentAnchor :: blocks.map (·.anchorBlockNumber)).IsChain (· ≤ ·)
  anchorMax : ∀ block ∈ blocks, block.anchorBlockNumber.toNat ≤ max parentAnchor.toNat origin.toNat

structure DerivedGasOk (T : TaikoProtocol) (parentGas : UInt64) (blocks : List BlockManifest) : Prop where
  gasLimits : (parentGas :: blocks.map (·.gasLimit)).IsChain (GasFollows T)
  range : T.minBlockGasLimit ≤ parentGas → parentGas ≤ T.maxBlockGasLimit →
    ∀ block ∈ blocks, T.minBlockGasLimit ≤ block.gasLimit ∧ block.gasLimit ≤ T.maxBlockGasLimit

section Sources

variable {ε : Type} {anchorGas : UInt64} {fail : Nat → SourceDerivationError → ε} {dataSources : List InputDataSource}
  {header : Header} {parentAnchor : UInt64} {sources : List DerivationSource} {blocks : List BlockManifest}
  {spans : List AnchorSourceSpan}

theorem derivedTimesOk_of_deriveSources (hProposal : metadata.proposalTimestamp.toNat < 2 ^ 63)
    (hFork : forkTimestamp.toNat < 2 ^ 63) (hHeader : header.timestamp.toNat < 2 ^ 63) (hLength : blocks.length < 2 ^ 63)
    (h : deriveSources T anchorGas fail metadata forkTimestamp dataSources 0 (parentContext header parentAnchor) sources =
      ok (blocks, spans)) :
    DerivedTimesOk metadata.originBlockNumber forkTimestamp parentAnchor header blocks := by
  have hTimes := isChain_of_deriveSources Tip.timestamp (fun _ _ hFollows => hFollows.time) h
    (Run.of_invariant (fun _ _ => True) trivial fun _ _ _ _ => ⟨rfl, trivial⟩)
  have hAnchors := isChain_of_deriveSources Tip.anchorBlockNumber (fun _ _ hFollows => hFollows.anchor) h
    (Run.of_invariant (fun _ _ => True) trivial fun _ _ _ _ => ⟨rfl, trivial⟩)
  obtain ⟨hIncrease, hForkAll⟩ := timestamps_increase (k := 0) hTimes hProposal hFork hHeader (by simpa using hLength)
  refine ⟨hIncrease, ?_, hAnchors.imp fun _ _ hNext => hNext.1, ?_⟩
  · exact fun block hBlock => hForkAll _ (List.mem_map_of_mem hBlock)
  · exact fun block hBlock => anchors_bounded hAnchors _ (List.mem_map_of_mem hBlock)

theorem derivedGasOk_of_deriveSources (hMin : T.minBlockGasLimit ≤ T.maxBlockGasLimit)
    (hChange : T.blockGasLimitMaxChange < T.gasLimitDenominator) (hGas : T.anchorV3V4GasLimit = anchorGas)
    (hNumber : header.number.toNat + blocks.length ≤ 2 ^ 64)
    (hFits : ∀ block ∈ blocks.dropLast, block.gasLimit.toNat + anchorGas.toNat < 2 ^ 64)
    (h : deriveSources T anchorGas fail metadata forkTimestamp dataSources 0 (parentContext header parentAnchor) sources =
      ok (blocks, spans)) :
    DerivedGasOk T (effectiveParentGasLimit T header.number header.gasLimit) blocks := by
  have hRoom : header.number.toNat + blocks.dropLast.length < 2 ^ 64 := by
    have hLt := header.number.toNat_lt
    rw [List.length_dropLast]
    omega
  have hChain := isChain_of_deriveSources Tip.gasLimit (fun _ _ hFollows => hFollows.gas) h
    (run_gasLimit hGas hRoom hFits)
  refine ⟨hChain, fun hLower hUpper block hBlock => ?_⟩
  exact gasLimits_in_range hMin hChange hChain hLower hUpper _ (List.mem_map_of_mem hBlock)

end Sources

def blobless (number gasLimit : UInt64) : GuestInput where
  witnesses := [{}, {}]
  taiko := {
    proposal := { timestamp := 1100, originBlockNumber := 1000, sources := [{ isForcedInclusion := true }, {}] }
    chainSpec := { chainId := 167013 }
    dataSources := [{}, {}] }
  proposalAncestorHeaders :=
    [WitnessHeader.fromHeaderWithHash { number := number, gasLimit := gasLimit, timestamp := 1000 } 0]

/-- Without the two conditions the gas limits break: anchor gas added to a genesis gas limit saturates, and a
block number that wraps to zero leaves the anchor gas in. -/
theorem derived_gasLimits_overflow :
    (∃ derived, deriveExpectedShastaBlocks sampleProtocol (fun _ _ => .timestamp 0) .hoodi
        (blobless 0 18446744073709551615) 900 = ok (some derived) ∧
      ¬(effectiveParentGasLimit sampleProtocol 0 18446744073709551615 :: derived.blocks.map (·.gasLimit)).IsChain
        (GasFollows sampleProtocol)) ∧
    (∃ derived, deriveExpectedShastaBlocks sampleProtocol (fun _ _ => .timestamp 0) .hoodi
        (blobless 18446744073709551615 31000000) 900 = ok (some derived) ∧
      ¬(effectiveParentGasLimit sampleProtocol 18446744073709551615 31000000 :: derived.blocks.map (·.gasLimit)).IsChain
        (GasFollows sampleProtocol)) :=
  ⟨⟨_, rfl, by decide +kernel⟩, ⟨_, rfl, by decide +kernel⟩⟩

/-- The blocks derived from a proposal form one chain over all its sources. -/
theorem derived_chain_wellFormed {activations : ForkActivations} {network : TaikoNetwork} {input : GuestInput}
    {parentAnchor : UInt64} {derived : DerivedShastaBlocks} {header : Header}
    (hMin : T.minBlockGasLimit ≤ T.maxBlockGasLimit) (hChange : T.blockGasLimitMaxChange < T.gasLimitDenominator)
    (hGas : T.anchorV3V4GasLimit = anchorGasLimit) (hWitnesses : input.witnesses.length < 2 ^ 63)
    (h : deriveExpectedShastaBlocks T activations network input parentAnchor = ok (some derived))
    (hHeader : lastFullHeader input.initialProposalAncestorHeaders = ok header) (hParent : header.timestamp.toNat < 2 ^ 63)
    (hFork : shastaForkTimestamp activations network = ok forkTimestamp) (hForkBound : forkTimestamp.toNat < 2 ^ 63) :
    DerivedTimesOk (toU64 input.taiko.proposal.originBlockNumber) forkTimestamp parentAnchor header derived.blocks ∧
      (header.number.toNat + derived.blocks.length ≤ 2 ^ 64 →
        (∀ block ∈ derived.blocks.dropLast, block.gasLimit.toNat + anchorGasLimit.toNat < 2 ^ 64) →
        DerivedGasOk T (effectiveParentGasLimit T header.number header.gasLimit) derived.blocks) := by
  obtain ⟨fork, parent, hDerivation⟩ := deriveExpectedShastaBlocks_eq_some_iff.mp h
  cases hHeader.symm.trans hDerivation.parent
  cases hFork.symm.trans hDerivation.fork
  have hProposal : (toU64 input.taiko.proposal.timestamp).toNat < 2 ^ 63 := by
    rw [toNat_toU64_u48]
    have := input.taiko.proposal.timestamp.isLt
    omega
  constructor
  · exact derivedTimesOk_of_deriveSources hProposal hForkBound hParent (hDerivation.count ▸ hWitnesses)
      hDerivation.derivation
  · intro hNumber hFits
    exact derivedGasOk_of_deriveSources hMin hChange hGas hNumber hFits hDerivation.derivation

def bloblessBlocks : DerivedShastaBlocks where
  blocks := [{ timestamp := 1001, anchorBlockNumber := 900, gasLimit := 29000000 },
    { timestamp := 1002, anchorBlockNumber := 900, gasLimit := 29000000 }]
  sourceSpans := [⟨true, 1⟩, ⟨false, 1⟩]

theorem derived_chain_wellFormed_blobless :
    deriveExpectedShastaBlocks sampleProtocol (fun _ _ => .timestamp 0) .hoodi (blobless 10 30000000) 900 =
        ok (some bloblessBlocks) ∧
      DerivedTimesOk 1000 0 900 { number := 10, gasLimit := 30000000, timestamp := 1000 } bloblessBlocks.blocks ∧
      DerivedGasOk sampleProtocol 29000000 bloblessBlocks.blocks := by
  have h : deriveExpectedShastaBlocks sampleProtocol (fun _ _ => .timestamp 0) .hoodi (blobless 10 30000000) 900 =
      ok (some bloblessBlocks) := rfl
  obtain ⟨hTimes, hGas⟩ := derived_chain_wellFormed (by decide) (by decide) rfl (by decide) h rfl (by decide) rfl (by decide)
  exact ⟨h, hTimes, hGas (by decide) (by decide)⟩

end Raiko2
