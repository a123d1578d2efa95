import Raiko2.Protocol.DerivedAnchors

/-!
# What a source is prepared to

A source ends as its decoded manifest, as one decoded block with the metadata of the parent, or as the default block
with that metadata. The bounds of a gas limit are computed in wider numbers and narrowed again; the narrowing never
fails.
-/

namespace Raiko2

open Lib Lib.Outcome

variable {T : TaikoProtocol}

section GasLimits

/-- `u64::try_from` of a wider number, with `expect`. -/
def expectU64 {ε : Type} (value : Nat) (message : String) : Outcome ε UInt64 :=
  if value < 2 ^ 64 then ok (UInt64.ofNat value) else abort message

/-- A quotient of `u128` values, which aborts on zero. -/
def u128Div {ε : Type} (value denominator : Nat) : Outcome ε Nat :=
  if denominator = 0 then abort "attempt to divide by zero" else ok (value / denominator)

variable (T) in
def gasLimitBoundsOrAbort {ε : Type} (parentGasLimit : UInt64) : Outcome ε (UInt64 × UInt64) := do
  let parent := parentGasLimit.toNat
  let denominator := T.gasLimitDenominator.toNat
  let change := T.blockGasLimitMaxChange.toNat
  let upper ← u128Div (u128SaturatingMul parent (denominator + change)) denominator
  let upper ← expectU64 (min upper T.maxBlockGasLimit.toNat) "bounded gas limit"
  let lower ← u128Div (u128SaturatingMul parent (denominator - change)) denominator
  let lower ← expectU64 (min (max lower T.minBlockGasLimit.toNat) upper.toNat) "bounded gas limit"
  return (lower, upper)

theorem le_u128SaturatingMul_div {p d c : Nat} (hd : 0 < d) (hp : p < 2 ^ 64) (hd' : d < 2 ^ 64) :
    p ≤ u128SaturatingMul p (d + c) / d := by
  rw [Nat.le_div_iff_mul_le hd, u128SaturatingMul]
  have hMul : p * d ≤ p * (d + c) := Nat.mul_le_mul_left p (Nat.le_add_right d c)
  have hFits : p * d < 2 ^ 64 * 2 ^ 64 := Nat.mul_lt_mul'' hp hd'
  omega

theorem toNat_gasLimitBounds (parentGasLimit : UInt64) :
    (gasLimitBounds T parentGasLimit).2.toNat = min (u128SaturatingMul parentGasLimit.toNat
        (T.gasLimitDenominator.toNat + T.blockGasLimitMaxChange.toNat) / T.gasLimitDenominator.toNat)
        T.maxBlockGasLimit.toNat ∧
      (gasLimitBounds T parentGasLimit).1.toNat = min (max (u128SaturatingMul parentGasLimit.toNat
        (T.gasLimitDenominator.toNat - T.blockGasLimitMaxChange.toNat) / T.gasLimitDenominator.toNat)
        T.minBlockGasLimit.toNat) (gasLimitBounds T parentGasLimit).2.toNat := by
  have hMax := T.maxBlockGasLimit.toNat_lt
  simp only [gasLimitBounds, UInt64.toNat_ofNat']
  rw [Nat.mod_eq_of_lt (by omega), Nat.mod_eq_of_lt (by omega)]
  exact ⟨rfl, rfl⟩

theorem gasLimitBoundsOrAbort_eq_ok {ε : Type} (hDenominator : T.gasLimitDenominator ≠ 0) (parentGasLimit : UInt64) :
    (gasLimitBoundsOrAbort T parentGasLimit : Outcome ε (UInt64 × UInt64)) = ok (gasLimitBounds T parentGasLimit) := by
  have hNonzero : T.gasLimitDenominator.toNat ≠ 0 := by
    intro h
    exact hDenominator (UInt64.toNat_inj.mp h)
  have hMax := T.maxBlockGasLimit.toNat_lt
  simp only [gasLimitBoundsOrAbort, u128Div, if_neg hNonzero, expectU64, ok_bind, gasLimitBounds]
  rw [if_pos (by omega), ok_bind, UInt64.toNat_ofNat', Nat.mod_eq_of_lt (by omega), if_pos (by omega)]
  rfl

theorem gasLimitBounds_le (parentGasLimit : UInt64) :
    (gasLimitBounds T parentGasLimit).1 ≤ (gasLimitBounds T parentGasLimit).2 ∧
      (gasLimitBounds T parentGasLimit).2 ≤ T.maxBlockGasLimit := by
  obtain ⟨hUpper, hLower⟩ := toNat_gasLimitBounds parentGasLimit (T := T)
  simp only [UInt64.le_iff_toNat_le]
  omega

theorem gasLimitBounds_self (hDenominator : T.gasLimitDenominator ≠ 0) {gasLimit : UInt64}
    (hLower : T.minBlockGasLimit ≤ gasLimit) (hUpper : gasLimit ≤ T.maxBlockGasLimit) :
    (gasLimitBounds T gasLimit).1 ≤ gasLimit ∧ gasLimit ≤ (gasLimitBounds T gasLimit).2 := by
  have hNonzero : 0 < T.gasLimitDenominator.toNat := by
    rw [Nat.pos_iff_ne_zero]
    intro h
    exact hDenominator (UInt64.toNat_inj.mp h)
  obtain ⟨hTop, hBottom⟩ := toNat_gasLimitBounds gasLimit (T := T)
  have hReach := le_u128SaturatingMul_div (c := T.blockGasLimitMaxChange.toNat) hNonzero gasLimit.toNat_lt
    T.gasLimitDenominator.toNat_lt
  have hDrop : u128SaturatingMul gasLimit.toNat (T.gasLimitDenominator.toNat - T.blockGasLimitMaxChange.toNat) /
      T.gasLimitDenominator.toNat ≤ gasLimit.toNat := by
    apply Nat.div_le_of_le_mul
    calc u128SaturatingMul gasLimit.toNat (T.gasLimitDenominator.toNat - T.blockGasLimitMaxChange.toNat)
        ≤ gasLimit.toNat * (T.gasLimitDenominator.toNat - T.blockGasLimitMaxChange.toNat) := Nat.min_le_left ..
      _ ≤ gasLimit.toNat * T.gasLimitDenominator.toNat := Nat.mul_le_mul_left _ (Nat.sub_le ..)
      _ = T.gasLimitDenominator.toNat * gasLimit.toNat := Nat.mul_comm ..
  simp only [UInt64.le_iff_toNat_le] at *
  omega

theorem gasLimitLoop_inheritBlocks (hDenominator : T.gasLimitDenominator ≠ 0) {gasLimit : UInt64}
    (hLower : T.minBlockGasLimit ≤ gasLimit) (hUpper : gasLimit ≤ T.maxBlockGasLimit) (input : InheritedMetadataInput)
    (parentTs : UInt64) (blocks : List BlockManifest) :
    gasLimitLoop T gasLimit (inheritBlocks T input gasLimit parentTs blocks) = true := by
  obtain ⟨hBottom, hTop⟩ := gasLimitBounds_self hDenominator hLower hUpper
  induction blocks generalizing parentTs with
  | nil => rfl
  | cons block rest ih =>
    simp only [inheritBlocks, gasLimitLoop]
    rw [if_neg]
    · exact ih _
    · simp only [Bool.or_eq_true, decide_eq_true_eq, not_or, gt_iff_lt, UInt64.not_lt]
      exact ⟨hBottom, hTop⟩

theorem validateGasLimit_applyInheritedMetadata (hDenominator : T.gasLimitDenominator ≠ 0)
    (manifest : DerivationSourceManifest) (input : InheritedMetadataInput)
    (hLower : T.minBlockGasLimit ≤ effectiveParentGasLimit T input.parentBlockNumber input.parentGasLimit)
    (hUpper : effectiveParentGasLimit T input.parentBlockNumber input.parentGasLimit ≤ T.maxBlockGasLimit) :
    validateGasLimit T (applyInheritedMetadata T manifest input) input.parentBlockNumber input.parentGasLimit = true :=
  gasLimitLoop_inheritBlocks hDenominator hLower hUpper input _ _

end GasLimits

section Shapes

variable {source : DerivationSource} {dataSource : Option InputDataSource} {parent : ParentBlockContext}
  {metadata : ProposalMetadata} {forkTimestamp : UInt64} {maxBlocks : Nat} {manifest : DerivationSourceManifest}

variable (T) in
def inheritedBlock (parent : ParentBlockContext) (metadata : ProposalMetadata) (forkTimestamp : UInt64)
    (block : BlockManifest) : BlockManifest where
  timestamp :=
    computeTimestampLowerBound T parent.timestamp metadata.proposalTimestamp forkTimestamp metadata.chainId
  coinbase := metadata.proposer
  anchorBlockNumber := parent.anchorBlockNumber
  gasLimit := effectiveParentGasLimit T parent.blockNumber parent.gasLimit
  transactions := block.transactions

variable (T) in
inductive Prepared (source : DerivationSource) (dataSource : Option InputDataSource) (parent : ParentBlockContext)
    (metadata : ProposalMetadata) (forkTimestamp : UInt64) (maxBlocks : Nat) : DerivationSourceManifest → Prop where
  | decoded {manifest : DerivationSourceManifest} (hNormal : source.isForcedInclusion = false)
      (hDecoded : decodedManifest T source dataSource maxBlocks = ok manifest)
      (hValid : validateSourceManifest T manifest (validationContext source parent metadata forkTimestamp) = ok ()) :
      Prepared source dataSource parent metadata forkTimestamp maxBlocks manifest
  | forced {block : BlockManifest} (hForced : source.isForcedInclusion = true)
      (hDecoded : decodedManifest T source dataSource maxBlocks = ok ⟨[block]⟩)
      (hValid : validateSourceManifest T ⟨[inheritedBlock T parent metadata forkTimestamp block]⟩
        (validationContext source parent metadata forkTimestamp) = ok ()) :
      Prepared source dataSource parent metadata forkTimestamp maxBlocks
        ⟨[inheritedBlock T parent metadata forkTimestamp block]⟩
  | inherited :
      Prepared source dataSource parent metadata forkTimestamp maxBlocks
        (applyInheritedMetadata T T.defaultManifest (inheritedMetadataInput parent metadata forkTimestamp))

theorem eq_default_of_manifestIsDefault (hDefault : T.defaultManifest = ⟨[{}]⟩) (h : manifestIsDefault manifest = true) :
    manifest = T.defaultManifest := by
  obtain ⟨blocks⟩ := manifest
  unfold manifestIsDefault at h
  split at h
  · rename_i block hBlocks
    simp only [Bool.and_eq_true, beq_iff_eq, List.isEmpty_iff] at h
    obtain ⟨⟨⟨⟨hTimestamp, hCoinbase⟩, hAnchor⟩, hGas⟩, hTransactions⟩ := h
    obtain ⟨_, _, _, _, _⟩ := block
    subst hTimestamp hCoinbase hAnchor hGas hTransactions
    rw [hDefault]
    exact congrArg DerivationSourceManifest.mk hBlocks
  · cases h

theorem default_or_validated {current : DerivationSourceManifest} {context : ValidationContext}
    (h : (match validateSourceManifest T current context with
      | ok () => ok current
      | _ => ok (applyInheritedMetadata T T.defaultManifest (inheritedMetadataInput parent metadata forkTimestamp))) =
      (ok manifest : Outcome SourceDerivationError _)) :
    (validateSourceManifest T current context = ok () ∧ manifest = current) ∨
      manifest = applyInheritedMetadata T T.defaultManifest (inheritedMetadataInput parent metadata forkTimestamp) := by
  split at h
  · rename_i hValid
    exact .inl ⟨hValid, (Outcome.ok.inj h).symm⟩
  · exact .inr (Outcome.ok.inj h).symm

theorem prepared_of_eq_ok (hDefault : T.defaultManifest = ⟨[{}]⟩)
    (h : prepareSourceManifestWithMaxBlocks T source dataSource parent metadata forkTimestamp maxBlocks = ok manifest) :
    Prepared T source dataSource parent metadata forkTimestamp maxBlocks manifest := by
  obtain ⟨current, hCurrent, h⟩ := bind_eq_ok_iff.mp h
  obtain ⟨decoded, hDecoded, hSource⟩ := bind_eq_ok_iff.mp hCurrent
  obtain rfl := Outcome.ok.inj hSource
  rcases default_or_validated h with ⟨hValid, rfl⟩ | rfl
  · cases hForced : source.isForcedInclusion with
    | false =>
      simp only [hForced, Bool.false_and, Bool.false_eq_true, if_false, Bool.false_or] at hValid ⊢
      split
      · rename_i hIs
        rw [eq_default_of_manifestIsDefault hDefault hIs]
        exact .inherited
      · rename_i hIs
        rw [if_neg hIs] at hValid
        exact .decoded hForced hDecoded hValid
    | true =>
      simp only [hForced, Bool.true_and, Bool.true_or, if_true] at hValid ⊢
      split
      · exact .inherited
      · rename_i hLength
        simp only [bne_iff_ne, ne_eq, not_not] at hLength
        obtain ⟨block, hBlock⟩ := List.length_eq_one_iff.mp hLength
        obtain ⟨blocks⟩ := decoded
        obtain rfl : blocks = [block] := hBlock
        exact .forced hForced hDecoded hValid
  · exact .inherited

theorem Prepared.nonempty (hDefault : T.defaultManifest = ⟨[{}]⟩)
    (h : Prepared T source dataSource parent metadata forkTimestamp maxBlocks manifest) : manifest.blocks ≠ [] := by
  cases h with
  | decoded hNormal hDecoded hValid =>
    intro hEmpty
    simp [validateSourceManifest, hEmpty] at hValid
  | forced => exact List.cons_ne_nil _ _
  | inherited =>
    rw [hDefault]
    exact List.cons_ne_nil _ _

theorem prepared_without_payload (hDefault : T.defaultManifest = ⟨[{}]⟩)
    (hNone : source.blobSlice.blobHashes = [] ∨ isSourceOffsetValid T source = false)
    (h : prepareSourceManifestWithMaxBlocks T source dataSource parent metadata forkTimestamp maxBlocks = ok manifest) :
    manifest = applyInheritedMetadata T T.defaultManifest (inheritedMetadataInput parent metadata forkTimestamp) := by
  obtain ⟨current, hCurrent, h⟩ := bind_eq_ok_iff.mp h
  obtain ⟨decoded, hDecoded, hSource⟩ := bind_eq_ok_iff.mp hCurrent
  obtain rfl := Outcome.ok.inj hSource
  have hDecoded' : decoded = T.defaultManifest := by
    unfold decodedManifest at hDecoded
    split at hDecoded
    · obtain ⟨_, _, hOk⟩ := bind_eq_ok_iff.mp hDecoded
      exact (Outcome.ok.inj hOk).symm
    · rename_i hHashes
      rcases hNone with hEmpty | hOffset
      · simp [hEmpty] at hHashes
      · rw [hOffset, if_pos (by rfl)] at hDecoded
        exact (Outcome.ok.inj hDecoded).symm
  subst hDecoded'
  have hIs : manifestIsDefault T.defaultManifest = true := by
    rw [hDefault]
    decide
  rcases default_or_validated h with ⟨-, rfl⟩ | rfl
  · simp [hIs]
  · rfl

/-- Every source that is accepted is prepared to one of three shapes, and to the default where no data is bound to it.
The default manifest is one block of zeros, and the denominator of the gas limit is not zero. -/
theorem prepared_source_is_valid_or_default (T : TaikoProtocol) (hDefault : T.defaultManifest = ⟨[{}]⟩)
    (hDenominator : T.gasLimitDenominator ≠ 0) :
    (∀ source dataSource parent metadata forkTimestamp maxBlocks manifest,
      prepareSourceManifestWithMaxBlocks T source dataSource parent metadata forkTimestamp maxBlocks = ok manifest →
      manifest.blocks ≠ [] ∧ Prepared T source dataSource parent metadata forkTimestamp maxBlocks manifest ∧
      (source.blobSlice.blobHashes = [] ∨ isSourceOffsetValid T source = false →
        manifest =
          applyInheritedMetadata T T.defaultManifest (inheritedMetadataInput parent metadata forkTimestamp))) ∧
    (∀ parentGasLimit : UInt64, ∃ lower upper : UInt64,
      (gasLimitBoundsOrAbort T parentGasLimit : Outcome SourceDerivationError _) = ok (lower, upper) ∧
        (lower, upper) = gasLimitBounds T parentGasLimit ∧ lower ≤ upper ∧ upper ≤ T.maxBlockGasLimit) ∧
    (∀ manifest input,
      T.minBlockGasLimit ≤ effectiveParentGasLimit T input.parentBlockNumber input.parentGasLimit →
      effectiveParentGasLimit T input.parentBlockNumber input.parentGasLimit ≤ T.maxBlockGasLimit →
      validateGasLimit T (applyInheritedMetadata T manifest input) input.parentBlockNumber input.parentGasLimit =
        true) := by
  refine ⟨?_, ?_, ?_⟩
  · intro source dataSource parent metadata forkTimestamp maxBlocks manifest h
    have hPrepared := prepared_of_eq_ok hDefault h
    exact ⟨hPrepared.nonempty hDefault, hPrepared, fun hNone => prepared_without_payload hDefault hNone h⟩
  · intro parentGasLimit
    obtain ⟨hLower, hUpper⟩ := gasLimitBounds_le parentGasLimit (T := T)
    exact ⟨_, _, gasLimitBoundsOrAbort_eq_ok hDenominator parentGasLimit, rfl, hLower, hUpper⟩
  · exact fun manifest input => validateGasLimit_applyInheritedMetadata hDenominator manifest input

/-- A source whose manifest is decoded from a blob, after the forced one. -/
theorem prepared_normal_sample :
    Prepared sampleProtocol sampleNormal (some { txDataFromBlob := [List.replicate 131072 0] })
        ((sampleBlocks.take 1).foldl (nextParent 1000000) sampleParent) sampleMetadata 0 192 ⟨sampleBlocks.drop 1⟩ ∧
      validateGasLimit sampleProtocol (applyInheritedMetadata sampleProtocol ⟨[{}, {}]⟩
        (inheritedMetadataInput sampleParent sampleMetadata 0)) sampleParent.blockNumber sampleParent.gasLimit = true := by
  obtain ⟨hShapes, -, hGas⟩ := prepared_source_is_valid_or_default sampleProtocol rfl (by decide)
  refine ⟨?_, hGas ⟨[{}, {}]⟩ (inheritedMetadataInput sampleParent sampleMetadata 0) (by decide) (by decide)⟩
  exact (hShapes _ _ _ _ _ _ _ (prepareSourceManifest_sampleNormal List.length_replicate)).2.1

end Shapes

end Raiko2
