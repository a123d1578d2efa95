import Raiko2.Guest.LinkageExact
import Raiko2.Host.Preflight

/-!
# What the preflight has established

The host's derivation loop, its pass over the fetched L1 headers and the two hydration steps, each with what
its success says in the terms of the guest's own checks.
-/

namespace Raiko2.Host

open Lib Lib.Outcome List

section Sources

variable {ε ε' : Type} {T : TaikoProtocol} {gas : UInt64} {metadata : ProposalMetadata} {forkTimestamp : UInt64}
  {dataSources : List InputDataSource}

theorem deriveSources_eq_ok_iff {fail : Nat → SourceDerivationError → ε} (fail' : Nat → SourceDerivationError → ε')
    {index : Nat} {parent : ParentBlockContext} {sources : List DerivationSource}
    {result : List BlockManifest × List AnchorSourceSpan} :
    deriveSources T gas fail metadata forkTimestamp dataSources index parent sources = ok result ↔
      deriveSources T gas fail' metadata forkTimestamp dataSources index parent sources = ok result := by
  induction sources generalizing index parent result with
  | nil => simp only [deriveSources, ok.injEq]
  | cons source rest ih =>
    simp only [deriveSources, bind_eq_ok_iff, mapError_eq_ok_iff, ih, pure_eq_ok, ok.injEq]

variable {chainSpec : ChainSpec} {manifest : TaikoManifest} {parentBlock : Block} {blocks : List Block}

/-- What a successful derivation of the host has checked and found. -/
structure PreflightDerivation (T : TaikoProtocol) (chainSpec : ChainSpec) (manifest : TaikoManifest)
    (parentBlock : Block) (blocks : List Block) (data : PreflightSourceData) (forkTimestamp : UInt64) : Prop where
  dataSources : manifest.proposal.sources.length = manifest.dataSources.length
  fork : shastaForkTimestampForChainSpec chainSpec = ok forkTimestamp
  derivation : deriveSources T T.anchorV3V4GasLimit preflightSourceFailure
    (proposalMetadata manifest.proposal chainSpec.chainId) forkTimestamp manifest.dataSources 0
    (preflightParentContext parentBlock manifest) manifest.proposal.sources = ok (data.manifestBlocks, data.sourceSpans)
  count : data.manifestBlocks.length = blocks.length

theorem derivePreflightSourceData_eq_ok_iff (hSources : manifest.proposal.sources ≠ [])
    {data? : Option PreflightSourceData} :
    derivePreflightSourceData T chainSpec manifest (some parentBlock) blocks = ok data? ↔
      ∃ data forkTimestamp, data? = some data ∧
        PreflightDerivation T chainSpec manifest parentBlock blocks data forkTimestamp := by
  have hEmpty : manifest.proposal.sources.isEmpty = false := by simpa using hSources
  simp only [derivePreflightSourceData, hEmpty, Bool.false_eq_true, if_false, ofOption_some, ok_bind,
    unit_bind_eq_ok_iff, ensure_eq_ok_iff]
  simp only [bind_eq_ok_iff, Prod.exists]
  constructor
  · rintro ⟨hData, fork, hFork, manifestBlocks, spans, hDerive, _, hCount, hEq⟩
    cases hEq
    exact ⟨⟨manifestBlocks, spans⟩, fork, rfl, hData, hFork, hDerive, ensure_eq_ok_iff.mp hCount⟩
  · rintro ⟨data, fork, rfl, h⟩
    exact ⟨h.dataSources, fork, h.fork, _, _, h.derivation, (), ensure_of_pos h.count, rfl⟩

end Sources

section Headers

variable {A : Alloy} {checkpoints remaining : List AnchorCheckpoint}

theorem takeCheckpoints_eq_ok_iff {header : Header} :
    takeCheckpoints A header (A.hashSlow header) checkpoints = ok remaining ↔
      takeAtHeader A header checkpoints = some remaining := by
  rw [← consumeCheckpoints_eq_ok_iff]
  induction checkpoints with
  | nil => simp only [takeCheckpoints, consumeCheckpoints, ok.injEq]
  | cons c rest ih =>
    rw [takeCheckpoints, consumeCheckpoints]
    by_cases hNumber : c.blockNumber = header.number
    · rw [if_neg (not_not.mpr hNumber), if_neg (not_not.mpr hNumber), ensure_bind_eq_ok_iff, ensure_bind_eq_ok_iff, ih,
        not_or, not_not, not_not]
    · rw [if_pos hNumber, if_pos hNumber]
      simp only [ok.injEq]

theorem checkParentLink_eq_ok_iff {header : Header} {previous : Option Header} {u : Unit} :
    checkParentLink header (previous.map fun h => (h.number, A.hashSlow h)) = ok u ↔
      ∀ h ∈ previous, header.parentHash = A.hashSlow h := by
  cases previous with
  | none => simp [checkParentLink]
  | some previous => simp [checkParentLink]

def Succeeds (a b : UInt64) : Prop := b.toNat = a.toNat + 1

/-- The host's pass, on headers requested by consecutive numbers, gives what the guest's pass gives. -/
theorem chain_of_fetchedHeaderLoop {index : Nat} (previous : Option Header) {last : Option (UInt64 × B256)}
    {pairs : List (Header × UInt64)} (hNumbers : (previous.toList.map (·.number) ++ pairs.map (·.2)).IsChain Succeeds)
    (h : fetchedHeaderLoop A index (previous.map fun h => (h.number, A.hashSlow h)) checkpoints pairs =
      ok (last, remaining)) :
    (previous.toList ++ pairs.map (·.1)).IsChain (LinksTo A) ∧ (pairs.map (·.1)).map (·.number) = pairs.map (·.2) ∧
      mergeAtHeaders A (pairs.map (·.1)) checkpoints = some remaining ∧
      last = (previous.toList ++ pairs.map (·.1)).getLast?.map fun h => (h.number, A.hashSlow h) := by
  induction pairs generalizing index previous checkpoints with
  | nil =>
    cases h
    cases previous <;> simp [mergeEntries]
  | cons pair rest ih =>
    obtain ⟨header, number⟩ := pair
    simp only [fetchedHeaderLoop, unit_bind_eq_ok_iff, ensure_eq_ok_iff, checkParentLink_eq_ok_iff] at h
    obtain ⟨rfl, hParent, h⟩ := h
    obtain ⟨items, hTake, hRest⟩ := bind_eq_ok_iff.mp h
    rw [takeCheckpoints_eq_ok_iff] at hTake
    have hTail : ((some header).toList.map (·.number) ++ rest.map (·.2)).IsChain Succeeds := by
      cases previous with
      | none => simpa using hNumbers
      | some previous => simpa using (isChain_cons_cons.mp hNumbers).2
    obtain ⟨hChain, hSame, hMerge, hLast⟩ := ih (some header) hTail hRest
    refine ⟨?_, ?_, ?_, ?_⟩
    · cases previous with
      | none => simpa using hChain
      | some previous =>
        have hNext : Succeeds previous.number header.number := (isChain_cons_cons.mp hNumbers).1
        exact isChain_cons_cons.mpr ⟨⟨hNext, hParent previous rfl⟩, by simpa using hChain⟩
    · rw [map_cons, map_cons, map_cons, hSame]
    · rw [map_cons, mergeAtHeaders, mergeEntries, Option.bind_eq_some_iff]
      exact ⟨items, hTake, hMerge⟩
    · rw [hLast]
      cases previous <;> simp [getLast?_cons_cons]

theorem isChain_inclusiveRange (first last : UInt64) : (inclusiveRange first last).IsChain Succeeds := by
  have hBound : ∀ n ∈ range' first.toNat (last.toNat + 1 - first.toNat), n < 2 ^ 64 := by
    intro n hn
    have hLast := last.toNat_lt
    rw [mem_range'_1] at hn
    omega
  have hRange : (range' first.toNat (last.toNat + 1 - first.toNat)).IsChain fun a b => b = a + 1 :=
    isChain_range' _ _ 1
  rw [inclusiveRange, isChain_map]
  refine (hRange.imp_of_mem_imp fun a b ha hb hab => ?_)
  rw [Succeeds, UInt64.toNat_ofNat_of_lt' (hBound a ha), UInt64.toNat_ofNat_of_lt' (hBound b hb), hab]

theorem le_of_mem_inclusiveRange {first last n : UInt64} (h : n ∈ inclusiveRange first last) :
    n.toNat ≤ last.toNat := by
  obtain ⟨m, hm, rfl⟩ := mem_map.mp h
  have hLast := last.toNat_lt
  rw [mem_range'_1] at hm
  have hSmall : m < UInt64.size := by
    rw [UInt64.size]
    omega
  rw [UInt64.toNat_ofNat_of_lt' hSmall]
  omega

theorem checkAllFetched_eq_ok_iff {u : Unit} : checkAllFetched A remaining = ok u ↔ remaining = [] := by
  cases remaining <;> simp [checkAllFetched]

/-- What the host has found out about the headers it fetched for a range. -/
structure FetchedHeaders (A : Alloy) (headers : List Header) (first last : UInt64) (checkpoints : List AnchorCheckpoint)
    (originHash : B256) : Prop where
  nonempty : headers ≠ []
  chain : headers.IsChain (LinksTo A)
  numbers : headers.map (·.number) = inclusiveRange first last
  found : mergeAtHeaders A headers checkpoints = some []
  origin : (headers.getLast?.map A.hashSlow).getD 0 = originHash

theorem fetchedHeaders_of_eq_ok {headers : List Header} {first last : UInt64} {originHash : B256}
    (hLength : headers.length = (inclusiveRange first last).length)
    (h : validateL1Headers A headers (inclusiveRange first last) checkpoints originHash = ok ()) :
    FetchedHeaders A headers first last checkpoints originHash := by
  simp only [validateL1Headers, unit_bind_eq_ok_iff, ensure_eq_ok_iff] at h
  simp only [bind_eq_ok_iff, Prod.exists, ensure_eq_ok_iff, checkAllFetched_eq_ok_iff] at h
  obtain ⟨hNonempty, final, remaining, hLoop, -, rfl, hHash⟩ := h
  have hFst : (headers.zip (inclusiveRange first last)).map (·.1) = headers := map_fst_zip hLength.le
  have hSnd : (headers.zip (inclusiveRange first last)).map (·.2) = inclusiveRange first last :=
    map_snd_zip hLength.ge
  obtain ⟨hChain, hSame, hMerge, hLast⟩ := chain_of_fetchedHeaderLoop none
    (by simpa [hSnd] using isChain_inclusiveRange first last) hLoop
  rw [hFst, Option.toList_none, nil_append] at hChain hLast
  rw [hFst] at hMerge hSame
  refine ⟨hNonempty, hChain, hSame.trans hSnd, hMerge, ?_⟩
  rw [← hHash, hLast, Option.map_map]
  rfl

/-- Headers that the host has validated for a range that ends at the origin block pass the guest's check. -/
theorem FetchedHeaders.checkL1AncestorHeaders {taiko : TaikoManifest} {first : UInt64} {header : Header}
    (h : FetchedHeaders A taiko.l1AncestorHeaders first (toU64 taiko.proposal.originBlockNumber) checkpoints
      taiko.proposal.originBlockHash)
    (hLast : taiko.l1AncestorHeaders.getLast? = some header)
    (hNumber : header.number = toU64 taiko.proposal.originBlockNumber) :
    checkL1AncestorHeaders A taiko checkpoints = ok () := by
  have hSmall : ∀ h ∈ (none : Option Header).toList ++ taiko.l1AncestorHeaders, h.number.toNat < 2 ^ 64 - 1 := by
    intro other hOther
    have hMem : other.number ∈ inclusiveRange first (toU64 taiko.proposal.originBlockNumber) := by
      rw [← h.numbers]
      exact mem_map_of_mem (by simpa using hOther)
    have hLe := le_of_mem_inclusiveRange hMem
    have hWidth := taiko.proposal.originBlockNumber.isLt
    rw [toNat_toU64_u48] at hLe
    omega
  have hPass : l1HeaderLoop A 0 none checkpoints taiko.l1AncestorHeaders =
      ok (some (header.number, A.hashSlow header), []) := by
    refine (l1HeaderLoop_eq_ok_iff none hSmall).mpr ⟨h.chain, h.found, ?_⟩
    rw [Option.toList_none, nil_append, hLast, Option.map_some]
  have hHash : A.hashSlow header = taiko.proposal.originBlockHash := by
    rw [← h.origin, hLast]
    rfl
  simp only [Raiko2.checkL1AncestorHeaders, unit_bind_eq_ok_iff, ensure_eq_ok_iff]
  simp only [bind_eq_ok_iff, Prod.exists, ensure_eq_ok_iff, checkAllFound_eq_ok_iff]
  exact ⟨h.nonempty, _, [], hPass, (), hNumber, (), hHash, rfl⟩

end Headers

section Hydration

variable {A : Alloy} {P : Provider} {R : Reth} {chainSpec : ChainSpec} {blocks : List Block}
  {manifest hydrated : TaikoManifest} {spans : Option (List AnchorSourceSpan)}
  {witnesses hydratedWitnesses : List StatelessInput} {checkpoints : List AnchorCheckpoint}

theorem mapM_decodeAnchorCheckpoint_eq {guest : List DecodedAnchorCheckpoint}
    (h : blocks.mapM (decodeAnchorCheckpoint A) = ok checkpoints)
    (hGuest : blocks.mapM (Raiko2.decodeAnchorCheckpoint A) = ok guest) : guest = checkpoints := by
  have hHost : blocks.mapM (decodeAnchorCheckpoint A) = ok guest := by
    rw [mapM_eq_ok_iff] at hGuest ⊢
    refine hGuest.imp fun block checkpoint hBlock => ?_
    simp only [Raiko2.decodeAnchorCheckpoint, decodeAnchorCheckpoint, bind_eq_ok_iff, ofOption_eq_ok_iff,
      ofExcept_eq_ok_iff, ensure_eq_ok_iff, pure_eq_ok, ok.injEq] at hBlock ⊢
    obtain ⟨tx, hTx, u, hSelector, decoded, hDecoded, _, _, hEq⟩ := hBlock
    exact ⟨tx, hTx, u, hSelector, decoded, hDecoded, hEq⟩
  exact ok.inj (hHost.symm.trans h)

/-- The headers that the hydration leaves: none where the anchor is stalled, and a checked range elsewhere. -/
inductive HydratedHeaders (A : Alloy) (chainId : UInt64) (manifest : TaikoManifest)
    (spans : Option (List AnchorSourceSpan)) (checkpoints : List AnchorCheckpoint) : TaikoManifest → Prop where
  | stalled (header : Header)
      (bypass : shouldBypassStalledAnchorLinkage (checkpoints.map (·.blockNumber)) (lastAnchorBlockNumber manifest)
        (toU64 manifest.proposal.originBlockNumber) chainId = true)
      (number : header.number = toU64 manifest.proposal.originBlockNumber)
      (hash : A.hashSlow header = manifest.proposal.originBlockHash) :
      HydratedHeaders A chainId manifest spans checkpoints { manifest with l1Header := header, l1AncestorHeaders := [] }
  | linked (header : Header) (headers : List Header) (headerCheckpoints : List AnchorCheckpoint) (first : UInt64)
      (bypass : shouldBypassStalledAnchorLinkage (checkpoints.map (·.blockNumber)) (lastAnchorBlockNumber manifest)
        (toU64 manifest.proposal.originBlockNumber) chainId = false)
      (anchors : l1HeaderAnchorCheckpoints checkpoints spans (lastAnchorBlockNumber manifest)
        (toU64 manifest.proposal.originBlockNumber) chainId = ok headerCheckpoints)
      (count : headers.length = (inclusiveRange first (toU64 manifest.proposal.originBlockNumber)).length)
      (valid : validateL1Headers A headers (inclusiveRange first (toU64 manifest.proposal.originBlockNumber))
        headerCheckpoints manifest.proposal.originBlockHash = ok ())
      (last : headers.getLast? = some header) (number : header.number = toU64 manifest.proposal.originBlockNumber) :
      HydratedHeaders A chainId manifest spans checkpoints
        { manifest with l1Header := header, l1AncestorHeaders := headers }

theorem hydratedHeaders_of_eq_ok (h : hydrateShastaL1Headers A P chainSpec.chainId blocks manifest spans = ok hydrated) :
    ∃ checkpoints, blocks.mapM (decodeAnchorCheckpoint A) = ok checkpoints ∧
      HydratedHeaders A chainSpec.chainId manifest spans checkpoints hydrated := by
  simp only [hydrateShastaL1Headers, unit_bind_eq_ok_iff, ensure_eq_ok_iff] at h
  obtain ⟨-, h⟩ := h
  obtain ⟨checkpoints, hCheckpoints, h⟩ := bind_eq_ok_iff.mp h
  refine ⟨checkpoints, hCheckpoints, ?_⟩
  split at h
  · rename_i hBypass
    simp only [hydrateStalledShastaOriginHeader, bind_eq_ok_iff, ofOption_eq_ok_iff, ensure_eq_ok_iff, pure_eq_ok,
      ok.injEq] at h
    obtain ⟨headers, -, -, -, header, -, -, hNumber, -, hHash, rfl⟩ := h
    exact .stalled header hBypass hNumber hHash
  · rename_i hBypass
    simp only [bind_eq_ok_iff, ofOption_eq_ok_iff, ensure_eq_ok_iff, pure_eq_ok, ok.injEq] at h
    obtain ⟨headerCheckpoints, hAnchors, first, -, headers, -, -, hCount, _, hValid, header, hLast, -, hNumber, rfl⟩ := h
    exact .linked header headers headerCheckpoints _ (by simpa using hBypass) hAnchors hCount hValid hLast hNumber

theorem plan_of_l1HeaderAnchorCheckpoints {last origin chainId : UInt64} {headerCheckpoints : List AnchorCheckpoint}
    (hBypass : shouldBypassStalledAnchorLinkage (checkpoints.map (·.blockNumber)) last origin chainId = false)
    (h : l1HeaderAnchorCheckpoints checkpoints spans last origin chainId = ok headerCheckpoints) :
    ∃ plan, anchorPlan (checkpoints.map (·.blockNumber)) last origin chainId spans = ok plan ∧
      sliceGet checkpoints plan.l1HeaderAnchorStartIndex checkpoints.length = some headerCheckpoints ∧
      (plan.requiresParentCheckpoint = true →
        parentCheckpointValidationScope (checkpoints.map (·.blockNumber)) spans last origin chainId =
          ok (some (.forcedPrefix plan.l1HeaderAnchorStartIndex))) := by
  obtain ⟨start, hStart, hSlice⟩ := bind_eq_ok_iff.mp h
  rw [ofOption_eq_ok_iff] at hSlice
  cases spans with
  | none =>
    simp only [l1HeaderAnchorStartIndex, unit_bind_eq_ok_iff, mapError_eq_ok_iff, pure_eq_ok, ok.injEq] at hStart
    obtain ⟨hProgress, rfl⟩ := hStart
    refine ⟨⟨0, false⟩, ?_, hSlice, by simp⟩
    simp only [anchorPlan, hProgress, mapError_ok, ok_bind, pure_eq_ok]
  | some spans =>
    simp only [l1HeaderAnchorStartIndex, bind_eq_ok_iff, mapError_eq_ok_iff, pure_eq_ok, ok.injEq] at hStart
    obtain ⟨plan, hPlan, rfl⟩ := hStart
    refine ⟨plan, ?_, hSlice, ?_⟩
    · simp only [anchorPlan, hPlan, mapError_ok]
    · intro hRequired
      simp only [parentCheckpointValidationScope, hBypass, Bool.false_eq_true, if_false, hPlan, mapError_ok, ok_bind,
        hRequired, if_true]

theorem validateAnchorCheckpointsMatchParent_eq_ok_iff {parent : AnchorCheckpoint} {label : String} {u : Unit} :
    validateAnchorCheckpointsMatchParent A parent label checkpoints = ok u ↔ ∀ c ∈ checkpoints, c = parent := by
  induction checkpoints with
  | nil => simp [validateAnchorCheckpointsMatchParent]
  | cons c rest ih =>
    simp only [validateAnchorCheckpointsMatchParent, unit_bind_eq_ok_iff, ensure_eq_ok_iff, ih, mem_cons,
      forall_eq_or_imp]

/-- What the hydration of the checkpoint proof establishes where the scope asks for one. -/
structure HydratedCheckpoint (A : Alloy) (R : Reth) (chainSpec : ChainSpec) (manifest : TaikoManifest)
    (checkpoints : List AnchorCheckpoint) (scope : ParentCheckpointValidationScope) (first : StatelessInput)
    (parent : AnchorCheckpoint) : Prop where
  read : parentCheckpointFromWitness A R chainSpec first (lastAnchorBlockNumber manifest) = ok parent
  valid : validateScope A checkpoints parent scope = ok ()

theorem hydratedCheckpoint_of_eq_ok (hCheckpoints : blocks.mapM (decodeAnchorCheckpoint A) = ok checkpoints)
    {scope : ParentCheckpointValidationScope}
    (hScope : parentCheckpointValidationScope (checkpoints.map (·.blockNumber)) spans (lastAnchorBlockNumber manifest)
      (toU64 manifest.proposal.originBlockNumber) chainSpec.chainId = ok (some scope))
    (h : hydrateShastaParentCheckpointWitness A P R chainSpec blocks manifest spans witnesses = ok hydratedWitnesses) :
    ∃ first parent, hydratedWitnesses.head? = some first ∧
      HydratedCheckpoint A R chainSpec manifest checkpoints scope first parent := by
  simp only [hydrateShastaParentCheckpointWitness, hCheckpoints, hScope, ok_bind] at h
  obtain ⟨store, -, h⟩ := bind_eq_ok_iff.mp h
  cases witnesses with
  | nil => cases h
  | cons firstWitness rest =>
    simp only [bind_eq_ok_iff, pure_eq_ok, ok.injEq] at h
    obtain ⟨nodes, -, parent, hRead, _, hValid, rfl⟩ := h
    exact ⟨_, parent, rfl, hRead, hValid⟩

end Hydration

end Raiko2.Host
