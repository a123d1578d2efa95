import Raiko2.Guest.ProposalSound
import Raiko2.Host.PreflightSound

/-!
# The preflight prepares what the guest accepts

The host derives the blocks of a proposal by its own loop, chooses the range of L1 headers and checks the
anchor checkpoints before the guest does. On consistent data both derivations succeed on the same inputs with
the same result, and an input that the two hydration steps produced passes the guest's linkage check.
-/

namespace Raiko2.Host

open Lib Lib.Outcome

section Agreement

variable {A : Alloy} {R : Reth} {T : TaikoProtocol} {activations : ForkActivations} {network : TaikoNetwork}
  {chainSpec : ChainSpec} {manifest hydrated : TaikoManifest} {parentBlock : Block} {blocks : List Block}
  {readParent : ParentReader} {input : GuestInput} {spans : Option (List AnchorSourceSpan)}
  {checkpoints : List AnchorCheckpoint}

/-- The guest input belongs to the data of the host: it holds the manifest, up to the L1 headers, and the fetched
blocks; the last ancestor header is the parent block; the last anchor is the one that the parent state holds; and
the chain spec agrees with the built-in one on the Shasta timestamp and on the CheckpointStore. -/
structure ConsistentData (activations : ForkActivations) (network : TaikoNetwork) (chainSpec : ChainSpec)
    (manifest : TaikoManifest) (parentBlock : Block) (blocks : List Block) (readParent : ParentReader)
    (input : GuestInput) : Prop where
  taiko : ∃ header headers, input.taiko = { manifest with l1Header := header, l1AncestorHeaders := headers }
  chainId : manifest.chainSpec.chainId = chainSpec.chainId
  builtin : builtinTaikoChainSpec chainSpec.chainId = ok network
  blocks : input.witnesses.map (·.block) = blocks
  chains : ∀ witness ∈ input.witnesses, witness.chainSpec.chainId = chainSpec.chainId
  parent : ∃ header, input.initialProposalAncestorHeaders.getLast? = some header ∧
    header.fullHeader = some parentBlock.header
  anchor : ∃ witness address word, input.witnesses.head? = some witness ∧
    shastaTaikoL2Address witness.chainSpec.chainId = ok address ∧
    readParent (parentStorageRead input address anchorBlockStateSlot witness input.initialProposalAncestorHeaders) =
      ok word ∧ anchorBlockNumberFromStorageWord word = lastAnchorBlockNumber manifest
  fork : ∃ timestamp, shastaForkTimestampForChainSpec chainSpec = ok timestamp ∧
    shastaForkTimestamp activations network = ok timestamp
  checkpointStore : ∃ store, chainSpec.checkpointStoreContract = some store ∧
    shastaCheckpointStoreAddress chainSpec.chainId = ok store

def SameParentStorage (R : Reth) (readParent : ParentReader) (hydrated : List StatelessInput) (input : GuestInput) :
    Prop :=
  ∀ first, hydrated.head? = some first → ∀ witness, input.witnesses.head? = some witness → ∀ address slot word,
    readParentStorageWithWitnessResources R address slot first.witness first.witness.headers [] = ok word →
      readParent (parentStorageRead input address slot witness input.initialProposalAncestorHeaders) = ok word

section Consistent

variable (hData : ConsistentData activations network chainSpec manifest parentBlock blocks readParent input)
  (hWindow : input.ancestorHeaders.length ≤ ancestorHeaderWindowLimit)

include hData

theorem ConsistentData.proposal : input.taiko.proposal = manifest.proposal := by
  obtain ⟨_, _, hTaiko⟩ := hData.taiko
  rw [hTaiko]

theorem ConsistentData.guestChainId : input.taiko.chainSpec.chainId = chainSpec.chainId := by
  obtain ⟨_, _, hTaiko⟩ := hData.taiko
  rw [hTaiko]
  exact hData.chainId

theorem ConsistentData.lastFullHeader :
    lastFullHeader input.initialProposalAncestorHeaders = ok parentBlock.header := by
  obtain ⟨header, hLast, hFull⟩ := hData.parent
  obtain ⟨rest, hRest⟩ := List.getLast?_eq_some_iff.mp hLast
  rw [Raiko2.lastFullHeader, hRest]
  simp [hFull]

include hWindow

theorem ConsistentData.window :
    Raiko2.initialProposalAncestorHeaders input = ok input.initialProposalAncestorHeaders := by
  obtain ⟨header, hLast, -⟩ := hData.parent
  have hLength : input.initialProposalAncestorHeaders.length = input.ancestorHeaders.length := length_sortByKey
  refine initialProposalAncestorHeaders_eq_ok_iff.mpr ⟨?_, hWindow, rfl⟩
  rw [← hLength]
  exact List.length_pos_of_mem (List.mem_of_getLast? hLast)

theorem ConsistentData.verifiedAnchor :
    verifiedParentAnchorBlockNumber readParent input = ok (lastAnchorBlockNumber manifest) := by
  obtain ⟨witness, address, word, hFirst, hAddress, hRead, hAnchor⟩ := hData.anchor
  obtain ⟨header, headers, hTaiko⟩ := hData.taiko
  have hHost : checkHostAnchor (lastAnchorBlockNumber manifest) input.taiko.proverData.lastAnchorBlockNumber = ok () := by
    rw [hTaiko, lastAnchorBlockNumber]
    cases manifest.proverData.lastAnchorBlockNumber with
    | none => rfl
    | some anchor => exact ensure_of_pos rfl
  simp only [verifiedParentAnchorBlockNumber, hFirst, ofOption_some, ok_bind, hAddress, withContext, mapError_ok,
    hData.window hWindow, hRead, hAnchor, hHost, pure_eq_ok]

theorem ConsistentData.derivations_agree (hGas : T.anchorV3V4GasLimit = anchorGasLimit)
    (hSources : manifest.proposal.sources ≠ [])
    (hNormal : manifest.proposal.sources.getLast?.any (fun source => !source.isForcedInclusion) = true)
    (data : PreflightSourceData) :
    derivePreflightSourceData T chainSpec manifest (some parentBlock) blocks = ok (some data) ↔
      deriveExpectedShastaBlocks T activations network input (lastAnchorBlockNumber manifest) =
        ok (some ⟨data.manifestBlocks, data.sourceSpans⟩) := by
  obtain ⟨timestamp, hHostFork, hGuestFork⟩ := hData.fork
  obtain ⟨_, _, hTaiko⟩ := hData.taiko
  have hCount : input.witnesses.length = blocks.length := by rw [← hData.blocks, List.length_map]
  rw [derivePreflightSourceData_eq_ok_iff hSources, deriveExpectedShastaBlocks_eq_some_iff]
  constructor
  · rintro ⟨_, fork, hEq, h⟩
    obtain rfl := Option.some.inj hEq
    obtain rfl : timestamp = fork := Outcome.ok.inj (hHostFork.symm.trans h.fork)
    have hDerivation := h.derivation
    rw [hGas, deriveSources_eq_ok_iff sourceFailure] at hDerivation
    refine ⟨timestamp, parentBlock.header, ?_, ?_, ?_, hGuestFork, hData.window hWindow, hData.lastFullHeader, ?_, ?_⟩
    · rwa [hData.proposal]
    · rwa [hData.proposal]
    · rw [hTaiko]
      exact h.dataSources.symm
    · rw [hData.guestChainId, hTaiko]
      exact hDerivation
    · rw [hCount]
      exact h.count
  · rintro ⟨fork, header, h⟩
    obtain rfl : timestamp = fork := Outcome.ok.inj (hGuestFork.symm.trans h.fork)
    obtain rfl : parentBlock.header = header := Outcome.ok.inj (hData.lastFullHeader.symm.trans h.parent)
    have hDerivation := h.derivation
    rw [deriveSources_eq_ok_iff preflightSourceFailure, hData.guestChainId, hTaiko, ← hGas] at hDerivation
    have hLengths := h.dataSources
    rw [hTaiko] at hLengths
    exact ⟨data, timestamp, rfl, hLengths.symm, hHostFork, hDerivation, h.count.trans hCount⟩

theorem ConsistentData.verifiedCheckpoint {hydratedWitnesses : List StatelessInput} {first : StatelessInput}
    {number : UInt64} {parent : AnchorCheckpoint} (hFirst : hydratedWitnesses.head? = some first)
    (hSame : SameParentStorage R readParent hydratedWitnesses input)
    (hRead : parentCheckpointFromWitness A R chainSpec first number = ok parent) :
    verifiedParentShastaCheckpoint A readParent input number = ok parent := by
  obtain ⟨witness, _, _, hWitness, -⟩ := hData.anchor
  obtain ⟨store, hStore, hAddress⟩ := hData.checkpointStore
  have hSlot := hSame first hFirst witness hWitness store
  have hMem : witness ∈ input.witnesses := List.mem_of_mem_head? hWitness
  simp only [parentCheckpointFromWitness, readFirstWitness, hStore, ofOption_some, ok_bind, bind_eq_ok_iff,
    mapError_eq_ok_iff, ensure_eq_ok_iff] at hRead
  obtain ⟨hash, hHash, root, hRoot, _, hHashNe, _, hRootNe, hEq⟩ := hRead
  cases hEq
  simp only [verifiedParentShastaCheckpoint, hWitness, ofOption_some, ok_bind, hData.chains witness hMem, hAddress,
    withContext, mapError_ok, hData.window hWindow, hSlot _ _ hHash, hSlot _ _ hRoot, ensure_of_pos hHashNe,
    ensure_of_pos hRootNe, pure_eq_ok]

theorem ConsistentData.linkage {P P' : Provider} {witnesses hydratedWitnesses : List StatelessInput}
    (hHeaders : hydrateShastaL1Headers A P chainSpec.chainId blocks manifest spans = ok hydrated)
    (hCheckpoint : hydrateShastaParentCheckpointWitness A P' R chainSpec blocks hydrated spans witnesses =
      ok hydratedWitnesses)
    (hInput : input.taiko = hydrated) (hSame : SameParentStorage R readParent hydratedWitnesses input)
    (hTime : hydrated.l1Header.timestamp < toU64 manifest.proposal.timestamp) :
    ∃ checkpoints, blocks.mapM (decodeAnchorCheckpoint A) = ok checkpoints ∧
      validateL1AnchorLinkage A readParent input checkpoints (lastAnchorBlockNumber manifest) spans = ok () := by
  obtain ⟨checkpoints, hDecoded, hHydrated⟩ := hydratedHeaders_of_eq_ok hHeaders
  refine ⟨checkpoints, hDecoded, ?_⟩
  cases hHydrated with
  | stalled header hBypass hNumber hHash =>
    have hScope : parentCheckpointValidationScope (checkpoints.map (·.blockNumber)) spans
        (lastAnchorBlockNumber manifest) (toU64 manifest.proposal.originBlockNumber) chainSpec.chainId =
          ok (some .all) := by
      simp only [parentCheckpointValidationScope, hBypass, if_true]
    obtain ⟨first, parent, hFirst, hRead, hValid⟩ := hydratedCheckpoint_of_eq_ok hDecoded hScope hCheckpoint
    have hHeader : checkL1Header A input.taiko = ok () := by
      rw [hInput]
      exact checkL1Header_eq_ok_iff.mpr ⟨hNumber, hHash, hTime⟩
    have hParent := hData.verifiedCheckpoint hWindow hFirst hSame hRead
    simp only [validateScope, validateAnchorCheckpointsMatchParent_eq_ok_iff] at hValid
    simp only [validateL1AnchorLinkage, hHeader, hData.proposal, hData.guestChainId, hBypass, if_true, ok_bind]
    rw [show verifiedParentShastaCheckpoint A readParent input (lastAnchorBlockNumber manifest) = ok parent from hParent]
    exact checkParentCheckpoints_eq_ok_iff.mpr hValid
  | linked header headers headerCheckpoints start hBypass hAnchors hCount hValid hLast hNumber =>
    obtain ⟨plan, hPlan, hSlice, hScope⟩ := plan_of_l1HeaderAnchorCheckpoints hBypass hAnchors
    have hFetched := fetchedHeaders_of_eq_ok hCount hValid
    have hHeader : checkL1Header A input.taiko = ok () := by
      rw [hInput]
      refine checkL1Header_eq_ok_iff.mpr ⟨hNumber, ?_, hTime⟩
      rw [← hFetched.origin, hLast]
      rfl
    have hForced : checkForcedCheckpoints A readParent input checkpoints (lastAnchorBlockNumber manifest) plan =
        ok () := by
      by_cases hRequired : plan.requiresParentCheckpoint = true
      · obtain ⟨first, parent, hFirst, hRead, hScopeValid⟩ :=
          hydratedCheckpoint_of_eq_ok hDecoded (hScope hRequired) hCheckpoint
        have hParent := hData.verifiedCheckpoint hWindow hFirst hSame hRead
        obtain ⟨forced, hPrefix, hMatch⟩ := bind_eq_ok_iff.mp hScopeValid
        rw [ofOption_eq_ok_iff] at hPrefix
        rw [validateAnchorCheckpointsMatchParent_eq_ok_iff] at hMatch
        rw [checkForcedCheckpoints, if_pos hRequired, hPrefix,
          show verifiedParentShastaCheckpoint A readParent input (lastAnchorBlockNumber manifest) = ok parent from hParent]
        exact checkParentCheckpoints_eq_ok_iff.mpr hMatch
      · rw [checkForcedCheckpoints, if_neg hRequired]
    have hAncestors : checkL1AncestorHeaders A input.taiko headerCheckpoints = ok () := by
      rw [hInput]
      exact FetchedHeaders.checkL1AncestorHeaders hFetched hLast hNumber
    simp only [validateL1AnchorLinkage, hHeader, hData.proposal, hData.guestChainId, hBypass, Bool.false_eq_true, if_false,
      ok_bind, hPlan, hForced, hSlice, ofOption_some, hAncestors]

end Consistent

/-- On consistent data with at most 256 ancestor headers: the guest finds the last anchor of the host in the parent
state, both derivations succeed on the same inputs with the same blocks and source spans, and an input made by
successful hydration passes the linkage check of the guest. -/
theorem preflight_agrees_with_guest (hGas : T.anchorV3V4GasLimit = anchorGasLimit)
    (hSources : manifest.proposal.sources ≠ [])
    (hNormal : manifest.proposal.sources.getLast?.any (fun source => !source.isForcedInclusion) = true)
    (hData : ConsistentData activations network chainSpec manifest parentBlock blocks readParent input)
    (hWindow : input.ancestorHeaders.length ≤ ancestorHeaderWindowLimit) :
    verifiedParentAnchorBlockNumber readParent input = ok (lastAnchorBlockNumber manifest) ∧
      ((∃ data?, derivePreflightSourceData T chainSpec manifest (some parentBlock) blocks = ok data?) ↔
        ∃ derived?, deriveExpectedShastaBlocks T activations network input (lastAnchorBlockNumber manifest) =
          ok derived?) ∧
      (∀ data, derivePreflightSourceData T chainSpec manifest (some parentBlock) blocks = ok (some data) ↔
        deriveExpectedShastaBlocks T activations network input (lastAnchorBlockNumber manifest) =
          ok (some ⟨data.manifestBlocks, data.sourceSpans⟩)) ∧
      ∀ (P P' : Provider) (spans : Option (List AnchorSourceSpan)) (witnesses hydratedWitnesses : List StatelessInput)
        (hydrated : TaikoManifest),
        hydrateShastaL1Headers A P chainSpec.chainId blocks manifest spans = ok hydrated →
        hydrateShastaParentCheckpointWitness A P' R chainSpec blocks hydrated spans witnesses = ok hydratedWitnesses →
        input.taiko = hydrated → SameParentStorage R readParent hydratedWitnesses input →
        hydrated.l1Header.timestamp < toU64 manifest.proposal.timestamp →
        ∃ checkpoints, blocks.mapM (decodeAnchorCheckpoint A) = ok checkpoints ∧
          (∀ guest, blocks.mapM (Raiko2.decodeAnchorCheckpoint A) = ok guest → guest = checkpoints) ∧
          validateL1AnchorLinkage A readParent input checkpoints (lastAnchorBlockNumber manifest) spans = ok () := by
  have hAgree := hData.derivations_agree hWindow hGas hSources hNormal
  refine ⟨hData.verifiedAnchor hWindow, ⟨?_, ?_⟩, hAgree, ?_⟩
  · rintro ⟨data?, h⟩
    obtain ⟨data, _, rfl, -⟩ := (derivePreflightSourceData_eq_ok_iff hSources).mp h
    exact ⟨_, (hAgree data).mp h⟩
  · rintro ⟨derived?, h⟩
    cases derived? with
    | none =>
      rw [deriveExpectedShastaBlocks_eq_none_iff, hData.proposal] at h
      exact absurd h hSources
    | some derived => exact ⟨_, (hAgree ⟨derived.blocks, derived.sourceSpans⟩).mpr h⟩
  · intro P P' spans witnesses hydratedWitnesses hydrated hHeaders hCheckpoint hInput hSame hTime
    obtain ⟨checkpoints, hDecoded, hLinkage⟩ := hData.linkage hWindow hHeaders hCheckpoint hInput hSame hTime
    exact ⟨checkpoints, hDecoded, fun _ hGuest => mapM_decodeAnchorCheckpoint_eq hDecoded hGuest, hLinkage⟩

end Agreement

section Sample

def samplePreflightSpec : ChainSpec :=
  { chainId := 167013, hardForks := [(.taiko .shasta, .timestamp 0)]
    checkpointStoreContract := some 0x1670130000000000000000000000000000000005 }

def samplePreflightManifest : TaikoManifest :=
  { (sampleInput 30000000 31000000 []).taiko with
    proverData := { lastAnchorBlockNumber := some 8 }
    proposal := { sampleProposal with sources := [{ isForcedInclusion := true }, {}] }
    dataSources := [{}, {}] }

def samplePreflightParent : Block := { header := sampleParentHeader 30000000 }

def samplePreflightBlocks : List Block := List.replicate 2 (sampleBlock 30000000 31000000 [])

/-- The parent state holds the last anchor and the checkpoint of its block. -/
def samplePreflightWord (slot : U256) : U256 :=
  let slots := shastaCheckpointStorageSlots sampleAlloy.keccak256 8
  if slot = slots.1 then sampleAlloy.hashSlow sampleOrigin else if slot = slots.2 then sampleOrigin.stateRoot else 8

def samplePreflightReth : Reth :=
  { sampleReth with storageFromWitness := fun _ _ _ _ slot => .ok (samplePreflightWord slot) }

def samplePreflightWitness : StatelessInput where
  block := sampleBlock 30000000 31000000 []
  chainSpec := { chainId := 167013 }
  witness := { headers := [.fromHeader sampleAlloy (sampleParentHeader 30000000)] }

def samplePreflightInput (copies : Nat) : GuestInput :=
  { sampleInput 30000000 31000000 [] with
    witnesses := List.replicate 2 samplePreflightWitness
    taiko := samplePreflightManifest
    proposalAncestorHeaders := List.replicate copies (.fromHeader sampleAlloy (sampleParentHeader 30000000)) }

def samplePreflightData : PreflightSourceData :=
  ⟨[{ timestamp := 1001, coinbase := 0x22, anchorBlockNumber := 8, gasLimit := 30000000 },
    { timestamp := 1002, coinbase := 0x22, anchorBlockNumber := 8, gasLimit := 30000000 }], [⟨true, 1⟩, ⟨false, 1⟩]⟩

def samplePreflightCheckpoints : List AnchorCheckpoint :=
  List.replicate 2 ⟨8, sampleAlloy.hashSlow sampleOrigin, sampleOrigin.stateRoot⟩

def samplePreflightProvider : Provider where
  batchL1Headers numbers := ok (numbers.map fun _ => sampleOrigin)
  batchStorageProofWitnesses numbers _ := ok (numbers.map fun _ => [{}])

theorem samplePreflightInput_getLast? (copies : Nat) :
    (samplePreflightInput (copies + 1)).initialProposalAncestorHeaders.getLast? =
      some (.fromHeader sampleAlloy (sampleParentHeader 30000000)) := by
  have hHeaders : (samplePreflightInput (copies + 1)).initialProposalAncestorHeaders =
      List.replicate (copies + 1) (.fromHeader sampleAlloy (sampleParentHeader 30000000)) := by
    refine sortByKey_of_pairwise ?_
    exact List.pairwise_replicate.mpr (Or.inr (Nat.le_refl _))
  rw [hHeaders, List.getLast?_replicate, if_neg (Nat.succ_ne_zero copies)]

theorem read_samplePreflightInput (copies : Nat) (address : Address) (slot : U256) :
    defaultParentStorageReader samplePreflightReth (parentStorageRead (samplePreflightInput (copies + 1)) address slot
      samplePreflightWitness (samplePreflightInput (copies + 1)).initialProposalAncestorHeaders) =
      ok (samplePreflightWord slot) := by
  simp only [defaultParentStorageReader, readParentStorageWithWitnessResources, determinePreStateRoot,
    parentStorageRead, samplePreflightInput_getLast?]
  rfl

theorem consistentData_samplePreflightInput (copies : Nat) :
    ConsistentData sampleActivations .hoodi samplePreflightSpec samplePreflightManifest samplePreflightParent
      samplePreflightBlocks (defaultParentStorageReader samplePreflightReth) (samplePreflightInput (copies + 1)) := by
  refine ⟨⟨_, _, rfl⟩, rfl, rfl, rfl, ?_, ⟨_, samplePreflightInput_getLast? copies, rfl⟩,
    ⟨_, 0x1670130000000000000000000000000000010001, 8, rfl, by decide +kernel, ?_, by decide +kernel⟩,
    ⟨0, rfl, rfl⟩, ⟨_, rfl, by decide +kernel⟩⟩
  · rintro witness hWitness
    rw [List.eq_of_mem_replicate hWitness]
    rfl
  · rw [read_samplePreflightInput]
    decide +kernel

theorem preflight_agrees_on_samplePreflightInput :
    derivePreflightSourceData sampleProtocol samplePreflightSpec samplePreflightManifest (some samplePreflightParent)
        samplePreflightBlocks = ok (some samplePreflightData) ∧
      parentCheckpointValidationScope (samplePreflightCheckpoints.map (·.blockNumber)) (some [⟨true, 1⟩, ⟨false, 1⟩]) 8 8 167013 = ok (some (.forcedPrefix 1)) ∧
      samplePreflightBlocks.mapM (decodeAnchorCheckpoint sampleAlloy) = ok samplePreflightCheckpoints ∧
      validateL1AnchorLinkage sampleAlloy (defaultParentStorageReader samplePreflightReth) (samplePreflightInput 1)
        samplePreflightCheckpoints 8 (some [⟨true, 1⟩, ⟨false, 1⟩]) = ok () := by
  obtain ⟨-, -, hDerive, hLinkage⟩ :=
    preflight_agrees_with_guest (A := sampleAlloy) (R := samplePreflightReth) (T := sampleProtocol) rfl
      (by decide +kernel) (by decide +kernel) (consistentData_samplePreflightInput 0) (by decide +kernel)
  have hBlocks : samplePreflightBlocks.mapM (decodeAnchorCheckpoint sampleAlloy) = ok samplePreflightCheckpoints := by
    decide +kernel
  refine ⟨(hDerive _).mpr (by decide +kernel), by decide +kernel, hBlocks, ?_⟩
  have hHeaders : hydrateShastaL1Headers sampleAlloy samplePreflightProvider samplePreflightSpec.chainId
      samplePreflightBlocks samplePreflightManifest (some [⟨true, 1⟩, ⟨false, 1⟩]) = ok samplePreflightManifest := by
    decide +kernel
  have hCheckpoint : hydrateShastaParentCheckpointWitness sampleAlloy samplePreflightProvider samplePreflightReth
      samplePreflightSpec samplePreflightBlocks samplePreflightManifest (some [⟨true, 1⟩, ⟨false, 1⟩])
      (samplePreflightInput 1).witnesses =
        ok [extendState samplePreflightWitness [{}], samplePreflightWitness] := by decide +kernel
  have hSame : SameParentStorage samplePreflightReth (defaultParentStorageReader samplePreflightReth)
      [extendState samplePreflightWitness [{}], samplePreflightWitness] (samplePreflightInput 1) := by
    intro first hFirst witness hWitness address slot word hRead
    obtain rfl := Option.some.inj hFirst
    obtain rfl := Option.some.inj hWitness
    have hWord : (ok (samplePreflightWord slot) : Outcome StatelessValidationError U256) = ok word := hRead
    rw [read_samplePreflightInput 0, Outcome.ok.inj hWord]
  obtain ⟨checkpoints, hDecoded, -, hValid⟩ :=
    hLinkage _ _ _ _ _ _ hHeaders hCheckpoint rfl hSame (by decide +kernel)
  cases hBlocks.symm.trans hDecoded
  exact hValid

/-- With 257 ancestor headers the host still derives the blocks, while the guest rejects the window. -/
theorem preflight_derives_beyond_window :
    ConsistentData sampleActivations .hoodi samplePreflightSpec samplePreflightManifest samplePreflightParent
        samplePreflightBlocks (defaultParentStorageReader samplePreflightReth) (samplePreflightInput 257) ∧
      samplePreflightManifest.proposal.sources = [{ isForcedInclusion := true }, {}] ∧
      (∃ data, derivePreflightSourceData sampleProtocol samplePreflightSpec samplePreflightManifest
        (some samplePreflightParent) samplePreflightBlocks = ok (some data)) ∧
      ∀ derived?, deriveExpectedShastaBlocks sampleProtocol sampleActivations .hoodi (samplePreflightInput 257)
        (lastAnchorBlockNumber samplePreflightManifest) ≠ ok derived? := by
  refine ⟨consistentData_samplePreflightInput 256, rfl, ⟨samplePreflightData, by decide +kernel⟩, ?_⟩
  intro derived? h
  cases derived? with
  | none =>
    rw [deriveExpectedShastaBlocks_eq_none_iff] at h
    cases h
  | some derived =>
    obtain ⟨_, _, hDerivation⟩ := deriveExpectedShastaBlocks_eq_some_iff.mp h
    have hWindow := (initialProposalAncestorHeaders_eq_ok_iff.mp hDerivation.window).2.1
    revert hWindow
    decide +kernel

end Sample

end Raiko2.Host
