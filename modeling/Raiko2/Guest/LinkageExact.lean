import Raiko2.Guest.Linkage
import Raiko2.Lib.Chain
import Raiko2.Lib.Merge

/-!
# What L1 anchor linkage accepts

The pass over the L1 headers is a merge of two sorted lists, so that it accepts exactly the checkpoints that are
headers of the chain.
-/

namespace Raiko2

open Lib Lib.Outcome List

section ParentState

variable {A : Alloy} {readParent : ParentReader} {input : GuestInput} {number : UInt64}
  {checkpoint : DecodedAnchorCheckpoint}

/-- The checkpoint that the CheckpointStore of the parent state holds for a block number: both words can be
read, and neither is zero. -/
structure IsParentCheckpoint (A : Alloy) (readParent : ParentReader) (input : GuestInput) (number : UInt64)
    (checkpoint : DecodedAnchorCheckpoint) (witness : StatelessInput) (store : Address) : Prop where
  first : input.witnesses.head? = some witness
  address : shastaCheckpointStoreAddress witness.chainSpec.chainId = ok store
  window : 0 < input.ancestorHeaders.length ∧ input.ancestorHeaders.length ≤ ancestorHeaderWindowLimit
  hash : readParent (parentStorageRead input store (shastaCheckpointStorageSlots A.keccak256 number).1 witness
    input.initialProposalAncestorHeaders) = ok checkpoint.blockHash
  root : readParent (parentStorageRead input store (shastaCheckpointStorageSlots A.keccak256 number).2 witness
    input.initialProposalAncestorHeaders) = ok checkpoint.stateRoot
  nonzero : checkpoint.blockHash ≠ 0 ∧ checkpoint.stateRoot ≠ 0
  number : checkpoint.blockNumber = number

def EqualsParentCheckpoint (A : Alloy) (readParent : ParentReader) (input : GuestInput) (number : UInt64)
    (checkpoint : DecodedAnchorCheckpoint) : Prop :=
  ∃ witness store, IsParentCheckpoint A readParent input number checkpoint witness store

theorem verifiedParentShastaCheckpoint_eq_ok_iff :
    verifiedParentShastaCheckpoint A readParent input number = ok checkpoint ↔
      EqualsParentCheckpoint A readParent input number checkpoint := by
  simp only [verifiedParentShastaCheckpoint, bind_eq_ok_iff, ofOption_eq_ok_iff, withContext_eq_ok_iff,
    initialProposalAncestorHeaders_eq_ok_iff, ensure_eq_ok_iff, pure_eq_ok, Outcome.ok.injEq]
  constructor
  · rintro ⟨witness, hFirst, store, hStore, _, ⟨hPos, hLimit, rfl⟩, hash, hHash, root, hRoot, -, hHashNe, -, hRootNe,
      rfl⟩
    exact ⟨witness, store, hFirst, hStore, ⟨hPos, hLimit⟩, hHash, hRoot, ⟨hHashNe, hRootNe⟩, rfl⟩
  · rintro ⟨witness, store, h⟩
    obtain ⟨n, hash, root⟩ := checkpoint
    obtain rfl : n = number := h.number
    exact ⟨witness, h.first, store, h.address, _, ⟨h.window.1, h.window.2, rfl⟩, hash, h.hash, root, h.root, (),
      h.nonzero.1, (), h.nonzero.2, rfl⟩

variable {checkpoints : List DecodedAnchorCheckpoint}

theorem checkParentCheckpoints_eq_ok_iff {label : String} {parent : DecodedAnchorCheckpoint} {u : Unit} :
    checkParentCheckpoints A label parent checkpoints = ok u ↔ ∀ c ∈ checkpoints, c = parent := by
  induction checkpoints with
  | nil => simp [checkParentCheckpoints]
  | cons c rest ih =>
    simp only [checkParentCheckpoints, unit_bind_eq_ok_iff, ensure_eq_ok_iff, ih, mem_cons, forall_eq_or_imp]

theorem parentCheckpoints_eq_ok_iff {label : String} (hNonempty : checkpoints ≠ []) :
    (verifiedParentShastaCheckpoint A readParent input number >>= fun parent =>
        checkParentCheckpoints A label parent checkpoints) = ok () ↔
      ∀ c ∈ checkpoints, EqualsParentCheckpoint A readParent input number c := by
  simp only [bind_eq_ok_iff, checkParentCheckpoints_eq_ok_iff, ← verifiedParentShastaCheckpoint_eq_ok_iff]
  constructor
  · rintro ⟨parent, hParent, hAll⟩ c hc
    rw [hAll c hc, hParent]
  · intro h
    obtain ⟨first, hFirst⟩ := exists_mem_of_ne_nil checkpoints hNonempty
    refine ⟨first, h first hFirst, fun c hc => ?_⟩
    have hEq := (h c hc).symm.trans (h first hFirst)
    exact Outcome.ok.inj hEq

end ParentState

section Headers

variable {A : Alloy} {checkpoints : List DecodedAnchorCheckpoint} {headers : List Header}

def AgreesWithHeader (A : Alloy) (checkpoint : DecodedAnchorCheckpoint) (header : Header) : Prop :=
  checkpoint.blockHash = A.hashSlow header ∧ checkpoint.stateRoot = header.stateRoot

instance (A : Alloy) (checkpoint : DecodedAnchorCheckpoint) (header : Header) :
    Decidable (AgreesWithHeader A checkpoint header) :=
  inferInstanceAs (Decidable (_ ∧ _))

abbrev takeAtHeader (A : Alloy) :=
  takeMatching (fun c : DecodedAnchorCheckpoint => c.blockNumber.toNat) (fun h : Header => h.number.toNat)
    (AgreesWithHeader A)

abbrev mergeAtHeaders (A : Alloy) :=
  mergeEntries (fun c : DecodedAnchorCheckpoint => c.blockNumber.toNat) (fun h : Header => h.number.toNat)
    (AgreesWithHeader A)

variable {remaining : List DecodedAnchorCheckpoint}

theorem consumeCheckpoints_eq_ok_iff {header : Header} :
    consumeCheckpoints A header (A.hashSlow header) checkpoints = ok remaining ↔
      takeAtHeader A header checkpoints = some remaining := by
  induction checkpoints with
  | nil => simp [consumeCheckpoints, takeMatching]
  | cons c rest ih =>
    rw [consumeCheckpoints, takeAtHeader, takeMatching]
    by_cases hNumber : c.blockNumber = header.number
    · rw [if_neg (not_not.mpr hNumber), ensure_bind_eq_ok_iff, ih, if_neg (not_not.mpr (congrArg _ hNumber)),
        Option.ite_none_right_eq_some]
      exact Iff.rfl
    · rw [if_pos hNumber, if_pos fun h => hNumber (UInt64.toNat_inj.mp h)]
      simp

def LinksTo (A : Alloy) (previous header : Header) : Prop :=
  header.number.toNat = previous.number.toNat + 1 ∧ header.parentHash = A.hashSlow previous

theorem checkHeaderLink_eq_ok_iff {index : Nat} {previous : Option Header} {header : Header} {u : Unit}
    (hSmall : ∀ h ∈ previous, h.number.toNat < 2 ^ 64 - 1) :
    checkHeaderLink index header (previous.map fun h => (h.number, A.hashSlow h)) = ok u ↔
      ∀ h ∈ previous, LinksTo A h header := by
  cases previous with
  | none => simp [checkHeaderLink]
  | some previous =>
    have hNext : (previous.number + 1).toNat = previous.number.toNat + 1 :=
      U64.toNat_add_of_lt (by have := hSmall previous rfl; simp; omega)
    simp only [Option.map_some, checkHeaderLink, unit_bind_eq_ok_iff, ensure_eq_ok_iff, Option.mem_some_iff,
      forall_eq', LinksTo, ← UInt64.toNat_inj, hNext]

theorem l1HeaderLoop_eq_ok_iff {index : Nat} (previous : Option Header) {last : Option (UInt64 × B256)}
    (hSmall : ∀ h ∈ previous.toList ++ headers, h.number.toNat < 2 ^ 64 - 1) :
    l1HeaderLoop A index (previous.map fun h => (h.number, A.hashSlow h)) checkpoints headers = ok (last, remaining) ↔
      (previous.toList ++ headers).IsChain (LinksTo A) ∧ mergeAtHeaders A headers checkpoints = some remaining ∧
        last = (previous.toList ++ headers).getLast?.map fun h => (h.number, A.hashSlow h) := by
  induction headers generalizing index previous checkpoints with
  | nil =>
    cases previous <;> simp [l1HeaderLoop, mergeEntries] <;> tauto
  | cons header rest ih =>
    have hPrevious : ∀ h ∈ previous, h.number.toNat < 2 ^ 64 - 1 := by
      intro h hh
      exact hSmall h (mem_append_left _ (Option.mem_toList.mpr hh))
    have hTail : ∀ h ∈ (some header).toList ++ rest, h.number.toNat < 2 ^ 64 - 1 := by
      intro h hh
      exact hSmall h (mem_append_right _ (by simpa using hh))
    have hRest : ∀ items, l1HeaderLoop A (index + 1) (some (header.number, A.hashSlow header)) items rest =
        ok (last, remaining) ↔ _ := fun items => ih (some header) hTail
    have hLink : (previous.toList ++ header :: rest).IsChain (LinksTo A) ↔
        (∀ h ∈ previous, LinksTo A h header) ∧ (header :: rest).IsChain (LinksTo A) := by
      cases previous <;> simp
    have hLast : (previous.toList ++ header :: rest).getLast? = (header :: rest).getLast? := by
      cases previous <;> simp
    simp only [l1HeaderLoop, unit_bind_eq_ok_iff, checkHeaderLink_eq_ok_iff hPrevious, hLink, hLast]
    simp only [bind_eq_ok_iff, consumeCheckpoints_eq_ok_iff, mergeAtHeaders, mergeEntries, Option.bind_eq_some_iff,
      hRest, Option.toList_some, cons_append, nil_append]
    constructor
    · rintro ⟨hHere, items, hTake, hChain, hMerge, hEnd⟩
      exact ⟨⟨hHere, hChain⟩, ⟨items, hTake, hMerge⟩, hEnd⟩
    · rintro ⟨⟨hHere, hChain⟩, ⟨items, hTake, hMerge⟩, hEnd⟩
      exact ⟨hHere, items, hTake, hChain, hMerge, hEnd⟩

/-- The ancestor headers form a chain that ends at the origin block. -/
structure L1AncestorsOk (A : Alloy) (taiko : TaikoManifest) : Prop where
  nonempty : taiko.l1AncestorHeaders ≠ []
  chain : taiko.l1AncestorHeaders.IsChain (LinksTo A)
  origin : ∃ header, taiko.l1AncestorHeaders.getLast? = some header ∧
    header.number = toU64 taiko.proposal.originBlockNumber ∧ A.hashSlow header = taiko.proposal.originBlockHash

theorem pairwise_number_of_isChain (h : headers.IsChain (LinksTo A)) :
    headers.Pairwise fun a b => a.number.toNat < b.number.toNat := by
  have hTrans : IsTrans Header fun a b => a.number.toNat < b.number.toNat := ⟨fun _ _ _ => Nat.lt_trans⟩
  refine isChain_iff_pairwise.mp (h.imp fun a b hab => ?_)
  rw [hab.1]
  exact Nat.lt_succ_self _

theorem checkAllFound_eq_ok_iff {u : Unit} :
    checkAllFound A remaining = ok u ↔ remaining = [] := by
  cases remaining <;> simp [checkAllFound]

theorem checkL1AncestorHeaders_eq_ok_iff {taiko : TaikoManifest}
    (hSmall : ∀ h ∈ taiko.l1AncestorHeaders, h.number.toNat < 2 ^ 64 - 1)
    (hSorted : (checkpoints.map (·.blockNumber)).IsChain (· ≤ ·)) :
    checkL1AncestorHeaders A taiko checkpoints = ok () ↔
      L1AncestorsOk A taiko ∧ ∀ c ∈ checkpoints, ∃ header ∈ taiko.l1AncestorHeaders,
        c.blockNumber = header.number ∧ AgreesWithHeader A c header := by
  have hItems : checkpoints.Pairwise fun a b => a.blockNumber.toNat ≤ b.blockNumber.toNat := by
    have hTrans : IsTrans UInt64 (· ≤ ·) := ⟨fun _ _ _ => UInt64.le_trans⟩
    have hPairwise := pairwise_map.mp (isChain_iff_pairwise.mp hSorted)
    exact hPairwise.imp fun hab => UInt64.le_iff_toNat_le.mp hab
  have hMerge : ∀ h : taiko.l1AncestorHeaders.IsChain (LinksTo A), mergeAtHeaders A taiko.l1AncestorHeaders
      checkpoints = some [] ↔ ∀ c ∈ checkpoints, ∃ header ∈ taiko.l1AncestorHeaders,
        c.blockNumber = header.number ∧ AgreesWithHeader A c header := by
    intro h
    rw [mergeAtHeaders, mergeEntries_eq_nil_iff hItems (pairwise_number_of_isChain h)]
    simp only [UInt64.toNat_inj]
  simp only [checkL1AncestorHeaders, unit_bind_eq_ok_iff, ensure_eq_ok_iff]
  simp only [bind_eq_ok_iff, Prod.exists, ensure_eq_ok_iff, checkAllFound_eq_ok_iff]
  constructor
  · rintro ⟨hNonempty, last, remaining, hLoop, -, hNumber, -, hHash, rfl⟩
    obtain ⟨hChain, hFound, rfl⟩ := (l1HeaderLoop_eq_ok_iff none hSmall).mp hLoop
    rw [Option.toList_none, nil_append, getLast?_eq_getLast_of_ne_nil hNonempty] at hNumber hHash
    exact ⟨⟨hNonempty, hChain, _, getLast?_eq_getLast_of_ne_nil hNonempty, hNumber, hHash⟩,
      (hMerge hChain).mp hFound⟩
  · rintro ⟨⟨hNonempty, hChain, header, hLast, hNumber, hHash⟩, hFound⟩
    refine ⟨hNonempty, some (header.number, A.hashSlow header), [], ?_, (), hNumber, (), hHash, rfl⟩
    refine (l1HeaderLoop_eq_ok_iff none hSmall).mpr ⟨hChain, (hMerge hChain).mpr hFound, ?_⟩
    rw [Option.toList_none, nil_append, hLast, Option.map_some]

end Headers

section Linkage

variable {A : Alloy} {readParent : ParentReader} {input : GuestInput} {checkpoints : List DecodedAnchorCheckpoint}
  {parentAnchor : UInt64} {spans : Option (List AnchorSourceSpan)}

structure L1HeaderOk (A : Alloy) (taiko : TaikoManifest) : Prop where
  number : taiko.l1Header.number = toU64 taiko.proposal.originBlockNumber
  hash : A.hashSlow taiko.l1Header = taiko.proposal.originBlockHash
  timestamp : taiko.l1Header.timestamp < toU64 taiko.proposal.timestamp

theorem checkL1Header_eq_ok_iff {taiko : TaikoManifest} {u : Unit} :
    checkL1Header A taiko = ok u ↔ L1HeaderOk A taiko := by
  simp only [checkL1Header, unit_bind_eq_ok_iff, ensure_eq_ok_iff, gt_iff_lt]
  exact ⟨fun ⟨hNumber, hHash, hTime⟩ => ⟨hNumber, hHash, hTime⟩, fun h => ⟨h.number, h.hash, h.timestamp⟩⟩

def forcedBlocks (spans : Option (List AnchorSourceSpan)) : Nat :=
  spanBlocks ((spans.getD []).filter (·.isForcedInclusion))

theorem anchorPlan_eq_ok {numbers : List UInt64} {last origin chainId : UInt64} {plan : SourceAwareAnchorPlan}
    (hLength : numbers.length ≤ usizeMax) (h : anchorPlan numbers last origin chainId spans = ok plan) :
    plan = ⟨forcedBlocks spans, decide (forcedBlocks spans > 0)⟩ ∧ forcedBlocks spans ≤ numbers.length ∧
      (numbers.drop (forcedBlocks spans)).IsChain (· ≤ ·) := by
  cases spans with
  | none =>
    simp only [anchorPlan, unit_bind_eq_ok_iff, mapError_eq_ok_iff, pure_eq_ok, Outcome.ok.injEq] at h
    obtain ⟨hProgress, rfl⟩ := h
    exact ⟨rfl, Nat.zero_le _, (validateAnchorProgression_eq_ok_iff.mp hProgress).2.2⟩
  | some spans =>
    simp only [anchorPlan, mapError_eq_ok_iff] at h
    rcases eq_nil_or_concat' spans with rfl | ⟨forced, normal, rfl⟩
    · exact absurd h (validateSourceAwareAnchorProgression_nil plan)
    obtain ⟨hNormal, -, hForced, hCount, hProgress, rfl⟩ :=
      (validateSourceAwareAnchorProgression_eq_ok_iff hLength).mp h
    have hBlocks : forcedBlocks (some (forced ++ [normal])) = spanBlocks forced := by
      have hFilter : forced.filter (·.isForcedInclusion) = forced :=
        filter_eq_self.mpr fun span hSpan => (hForced.forced span hSpan).1
      simp [forcedBlocks, filter_append, hFilter, hNormal]
    rw [hBlocks]
    exact ⟨rfl, by omega, (validateAnchorProgression_eq_ok_iff.mp hProgress).2.2⟩

theorem checkForcedCheckpoints_eq_ok_iff {count : Nat} (hCount : count ≤ checkpoints.length) :
    checkForcedCheckpoints A readParent input checkpoints parentAnchor ⟨count, decide (count > 0)⟩ = ok () ↔
      ∀ c ∈ checkpoints.take count, EqualsParentCheckpoint A readParent input parentAnchor c := by
  rcases Nat.eq_zero_or_pos count with rfl | hPos
  · simp [checkForcedCheckpoints]
  · have hSlice : sliceGet checkpoints 0 count = some (checkpoints.take count) :=
      sliceGet_eq_some_iff.mpr ⟨Nat.zero_le _, hCount, by simp⟩
    have hNonempty : checkpoints.take count ≠ [] := by
      rw [← length_pos_iff_ne_nil, length_take]
      omega
    simp only [checkForcedCheckpoints, hPos, decide_true, if_true, hSlice, ofOption_some, ok_bind]
    exact parentCheckpoints_eq_ok_iff hNonempty

def IsL1Header (A : Alloy) (taiko : TaikoManifest) (checkpoint : DecodedAnchorCheckpoint) : Prop :=
  ∃ header ∈ taiko.l1AncestorHeaders, checkpoint.blockNumber = header.number ∧ AgreesWithHeader A checkpoint header

theorem validateL1AnchorLinkage_exact (A : Alloy) (readParent : ParentReader) (input : GuestInput)
    (checkpoints : List DecodedAnchorCheckpoint) (parentAnchor : UInt64) (spans : Option (List AnchorSourceSpan))
    (hLength : checkpoints.length ≤ usizeMax)
    (hSmall : ∀ header ∈ input.taiko.l1AncestorHeaders, header.number.toNat < 2 ^ 64 - 1) :
    (shouldBypassStalledAnchorLinkage (checkpoints.map (·.blockNumber)) parentAnchor
          (toU64 input.taiko.proposal.originBlockNumber) input.taiko.chainSpec.chainId = false →
        (∃ plan, anchorPlan (checkpoints.map (·.blockNumber)) parentAnchor
          (toU64 input.taiko.proposal.originBlockNumber) input.taiko.chainSpec.chainId spans = ok plan) →
        (validateL1AnchorLinkage A readParent input checkpoints parentAnchor spans = ok () ↔
          L1HeaderOk A input.taiko ∧ L1AncestorsOk A input.taiko ∧
            (∀ c ∈ checkpoints.take (forcedBlocks spans), EqualsParentCheckpoint A readParent input parentAnchor c) ∧
            ∀ c ∈ checkpoints.drop (forcedBlocks spans), IsL1Header A input.taiko c)) ∧
      (shouldBypassStalledAnchorLinkage (checkpoints.map (·.blockNumber)) parentAnchor
          (toU64 input.taiko.proposal.originBlockNumber) input.taiko.chainSpec.chainId = true →
        (validateL1AnchorLinkage A readParent input checkpoints parentAnchor spans = ok () ↔
          L1HeaderOk A input.taiko ∧
            ∀ c ∈ checkpoints, EqualsParentCheckpoint A readParent input parentAnchor c)) := by
  constructor
  · rintro hBypass ⟨plan, hPlan⟩
    obtain ⟨rfl, hCount, hSorted⟩ := anchorPlan_eq_ok (by simpa using hLength) hPlan
    rw [length_map] at hCount
    rw [← map_drop] at hSorted
    have hSlice : sliceGet checkpoints (forcedBlocks spans) checkpoints.length =
        some (checkpoints.drop (forcedBlocks spans)) :=
      sliceGet_eq_some_iff.mpr ⟨hCount, le_rfl, by rw [← length_drop, take_length]⟩
    simp only [validateL1AnchorLinkage, hBypass, Bool.false_eq_true, if_false, hPlan, hSlice, ofOption_some, ok_bind,
      unit_bind_eq_ok_iff, checkL1Header_eq_ok_iff, checkForcedCheckpoints_eq_ok_iff hCount,
      checkL1AncestorHeaders_eq_ok_iff hSmall hSorted, IsL1Header]
    tauto
  · intro hBypass
    have hNonempty : checkpoints ≠ [] := by
      rintro rfl
      cases hBypass
    simp only [validateL1AnchorLinkage, hBypass, if_true, unit_bind_eq_ok_iff, checkL1Header_eq_ok_iff,
      parentCheckpoints_eq_ok_iff hNonempty]

end Linkage

section Sample

/-- Stand-ins for the external primitives: a polynomial hash, and fixed-width encodings. -/
def sampleAlloy : Alloy where
  keccak256 bytes := bytes.foldl (fun hash byte => hash * 257 + BitVec.ofNat 256 (byte.toNat + 1)) 0
  sha256 bytes := bytes.foldl (fun hash byte => hash * 263 + BitVec.ofNat 256 (byte.toNat + 1)) 0
  encodeHeader header := wordsBytes [header.parentHash, header.stateRoot, u64ToB256 header.number,
    u64ToB256 header.timestamp, addressToB256 header.beneficiary, u64ToB256 header.gasLimit, header.mixHash]
  decodeHeader _ := .error "unsupported"
  encodeProposal proposal := wordsBytes [uint48ToB256 proposal.id, uint48ToB256 proposal.timestamp,
    proposal.parentProposalHash, proposal.originBlockHash]
  txFields tx :=
    { input := tx.rlp, recipient := some 0x1670130000000000000000000000000000010001, chainId := some 167013
      maxFeePerGas := 7, maxPriorityFeePerGas := some 0 }
  recoverSigner _ := some 0x77
  decodeTransaction bytes := .ok ⟨bytes⟩
  anchorV4Selector := [1, 2, 3, 4]
  anchorV4Decode bytes :=
    let word i := ofBeBytes ((bytes.drop (4 + 32 * i)).take 32)
    .ok ⟨BitVec.ofNat 48 (word 0), BitVec.ofNat 256 (word 1), BitVec.ofNat 256 (word 2)⟩
  anchorV4Encode checkpoint := [1, 2, 3, 4] ++
    wordsBytes [uint48ToB256 checkpoint.blockNumber, checkpoint.blockHash, checkpoint.stateRoot]
  debugB256 _ := ""
  debugAddress _ := ""
  printable _ := true

def sampleL1Header (number : UInt64) (parentHash : B256) : Header :=
  { number := number, parentHash := parentHash, stateRoot := 60, timestamp := 50 }

def sampleL1Headers : List Header :=
  let first := sampleL1Header 6 1
  let second := sampleL1Header 7 (sampleAlloy.hashSlow first)
  [first, second, sampleL1Header 8 (sampleAlloy.hashSlow second)]

def sampleLinkageInput : GuestInput :=
  let origin := sampleL1Headers.getLast?.getD {}
  { witnesses := [{ chainSpec := { chainId := 167000 } }]
    taiko := { l1Header := origin, l1AncestorHeaders := sampleL1Headers, chainSpec := { chainId := 167000 }
               proposal := { timestamp := 51, originBlockNumber := 8, originBlockHash := sampleAlloy.hashSlow origin } }
    proposalAncestorHeaders := [{}] }

def sampleParentReader : ParentReader := fun read =>
  let slots := shastaCheckpointStorageSlots sampleAlloy.keccak256 5
  if read.slot = slots.1 then ok 7 else if read.slot = slots.2 then ok 9 else error ["unknown slot"]

def sampleCheckpoints : List DecodedAnchorCheckpoint :=
  let hashes := sampleL1Headers.map sampleAlloy.hashSlow
  [⟨5, 7, 9⟩, ⟨6, hashes[0]?.getD 0, 60⟩, ⟨6, hashes[0]?.getD 0, 60⟩, ⟨8, hashes[2]?.getD 0, 60⟩]

theorem equalsParentCheckpoint_sample :
    EqualsParentCheckpoint sampleAlloy sampleParentReader sampleLinkageInput 5 ⟨5, 7, 9⟩ := by
  refine ⟨_, 0x1670000000000000000000000000000000000005, rfl, ?_, ?_, ?_, ?_, ?_, rfl⟩ <;> decide +kernel

theorem validateL1AnchorLinkage_sampleCheckpoints :
    validateL1AnchorLinkage sampleAlloy sampleParentReader sampleLinkageInput sampleCheckpoints 5
      (some [⟨true, 1⟩, ⟨false, 3⟩]) = ok () := by
  have hExact := validateL1AnchorLinkage_exact sampleAlloy sampleParentReader sampleLinkageInput sampleCheckpoints 5
    (some [⟨true, 1⟩, ⟨false, 3⟩]) (by decide +kernel) (by decide +kernel)
  refine (hExact.1 (by decide +kernel) ⟨⟨1, true⟩, by decide +kernel⟩).mpr ⟨?_, ?_, ?_, ?_⟩
  · constructor <;> decide +kernel
  · refine ⟨by decide +kernel, ?_, _, rfl, by decide +kernel, by decide +kernel⟩
    unfold LinksTo
    decide +kernel
  · intro c hc
    obtain rfl := mem_singleton.mp hc
    exact equalsParentCheckpoint_sample
  · unfold IsL1Header
    decide +kernel

end Sample

end Raiko2
