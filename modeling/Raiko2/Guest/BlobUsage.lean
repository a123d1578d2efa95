import Raiko2.Guest.ProposalSound

/-!
# Verified blobs and derivation

The check of the blobs of a proposal and the preparation of its sources each decide which data of a source they accept.
Whatever passes the check is accepted by the preparation, which decodes the blobs that were checked.
-/

namespace Raiko2

open Lib Lib.Outcome List

variable {A : Alloy} {R : Reth} {T : TaikoProtocol}

variable (A R) in
/-- A blob that is proven against a commitment, whose hash is the one on chain. -/
structure BlobVerified (blob commitment proof : Bytes) (expected : B256) : Prop where
  proven : R.verifyBlobProofOfEquivalence blob commitment proof = .ok ()
  hash : A.commitmentToVersionHash commitment = expected

variable (A R) in
structure SourceVerified (source : DerivationSource) (dataSource : InputDataSource) : Prop where
  blobs : source.blobSlice.blobHashes ≠ [] →
    dataSource.txDataFromBlob.length = source.blobSlice.blobHashes.length ∧
    dataSource.blobCommitments.length = source.blobSlice.blobHashes.length ∧
    dataSource.blobProofs.length = source.blobSlice.blobHashes.length ∧
    ∀ (i : Nat) expected, source.blobSlice.blobHashes[i]? = some expected →
      ∃ blob commitment proof, dataSource.txDataFromBlob[i]? = some blob ∧
        dataSource.blobCommitments[i]? = some commitment ∧ dataSource.blobProofs[i]? = some proof ∧
        BlobVerified A R blob commitment proof expected
  empty : source.blobSlice.blobHashes = [] →
    dataSource.txDataFromCalldata = [] ∧ dataSource.txDataFromBlob = [] ∧ dataSource.blobCommitments = [] ∧
      dataSource.blobProofs = []

theorem readKzgBytes_eq_ok {value bytes : Bytes} {label : String} {idx : Nat}
    (h : readKzgBytes value label idx = ok bytes) : bytes = value := by
  obtain ⟨_, h⟩ := unit_bind_eq_ok_iff.mp h
  exact (Outcome.ok.inj h).symm

theorem verifyBlobs_eq_ok {sourceIdx idx : Nat} {blobs commitments proofs : List Bytes} {hashes : List B256}
    (hBlobs : blobs.length = hashes.length) (hCommitments : commitments.length = hashes.length)
    (hProofs : proofs.length = hashes.length)
    (h : verifyBlobs A R sourceIdx idx blobs commitments proofs hashes = ok ()) :
    ∀ (i : Nat) expected, hashes[i]? = some expected → ∃ blob commitment proof, blobs[i]? = some blob ∧
      commitments[i]? = some commitment ∧ proofs[i]? = some proof ∧ BlobVerified A R blob commitment proof expected := by
  induction hashes generalizing idx blobs commitments proofs with
  | nil =>
    intro i expected hExpected
    simp at hExpected
  | cons hash hashes ih =>
    obtain ⟨blob, blobs, rfl⟩ := exists_cons_of_length_eq_add_one hBlobs
    obtain ⟨commitment, commitments, rfl⟩ := exists_cons_of_length_eq_add_one hCommitments
    obtain ⟨proof, proofs, rfl⟩ := exists_cons_of_length_eq_add_one hProofs
    simp only [length_cons, Nat.add_right_cancel_iff] at hBlobs hCommitments hProofs
    rw [verifyBlobs] at h
    obtain ⟨_, hCommitment, h⟩ := bind_eq_ok_iff.mp h
    cases readKzgBytes_eq_ok hCommitment
    obtain ⟨_, hProof, h⟩ := bind_eq_ok_iff.mp h
    cases readKzgBytes_eq_ok hProof
    obtain ⟨hProven, h⟩ := unit_bind_eq_ok_iff.mp h
    obtain ⟨hHash, hRest⟩ := unit_bind_eq_ok_iff.mp h
    intro i expected hExpected
    cases i with
    | zero =>
      cases hExpected
      exact ⟨blob, commitment, proof, rfl, rfl, rfl, ofExcept_eq_ok_iff.mp hProven, ensure_eq_ok_iff.mp hHash⟩
    | succ i => exact ih hBlobs hCommitments hProofs hRest i expected hExpected

theorem sourceVerified_of_eq_ok {sourceIdx : Nat} {source : DerivationSource} {dataSource : InputDataSource}
    (h : verifySourceBlobs A R sourceIdx dataSource source.blobSlice.blobHashes = ok ()) :
    SourceVerified A R source dataSource := by
  unfold verifySourceBlobs at h
  split at h
  · rename_i hEmpty
    have hNone := List.isEmpty_iff.mp hEmpty
    exact ⟨fun hSome => absurd hNone hSome, fun _ => ensure_eq_ok_iff.mp h⟩
  · rename_i hSome
    simp only [unit_bind_eq_ok_iff, ensure_eq_ok_iff] at h
    obtain ⟨-, hBlobs, hProofs, hHashes, h⟩ := h
    refine ⟨fun _ => ?_, fun hNone => absurd (List.isEmpty_iff.mpr hNone) hSome⟩
    have hCommitments := hHashes.symm
    exact ⟨hBlobs.trans hCommitments, hCommitments, hProofs.symm.trans hCommitments,
      verifyBlobs_eq_ok (hBlobs.trans hCommitments) hCommitments (hProofs.symm.trans hCommitments) h⟩

theorem verifySources_eq_ok {sources : List DerivationSource} {start : Nat} {dataSources : List InputDataSource}
    (h : verifySources A R sources start dataSources = ok ()) {i : Nat} {dataSource : InputDataSource}
    (hData : dataSources[i]? = some dataSource) :
    ∃ source, sources[start + i]? = some source ∧ SourceVerified A R source dataSource := by
  induction dataSources generalizing start i with
  | nil => simp at hData
  | cons first rest ih =>
    rw [verifySources] at h
    obtain ⟨source, hSource, h⟩ := bind_eq_ok_iff.mp h
    obtain ⟨hFirst, h⟩ := unit_bind_eq_ok_iff.mp h
    cases i with
    | zero =>
      cases hData
      exact ⟨source, ofOption_eq_ok_iff.mp hSource, sourceVerified_of_eq_ok hFirst⟩
    | succ i =>
      obtain ⟨source', hSource', hVerified⟩ := ih h hData
      exact ⟨source', by rwa [Nat.add_right_comm] at hSource', hVerified⟩

section Preparation

variable {source : DerivationSource} {dataSource : InputDataSource}

theorem checkBlobLengths_eq_ok {idx : Nat} {blobs : List Bytes} (h : ∀ blob ∈ blobs, blob.length = T.bytesPerBlob) :
    checkBlobLengths T idx blobs = ok () := by
  induction blobs generalizing idx with
  | nil => rfl
  | cons blob blobs ih =>
    rw [checkBlobLengths, if_pos (h blob mem_cons_self)]
    exact ih fun other hOther => h other (mem_cons_of_mem blob hOther)

variable (T) in
def manifestInBlobs (blobs : List Bytes) (offset maxBlocks : Nat) : DerivationSourceManifest :=
  match T.decodeBlobs blobs with
  | none => T.defaultManifest
  | some decoded => (T.decompressAndDecodeWithMaxBlocks decoded.flatten offset maxBlocks).getD T.defaultManifest

theorem SourceVerified.forall₂ (h : SourceVerified A R source dataSource) (hHashes : source.blobSlice.blobHashes ≠ []) :
    List.Forall₂ (fun blob expected => ∃ commitment proof, BlobVerified A R blob commitment proof expected)
      dataSource.txDataFromBlob source.blobSlice.blobHashes := by
  obtain ⟨hLength, -, -, hBlobs⟩ := h.blobs hHashes
  rw [forall₂_iff_get]
  refine ⟨hLength, ?_⟩
  intro i hi hi'
  obtain ⟨blob, commitment, proof, hBlob, -, -, hVerified⟩ := hBlobs i _ (getElem?_eq_getElem hi')
  rw [getElem?_eq_getElem hi] at hBlob
  obtain rfl := Option.some.inj hBlob
  exact ⟨commitment, proof, hVerified⟩

theorem SourceVerified.decoded (hKzg : ∀ blob commitment proof,
      R.verifyBlobProofOfEquivalence blob commitment proof = .ok () → blob.length = T.bytesPerBlob)
    (h : SourceVerified A R source dataSource) (maxBlocks : Nat) :
    decodedManifest T source (some dataSource) maxBlocks = ok
      (if source.blobSlice.blobHashes = [] ∨ isSourceOffsetValid T source = false then T.defaultManifest
        else manifestInBlobs T dataSource.txDataFromBlob source.blobSlice.offset.toNat maxBlocks) := by
  unfold decodedManifest
  by_cases hHashes : source.blobSlice.blobHashes = []
  · obtain ⟨hCalldata, hBlob, hCommitments, hProofs⟩ := h.empty hHashes
    simp [hHashes, ensureNoInlinePayload, hCalldata, hBlob, hCommitments, hProofs]
  · rw [if_neg (by simpa using hHashes)]
    by_cases hOffset : isSourceOffsetValid T source = true
    · have hAll := h.forall₂ hHashes
      have hNonempty : dataSource.txDataFromBlob ≠ [] := by
        intro hNil
        have hLength := hAll.length_eq
        rw [hNil] at hLength
        exact hHashes (length_eq_zero_iff.mp hLength.symm)
      have hLengths : ∀ blob ∈ dataSource.txDataFromBlob, blob.length = T.bytesPerBlob := by
        intro blob hBlob
        obtain ⟨expected, -, commitment, proof, hVerified⟩ := forall₂_mem_right hAll.flip hBlob
        exact hKzg blob commitment proof hVerified.proven
      simp only [hOffset, Bool.not_true, Bool.false_eq_true, if_false, ofOption, ok_bind, hHashes,
        decodeBlobBackedManifest, List.isEmpty_iff, hNonempty, checkBlobLengths_eq_ok hLengths, manifestInBlobs]
      cases T.decodeBlobs dataSource.txDataFromBlob <;> rfl
    · rw [Bool.not_eq_true] at hOffset
      simp [hOffset]

theorem prepareSourceManifest_of_decoded {data : Option InputDataSource} {maxBlocks : Nat}
    {decoded : DerivationSourceManifest} (h : decodedManifest T source data maxBlocks = ok decoded)
    (parent : ParentBlockContext) (metadata : ProposalMetadata) (forkTimestamp : UInt64) :
    ∃ manifest, prepareSourceManifestWithMaxBlocks T source data parent metadata forkTimestamp maxBlocks =
      ok manifest := by
  simp only [prepareSourceManifestWithMaxBlocks, sourceManifest, h, ok_bind, pure_eq_ok]
  split
  · exact ⟨_, rfl⟩
  · exact ⟨_, rfl⟩

end Preparation

/-- Blobs that pass the check are what derivation reads, and it never refuses them. -/
theorem blob_verification_covers_derivation (A : Alloy) (R : Reth) (T : TaikoProtocol)
    (hKzg : ∀ blob commitment proof,
      R.verifyBlobProofOfEquivalence blob commitment proof = .ok () → blob.length = T.bytesPerBlob)
    (taiko : TaikoManifest) (hSources : taiko.proposal.sources ≠ [])
    (h : verifyProposalModeBlobUsage A R taiko = ok ()) :
    taiko.dataSources.length = taiko.proposal.sources.length ∧
    ∀ (index : Nat) source, taiko.proposal.sources[index]? = some source →
      ∃ dataSource, taiko.dataSources[index]? = some dataSource ∧ SourceVerified A R source dataSource ∧
        ∀ maxBlocks, decodedManifest T source taiko.dataSources[index]? maxBlocks = ok
            (if source.blobSlice.blobHashes = [] ∨ isSourceOffsetValid T source = false then T.defaultManifest
              else manifestInBlobs T dataSource.txDataFromBlob source.blobSlice.offset.toNat maxBlocks) ∧
          (source.blobSlice.blobHashes ≠ [] → List.Forall₂ (fun blob expected => ∃ commitment proof,
            BlobVerified A R blob commitment proof expected) dataSource.txDataFromBlob source.blobSlice.blobHashes) ∧
          ∀ parent metadata forkTimestamp, ∃ manifest,
            prepareSourceManifestWithMaxBlocks T source taiko.dataSources[index]? parent metadata forkTimestamp
              maxBlocks = ok manifest := by
  obtain ⟨hCount, hVerify⟩ := unit_bind_eq_ok_iff.mp h
  have hLength := (ensure_eq_ok_iff.mp hCount).resolve_left hSources
  refine ⟨hLength, ?_⟩
  intro index source hSource
  have hIndex : index < taiko.dataSources.length := by
    rw [hLength]
    exact (List.getElem?_eq_some_iff.mp hSource).1
  obtain ⟨source', hSource', hVerified⟩ := verifySources_eq_ok hVerify (getElem?_eq_getElem hIndex)
  rw [Nat.zero_add, hSource] at hSource'
  obtain rfl := Option.some.inj hSource'
  refine ⟨_, getElem?_eq_getElem hIndex, hVerified, ?_⟩
  intro maxBlocks
  have hDecoded := hVerified.decoded hKzg maxBlocks
  rw [← getElem?_eq_getElem hIndex] at hDecoded
  exact ⟨hDecoded, hVerified.forall₂, prepareSourceManifest_of_decoded hDecoded⟩

section Sample

def sizedBlobReth : Reth :=
  { sampleReth with
    verifyBlobProofOfEquivalence := fun blob _ _ =>
      if blob.length = 131072 then .ok () else .error "invalid blob length" }

def sampleCommitment : Bytes := replicate 48 7

def blobSource : DerivationSource :=
  { blobSlice := { blobHashes := [sampleAlloy.commitmentToVersionHash sampleCommitment] } }

def blobTaiko (raw : Bytes) : TaikoManifest where
  proposal := { sources := [{ isForcedInclusion := true }, blobSource] }
  dataSources := [{},
    { txDataFromBlob := [raw], blobCommitments := [sampleCommitment], blobProofs := [sampleCommitment] }]

theorem verifyProposalModeBlobUsage_blobTaiko {raw : Bytes} (h : raw.length = 131072) :
    verifyProposalModeBlobUsage sampleAlloy sizedBlobReth (blobTaiko raw) = ok () := by
  have hProven : sizedBlobReth.verifyBlobProofOfEquivalence raw sampleCommitment sampleCommitment = .ok () := if_pos h
  have hRead (label : String) : readKzgBytes sampleCommitment label 0 = ok sampleCommitment := rfl
  simp [verifyProposalModeBlobUsage, blobTaiko, blobSource, verifySources, verifySourceBlobs, verifyBlobs, ensure, Outcome.ofExcept,
    hRead, hProven]

theorem blob_verification_covers_blobTaiko :
    verifyProposalModeBlobUsage sampleAlloy sizedBlobReth (blobTaiko (replicate 131072 0)) = ok () ∧
      ∃ dataSource, (blobTaiko (replicate 131072 0)).dataSources[1]? = some dataSource ∧
        SourceVerified sampleAlloy sizedBlobReth blobSource dataSource := by
  have hOk : verifyProposalModeBlobUsage sampleAlloy sizedBlobReth (blobTaiko (replicate 131072 0)) = ok () :=
    verifyProposalModeBlobUsage_blobTaiko length_replicate
  have hKzg : ∀ blob commitment proof, sizedBlobReth.verifyBlobProofOfEquivalence blob commitment proof = .ok () →
      blob.length = sampleProtocol.bytesPerBlob := by
    intro blob commitment proof hProven
    simp only [sizedBlobReth] at hProven
    split at hProven
    · assumption
    · cases hProven
  obtain ⟨-, hSources⟩ := blob_verification_covers_derivation sampleAlloy sizedBlobReth sampleProtocol hKzg
    (blobTaiko (replicate 131072 0)) (cons_ne_nil _ _) hOk
  obtain ⟨dataSource, hData, hVerified, -⟩ := hSources 1 blobSource rfl
  exact ⟨hOk, dataSource, hData, hVerified⟩

end Sample

end Raiko2
