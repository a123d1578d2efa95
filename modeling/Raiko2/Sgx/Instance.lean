import Raiko2.Guest.ProposalSound
import Raiko2.Protocol.Binding
import Raiko2.Sgx.Requests

/-!
# What an SGX instance signs

An instance handles requests side by side. A handler decides which hash its request may have signed, and later signs
it. Along every run of arbitrary requests, each signature is over the hash of a proposal that the instance proved, or
over the output of an aggregate of proposals that it proved and signed before.
-/

namespace Raiko2

open Lib Lib.Outcome List

inductive SgxRequest where
  | proposal (request : Raiko2ShastaRequest)
  | aggregate (request : Raiko2ShastaAggregateRequest)

structure SignedProof where
  request : SgxRequest
  inputHash : B256
  response : Raiko2ProofResponse

/-- The requests between the two halves of their handlers, and the proofs returned so far, oldest first. -/
structure SgxState where
  inFlight : List (SgxRequest × B256) := []
  signed : List SignedProof := []

inductive SgxEvent (S : Secp256k1) where
  | validate (provider : TeeProvider S) (request : SgxRequest)
  | sign (provider : TeeProvider S) (index : Nat)

section Machine

variable (A : Alloy) (R : Reth) (T : TaikoProtocol) (activations : ForkActivations) (S : Secp256k1)
  (instanceId : UInt32) (key : S.SecretKey)

def SgxRequest.inputHash (provider : TeeProvider S) : SgxRequest → Outcome RequestFailure B256
  | .proposal request => proposalInputHash A R T activations request
  | .aggregate request => aggregateInputHash A S provider instanceId request

def SgxRequest.handle (provider : TeeProvider S) : SgxRequest → Outcome RequestFailure Raiko2ProofResponse
  | .proposal request => proveRequest A R T activations S provider instanceId request
  | .aggregate request => aggregateRequest A S provider instanceId request

/-- A request that is rejected, or whose handler panics, leaves no trace. -/
def sgxStep (s : SgxState) : SgxEvent S → SgxState
  | .validate provider request =>
    match request.inputHash A R T activations S instanceId provider with
    | ok inputHash => { s with inFlight := s.inFlight ++ [(request, inputHash)] }
    | _ => s
  | .sign provider index =>
    match s.inFlight[index]? with
    | none => s
    | some (request, inputHash) =>
      match respondWithProof A S provider instanceId inputHash with
      | ok response =>
        { inFlight := s.inFlight.eraseIdx index, signed := s.signed ++ [⟨request, inputHash, response⟩] }
      | _ => { s with inFlight := s.inFlight.eraseIdx index }

def sgxAddress : Address := publicKeyToAddress A S (S.fromSecretKey key)

def Recovers (item : Raiko2AggregateProof) (digest : B256) (recovered : S.PublicKey) : Prop :=
  ∃ index proofBytes, decodeProofBytes A index item = ok proofBytes ∧
    recoverChildKey S index proofBytes digest = ok recovered

def HoldsKey (provider : TeeProvider S) : Prop := ∀ loaded, provider.loadPrivateKey = .ok loaded → loaded = key

/-- ECDSA is not broken for the key: a signature that recovers the key of the instance from the hash it is checked
against was made by the instance. No other key recovered from that hash has the address of the instance. -/
structure NotForged (signed : List SignedProof) (item : Raiko2AggregateProof) : Prop where
  signedBefore : Recovers A S item (subproofInputHash A.keccak256 item.proofCarryData) (S.fromSecretKey key) →
    ∃ entry ∈ signed, entry.inputHash = subproofInputHash A.keccak256 item.proofCarryData
  address : ∀ recovered, Recovers A S item (subproofInputHash A.keccak256 item.proofCarryData) recovered →
    publicKeyToAddress A S recovered = sgxAddress A S key → recovered = S.fromSecretKey key

def SgxAllowed (s : SgxState) : SgxEvent S → Prop
  | .validate provider (.proposal _) => HoldsKey S key provider
  | .validate provider (.aggregate request) =>
    HoldsKey S key provider ∧ ∀ item ∈ request.payload.proofs, NotForged A S key s.signed item
  | .sign provider _ => HoldsKey S key provider

def Raiko2ShastaRequest.carry (request : Raiko2ShastaRequest) : ProofCarryData :=
  request.payload.guestInput.proofCarryData

def Raiko2ShastaAggregateRequest.carries (request : Raiko2ShastaAggregateRequest) : List ProofCarryData :=
  request.payload.proofs.map (·.proofCarryData)

def SgxRequest.preimages : SgxRequest → List Bytes
  | .proposal request => subproofPreimages A.keccak256 request.carry
  | .aggregate request =>
    request.carries.flatMap (subproofPreimages A.keccak256) ++
      match buildShastaCommitmentFromProofCarryDataVec request.carries, request.carries.head? with
      | ok commitment, some first =>
        [wordsBytes (publicInputWords (hashCommitment A.keccak256 commitment) first.chainId first.verifier
          (sgxAddress A S key))]
      | _, _ => []

def SgxEvent.preimages : SgxEvent S → List Bytes
  | .validate _ request => request.preimages A S key
  | .sign _ _ => []

structure ProvedProposal (request : Raiko2ShastaRequest) (inputHash : B256) : Prop where
  accepted : proveShastaProposal A R T activations request.payload.guestInput.toGuestInput = ok inputHash
  isSubproofHash : (hashShastaSubproofInput A.keccak256 request.carry : Outcome RequestFailure B256) = ok inputHash

structure ProvedAggregate (signed : List SignedProof) (request : Raiko2ShastaAggregateRequest) (inputHash : B256) :
    Prop where
  output : ∃ commitment first, buildShastaCommitmentFromProofCarryDataVec request.carries = ok commitment ∧
    request.carries.head? = some first ∧ inputHash = shastaAggregationOutput A.keccak256 commitment first.chainId
      first.verifier (sgxAddress A S key)
  children : ∀ carry ∈ request.carries, ∃ entry ∈ signed, ∃ proved, entry.request = .proposal proved ∧
    ProvedProposal A R T activations proved entry.inputHash ∧ proved.carry = carry

def Proved (signed : List SignedProof) (inputHash : B256) : SgxRequest → Prop
  | .proposal request => ProvedProposal A R T activations request inputHash
  | .aggregate request => ProvedAggregate A R T activations S key signed request inputHash

def IsSignatureOver (inputHash : B256) (response : Raiko2ProofResponse) : Prop :=
  ∃ signature result, signHash S key inputHash = ok signature ∧ response = .success result ∧
    result.proof = some (prefixedHex (buildShastaProofBytes instanceId (sgxAddress A S key) signature)) ∧
    result.input = prefixedHex (wordBytes inputHash)

structure SignsProved (signed : List SignedProof) (entry : SignedProof) : Prop where
  signature : IsSignatureOver A S instanceId key entry.inputHash entry.response
  proved : Proved A R T activations S key signed entry.inputHash entry.request

end Machine

section Handlers

variable {A : Alloy} {R : Reth} {T : TaikoProtocol} {activations : ForkActivations} {S : Secp256k1}
  {instanceId : UInt32} {key : S.SecretKey} {provider : TeeProvider S}

theorem respondWithProof_eq_ok (hKey : HoldsKey S key provider) {inputHash : B256} {response : Raiko2ProofResponse}
    (h : respondWithProof A S provider instanceId inputHash = ok response) :
    IsSignatureOver A S instanceId key inputHash response := by
  simp only [respondWithProof, proofResultFromInputHash, bind_eq_ok_iff, mapError_eq_ok_iff, withContext_eq_ok_iff,
    ofExcept_eq_ok_iff, pure_eq_ok, Outcome.ok.injEq] at h
  obtain ⟨result, ⟨loaded, hLoaded, quote, -, signature, hSign, rfl⟩, rfl⟩ := h
  obtain rfl := hKey loaded hLoaded
  exact ⟨signature, _, hSign, rfl, rfl, rfl⟩

theorem provedProposal_of_proposalInputHash {request : Raiko2ShastaRequest} {inputHash : B256}
    (h : proposalInputHash A R T activations request = ok inputHash) :
    ProvedProposal A R T activations request inputHash := by
  simp only [proposalInputHash, bind_eq_ok_iff, mapError_eq_ok_iff, ensure_eq_ok_iff, pure_eq_ok,
    Outcome.ok.injEq] at h
  obtain ⟨_, -, _, -, proved, hProved, _, hExpected, _, rfl, rfl⟩ := h
  exact ⟨hProved, hExpected⟩

theorem recovers_of_validateAggregateItem {address : Address} {index : Nat} {item : Raiko2AggregateProof}
    (h : validateAggregateItem A S instanceId address index item = ok ()) :
    ∃ recovered, Recovers A S item (subproofInputHash A.keccak256 item.proofCarryData) recovered ∧
      publicKeyToAddress A S recovered = address := by
  simp only [validateAggregateItem, validateSgxChildProof, bind_eq_ok_iff, mapError_eq_ok_iff,
    ensure_eq_ok_iff] at h
  obtain ⟨_, -, _, -, proofBytes, hBytes, _, -, _, -, expected, hExpected, _, -, _, -, _, -, _, -, _, -, _, hAddress,
    recovered, hRecovered, hSigner⟩ := h
  obtain ⟨-, rfl⟩ := hashShastaSubproofInput_eq_ok A.keccak256 hExpected
  exact ⟨recovered, ⟨index, proofBytes, hBytes, hRecovered⟩, hSigner.trans hAddress⟩

theorem recovers_of_validateAggregateItems {address : Address} {items : List Raiko2AggregateProof} {index : Nat}
    (h : validateAggregateItems A S instanceId address index items = ok ()) :
    ∀ item ∈ items, ∃ recovered, Recovers A S item (subproofInputHash A.keccak256 item.proofCarryData) recovered ∧
      publicKeyToAddress A S recovered = address := by
  induction items generalizing index with
  | nil => simp
  | cons first rest ih =>
    obtain ⟨hFirst, hRest⟩ := unit_bind_eq_ok_iff.mp h
    intro item hItem
    rcases mem_cons.mp hItem with rfl | hItem
    · exact recovers_of_validateAggregateItem hFirst
    · exact ih hRest item hItem

theorem aggregateInputHash_eq_ok (hKey : HoldsKey S key provider) {request : Raiko2ShastaAggregateRequest}
    {inputHash : B256} (h : aggregateInputHash A S provider instanceId request = ok inputHash) :
    (∃ commitment first, buildShastaCommitmentFromProofCarryDataVec request.carries = ok commitment ∧
      request.carries.head? = some first ∧ inputHash = shastaAggregationOutput A.keccak256 commitment first.chainId
        first.verifier (sgxAddress A S key)) ∧
      ∀ item ∈ request.payload.proofs, ∃ recovered,
        Recovers A S item (subproofInputHash A.keccak256 item.proofCarryData) recovered ∧
          publicKeyToAddress A S recovered = sgxAddress A S key := by
  simp only [aggregateInputHash, loadSignerIdentity, validateAggregateRequest, bind_eq_ok_iff, mapError_eq_ok_iff,
    withContext_eq_ok_iff, ofExcept_eq_ok_iff, ofOption_eq_ok_iff, ensure_eq_ok_iff, pure_eq_ok, Outcome.ok.injEq] at h
  obtain ⟨_, ⟨loaded, hLoaded, rfl⟩, _, ⟨_, -, _, -, commitment, hBuild, _, hItems, rfl⟩, first, hFirst, rfl⟩ := h
  obtain rfl := hKey loaded hLoaded
  exact ⟨⟨commitment, first, hBuild, hFirst, rfl⟩, recovers_of_validateAggregateItems hItems⟩

end Handlers

section Undisturbed

variable {A : Alloy} {R : Reth} {T : TaikoProtocol} {activations : ForkActivations} {S : Secp256k1}
  {instanceId : UInt32}

theorem SgxRequest.handle_eq (provider : TeeProvider S) (request : SgxRequest) :
    request.handle A R T activations S instanceId provider =
      request.inputHash A R T activations S instanceId provider >>= respondWithProof A S provider instanceId := by
  cases request <;> rfl

/-- A handler whose two halves run right after each other. -/
theorem sgxStep_sgxStep (s : SgxState) (provider : TeeProvider S) (request : SgxRequest) :
    ∃ inputHash, sgxStep A R T activations S instanceId
        (sgxStep A R T activations S instanceId s (.validate provider request)) (.sign provider s.inFlight.length) =
      match request.handle A R T activations S instanceId provider with
      | ok response => { s with signed := s.signed ++ [⟨request, inputHash, response⟩] }
      | _ => s := by
  have hAbsent : s.inFlight[s.inFlight.length]? = none := getElem?_eq_none (Nat.le_refl _)
  rw [SgxRequest.handle_eq]
  cases hHash : request.inputHash A R T activations S instanceId provider with
  | error failure => exact ⟨0, by simp only [sgxStep, hHash, hAbsent, error_bind]⟩
  | abort message => exact ⟨0, by simp only [sgxStep, hHash, hAbsent, abort_bind]⟩
  | ok inputHash =>
    refine ⟨inputHash, ?_⟩
    have hErase : (s.inFlight ++ [(request, inputHash)]).eraseIdx s.inFlight.length = s.inFlight := by
      simp [eraseIdx_append_of_length_le]
    simp only [sgxStep, hHash, getElem?_concat_length, ok_bind, hErase]

end Undisturbed

section Aborts

variable {A : Alloy} {S : Secp256k1} {instanceId : UInt32} {provider : TeeProvider S} {message : String}
  {index : Nat} {address : Address}

theorem sliceIndex_of_le {ε α : Type} {xs : List α} {start stop : Nat} (hStart : start ≤ stop)
    (hStop : stop ≤ xs.length) :
    (sliceIndex xs start stop : Outcome ε (List α)) = ok ((xs.drop start).take (stop - start)) := by
  rw [sliceIndex, sliceGet, if_pos ⟨hStart, hStop⟩, expect]

theorem recoverChildKey_ne_abort {proofBytes : Bytes} {inputHash : B256} (hLength : proofBytes.length = 89) :
    recoverChildKey S index proofBytes inputHash ≠ abort message := by
  have hIndex : proofBytes[88]? = some (proofBytes[88]) := getElem?_eq_getElem (by omega)
  simp (disch := omega) only [recoverChildKey, hIndex, expect, sliceIndex_of_le, ok_bind, ne_eq, bind_eq_abort_iff,
    ofOption_ne_abort, ofExcept_ne_abort, and_false, exists_false, or_false, not_false_eq_true]

theorem validateSgxChildProof_ne_abort {proofBytes : Bytes} {inputHash : B256} :
    validateSgxChildProof A S index proofBytes inputHash instanceId address ≠ abort message := by
  intro h
  simp only [validateSgxChildProof, checkProofLength, bind_eq_abort_iff, ensure_ne_abort, ensure_eq_ok_iff,
    false_or] at h
  obtain ⟨_, hLength, h⟩ := h
  rw [shastaSgxProofLen] at hLength
  simp (disch := omega) only [sliceIndex_of_le, recoverChildKey_ne_abort hLength, and_false, exists_false,
    reduceCtorEq, or_false] at h

theorem validateAggregateItem_ne_abort {item : Raiko2AggregateProof}
    (hFits : item.proofCarryData.transitionInput.transition.timestamp ≤ 0xffffffffffff) :
    validateAggregateItem A S instanceId address index item ≠ abort message := by
  simp only [validateAggregateItem, checkProofLength, decodeProofBytes, parseHash, hashShastaSubproofInput_of_fits _ hFits,
    ok_bind, pure_eq_ok, ne_eq, bind_eq_abort_iff, mapError_eq_abort_iff, ensure_ne_abort, ofExcept_ne_abort,
    validateSgxChildProof_ne_abort, reduceCtorEq, and_false, exists_false, or_false, not_false_eq_true]

theorem validateAggregateItems_ne_abort {items : List Raiko2AggregateProof}
    (hFits : ∀ item ∈ items, item.proofCarryData.transitionInput.transition.timestamp ≤ 0xffffffffffff) :
    validateAggregateItems A S instanceId address index items ≠ abort message := by
  induction items generalizing index with
  | nil => exact nofun
  | cons item rest ih =>
    intro h
    rcases bind_eq_abort_iff.mp h with hItem | ⟨_, -, hRest⟩
    · exact validateAggregateItem_ne_abort (hFits item (by simp)) hItem
    · exact ih (fun item hMem => hFits item (by simp [hMem])) hRest

theorem buildShastaCommitment_ne_abort {carries : List ProofCarryData} :
    buildShastaCommitmentFromProofCarryDataVec carries ≠ abort message := by
  by_cases hChain : CarryChain carries
  · obtain ⟨first, last, hFirst, hLast⟩ := exists_first_last hChain.nonempty
    rw [buildShastaCommitment_of_chain hChain hFirst hLast]
    exact nofun
  · rw [buildShastaCommitment_of_not_chain hChain]
    exact nofun

theorem respondWithProof_ne_abort {inputHash : B256} :
    respondWithProof A S provider instanceId inputHash ≠ abort message := by
  simp only [respondWithProof, proofResultFromInputHash, signHash, pure_eq_ok, ne_eq, bind_eq_abort_iff,
    mapError_eq_abort_iff, withContext_eq_abort_iff, ofExcept_ne_abort, ensure_ne_abort, reduceCtorEq, and_false,
    exists_false, or_false, not_false_eq_true]

theorem aggregateRequest_ne_abort {request : Raiko2ShastaAggregateRequest} :
    aggregateRequest A S provider instanceId request ≠ abort message := by
  intro h
  simp only [aggregateRequest, aggregateInputHash, loadSignerIdentity, validateAggregateRequest, bind_eq_abort_iff,
    respondWithProof_ne_abort, mapError_eq_abort_iff, withContext_eq_abort_iff, ofExcept_ne_abort, ofOption_ne_abort,
    ensure_ne_abort, buildShastaCommitment_ne_abort, mapError_eq_ok_iff, pure_eq_ok, reduceCtorEq, and_false,
    exists_false, or_false, false_or] at h
  obtain ⟨identity, -, _, -, _, -, commitment, hBuild, hItems⟩ := h
  obtain ⟨hChain, -⟩ := buildShastaCommitment_eq_ok_iff.mp hBuild
  refine validateAggregateItems_ne_abort (fun item hItem => ?_) hItems
  exact le_shastaUint48Max_iff.mpr (hChain.fits _ (mem_map_of_mem hItem)).2.1

end Aborts

section Runs

variable {A : Alloy} {R : Reth} {T : TaikoProtocol} {activations : ForkActivations} {S : Secp256k1}
  {instanceId : UInt32} {key : S.SecretKey} {preimages : List Bytes}

theorem Proved.mono {signed more : List SignedProof} {inputHash : B256} {request : SgxRequest}
    (h : Proved A R T activations S key signed inputHash request) (hSub : ∀ entry ∈ signed, entry ∈ more) :
    Proved A R T activations S key more inputHash request := by
  cases request with
  | proposal request => exact h
  | aggregate request =>
    refine ⟨h.output, fun carry hCarry => ?_⟩
    obtain ⟨entry, hEntry, hProved⟩ := h.children carry hCarry
    exact ⟨entry, hSub entry hEntry, hProved⟩

section Free

variable (hFree : CollisionFree A.keccak256 preimages)

include hFree

theorem subproofInputHash_ne_shastaAggregationOutput {carry : ProofCarryData} {commitment : Commitment}
    {chainId : UInt64} {verifier address : Address}
    (hCarry : wordsBytes (subproofWords A.keccak256 carry) ∈ preimages)
    (hOutput : wordsBytes (publicInputWords (hashCommitment A.keccak256 commitment) chainId verifier address) ∈
      preimages) :
    subproofInputHash A.keccak256 carry ≠
      shastaAggregationOutput A.keccak256 commitment chainId verifier address := by
  intro h
  have hWords := hFree.words_eq hCarry hOutput h
  simp [subproofWords, publicInputWords] at hWords

theorem provedProposal_of_signed {signed : List SignedProof} {entry : SignedProof} {carry : ProofCarryData} (hCarry : ∀ x ∈ subproofPreimages A.keccak256 carry, x ∈ preimages)
    (hEntry : ∀ x ∈ entry.request.preimages A S key, x ∈ preimages)
    (hProved : Proved A R T activations S key signed entry.inputHash entry.request)
    (hHash : entry.inputHash = subproofInputHash A.keccak256 carry) :
    ∃ proved, entry.request = .proposal proved ∧ ProvedProposal A R T activations proved entry.inputHash ∧
      proved.carry = carry := by
  obtain ⟨request, inputHash, response⟩ := entry
  cases request with
  | proposal request =>
    refine ⟨request, rfl, hProved, ?_⟩
    obtain ⟨-, hSubproof⟩ := hashShastaSubproofInput_eq_ok A.keccak256 hProved.isSubproofHash
    refine subproofInputHash_inj (hFree.mono fun x hx => ?_) (hSubproof.symm.trans hHash)
    rcases mem_append.mp hx with hx | hx
    · exact hEntry x hx
    · exact hCarry x hx
  | aggregate request =>
    obtain ⟨commitment, first, hBuild, hFirst, hOutput⟩ := hProved.output
    refine absurd (hHash.symm.trans hOutput) (subproofInputHash_ne_shastaAggregationOutput hFree ?_ ?_)
    · exact hCarry _ (by simp [subproofPreimages])
    · exact hEntry _ (by simp [SgxRequest.preimages, hBuild, hFirst])

structure SgxInvariant (A : Alloy) (R : Reth) (T : TaikoProtocol) (activations : ForkActivations) (S : Secp256k1)
    (instanceId : UInt32) (key : S.SecretKey) (preimages : List Bytes) (s : SgxState) : Prop where
  inFlight : ∀ pending ∈ s.inFlight, Proved A R T activations S key s.signed pending.2 pending.1 ∧
    ∀ x ∈ pending.1.preimages A S key, x ∈ preimages
  signed : ∀ entry ∈ s.signed, Proved A R T activations S key s.signed entry.inputHash entry.request ∧
    ∀ x ∈ entry.request.preimages A S key, x ∈ preimages
  log : JustifiedLog (SignsProved A R T activations S instanceId key) s.signed

theorem proved_of_inputHash {s : SgxState} {provider : TeeProvider S} {request : SgxRequest} {inputHash : B256} (hInv : SgxInvariant A R T activations S instanceId key preimages s)
    (hAllowed : SgxAllowed A S key s (.validate provider request))
    (hPreimages : ∀ x ∈ request.preimages A S key, x ∈ preimages)
    (h : request.inputHash A R T activations S instanceId provider = ok inputHash) :
    Proved A R T activations S key s.signed inputHash request := by
  cases request with
  | proposal request => exact provedProposal_of_proposalInputHash h
  | aggregate request =>
    obtain ⟨hKey, hNotForged⟩ := hAllowed
    obtain ⟨hOutput, hItems⟩ := aggregateInputHash_eq_ok hKey h
    refine ⟨hOutput, fun carry hCarry => ?_⟩
    obtain ⟨item, hItem, rfl⟩ := mem_map.mp hCarry
    obtain ⟨recovered, hRecovers, hAddress⟩ := hItems item hItem
    obtain rfl := (hNotForged item hItem).address _ hRecovers hAddress
    obtain ⟨entry, hEntry, hHash⟩ := (hNotForged item hItem).signedBefore hRecovers
    obtain ⟨hProved, hEntryPreimages⟩ := hInv.signed entry hEntry
    refine ⟨entry, hEntry, provedProposal_of_signed hFree (fun x hx => ?_) hEntryPreimages hProved hHash⟩
    exact hPreimages x (mem_append_left _ (mem_flatMap.mpr ⟨_, hCarry, hx⟩))

theorem sgxInvariant_sgxStep {s : SgxState} {event : SgxEvent S}
    (hPreimages : ∀ x ∈ event.preimages A S key, x ∈ preimages) (hAllowed : SgxAllowed A S key s event)
    (hInv : SgxInvariant A R T activations S instanceId key preimages s) :
    SgxInvariant A R T activations S instanceId key preimages
      (sgxStep A R T activations S instanceId s event) := by
  cases event with
  | validate provider request =>
    rw [sgxStep]
    split
    · rename_i inputHash hHash
      have hProved := proved_of_inputHash hFree hInv hAllowed hPreimages hHash
      refine ⟨fun pending hPending => ?_, hInv.signed, hInv.log⟩
      rcases mem_append.mp hPending with hPending | hPending
      · exact hInv.inFlight pending hPending
      · obtain rfl := mem_singleton.mp hPending
        exact ⟨hProved, hPreimages⟩
    · exact hInv
  | sign provider index =>
    rw [sgxStep]
    split
    · exact hInv
    · rename_i request inputHash hPending
      obtain ⟨hProved, hRequest⟩ := hInv.inFlight _ (mem_of_getElem? hPending)
      split
      · rename_i response hResponse
        have hMore : ∀ entry ∈ s.signed, entry ∈ s.signed ++ [⟨request, inputHash, response⟩] :=
          fun entry hEntry => mem_append_left _ hEntry
        refine ⟨fun pending hMem => ?_, fun entry hEntry => ?_, hInv.log.concat ⟨?_, hProved⟩⟩
        · obtain ⟨hOther, hOtherPreimages⟩ := hInv.inFlight pending (mem_of_mem_eraseIdx hMem)
          exact ⟨hOther.mono hMore, hOtherPreimages⟩
        · rcases mem_append.mp hEntry with hEntry | hEntry
          · obtain ⟨hOther, hOtherPreimages⟩ := hInv.signed entry hEntry
            exact ⟨hOther.mono hMore, hOtherPreimages⟩
          · obtain rfl := mem_singleton.mp hEntry
            exact ⟨hProved.mono hMore, hRequest⟩
        · exact respondWithProof_eq_ok hAllowed hResponse
      · exact ⟨fun pending hMem => hInv.inFlight pending (mem_of_mem_eraseIdx hMem), hInv.signed, hInv.log⟩

end Free

theorem sgxInvariant_init :
    SgxInvariant A R T activations S instanceId key preimages {} :=
  ⟨by simp, by simp, JustifiedLog.nil⟩

/-- Along every run of an instance with arbitrary requests, each returned proof is a signature over what the
instance proved. An aggregation request never aborts, and one with a field beyond 48 bits is rejected. A run in which
nothing comes between the two halves of a handler is the handler of the source. -/
theorem sgxInstance_signs_only_proved (A : Alloy) (R : Reth) (T : TaikoProtocol) (activations : ForkActivations)
    (S : Secp256k1) (instanceId : UInt32) (key : S.SecretKey) :
    (∀ events : List (SgxEvent S), CollisionFree A.keccak256 (events.flatMap (·.preimages A S key)) →
      Run (SgxAllowed A S key) (sgxStep A R T activations S instanceId) {} events →
      ∀ (j : Nat) entry,
        (events.foldl (sgxStep A R T activations S instanceId) {}).signed[j]? = some entry →
        SignsProved A R T activations S instanceId key
          ((events.foldl (sgxStep A R T activations S instanceId) {}).signed.take j) entry) ∧
    (∀ provider request message, aggregateRequest A S provider instanceId request ≠ abort message) ∧
    (∀ provider request, (∃ carry ∈ request.carries, carryFitsUint48 carry = false) →
      ∃ failure, aggregateRequest A S provider instanceId request = error failure) ∧
    ∀ (s : SgxState) provider request, ∃ inputHash, sgxStep A R T activations S instanceId
        (sgxStep A R T activations S instanceId s (.validate provider request)) (.sign provider s.inFlight.length) =
      match request.handle A R T activations S instanceId provider with
      | ok response => { s with signed := s.signed ++ [⟨request, inputHash, response⟩] }
      | _ => s := by
  refine ⟨fun events hFree hRun => ?_, fun _ _ _ => aggregateRequest_ne_abort, fun provider request hWide => ?_,
    sgxStep_sgxStep⟩
  · have hInv : SgxInvariant A R T activations S instanceId key (events.flatMap (·.preimages A S key))
        (events.foldl (sgxStep A R T activations S instanceId) {}) := by
      refine hRun.foldl_invariant sgxInvariant_init fun s event hEvent hAllowed hInv => ?_
      exact sgxInvariant_sgxStep hFree (fun x hx => mem_flatMap.mpr ⟨event, hEvent, hx⟩) hAllowed hInv
    exact hInv.log
  · obtain ⟨carry, hCarry, hWide⟩ := hWide
    cases h : aggregateRequest A S provider instanceId request with
    | abort message => exact absurd h aggregateRequest_ne_abort
    | error failure => exact ⟨failure, rfl⟩
    | ok response =>
      simp only [aggregateRequest, aggregateInputHash, validateAggregateRequest, bind_eq_ok_iff, mapError_eq_ok_iff] at h
      obtain ⟨_, ⟨_, -, _, ⟨_, -, _, -, commitment, hBuild, -⟩, -⟩, -⟩ := h
      obtain ⟨hChain, -⟩ := buildShastaCommitment_eq_ok_iff.mp hBuild
      rw [carryFitsUint48_iff.mpr (hChain.fits carry hCarry)] at hWide
      cases hWide

end Runs

section Sample

def byteSum (bytes : Bytes) : UInt8 := bytes.foldl (· + ·) 0

/-- A scheme in which every signature recovers some key from every message. -/
def sampleSecp256k1 : Secp256k1 where
  SecretKey := UInt8
  PublicKey := UInt8
  Message := Bytes
  RecoveryId := Nat
  RecoverableSignature := Bytes
  fromSecretKey key := key
  serializeUncompressed key := [4, key]
  fromDigestSlice bytes := .ok bytes
  signEcdsaRecoverable message key := message ++ replicate 31 0 ++ [key]
  serializeCompact signature := (0, signature)
  recoveryIdToInt id := id
  recoveryIdTryFrom value := if 0 ≤ value ∧ value ≤ 3 then some value.toNat else none
  fromCompact bytes _ := .ok bytes
  recoverEcdsa message signature := .ok (signature.getLast?.getD 0 + byteSum message - byteSum (signature.take 32))

def sampleProvider : TeeProvider sampleSecp256k1 where
  loadPrivateKey := .ok (7 : UInt8)
  loadQuote _ := .ok []

def sampleProposalRequest : Raiko2ShastaRequest :=
  let input := sampleInput 30000000 31000000 []
  { schema := raiko2ShastaRequestSchema
    payload := ⟨{ witnesses := input.witnesses.map .fromStatelessInput, taiko := input.taiko
                  proposalAncestorHeaders := input.proposalAncestorHeaders, proofCarryData := input.proofCarryData }⟩ }

def sampleChildHash : B256 := 0xd63c728574141bc6161a6df7a5f954e3e8862e4f83e5ae81b009769a32ce9b5f#256

def sampleChildBytes (signer : UInt8) : Bytes :=
  buildShastaProofBytes 9 (sgxAddress sampleAlloy sampleSecp256k1 (7 : UInt8))
    (wordBytes sampleChildHash ++ replicate 31 0 ++ [signer, 27])

def sampleChild (signer : UInt8) : Raiko2AggregateProof where
  input := prefixedHex (wordBytes sampleChildHash)
  proof := prefixedHex (sampleChildBytes signer)
  proofCarryData := sampleProposalRequest.carry

def sampleAggregateRequest (signer : UInt8) : Raiko2ShastaAggregateRequest where
  schema := raiko2ShastaAggregateRequestSchema
  payload := ⟨[sampleChild signer]⟩

/-- The second aggregate is of a signature by another key, under the address of the instance. -/
def sampleEvents : List (SgxEvent sampleSecp256k1) :=
  [.validate sampleProvider (.proposal sampleProposalRequest), .sign sampleProvider 0,
    .validate sampleProvider (.aggregate (sampleAggregateRequest 7)), .sign sampleProvider 0,
    .validate sampleProvider (.aggregate (sampleAggregateRequest 8)), .sign sampleProvider 0]

def sampleStep : SgxState → SgxEvent sampleSecp256k1 → SgxState :=
  sgxStep sampleAlloy sampleReth sampleProtocol sampleActivations sampleSecp256k1 9

theorem holdsKey_sampleProvider : HoldsKey sampleSecp256k1 (7 : UInt8) sampleProvider := by
  rintro loaded hLoaded
  cases hLoaded
  rfl

theorem recovered_sample {index : Nat} {proofBytes compact : Bytes} {digest : B256}
    {recovered : sampleSecp256k1.PublicKey} (hSlice : sliceGet proofBytes 24 88 = some compact)
    (h : recoverChildKey sampleSecp256k1 index proofBytes digest = ok recovered) :
    recovered = (compact.getLast?.getD 0 + byteSum (wordBytes digest) - byteSum (compact.take 32) : UInt8) := by
  simp only [recoverChildKey, sliceIndex, hSlice, bind_eq_ok_iff, expect_eq_ok_iff, Option.some.injEq,
    ofExcept_eq_ok_iff] at h
  obtain ⟨_, -, _, -, _, rfl, signature, hSignature, message, hMessage, hKey⟩ := h
  obtain rfl : compact = signature := Except.ok.inj hSignature
  obtain rfl : wordBytes digest = message := Except.ok.inj hMessage
  exact (Except.ok.inj hKey).symm

theorem recovers_sampleChild {signer recovered : UInt8}
    (hDecode : hexDecode sampleAlloy.printable (withoutMarkers (sampleChild signer).proof) = .ok (sampleChildBytes signer))
    (hSlice : sliceGet (sampleChildBytes signer) 24 88 =
      some (wordBytes sampleChildHash ++ replicate 31 0 ++ [signer]))
    (h : Recovers sampleAlloy sampleSecp256k1 (sampleChild signer) sampleChildHash recovered) : recovered = signer := by
  obtain ⟨index, proofBytes, hBytes, hRecover⟩ := h
  obtain rfl : sampleChildBytes signer = proofBytes := by
    rw [decodeProofBytes, ofExcept_eq_ok_iff, hDecode] at hBytes
    exact Except.ok.inj hBytes
  have hWord : (wordBytes sampleChildHash).length = 32 := length_beBytes 32 _
  rw [recovered_sample hSlice hRecover, getLast?_concat, append_assoc, take_left' hWord, Option.getD_some,
    UInt8.add_sub_cancel]

theorem sampleEvents_run :
    Run (SgxAllowed sampleAlloy sampleSecp256k1 (7 : UInt8)) sampleStep {} sampleEvents := by
  have hCarry : subproofInputHash sampleAlloy.keccak256 sampleProposalRequest.carry = sampleChildHash := by
    decide +kernel
  have hDigest (signer : UInt8) : subproofInputHash sampleAlloy.keccak256 (sampleChild signer).proofCarryData =
      sampleChildHash := hCarry
  refine ⟨holdsKey_sampleProvider, holdsKey_sampleProvider, ⟨holdsKey_sampleProvider, ?_⟩, holdsKey_sampleProvider,
    ⟨holdsKey_sampleProvider, ?_⟩, holdsKey_sampleProvider, trivial⟩
  · have hSigned : sampleChildHash ∈ (sampleStep (sampleStep {} (.validate sampleProvider
        (.proposal sampleProposalRequest))) (.sign sampleProvider 0)).signed.map (·.inputHash) := by
      decide +kernel
    intro item hItem
    obtain rfl := mem_singleton.mp hItem
    refine ⟨fun _ => ?_, fun recovered hRecovers _ => ?_⟩
    · rw [hDigest]
      exact mem_map.mp hSigned
    · rw [hDigest] at hRecovers
      exact recovers_sampleChild (by decide +kernel) (by decide +kernel) hRecovers
  · intro item hItem
    obtain rfl := mem_singleton.mp hItem
    have hOther {recovered : UInt8} (h : Recovers sampleAlloy sampleSecp256k1 (sampleChild 8)
        (subproofInputHash sampleAlloy.keccak256 (sampleChild 8).proofCarryData) recovered) : recovered = 8 := by
      rw [hDigest] at h
      exact recovers_sampleChild (by decide +kernel) (by decide +kernel) h
    refine ⟨fun hRecovers => absurd (hOther hRecovers) (show (7 : UInt8) ≠ 8 by decide), fun recovered hRecovers hAddress => ?_⟩
    obtain rfl := hOther hRecovers
    exact absurd hAddress (by decide +kernel)

/-- The sample proposal is proved and signed, and then an aggregate of it; the foreign signature is rejected. -/
theorem sgxInstance_signs_sampleEvents :
    (sampleEvents.foldl sampleStep {}).signed.length = 2 ∧
      ∀ (j : Nat) entry, (sampleEvents.foldl sampleStep {}).signed[j]? = some entry →
        SignsProved sampleAlloy sampleReth sampleProtocol sampleActivations sampleSecp256k1 9 (7 : UInt8)
          ((sampleEvents.foldl sampleStep {}).signed.take j) entry :=
  ⟨by decide +kernel, (sgxInstance_signs_only_proved sampleAlloy sampleReth sampleProtocol sampleActivations
    sampleSecp256k1 9 (7 : UInt8)).1 sampleEvents (by decide +kernel) sampleEvents_run⟩

end Sample

end Raiko2
