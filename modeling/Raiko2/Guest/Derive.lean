import Raiko2.Input.Types
import Raiko2.Protocol.DerivedChain

/-!
# Derivation in the guest

The blocks that the guest expects, derived from the sources of the proposal and from the last ancestor
header that is present in full. The activation conditions of the built-in networks belong to the runtime
chain specs and are a parameter.
-/

namespace Raiko2

open Lib Lib.Outcome

inductive TaikoNetwork where
  | mainnet
  | devnet
  | hoodi
  deriving DecidableEq, Repr

def builtinTaikoChainSpec (chainId : UInt64) : Outcome Anyhow TaikoNetwork :=
  if chainId = 167000 then ok .mainnet
  else if chainId = 167001 then ok .devnet
  else if chainId = 167013 then ok .hoodi
  else error [s!"unsupported Taiko chain_id={chainId}; no built-in genesis is available for conversion"]

/-- The activation condition of a fork in a runtime chain spec; all but timestamps are kept as they print. -/
inductive RuntimeForkCondition where
  | timestamp (timestamp : UInt64)
  | other (debug : String)
  deriving DecidableEq, Repr

abbrev ForkActivations := TaikoNetwork → TaikoFork → RuntimeForkCondition

def shastaForkTimestamp (activations : ForkActivations) (network : TaikoNetwork) : Outcome Anyhow UInt64 :=
  match activations network .shasta with
  | .timestamp timestamp => ok timestamp
  | .other debug => error [s!"unsupported Shasta fork activation condition: {debug}"]

def anchorGasLimit : UInt64 := 1000000

def validateProposalAncestorHeaderCount (input : GuestInput) : Outcome Anyhow Unit := do
  let headerCount := input.ancestorHeaders.length
  ensure (headerCount ≠ 0) ["missing proposal ancestor headers"]
  ensure (headerCount ≤ ancestorHeaderWindowLimit)
    [s!"proposal ancestor header count ({headerCount}) exceeds limit ({ancestorHeaderWindowLimit})"]

def initialProposalAncestorHeaders (input : GuestInput) : Outcome Anyhow (List WitnessHeader) := do
  validateProposalAncestorHeaderCount input
  return input.initialProposalAncestorHeaders

def lastFullHeader (headers : List WitnessHeader) : Outcome Anyhow Header :=
  ofOption ["missing parent header in proposal ancestor headers"]
    (headers.reverse.findSome? WitnessHeader.fullHeader)

structure DerivedShastaBlocks where
  blocks : List BlockManifest
  sourceSpans : List AnchorSourceSpan
  deriving DecidableEq, Repr

def parentContext (header : Header) (parentAnchorBlockNumber : UInt64) : ParentBlockContext where
  timestamp := header.timestamp
  gasLimit := header.gasLimit
  blockNumber := header.number
  anchorBlockNumber := parentAnchorBlockNumber

def proposalMetadata (proposal : Proposal) (chainId : UInt64) : ProposalMetadata where
  proposalTimestamp := toU64 proposal.timestamp
  originBlockNumber := toU64 proposal.originBlockNumber
  proposer := proposal.proposer
  chainId := chainId

def sourceFailure (sourceIndex : Nat) (err : SourceDerivationError) : Anyhow :=
  [s!"failed to prepare derivation source {sourceIndex}", err.display]

def deriveExpectedShastaBlocks (T : TaikoProtocol) (activations : ForkActivations) (network : TaikoNetwork)
    (input : GuestInput) (parentAnchorBlockNumber : UInt64) : Outcome Anyhow (Option DerivedShastaBlocks) :=
  let proposal := input.taiko.proposal
  if proposal.sources.isEmpty then ok none
  else do
    ensure (proposal.sources.getLast?.any (fun source => !source.isForcedInclusion))
      ["last Shasta derivation source must be a normal source"]
    let dataCount := input.taiko.dataSources.length
    let sourceCount := proposal.sources.length
    ensure (dataCount = sourceCount)
      [s!"data source count ({dataCount}) does not match proposal source count ({sourceCount})"]
    let forkTimestamp ← shastaForkTimestamp activations network
    let headers ← initialProposalAncestorHeaders input
    let header ← lastFullHeader headers
    let (blocks, sourceSpans) ← deriveSources T anchorGasLimit sourceFailure
      (proposalMetadata proposal input.taiko.chainSpec.chainId) forkTimestamp input.taiko.dataSources 0
      (parentContext header parentAnchorBlockNumber) proposal.sources
    let witnessCount := input.witnesses.length
    let blockCount := blocks.length
    ensure (blockCount = witnessCount)
      [s!"witness count ({witnessCount}) does not match derived manifest block count ({blockCount})"]
    return some { blocks := blocks, sourceSpans := sourceSpans }

section Inversion

variable {T : TaikoProtocol} {activations : ForkActivations} {network : TaikoNetwork} {input : GuestInput}
  {parentAnchor : UInt64} {derived : DerivedShastaBlocks}

theorem initialProposalAncestorHeaders_eq_ok_iff {headers : List WitnessHeader} :
    initialProposalAncestorHeaders input = ok headers ↔
      0 < input.ancestorHeaders.length ∧ input.ancestorHeaders.length ≤ ancestorHeaderWindowLimit ∧
        headers = input.initialProposalAncestorHeaders := by
  simp only [initialProposalAncestorHeaders, validateProposalAncestorHeaderCount, unit_bind_eq_ok_iff,
    ensure_eq_ok_iff, pure_eq_ok, Outcome.ok.injEq, and_assoc, Nat.pos_iff_ne_zero]
  simp only [eq_comm]

structure DerivationOf (T : TaikoProtocol) (activations : ForkActivations) (network : TaikoNetwork) (input : GuestInput)
    (parentAnchor : UInt64) (derived : DerivedShastaBlocks) (forkTimestamp : UInt64) (header : Header) : Prop where
  sources : input.taiko.proposal.sources ≠ []
  lastNormal : input.taiko.proposal.sources.getLast?.any (fun source => !source.isForcedInclusion) = true
  dataSources : input.taiko.dataSources.length = input.taiko.proposal.sources.length
  fork : shastaForkTimestamp activations network = ok forkTimestamp
  window : initialProposalAncestorHeaders input = ok input.initialProposalAncestorHeaders
  parent : lastFullHeader input.initialProposalAncestorHeaders = ok header
  derivation : deriveSources T anchorGasLimit sourceFailure
    (proposalMetadata input.taiko.proposal input.taiko.chainSpec.chainId) forkTimestamp input.taiko.dataSources 0
    (parentContext header parentAnchor) input.taiko.proposal.sources = ok (derived.blocks, derived.sourceSpans)
  count : derived.blocks.length = input.witnesses.length

theorem deriveExpectedShastaBlocks_eq_some_iff :
    deriveExpectedShastaBlocks T activations network input parentAnchor = ok (some derived) ↔
      ∃ forkTimestamp header, DerivationOf T activations network input parentAnchor derived forkTimestamp header := by
  rw [deriveExpectedShastaBlocks]
  by_cases hSources : input.taiko.proposal.sources.isEmpty = true
  · simp only [hSources, if_true, Outcome.ok.injEq, reduceCtorEq, false_iff, not_exists]
    intro _ _ h
    exact h.sources (List.isEmpty_iff.mp hSources)
  simp only [hSources, Bool.false_eq_true, if_false, unit_bind_eq_ok_iff, ensure_eq_ok_iff]
  simp only [bind_eq_ok_iff, Prod.exists]
  constructor
  · rintro ⟨hLast, hData, fork, hFork, _, hHeaders, header, hHeader, blocks, spans, hDerive, _, hCount, hEq⟩
    obtain ⟨hPos, hLimit, rfl⟩ := initialProposalAncestorHeaders_eq_ok_iff.mp hHeaders
    cases hEq
    exact ⟨fork, header, by simpa using hSources, hLast, hData, hFork, hHeaders, hHeader, hDerive,
      ensure_eq_ok_iff.mp hCount⟩
  · rintro ⟨fork, header, h⟩
    exact ⟨h.lastNormal, h.dataSources, fork, h.fork, _, h.window, header, h.parent, _, _, h.derivation, (),
      ensure_of_pos h.count, rfl⟩

theorem deriveExpectedShastaBlocks_eq_none_iff :
    deriveExpectedShastaBlocks T activations network input parentAnchor = ok none ↔
      input.taiko.proposal.sources = [] := by
  rw [deriveExpectedShastaBlocks]
  by_cases hSources : input.taiko.proposal.sources.isEmpty = true
  · simp [List.isEmpty_iff.mp hSources]
  · have hNonempty : input.taiko.proposal.sources ≠ [] := by simpa using hSources
    simp only [hSources, Bool.false_eq_true, if_false, unit_bind_eq_ok_iff, hNonempty, iff_false]
    simp only [bind_eq_ok_iff, Prod.exists]
    rintro ⟨_, _, _, _, _, _, _, _, _, _, _, _, _, hEq⟩
    cases hEq

end Inversion

end Raiko2
