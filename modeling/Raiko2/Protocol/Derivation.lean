import Raiko2.Protocol.Types

/-!
# Shasta derivation

The rules by which a derivation source becomes a list of blocks, as the guest and the host share them. The
protocol constants, the blob codec and the manifest codec come from other crates; they are the fields of
`TaikoProtocol`, and nothing is assumed of them here.
-/

namespace Raiko2

open Lib Lib.Outcome

/-- A block of a manifest. A transaction is kept as its RLP bytes. -/
structure BlockManifest where
  timestamp : UInt64 := 0
  coinbase : Address := 0
  anchorBlockNumber : UInt64 := 0
  gasLimit : UInt64 := 0
  transactions : List Bytes := []
  deriving DecidableEq, Repr, Inhabited

structure DerivationSourceManifest where
  blocks : List BlockManifest
  deriving DecidableEq, Repr, Inhabited

/-- Constants and codecs that the derivation takes from `taiko-client-rs`, `alethia-reth` and `alloy-eips`. -/
structure TaikoProtocol where
  maxBlockGasLimit : UInt64
  minBlockGasLimit : UInt64
  blockGasLimitMaxChange : UInt64
  gasLimitDenominator : UInt64
  anchorV3V4GasLimit : UInt64
  unzenDerivationSourceMaxBlocks : Nat
  bytesPerBlob : Nat
  maxAnchorOffsetForChain : UInt64 → UInt64
  timestampMaxOffsetForChain : UInt64 → UInt64
  defaultManifest : DerivationSourceManifest
  decodeBlobs : List Bytes → Option (List Bytes)
  decompressAndDecodeWithMaxBlocks : Bytes → Nat → Nat → Option DerivationSourceManifest

structure ProposalMetadata where
  proposalTimestamp : UInt64
  originBlockNumber : UInt64
  proposer : Address
  chainId : UInt64
  deriving DecidableEq, Repr

structure ParentBlockContext where
  timestamp : UInt64
  gasLimit : UInt64
  blockNumber : UInt64
  anchorBlockNumber : UInt64
  deriving DecidableEq, Repr

structure ValidationContext where
  parentTimestamp : UInt64
  parentGasLimit : UInt64
  parentBlockNumber : UInt64
  parentAnchorBlockNumber : UInt64
  proposalTimestamp : UInt64
  originBlockNumber : UInt64
  isForcedInclusion : Bool
  forkTimestamp : UInt64
  chainId : UInt64

structure InheritedMetadataInput where
  parentTimestamp : UInt64
  proposalTimestamp : UInt64
  forkTimestamp : UInt64
  proposer : Address
  anchorBlockNumber : UInt64
  parentBlockNumber : UInt64
  parentGasLimit : UInt64
  chainId : UInt64

inductive ValidationError where
  | emptyManifest
  | defaultManifest
  deriving DecidableEq, Repr

inductive SourceDerivationError where
  | inlinePayloadUnsupported
  | missingBlobData
  | invalidBlobLength (index actual expected : Nat)
  deriving DecidableEq, Repr

def SourceDerivationError.display : SourceDerivationError → String
  | inlinePayloadUnsupported => "inline manifest payloads are not bound to on-chain data"
  | missingBlobData => "blob-backed derivation source is missing blob data"
  | invalidBlobLength index actual expected => s!"blob {index} has invalid length {actual}; expected {expected}"

variable (T : TaikoProtocol)

def effectiveParentGasLimit (parentBlockNumber parentGasLimit : UInt64) : UInt64 :=
  if parentBlockNumber = 0 then parentGasLimit else U64.saturatingSub parentGasLimit T.anchorV3V4GasLimit

def u128SaturatingMul (a b : Nat) : Nat := min (a * b) (2 ^ 128 - 1)

def gasLimitBounds (parentGasLimit : UInt64) : UInt64 × UInt64 :=
  let parent := parentGasLimit.toNat
  let denominator := T.gasLimitDenominator.toNat
  let change := T.blockGasLimitMaxChange.toNat
  let upper := min (u128SaturatingMul parent (denominator + change) / denominator) T.maxBlockGasLimit.toNat
  let lower := u128SaturatingMul parent (denominator - change) / denominator
  let lower := min (max lower T.minBlockGasLimit.toNat) upper
  (UInt64.ofNat lower, UInt64.ofNat upper)

def computeTimestampLowerBound (parentTimestamp proposalTimestamp forkTimestamp chainId : UInt64) : UInt64 :=
  let timestampMaxOffset := T.timestampMaxOffsetForChain chainId
  let lowerBound := U64.saturatingAdd parentTimestamp 1
  let lowerBound :=
    if proposalTimestamp > timestampMaxOffset then U64.maxOf lowerBound (proposalTimestamp - timestampMaxOffset)
    else lowerBound
  U64.maxOf lowerBound forkTimestamp

def validateTimestamps (proposalTimestamp forkTimestamp chainId : UInt64) : UInt64 → List BlockManifest → Bool
  | _, [] => true
  | parentTs, block :: rest =>
    let lowerBound := computeTimestampLowerBound T parentTs proposalTimestamp forkTimestamp chainId
    if lowerBound > proposalTimestamp then false
    else if block.timestamp < lowerBound || block.timestamp > proposalTimestamp then false
    else validateTimestamps proposalTimestamp forkTimestamp chainId block.timestamp rest

def anchorNumbersLoop (originBlockNumber maxAnchorOffset : UInt64) :
    UInt64 → UInt64 → List BlockManifest → Option UInt64
  | _, highestAnchor, [] => some highestAnchor
  | parentAnchor, highestAnchor, block :: rest =>
    let anchor := block.anchorBlockNumber
    if anchor < parentAnchor || anchor > originBlockNumber then none
    else if originBlockNumber > maxAnchorOffset && anchor < originBlockNumber - maxAnchorOffset then none
    else anchorNumbersLoop originBlockNumber maxAnchorOffset anchor
      (if anchor > highestAnchor then anchor else highestAnchor) rest

def validateAnchorNumbers (manifest : DerivationSourceManifest) (originBlockNumber parentAnchorBlockNumber : UInt64)
    (isForcedInclusion : Bool) (chainId : UInt64) : Bool :=
  match anchorNumbersLoop originBlockNumber (T.maxAnchorOffsetForChain chainId) parentAnchorBlockNumber
      parentAnchorBlockNumber manifest.blocks with
  | none => false
  | some highestAnchor => isForcedInclusion || highestAnchor > parentAnchorBlockNumber

def gasLimitLoop : UInt64 → List BlockManifest → Bool
  | _, [] => true
  | parentGasLimit, block :: rest =>
    let (lowerBound, upperBound) := gasLimitBounds T parentGasLimit
    if block.gasLimit < lowerBound || block.gasLimit > upperBound then false
    else gasLimitLoop block.gasLimit rest

def validateGasLimit (manifest : DerivationSourceManifest) (parentBlockNumber parentGasLimit : UInt64) : Bool :=
  gasLimitLoop T (effectiveParentGasLimit T parentBlockNumber parentGasLimit) manifest.blocks

def validateSourceManifest (manifest : DerivationSourceManifest) (ctx : ValidationContext) :
    Outcome ValidationError Unit :=
  if manifest.blocks.length = 0 then error .emptyManifest
  else if !validateTimestamps T ctx.proposalTimestamp ctx.forkTimestamp ctx.chainId ctx.parentTimestamp
        manifest.blocks ||
      !validateAnchorNumbers T manifest ctx.originBlockNumber ctx.parentAnchorBlockNumber ctx.isForcedInclusion
        ctx.chainId ||
      !validateGasLimit T manifest ctx.parentBlockNumber ctx.parentGasLimit then error .defaultManifest
  else ok ()

def manifestIsDefault (manifest : DerivationSourceManifest) : Bool :=
  match manifest.blocks with
  | [block] => block.timestamp == 0 && block.coinbase == 0 && block.anchorBlockNumber == 0 &&
      block.gasLimit == 0 && block.transactions.isEmpty
  | _ => false

def inheritBlocks (input : InheritedMetadataInput) (parentGasLimit : UInt64) :
    UInt64 → List BlockManifest → List BlockManifest
  | _, [] => []
  | parentTs, block :: rest =>
    let lowerBound :=
      computeTimestampLowerBound T parentTs input.proposalTimestamp input.forkTimestamp input.chainId
    { block with
      timestamp := lowerBound
      coinbase := input.proposer
      anchorBlockNumber := input.anchorBlockNumber
      gasLimit := parentGasLimit } :: inheritBlocks input parentGasLimit lowerBound rest

def applyInheritedMetadata (manifest : DerivationSourceManifest) (input : InheritedMetadataInput) :
    DerivationSourceManifest where
  blocks := inheritBlocks T input (effectiveParentGasLimit T input.parentBlockNumber input.parentGasLimit)
    input.parentTimestamp manifest.blocks

def ensureNoInlinePayload (dataSource : Option InputDataSource) : Outcome SourceDerivationError Unit :=
  match dataSource with
  | none => ok ()
  | some dataSource =>
    if dataSource.txDataFromCalldata.isEmpty && dataSource.txDataFromBlob.isEmpty &&
        dataSource.blobCommitments.isEmpty && dataSource.blobProofs.isEmpty then ok ()
    else error .inlinePayloadUnsupported

def checkBlobLengths : Nat → List Bytes → Outcome SourceDerivationError Unit
  | _, [] => ok ()
  | index, raw :: rest =>
    if raw.length = T.bytesPerBlob then checkBlobLengths (index + 1) rest
    else error (.invalidBlobLength index raw.length T.bytesPerBlob)

def decodeBlobBackedManifest (dataSource : InputDataSource) (offset maxBlocks : Nat) :
    Outcome SourceDerivationError DerivationSourceManifest :=
  if dataSource.txDataFromBlob.isEmpty then error .missingBlobData
  else do
    checkBlobLengths T 0 dataSource.txDataFromBlob
    match T.decodeBlobs dataSource.txDataFromBlob with
    | none => ok T.defaultManifest
    | some decoded =>
      ok ((T.decompressAndDecodeWithMaxBlocks decoded.flatten offset maxBlocks).getD T.defaultManifest)

def isSourceOffsetValid (source : DerivationSource) : Bool :=
  source.blobSlice.offset.toNat ≤ T.bytesPerBlob - 64

def decodedManifest (source : DerivationSource) (dataSource : Option InputDataSource) (maxBlocks : Nat) :
    Outcome SourceDerivationError DerivationSourceManifest :=
  if source.blobSlice.blobHashes.isEmpty then do
    ensureNoInlinePayload dataSource
    ok T.defaultManifest
  else if !isSourceOffsetValid T source then ok T.defaultManifest
  else do
    let dataSource ← ofOption .missingBlobData dataSource
    decodeBlobBackedManifest T dataSource source.blobSlice.offset.toNat maxBlocks

def sourceManifest (source : DerivationSource) (dataSource : Option InputDataSource) (maxBlocks : Nat) :
    Outcome SourceDerivationError DerivationSourceManifest := do
  let manifest ← decodedManifest T source dataSource maxBlocks
  return if source.isForcedInclusion && manifest.blocks.length != 1 then T.defaultManifest else manifest

def inheritedMetadataInput (parent : ParentBlockContext) (metadata : ProposalMetadata) (forkTimestamp : UInt64) :
    InheritedMetadataInput where
  parentTimestamp := parent.timestamp
  proposalTimestamp := metadata.proposalTimestamp
  forkTimestamp := forkTimestamp
  proposer := metadata.proposer
  anchorBlockNumber := parent.anchorBlockNumber
  parentBlockNumber := parent.blockNumber
  parentGasLimit := parent.gasLimit
  chainId := metadata.chainId

def validationContext (source : DerivationSource) (parent : ParentBlockContext) (metadata : ProposalMetadata)
    (forkTimestamp : UInt64) : ValidationContext where
  parentTimestamp := parent.timestamp
  parentGasLimit := parent.gasLimit
  parentBlockNumber := parent.blockNumber
  parentAnchorBlockNumber := parent.anchorBlockNumber
  proposalTimestamp := metadata.proposalTimestamp
  originBlockNumber := metadata.originBlockNumber
  isForcedInclusion := source.isForcedInclusion
  forkTimestamp := forkTimestamp
  chainId := metadata.chainId

def prepareSourceManifestWithMaxBlocks (source : DerivationSource) (dataSource : Option InputDataSource)
    (parent : ParentBlockContext) (metadata : ProposalMetadata) (forkTimestamp : UInt64) (maxBlocks : Nat) :
    Outcome SourceDerivationError DerivationSourceManifest := do
  let manifest ← sourceManifest T source dataSource maxBlocks
  let inherited := inheritedMetadataInput parent metadata forkTimestamp
  let manifest :=
    if source.isForcedInclusion || manifestIsDefault manifest then applyInheritedMetadata T manifest inherited
    else manifest
  match validateSourceManifest T manifest (validationContext source parent metadata forkTimestamp) with
  | ok () => return manifest
  | _ => return applyInheritedMetadata T T.defaultManifest inherited

end Raiko2
