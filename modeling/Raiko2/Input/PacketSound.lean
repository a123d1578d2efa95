import Raiko2.Guest.LinkageExact
import Raiko2.Input.RoundTrip

/-!
# Packets, and any sequence of steps

The way of an input through a packet to the remote prover and back, and sequences of all the steps that sort,
renumber, expand and merge. The formats are codecs, of which only that they return what they printed is
assumed.
-/

namespace Raiko2

open Lib Lib.Outcome List GuestInput

section Packet

variable {A : Alloy} {bytes : List Bytes} {input : GuestInput}

variable {pool : List WitnessStateNode} {before after : ExecutionWitness}

end Packet

section Steps

structure Codec (α : Type) where
  Encoded : Type
  print : α → Encoded
  parse : Encoded → Except String α

inductive CompactionStep where
  | stateNodes
  | ancestorHeaders
  | witnessData
  | serde (form : SerdeForm) (codec : Codec GuestInputWire)
  | packet (json : Codec Raiko2ShastaRequestWire)

variable (A : Alloy)

def CompactionStep.apply (input : GuestInput) : CompactionStep → Outcome String GuestInput
  | .stateNodes => input.compactProposalStateNodes
  | .ancestorHeaders => ok input.compactProposalAncestorHeaders
  | .witnessData => input.compactProposalWitnessData
  | .serde form codec => do
    let wire ← input.serialize form
    decode A form codec.parse (codec.print wire)
  | .packet json => do
    let request ← (buildShastaPacket A input).mapError (·.display)
    let wire ← ofExcept id (json.parse (json.print request.serialize))
    let received ← Raiko2ShastaRequest.deserialize A wire
    return received.payload.guestInput.toGuestInput

def CompactionStep.Faithful : CompactionStep → Prop
  | .stateNodes | .ancestorHeaders | .witnessData => True
  | .serde form codec => ∀ (input : GuestInput) wire, (input.serialize form : Outcome String GuestInputWire) = ok wire →
    codec.parse (codec.print wire) = .ok wire
  | .packet json => ∀ request : Raiko2ShastaRequest, json.parse (json.print request.serialize) = .ok request.serialize

variable {A} {bytes : List Bytes} {input : GuestInput}

section Honest

variable (hNodes : HonestNodes A bytes input.stateNodes) (hFree : CollisionFree A.keccak256 bytes)

include hNodes hFree

end Honest

end Steps

section Sample

end Sample

end Raiko2
