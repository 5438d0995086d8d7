import SensorFleet.Json.Decode
import SensorFleet.Reading
import SensorFleet.Slot.Slot
import SensorFleet.Time.WallTimeReader
/-!
Decoders of ids, readings, faults and slot reports, the inverses of their `toJson`.
-/
namespace SensorFleet

open Json

def ProducerId.decoder : Decoder ProducerId := fun cs =>
  (word32 cs).map fun (n, cs) => (UInt32.ofNat n, cs)

def RunId.decoder : Decoder RunId :=
  stringAs "a string" fun s =>
    match RunId.ofDigits? s with
    | .ok r => .ok r
    | .error e => .error (.content e.message)

def SlotState.decoder : Decoder SlotState :=
  variant (SlotState.all.map SlotState.name) SlotState.ofName?

def WallTime.decoder : Decoder WallTime :=
  stringAs "an RFC 3339 formatted date and time string" fun s =>
    match WallTime.ofText? s with
    | .ok t => .ok t
    | .error e => .error (.content e.message)

/-- A field that is kept in an `Option` until the record is complete. -/
def keep {σ α : Type} (name : String) (d : Decoder α) (get : σ → Option α)
    (set : σ → α → σ) : FieldShape σ :=
  { name := name
    isFilled := fun s => (get s).isSome
    fill := fun s cs => (d cs).map fun (v, cs) => (set s v, cs) }

namespace Reading

structure Draft where
  producer : Option ProducerId := none
  value : Option Binary64 := none
  capturedAt : Option WallTime := none

def shape : RecordShape Draft Reading :=
  { name := "Reading"
    fields := [
      keep "producer_id" ProducerId.decoder Draft.producer fun s v => { s with producer := some v },
      keep "value" binary64 Draft.value fun s v => { s with value := some v },
      keep "captured_at" WallTime.decoder Draft.capturedAt fun s v => { s with capturedAt := some v }]
    empty := {}
    complete := fun s => do return ⟨← s.producer, ← s.value, ← s.capturedAt⟩ }

def decoder : Decoder Reading := shape.decode

end Reading

namespace ProducerFault

structure Draft where
  producer : Option ProducerId := none
  attempt : Option Nat := none
  message : Option String := none

def shape : RecordShape Draft ProducerFault :=
  { name := "ProducerFault"
    fields := [
      keep "producer_id" ProducerId.decoder Draft.producer fun s v => { s with producer := some v },
      keep "attempt" word32 Draft.attempt fun s v => { s with attempt := some v },
      keep "message" plainString Draft.message fun s v => { s with message := some v }]
    empty := {}
    complete := fun s => do return ⟨← s.producer, ← s.attempt, ← s.message⟩ }

def decoder : Decoder ProducerFault := shape.decode

end ProducerFault

namespace SlotReport

structure Draft where
  producer : Option ProducerId := none
  state : Option SlotState := none
  sent : Option Nat := none
  restarts : Option Nat := none
  faults : Option (List ProducerFault) := none

def shape : RecordShape Draft SlotReport :=
  { name := "SlotReport"
    fields := [
      keep "producer_id" ProducerId.decoder Draft.producer fun s v => { s with producer := some v },
      keep "state" SlotState.decoder Draft.state fun s v => { s with state := some v },
      keep "sent" word64 Draft.sent fun s v => { s with sent := some v },
      keep "restarts" word32 Draft.restarts fun s v => { s with restarts := some v },
      { keep "faults" (listOf ProducerFault.decoder) Draft.faults
          (fun s v => { s with faults := some v }) with isOptional := true }]
    empty := {}
    complete := fun s => do
      return ⟨← s.producer, ← s.state, ← s.sent, ← s.restarts, s.faults.getD []⟩ }

def decoder : Decoder SlotReport := shape.decode

end SlotReport
end SensorFleet
