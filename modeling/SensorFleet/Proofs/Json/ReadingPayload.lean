import SensorFleet.Proofs.Json.RealText
import SensorFleet.Proofs.Json.RecordMembers
import SensorFleet.Proofs.Time.WallTimeText

/-!
Readings through their payloads. The decoder of readings takes the payload of every reading with a
finite value and a time of the calendar's range. The producer and the time come back as they were,
except for a leap second within a minute, and the value as a double at most two steps away.
-/
namespace SensorFleet

open Json

theorem ProducerId.decoder_text (id : ProducerId) (rest : List Char) :
    ProducerId.decoder ((toString (id.toNat : Int)).toList ++ ',' :: rest) = .ok (id, ',' :: rest) :=
  producer_reads id _ (.comma rest)

theorem WallTime.decoder_text {t : WallTime} (proper : t.Proper) (rest : List Char) :
    WallTime.decoder (quoted t.text.toList ++ rest) = .ok (t, rest) := by
  rw [WallTime.decoder, stringAs_quoted, String.ofList_toList, ofText_text proper]
  rfl

namespace Reading

theorem payload_toList (r : Reading) : r.payload.toList =
    '\x7b' :: (quoted "producer_id".toList ++ ':' :: ((toString (r.producer.toNat : Int)).toList ++ ',' ::
      (quoted "value".toList ++ ':' :: ((reals.text r.value).toList ++ ',' ::
        (quoted "captured_at".toList ++ ':' :: (quoted r.capturedAt.text.toList ++ ['\x7d'])))))) := by
  simp [payload, Json.text, toJson, chars, memberChars, Json.nat]

section Payload
variable {r : Reading}

theorem payload_read {v : Binary64} (finite : r.value.isFinite) (proper : r.capturedAt.Proper)
    (parts : Numeral.ofParts r.value.isNegative (written r.value).digits (written r.value).exponent =
      .ok v) : Json.decode decoder r.payload = .ok ⟨r.producer, v, r.capturedAt⟩ := by
  have value := binary64_text finite parts
    (quoted "captured_at".toList ++ ':' :: (quoted r.capturedAt.text.toList ++ ['\x7d']))
  have producer := ProducerId.decoder_text r.producer (quoted "value".toList ++ ':' ::
    ((reals.text r.value).toList ++ ',' :: (quoted "captured_at".toList ++ ':' ::
      (quoted r.capturedAt.text.toList ++ ['\x7d']))))
  have capturedAt := WallTime.decoder_text proper ['\x7d']
  have members (n : Nat) : shape.members (n + 4) true shape.empty
      (quoted "producer_id".toList ++ ':' :: ((toString (r.producer.toNat : Int)).toList ++ ',' ::
        (quoted "value".toList ++ ':' :: ((reals.text r.value).toList ++ ',' ::
          (quoted "captured_at".toList ++ ':' ::
            (quoted r.capturedAt.text.toList ++ ['\x7d'])))))) =
      .ok (⟨some r.producer, some v, some r.capturedAt⟩, ['\x7d']) := by
    refine (RecordShape.members_keep true rfl rfl producer).trans ?_
    refine (RecordShape.members_keep false rfl rfl value).trans ?_
    refine (RecordShape.members_keep false rfl rfl capturedAt).trans ?_
    exact RecordShape.members_end n _ _
  rw [Json.decode, payload_toList]
  generalize text : quoted "producer_id".toList ++ ':' :: _ = cs at members ⊢
  obtain ⟨n, fuel⟩ : ∃ n, cs.length + 1 = n + 4 := by
    have key : 3 ≤ (quoted "producer_id".toList).length := by decide
    have whole := congrArg List.length text
    rw [List.length_append] at whole
    exact ⟨cs.length - 3, by omega⟩
  have read := RecordShape.decode_object (fuel ▸ members n) (show shape.finish _ = .ok _ from rfl)
  rw [decoder, read]
  rfl

theorem payload_carried (range : r.capturedAt.InRange) :
    ({ r with capturedAt := r.capturedAt.carried } : Reading).payload = r.payload := by
  simp only [payload, toJson, range.text_carried]

/-- Every payload of a reading with a finite value and a time of the calendar's range is decoded. The
producer comes back as it was; so does the time, unless it is a leap second within a minute, which
comes back as the next second. The value comes back as a finite double of the same sign at most two
steps away, and as it was if its digits have 53 bits and its power of ten is at most the 22nd. -/
theorem payload_decoded (finite : r.value.isFinite) (range : r.capturedAt.InRange) :
    (∃ v, Json.decode decoder r.payload = .ok ⟨r.producer, v, r.capturedAt.carried⟩ ∧
      ReadBack r.value v) ∧
    (r.capturedAt.carried = r.capturedAt ↔
      (1000000000 ≤ r.capturedAt.nanos → r.capturedAt.seconds % 60 = 59)) := by
  obtain ⟨v, parts, back⟩ := ofParts_written finite
  have read := payload_read (r := { r with capturedAt := r.capturedAt.carried }) finite
    range.carried parts
  rw [payload_carried range] at read
  exact ⟨⟨v, read, back⟩, WallTime.carried_eq_self_iff⟩

end Payload

/-- The least negative number below zero, in a leap second. -/
theorem payload_decoded_in_a_leap_second :
    (⟨0x8000000000000001⟩ : Binary64).isFinite = true ∧
      (⟨1483228799, 1999999999⟩ : WallTime).InRange ∧
      ∃ v, Json.decode decoder
          (⟨7, ⟨0x8000000000000001⟩, ⟨1483228799, 1999999999⟩⟩ : Reading).payload =
            .ok ⟨7, v, ⟨1483228799, 1999999999⟩⟩ ∧ ReadBack ⟨0x8000000000000001⟩ v := by
  have range : (⟨1483228799, 1999999999⟩ : WallTime).InRange := ⟨by decide, by decide, by decide⟩
  obtain ⟨⟨v, read, back⟩, unmoved⟩ := payload_decoded
    (r := ⟨7, ⟨0x8000000000000001⟩, ⟨1483228799, 1999999999⟩⟩) (by decide) range
  rw [unmoved.mpr fun _ => rfl] at read
  exact ⟨by decide, range, v, read, back⟩

/-- Two readings that come back as others: the one with a value of 16 digits has the next double, and
the one of a leap second within a minute, which is written as 21.333333333, the next second. -/
theorem payload_decoded_to_others :
    ((⟨0x3fee3fa85468ae3c⟩ : Binary64).isFinite = true ∧ (⟨1704067200, 0⟩ : WallTime).InRange ∧
      Json.decode decoder (⟨1, ⟨0x3fee3fa85468ae3c⟩, ⟨1704067200, 0⟩⟩ : Reading).payload =
        .ok ⟨1, ⟨0x3fee3fa85468ae3d⟩, ⟨1704067200, 0⟩⟩ ∧
      Json.decode decoder (⟨1, ⟨0x3fee3fa85468ae3c⟩, ⟨1704067200, 0⟩⟩ : Reading).payload ≠
        .ok ⟨1, ⟨0x3fee3fa85468ae3c⟩, ⟨1704067200, 0⟩⟩) ∧
    ((⟨0x3fe0000000000000⟩ : Binary64).isFinite = true ∧
      (⟨1704067220, 1333333333⟩ : WallTime).InRange ∧
      Json.decode decoder (⟨1, ⟨0x3fe0000000000000⟩, ⟨1704067220, 1333333333⟩⟩ : Reading).payload =
        .ok ⟨1, ⟨0x3fe0000000000000⟩, ⟨1704067221, 333333333⟩⟩ ∧
      Json.decode decoder (⟨1, ⟨0x3fe0000000000000⟩, ⟨1704067220, 1333333333⟩⟩ : Reading).payload ≠
        .ok ⟨1, ⟨0x3fe0000000000000⟩, ⟨1704067220, 1333333333⟩⟩) := by
  have whole : (⟨1704067200, 0⟩ : WallTime).Proper := ⟨⟨by decide, by decide, by decide⟩, by decide⟩
  have within : (⟨1704067220, 1333333333⟩ : WallTime).InRange := ⟨by decide, by decide, by decide⟩
  have value := payload_read (r := ⟨1, ⟨0x3fee3fa85468ae3c⟩, ⟨1704067200, 0⟩⟩)
    (v := ⟨0x3fee3fa85468ae3d⟩) (by decide) whole (by decide +kernel)
  have second := payload_read (r := ⟨1, ⟨0x3fe0000000000000⟩, ⟨1704067221, 333333333⟩⟩)
    (v := ⟨0x3fe0000000000000⟩) (by decide) within.carried (by decide +kernel)
  have same := payload_carried (r := ⟨1, ⟨0x3fe0000000000000⟩, ⟨1704067220, 1333333333⟩⟩) within
  have time : (⟨1704067221, 333333333⟩ : WallTime) = (⟨1704067220, 1333333333⟩ : WallTime).carried := rfl
  rw [time, same] at second
  exact ⟨⟨by decide, whole.toInRange, value, value.trans_ne (by decide)⟩,
    by decide, within, second, second.trans_ne (by decide)⟩

end Reading

end SensorFleet
