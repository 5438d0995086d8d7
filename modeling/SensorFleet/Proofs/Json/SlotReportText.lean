import SensorFleet.Proofs.Json.RecordMembers

/-!
Slot reports through their texts. The decoder of reports takes the text of every report whose counts
fit their words and gives the same report, with the same faults and messages; what a report without
faults leaves out is what the decoder does not miss.
-/
namespace SensorFleet

open Json

def Json.keys : Json → List String
  | .object members => members.map Prod.fst
  | _ => []

theorem SlotState.decoder_reads (x : SlotState) :
    Reads SlotState.decoder (Json.string x.name).chars x :=
  variant_reads _ x.ofName?_name

namespace ProducerFault

theorem decoder_written {f : ProducerFault} (small : f.attempt < UInt32.size) (rest : List Char) :
    decoder (f.toJson.chars ++ rest) = .ok (f, rest) := by
  have fills : shape.Fills shape.empty [("producer_id", .nat f.producer.toNat),
      ("attempt", .nat f.attempt), ("message", .string f.message)]
      ⟨some f.producer, some f.attempt, some f.message⟩ := by
    refine .keep rfl rfl (producer_reads f.producer) ?_
    refine .keep rfl rfl (word32_reads small) ?_
    refine .keep rfl rfl (plainString_reads f.message) ?_
    exact .done _
  exact RecordShape.decode_written fills rfl rest

theorem toJson_opens (f : ProducerFault) : Opens f.toJson.chars :=
  ⟨'\x7b', _, rfl, by decide, by decide⟩

end ProducerFault

namespace SlotReport

structure Fits (r : SlotReport) : Prop where
  sent : r.sent < UInt64.size
  restarts : r.restarts < UInt32.size
  attempts : ∀ f ∈ r.faults, f.attempt < UInt32.size

section Text
variable {r : SlotReport}

/-- The member that a report with faults has besides. -/
theorem fills_faults (fits : r.Fits) : shape.Fills
    ⟨some r.producer, some r.state, some r.sent, some r.restarts, none⟩
    [("faults", .array (r.faults.map ProducerFault.toJson))]
    ⟨some r.producer, some r.state, some r.sent, some r.restarts, some r.faults⟩ := by
  have reads : Reads (listOf ProducerFault.decoder)
      (Json.array (r.faults.map ProducerFault.toJson)).chars r.faults :=
    listOf_reads (fun f hf rest _ => ProducerFault.decoder_written (fits.attempts f hf) rest)
      fun f _ => f.toJson_opens
  exact .member rfl rfl (fun rest ends => congrArg (Except.map _) (reads rest ends)) (.done _)

theorem fills_counts (fits : r.Fits) {others : List (String × Json)} {s : Draft}
    (goes : shape.Fills ⟨some r.producer, some r.state, some r.sent, some r.restarts, none⟩
      others s) :
    shape.Fills shape.empty ([("producer_id", .nat r.producer.toNat),
      ("state", .string r.state.name), ("sent", .nat r.sent), ("restarts", .nat r.restarts)] ++
        others) s := by
  refine .keep rfl rfl (producer_reads r.producer) ?_
  refine .keep rfl rfl (SlotState.decoder_reads r.state) ?_
  refine .keep rfl rfl (word64_reads fits.sent) ?_
  refine .keep rfl rfl (word32_reads fits.restarts) ?_
  exact goes

theorem decoder_written (fits : r.Fits) (rest : List Char) :
    decoder (r.toJson.chars ++ rest) = .ok (r, rest) := by
  obtain ⟨producer, state, sent, restarts, faults⟩ := r
  cases faults with
  | nil => exact RecordShape.decode_written (fills_counts fits (.done _)) rfl rest
  | cons f fs =>
    exact RecordShape.decode_written (fills_counts fits (fills_faults fits)) rfl rest

theorem faults_mem_keys (r : SlotReport) : "faults" ∈ r.toJson.keys ↔ r.faults ≠ [] := by
  cases faults : r.faults <;> simp [toJson, Json.keys, faults]

/-- The text of a report is decoded to the same report, whatever its faults and their messages. The
faults are left out exactly if there are none. -/
theorem text_decoded (fits : r.Fits) : Json.decode decoder r.toJson.text = .ok r ∧
    ("faults" ∈ r.toJson.keys ↔ r.faults ≠ []) := by
  have read := decoder_written fits []
  rw [List.append_nil] at read
  refine ⟨?_, r.faults_mem_keys⟩
  rw [Json.decode, Json.text, String.toList_ofList, read]
  rfl

end Text

def extreme : SlotReport :=
  ⟨7, .stopped, 18446744073709551615, 4294967295, [⟨7, 4294967295, "\"\\\n\x00𝄞"⟩, ⟨7, 0, ""⟩]⟩

theorem extreme_text_decoded :
    extreme.Fits ∧ Json.decode decoder extreme.toJson.text = .ok extreme ∧
    ("faults" ∈ extreme.toJson.keys ↔ extreme.faults ≠ []) := by
  have fits : extreme.Fits := ⟨by decide, by decide, by decide⟩
  exact ⟨fits, text_decoded fits⟩

end SlotReport

end SensorFleet
