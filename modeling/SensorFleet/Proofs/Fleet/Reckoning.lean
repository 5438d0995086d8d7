import SensorFleet.Proofs.Fleet.Results
import SensorFleet.Proofs.Report.SlotOrder

/-!
What a report says of the state in which it was made: the slots in it are those of the supervisors,
sorted by producer and stopped, and its counts are the tallies of the slots and the counts that the
aggregator and the publisher returned.
-/
namespace SensorFleet

theorem map_filterMap_of_some {α β γ : Type} {f : α → Option β} {g : α → γ} {k : β → γ} {l : List α}
    (h : ∀ a ∈ l, ∃ b, f a = some b ∧ k b = g a) : (l.filterMap f).map k = l.map g := by
  induction l with
  | nil => rfl
  | cons a l ih =>
    obtain ⟨b, hb, hk⟩ := h a List.mem_cons_self
    rw [List.filterMap_cons_some hb, List.map_cons, List.map_cons, hk,
      ih fun x hx => h x (List.mem_cons_of_mem a hx)]

namespace Simulation

def tallyOf (s : SlotReport) : ProducerId × Nat := (s.producer, s.sent)

structure Reckoned (m : Simulation) (report : SimReport) : Prop where
  slots : (report.producers.toList.map tallyOf).Perm m.tallies
  stopped : ∀ s ∈ report.producers.toList, s.state = .stopped
  order : (report.producers.toList.map fun s => s.producer.toNat).Pairwise (· ≤ ·)
  sent : report.sent = (m.tallies.map Prod.snd).sum
  sealed : m.scene.primary.Sealed
  received : report.received = m.aggregator.report.received
  forwarded : report.forwarded = m.aggregator.report.forwarded
  dropped : report.dropped =
    m.aggregator.report.dropped + report.publisher.elim 0 PublisherReport.dropped
  publisher : report.publisher = m.coordinator.published

theorem Reckoned.ids {c : Config} {m : Simulation} {report : SimReport} (h : Reckoned m report)
    (booked : Booked c m) (few : c.producers < UInt32.size) :
    (report.producers.toList.map fun s => s.producer.toNat) = List.range' 1 c.producers := by
  have numbers : ((List.range c.producers).map idAt).map UInt32.toNat =
      List.range' 1 c.producers := by
    rw [List.range'_eq_map_range, List.map_map]
    refine List.map_congr_left fun i hi => ?_
    rw [Function.comp_apply, toNat_idAt few (List.mem_range.mp hi), Nat.add_comm]
  have perm : (report.producers.toList.map fun s => s.producer.toNat).Perm
      (List.range' 1 c.producers) := by
    have hp := h.slots.map fun e => e.1.toNat
    rw [List.map_map] at hp
    rw [← numbers, ← booked.ids, List.map_map]
    exact hp
  refine perm.eq_of_pairwise (fun a b _ _ => Nat.le_antisymm) h.order ?_
  exact List.Pairwise.imp Nat.le_of_lt List.pairwise_lt_range'

/-- Whatever a slot in the report has sent was received. -/
theorem Reckoned.slot_received {c : Config} {m : Simulation} {report : SimReport}
    (h : Reckoned m report) (booked : Booked c m) (few : c.producers < UInt32.size) {s : SlotReport}
    (hs : s ∈ report.producers.toList) : s.sent = countOf s.producer (m.scene.taken .primary) := by
  obtain ⟨i, hi⟩ := List.getElem?_of_mem (h.slots.mem_iff.mp (List.mem_map_of_mem hs))
  have tally := booked.slots few i s.producer s.sent hi
  have all := booked.flows .primary
  rw [show (m.scene.queue .primary).buffer = [] from h.sealed.2, List.append_nil] at all
  rw [tally, all]

theorem Reachable.handedIn {c : Config} {p : Equipment} {m : Simulation} (h : Reachable c p m)
    (past : m.coordinator.phase.isPast = true) (failure : m.coordinator.failure = none) :
    ∀ t ∈ m.supervisors.toList, ∃ s, t.handedIn? = some s ∧ s.state = .stopped ∧
      tallyOf s = (t.slot.id, t.sent) := by
  intro t ht
  obtain ⟨i, hi⟩ := List.getElem?_of_mem ht
  have found : m.supervisors[i]? = some t := by simpa using hi
  have unjoined := h.ordered.awaited
  rw [CoordinatorPhase.awaited_of_isPast past] at unjoined
  have joined := joined_of_unjoined unjoined found
  obtain ⟨s, hs⟩ := Option.isSome_iff_exists.mp ((h.collected.slots failure).2 i t found joined)
  obtain ⟨id, state, sent⟩ :=
    (h.staffed.member i t found).1.report s (Supervisor.phase_of_report? hs)
  exact ⟨s, by simp [Supervisor.handedIn?, joined, hs], state, Prod.ext id sent⟩

/-- The slots in the report are the reports of the supervisors, sorted by producer. -/
theorem Reachable.reported_perm {c : Config} {p : Equipment} {m : Simulation} (h : Reachable c p m)
    {report : SimReport} (phase : m.coordinator.phase = .ended (.ok report)) :
    report.producers.toList.Perm (m.supervisors.toList.filterMap Supervisor.handedIn?) := by
  obtain ⟨failure, finishedAt, queue, _, rfl⟩ := h.collected.reported report phase
  obtain ⟨perm, _⟩ := h.collected.slots failure
  exact ((SimReport.sortSlots_perm _).trans m.coordinator.slots.reverse_perm).trans perm

theorem Reachable.reckoned {c : Config} {p : Equipment} {m : Simulation} (h : Reachable c p m)
    {report : SimReport} (phase : m.coordinator.phase = .ended (.ok report)) :
    Reckoned m report := by
  have past : m.coordinator.phase.isPast = true := by rw [phase]; rfl
  have taken : m.coordinator.phase.hasAggregator = true := by rw [phase]; rfl
  have sorted := h.reported_perm phase
  obtain ⟨failure, finishedAt, queue, _, rfl⟩ := h.collected.reported report phase
  obtain ⟨perm, _⟩ := h.collected.slots failure
  have handed := h.handedIn past failure
  obtain ⟨aggregated, sealed⟩ := h.drained.aggregator _ (h.collected.aggregated failure taken)
  have tallied : (m.supervisors.toList.filterMap Supervisor.handedIn?).map tallyOf = m.tallies :=
    map_filterMap_of_some fun t ht => by
      obtain ⟨s, hs, _, tally⟩ := handed t ht
      exact ⟨s, hs, tally⟩
  refine ⟨?_, ?_, SimReport.sortSlots_pairwise _, ?_, sealed, ?_, ?_, ?_, rfl⟩
  · rw [← tallied]
    exact sorted.map tallyOf
  · intro s hs
    obtain ⟨t, ht, he⟩ := List.mem_filterMap.mp (sorted.mem_iff.mp hs)
    obtain ⟨s', hs', state, _⟩ := handed t ht
    rw [he, Option.some.injEq] at hs'
    exact hs' ▸ state
  · change SimReport.total SlotReport.sent m.coordinator.slots.reverse = _
    rw [SimReport.total_eq_sum, ← tallied, List.map_map]
    exact ((m.coordinator.slots.reverse_perm.trans perm).map SlotReport.sent).sum_eq
  · exact congrArg AggregatorReport.received aggregated
  · exact congrArg AggregatorReport.forwarded aggregated
  · change m.coordinator.aggregated.dropped + _ = _
    rw [aggregated]
    rfl

end Simulation
end SensorFleet
