import SensorFleet.Proofs.Fleet.Reckoning

/-!
Conservation on the primary queue. Whatever the slots counted as sent has been received or is still
inside, and it comes out in the order in which it went in. A run that ends well has received all.
-/
namespace SensorFleet.Simulation

theorem sum_tallies (m : Simulation) :
    (m.tallies.map Prod.snd).sum = (m.supervisors.toList.map Supervisor.sent).sum := by
  rw [tallies, List.map_map]
  rfl

theorem Booked.entered_primary {c : Config} {m : Simulation} (h : Booked c m) :
    m.scene.taken .primary ++ m.scene.primary.buffer = m.scene.entered .primary :=
  h.flows .primary

/-- In every reachable state, the readings received and then those inside the primary queue are the
readings that entered it, in order; the aggregator has counted the former, and all the slots
together as many as there are of both. A report of a run that ends well tells of as many readings
received as sent, and its slots are stopped. If the configuration passes the check of its ids, they
are the slots of all producers, in the order of their ids. -/
theorem Reachable.conservation {c : Config} {p : Equipment} {m : Simulation}
    (h : Reachable c p m) :
    (m.supervisors.toList.map Supervisor.sent).sum =
        m.aggregator.report.received + m.scene.primary.length ∧
      m.scene.taken .primary ++ m.scene.primary.buffer = m.scene.entered .primary ∧
      m.aggregator.report.received = (m.scene.taken .primary).length ∧
      ∀ report, m.coordinator.phase = .ended (.ok report) →
        report.sent = report.received ∧ report.isLossless = true ∧
        (∀ s ∈ report.producers.toList, s.state = .stopped) ∧
        (c.lastId = .ok c.producers →
          (report.producers.toList.map fun s => s.producer.toNat) = List.range' 1 c.producers) := by
  have booked := h.booked
  have flows := booked.entered_primary
  have total : (m.supervisors.toList.map Supervisor.sent).sum =
      m.aggregator.report.received + m.scene.primary.length := by
    rw [← sum_tallies, booked.sent, ← flows, List.length_append, booked.received]
    rfl
  refine ⟨total, flows, booked.received, ?_⟩
  intro report phase
  have reckoned := h.reckoned phase
  have all : report.sent = report.received := by
    rw [reckoned.sent, sum_tallies, total, reckoned.received, Channel.length, reckoned.sealed.2]
    rfl
  exact ⟨all, decide_eq_true all, reckoned.stopped, fun checked =>
    reckoned.ids booked (few_of_lastId checked)⟩

/-- Two slots and room for one reading; a run ends well with three readings. -/
theorem conserved_over_three_readings :
    ∃ (c : Config) (p : Equipment) (m : Simulation) (report : SimReport), Reachable c p m ∧
      m.coordinator.phase = .ended (.ok report) ∧ report.sent = 3 ∧ report.received = 3 ∧
      (report.producers.toList.map fun s => s.producer.toNat) = [1, 2] := by
  let c : Config := { producers := 2, capacity := 1 }
  let p : Equipment :=
    { clock := .fixed default, sources := fun _ _ _ => .source fun _ => .value default }
  -- the second run waits for room twice, the second time over the cancellation
  let cues : List Cue := [.event (.supervisor 0), .event (.supervisor 1), .event (.run 0),
    .event (.run 1), .time 100000000, .event (.run 0), .event (.run 1), .event .aggregator,
    .event .aggregator, .event (.run 1), .time 200000000, .event (.run 1), .outside .cancel,
    .event (.shutdown .cancellation), .event .aggregator, .event .aggregator, .event (.run 1),
    .event .aggregator, .event (.run 1), .event (.run 0), .event (.supervisor 1),
    .event (.supervisor 0), .event (.join 1), .event (.join 0), .event .coordinator,
    .event .aggregator, .event .coordinator]
  obtain ⟨m, reachable, sent⟩ :
      ∃ m, Reachable c p m ∧ decide (m.report?.map SimReport.sent = some 3) = true :=
    exists_reachable cues (by decide)
  obtain ⟨report, ended, hs⟩ := Option.map_eq_some_iff.mp (of_decide_eq_true sent)
  have phase := phase_of_report? ended
  obtain ⟨_, _, _, reported⟩ := reachable.conservation
  obtain ⟨all, _, _, ids⟩ := reported report phase
  exact ⟨c, p, m, report, reachable, phase, hs, all ▸ hs, ids rfl⟩

end SensorFleet.Simulation
