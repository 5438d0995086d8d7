import SensorFleet.Proofs.Fleet.Course
import SensorFleet.Proofs.Fleet.DrainLimit

/-!
Simulations on schedule. At the pace of the clock every slot keeps to its own course until the run
is cancelled, and closes then. So a run that is cancelled between two ticks has received from each
producer what the course of its slot tells, and reports the same, in whatever order the tasks went
on, and whatever the broker did.
-/
namespace SensorFleet

namespace Plan

def Stays (p : Plan) (since : Option Nat) (t : Supervisor) (s : Scene) : Prop :=
  match since with
  | none => p.Follows t s
  | some instant => ¬p.period ∣ instant → p.Closes (instant / p.period) t s

end Plan

/-- The sources play scripts, one after the other for each producer, and the clock shows a time that
depends on the instant and does not go back. -/
structure Equipment.Plays (e : Equipment) (draws : ProducerId → Nat → Source)
    (shown : Nat → WallTime) : Prop where
  sources : ∀ id nth total, e.sources id nth total = .source (draws id nth)
  clock : ∀ look now, e.clock look now = shown now
  forward : ∀ t t', t ≤ t' → (shown t').isBefore (shown t) = false

namespace Simulation

def planAt (c : Config) (draws : ProducerId → Nat → Source) (shown : Nat → WallTime) (i : Nat) :
    Plan :=
  ⟨idAt i, draws (idAt i), shown, c.interval⟩

section Course
variable {c : Config} {e : Equipment} {draws : ProducerId → Nat → Source} {shown : Nat → WallTime}
  {m m' : Simulation} {since : Option Nat} {i : Nat} {t t' : Supervisor} {p : Plan}

theorem Reachable.fits (h : Reachable c e m) (plays : e.Plays draws shown) (i : Nat) :
    (planAt c draws shown i).Fits m.scene where
  sources := fun nth total => by rw [h.supplied.sources]; exact plays.sources _ nth total
  clock := fun look now => by rw [h.supplied.clock]; exact plays.clock look now

/-- A turn that takes no time keeps a slot on its course. -/
theorem AtSlot.follows (happens : AtSlot m m' i t t') (h : p.Follows t m.scene)
    (steady : p.Steady) (fits : p.Fits m.scene) (going : m.scene.cancelled = false)
    (proper : t.Proper) (own' : t'.slot.id = p.id) (now : m'.scene.now = m.scene.now) :
    p.Follows t' m'.scene := by
  cases happens with
  | beside same beside =>
    rcases same with rfl | ⟨ended, _⟩
    · exact h.beside (h.own ▸ beside)
    · simp [h.live] at ended
  | steps ready proceeds alike => exact h.steps fits going ready proceeds alike own'
  | runs station station' phase ready after acts same =>
    exact h.runs steady fits going proper phase ready after acts same
  | time later _ same after =>
    subst same
    rw [after] at now ⊢
    change later = m.scene.now at now
    rw [now]
    exact h

/-- A turn after the cancellation leaves the readings and the faults of a slot as they are. -/
theorem AtSlot.closes {k : Nat} (happens : AtSlot m m' i t t') (h : p.Closes k t m.scene)
    (cancelled : m.scene.cancelled = true) (own' : t'.slot.id = p.id) : p.Closes k t' m'.scene := by
  cases happens with
  | beside same beside =>
    have closes := h.beside (h.own ▸ beside)
    rcases same with rfl | ⟨_, rfl⟩
    · exact closes
    · exact closes.joined
  | steps ready proceeds alike => exact h.steps cancelled proceeds alike own'
  | runs station station' phase ready after acts =>
    exact h.runs cancelled phase (Station.live_of_isReady ready) after acts
  | time now later same after =>
    subst same after
    exact ⟨h.own, h.readings, h.faults, h.place⟩

/-- The cancellation finds a slot on its course. -/
theorem stays_of_follows (h : p.Follows t m.scene) : p.Stays m.cancelledNow? t m.scene := by
  unfold cancelledNow?
  cases m.scene.cancelled with
  | false => exact h
  | true => exact h.closes

theorem start_follows (started : start c e = .ok m) (i : Nat) :
    (planAt c draws shown i).Follows (Supervisor.new (idAt i) c.interval) m.scene := by
  have fresh : m.scene.now = 0 ∧ m.scene.created = ∅ := by
    rw [start_scene started]
    exact ⟨rfl, rfl⟩
  obtain ⟨now, created⟩ := fresh
  have none_sent := start_sentBy started (idAt i)
  refine ⟨rfl, rfl, by simp [created, Supervisor.new], .inl ⟨0, ?_, ?_, rfl⟩⟩
  · exact .between ⟨rfl, by simp [Supervisor.new]⟩ (now.trans (Nat.zero_mul _).symm) rfl rfl
  · exact (List.append_nil _).trans none_sent

/-- At the pace of the clock each slot keeps to its course until the cancellation, and closes then,
unless the aggregator has crashed, without which a run may wait for room over a tick. -/
theorem Timed.stays (h : Timed c e since m) (few : c.producers < UInt32.size)
    (plays : e.Plays draws shown) (pos : 0 < c.interval) (whole : 1000000 ∣ c.interval)
    (alive : ∀ k, m.aggregator.ending? ≠ some (.crashed k)) (found : m.supervisors[i]? = some t) :
    (planAt c draws shown i).Stays since t m.scene := by
  have steady (i : Nat) : (planAt c draws shown i).Steady := ⟨pos, whole, plays.forward⟩
  refine h.invariant (P := fun since m => (∀ k, m.aggregator.ending? ≠ some (.crashed k)) →
    ∀ (i : Nat) t, m.supervisors[i]? = some t → (planAt c draws shown i).Stays since t m.scene)
    ?_ ?_ ?_ alive i t found
  · intro m started _ i t found
    rw [(start_started started).found found]
    exact stays_of_follows (start_follows started i)
  · intro since m m' prior turn now hm alive' i t' found'
    have reachable := prior.reachable
    obtain ⟨t, found, happens⟩ := reachable.atSlot few turn found'
    have stays := hm (fun k crashed => alive' k (turn.crashed crashed)) i t found
    obtain ⟨proper, _⟩ := reachable.staffed.member i t found
    have own' := ((turn.staffed reachable.staffed).member i t' found').2
    cases since with
    | none =>
      exact stays_of_follows
        (happens.follows stays (steady i) (reachable.fits plays i) prior.cancelled proper own' now)
    | some instant => exact fun off => happens.closes (stays off) prior.cancelled own'
  · intro since m now prior idle later alarms hm alive i t found
    have found : m.supervisors[i]? = some t := found
    have stays := hm alive i t found
    have stuck := isReady_of_isIdle idle
    cases since with
    | none =>
      have asleep : t.isReady = false := by simpa [isReady, found] using stuck (.supervisor i)
      have runAsleep : t.isRunReady (.slot i) m.scene = false := by
        simpa [isReady, found] using stuck (.run i)
      refine Plan.Follows.time stays (steady i) later asleep runAsleep
        (prior.reachable.nobody_pending alive stuck found) fun a ha => alarms a ?_
      have member : t ∈ m.supervisors.toList := (Array.mem_of_getElem? found).val
      exact List.mem_append_right _ (List.mem_flatMap.mpr ⟨t, member, ha⟩)
    | some instant =>
      intro off
      obtain ⟨own, readings, faults, place⟩ := stays off
      exact ⟨own, readings, faults, place⟩

def receivedFrom (m : Simulation) (id : ProducerId) : List Reading :=
  (m.scene.taken .primary).filter fun r => r.producer = id

/-- When the aggregator has returned, it has received whatever was sent. -/
theorem Reachable.receivedFrom_eq (h : Reachable c e m) {n : AggregatorReport}
    (returned : m.aggregator.ending? = some (.returned n)) (id : ProducerId) :
    m.receivedFrom id = m.scene.sentBy id := by
  have all := h.booked.flows .primary
  have empty : (m.scene.queue .primary).buffer = [] := (h.drained.aggregator n returned).2.2
  rw [empty, List.append_nil] at all
  rw [receivedFrom, all, Scene.sentBy]

/-- After the cancellation the aggregator returns before time passes. -/
theorem Timed.aggregator_returned {instant : Nat} (h : Timed c e (some instant) m)
    (alive : ∀ k, m.aggregator.ending? ≠ some (.crashed k))
    (halted : machine.isIdle m = true ∨ instant < m.scene.now ∨ m.hasEnded = true) :
    ∃ n, m.aggregator.ending? = some (.returned n) := by
  have unstranded : ¬m.Stranded := fun ⟨⟨k, crashed⟩, _⟩ => alive k crashed
  have taken : m.coordinator.phase.hasAggregator = true := by
    rw [← Bool.not_eq_false]
    intro early
    rcases halted with idle | later | ended
    · exact unstranded (h.reachable.stranded_of_idle h.cancelled idle early)
    · rcases h.inTime.early instant rfl early with now | stranded
      · exact Nat.ne_of_gt later now
      · exact unstranded stranded
    · cases phase : m.coordinator.phase with
      | ended r => simp [phase, CoordinatorPhase.hasAggregator] at early
      | _ => simp [hasEnded, result?, phase] at ended
  obtain ⟨ending, ended⟩ := h.reachable.aggregator_ended taken
  cases ending with
  | returned n => exact ⟨n, ended⟩
  | crashed k => exact absurd ended (alive k)

/-- A slot that has closed reports what its course tells. -/
theorem Reachable.report_of_closes (h : Reachable c e m) (few : c.producers < UInt32.size) {k : Nat}
    (found : m.supervisors[i]? = some t) (closes : p.Closes k t m.scene) {s : SlotReport}
    (handed : t.handedIn? = some s) : s = p.report k := by
  have phase : t.phase = .ended (.returned (.ok s)) := by
    unfold Supervisor.handedIn? at handed
    split at handed
    · exact Supervisor.phase_of_report? handed
    · cases handed
  rcases closes.place with ⟨station, under, _⟩ | ⟨sent, ended⟩
  · simp [phase] at under
  · rw [phase] at ended
    injection ended with ended
    injection ended with ended
    injection ended with ended
    obtain ⟨_, _, same⟩ := (h.staffed.member i t found).1.report s phase
    have tally := h.booked.slots few i t.slot.id t.sent (tallies_found found)
    have count : sent = (p.course k).readings.length := by
      rw [← closes.readings, Scene.sentBy, ← List.countP_eq_length_filter, ← closes.own]
      rw [ended] at same
      exact same.trans tally
    rw [ended, count, Plan.report]

theorem Reckoned.slots_eq {report : SimReport} (h : Reckoned m report) (booked : Booked c m)
    (few : c.producers < UInt32.size) {slot : Nat → SlotReport}
    (own : ∀ i, (slot i).producer = idAt i)
    (member : ∀ s ∈ report.producers.toList, ∃ i < c.producers, s = slot i) :
    report.producers.toList = (List.range c.producers).map slot := by
  have ids := h.ids booked few
  have size := congrArg List.length ids
  rw [List.length_map, List.length_range'] at size
  refine List.ext_getElem (by simpa using size) fun j inside _ => ?_
  obtain ⟨i, hi, same⟩ := member _ (List.getElem_mem inside)
  have number : ((report.producers.toList[j]).producer).toNat = j + 1 := by
    have at_j := congrArg (fun l => l[j]?) ids
    rw [List.getElem?_map, List.getElem?_eq_getElem inside, List.getElem?_range' (size ▸ inside)]
      at at_j
    simp only [Option.map_some, Option.some.injEq] at at_j
    omega
  rw [same, own, toNat_idAt few hi, Nat.add_right_cancel_iff] at number
  rw [same, number, List.getElem_map, List.getElem_range]

/-- A run at the pace of the clock that plays scripts, whose ticks are whole milliseconds apart, and
that is cancelled between two ticks, while the aggregator does not crash. When the aggregator has
returned, it has received from each producer the readings that the course of its slot tells, up to
the last tick before the cancellation; and it has returned before time goes on. A run that has ended
has done so well, and reports of each slot what the course tells. Neither the order of the tasks nor
the capacities nor the publish path matter, nor what becomes of the other slots. -/
theorem Timed.on_course {instant n ms : Nat} (h : Timed c e (some instant) m)
    (ids : c.lastId = .ok n) (plays : e.Plays draws shown) (pos : 1 ≤ ms)
    (whole : c.interval = Duration.ofMillis ms) (between : ¬c.interval ∣ instant)
    (alive : ∀ k, m.aggregator.ending? ≠ some (.crashed k)) :
    (∀ counts, m.aggregator.ending? = some (.returned counts) → ∀ i < c.producers,
      m.receivedFrom (idAt i) =
        ((planAt c draws shown i).course (instant / c.interval)).readings) ∧
    (machine.isIdle m = true ∨ instant < m.scene.now ∨ m.hasEnded = true →
      ∃ counts, m.aggregator.ending? = some (.returned counts)) ∧
    ∀ r, m.coordinator.phase = .ended r → ∃ report, r = .ok report ∧
      report.producers.toList = (List.range c.producers).map fun i =>
        (planAt c draws shown i).report (instant / c.interval) := by
  have few := few_of_lastId ids
  have reachable := h.reachable
  have apart : 0 < c.interval := by
    rw [whole, Duration.ofMillis]
    omega
  have closes {i : Nat} {t : Supervisor} (found : m.supervisors[i]? = some t) :
      (planAt c draws shown i).Closes (instant / c.interval) t m.scene :=
    h.stays few plays apart ⟨ms, by rw [whole, Duration.ofMillis, Nat.mul_comm]⟩ alive found between
  refine ⟨fun counts returned i inside => ?_, h.aggregator_returned alive, fun r phase => ?_⟩
  · rw [← reachable.staffed.size] at inside
    rw [reachable.receivedFrom_eq returned]
    exact (closes (Array.getElem?_eq_getElem inside)).readings
  · have past : m.coordinator.phase.isPast = true := by rw [phase]; rfl
    cases r with
    | error failed =>
      rcases reachable.taskCrashed (reachable.blames.result failed phase) with
        ⟨i, t, k, found, crashed⟩ | ⟨k, crashed⟩
      · rcases (closes found).place with ⟨station, under, _⟩ | ⟨sent, ended⟩
        · simp [crashed] at under
        · simp [crashed] at ended
      · exact absurd crashed (alive k)
    | ok report =>
      refine ⟨report, rfl, (reachable.reckoned phase).slots_eq reachable.booked few
        (fun _ => rfl) fun s hs => ?_⟩
      obtain ⟨t, ht, handed⟩ := List.mem_filterMap.mp
        ((reachable.reported_perm phase).mem_iff.mp hs)
      obtain ⟨i, hi⟩ := List.getElem?_of_mem ht
      have found : m.supervisors[i]? = some t := by simpa using hi
      refine ⟨i, ?_, reachable.report_of_closes few found (closes found) handed⟩
      rw [← reachable.staffed.size]
      exact (Array.getElem?_eq_some_iff.mp found).1

/-- Two producers and room for one reading. The first source of the first producer crashes at its
second draw, and the run is cancelled between the third tick and the fourth. -/
theorem on_course_past_a_fault :
    ∃ (c : Config) (e : Equipment) (m : Simulation) (report : SimReport)
      (draws : ProducerId → Nat → Source) (shown : Nat → WallTime),
      Timed c e (some 35000000) m ∧ c.lastId = .ok 2 ∧ e.Plays draws shown ∧
      c.interval = Duration.ofMillis 10 ∧ (¬c.interval ∣ 35000000) ∧
      (∀ k, m.aggregator.ending? ≠ some (.crashed k)) ∧
      (m.receivedFrom 1).map Reading.capturedAt = [⟨10000000, 0⟩, ⟨30000000, 0⟩] ∧
      m.coordinator.phase = .ended (.ok report) ∧
      report.producers.toList.map SlotReport.sent = [2, 3] ∧
      report.producers.toList.map SlotReport.restarts = [1, 0] := by
  let c : Config := { producers := 2, capacity := 1, interval := Duration.ofMillis 10 }
  let draws (id : ProducerId) (nth : Nat) : Source := fun drawn =>
    if id = 1 ∧ nth = 0 ∧ drawn = 1 then .crash .other else .value default
  let shown (t : Nat) : WallTime := ⟨t, 0⟩
  let e : Equipment :=
    { clock := fun _ now => shown now, sources := fun id nth _ => .source (draws id nth) }
  let cues : List Cue := [.event .aggregator, .event .aggregator, .event (.supervisor 0),
    .event (.supervisor 1), .event (.run 0), .event (.run 1),
    .time 10000000, .event (.run 0), .event (.run 1), .event .aggregator, .event (.run 1),
    .event .aggregator, .event .aggregator,
    .time 20000000, .event (.run 0), .event (.supervisor 0), .event (.run 0), .event (.run 1),
    .event .aggregator, .event .aggregator,
    .time 30000000, .event (.run 1), .event (.run 0), .event .aggregator, .event (.run 0),
    .event .aggregator, .event .aggregator,
    .time 35000000, .outside .cancel, .event (.shutdown .cancellation), .event (.run 0),
    .event (.run 1), .event (.supervisor 0), .event (.supervisor 1), .event (.join 0),
    .event (.join 1), .event .coordinator, .event .aggregator, .event .aggregator,
    .event .coordinator]
  let hasReturned (since : Option Nat) (m : Simulation) : Bool :=
    decide (since = some 35000000) &&
      decide (m.aggregator.ending? = some (.returned { received := 5 })) && m.hasEnded
  obtain ⟨since, m, timed, stopped⟩ : ∃ since m, Timed c e since m ∧ hasReturned since m = true :=
    exists_timed cues (by decide)
  simp only [hasReturned, Bool.and_eq_true, decide_eq_true_eq] at stopped
  obtain ⟨⟨rfl, returned⟩, ended⟩ := stopped
  have plays : e.Plays draws shown :=
    ⟨fun _ _ _ => rfl, fun _ _ => rfl, fun t t' later => by simp [shown, WallTime.isBefore, later]⟩
  have alive (k : Crash) : m.aggregator.ending? ≠ some (.crashed k) := by simp [returned]
  have between : ¬c.interval ∣ 35000000 := by decide
  have whole : c.interval = Duration.ofMillis 10 := rfl
  have ids : c.lastId = .ok 2 := rfl
  obtain ⟨received, _, reports⟩ := timed.on_course ids plays (by decide) whole between alive
  cases phase : m.coordinator.phase with
  | ended r =>
    obtain ⟨report, rfl, slots⟩ := reports r phase
    refine ⟨c, e, m, report, draws, shown, timed, ids, plays, whole, between, alive, ?_, phase, ?_,
      ?_⟩
    · rw [show (1 : ProducerId) = idAt 0 from rfl, received _ returned 0 (by decide)]
      decide
    · rw [slots]
      decide
    · rw [slots]
      decide
  | _ => simp [hasEnded, result?, phase] at ended

end Course
end Simulation
end SensorFleet
