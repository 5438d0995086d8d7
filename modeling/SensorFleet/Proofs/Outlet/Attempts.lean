import SensorFleet.Proofs.Outlet.Trace

/-!
What decides a publish. It is settled at the instant at which the answer of the broker is due, its
timeout is over or the deadline comes, whichever is first; of those that fall on one instant the
answer goes before the timeout and the timeout before the deadline. A reading is handed to the
broker at most once, and its outcome is counted once.
-/
namespace SensorFleet

namespace Broker.Start

def answer (b : Broker) : Start → Answer
  | .done a => a
  | .waiting pending => (b.finish pending.remainder).1

end Broker.Start

/-- The verdict on a publish, by when it was begun, when its answer is due, how long it may take and
when the deadline is: at which instant it falls, the outcome, and the latency that is observed. -/
inductive Verdict (begun : Nat) (due : Option Nat) (limit : Nat) (deadline : Option Nat)
    (answer : Answer) : Nat → PublishOutcome → Option Nat → Prop
  | answered {a : Nat} {outcome : PublishOutcome} (rung : due = some a)
      (inTime : a ≤ Instant.ring (begun + limit)) (before : ∀ D, deadline = some D → a ≤ D)
      (given : answer.outcome? = some outcome) :
      Verdict begun due limit deadline answer a outcome (some (a - begun))
  | timedOut (silent : ∀ a, due = some a → Instant.ring (begun + limit) < a)
      (before : ∀ D, deadline = some D → Instant.ring (begun + limit) ≤ D) :
      Verdict begun due limit deadline answer (Instant.ring (begun + limit))
        (.failed (.timeout limit)) (some (Instant.ring (begun + limit) - begun))
  | dropped {D : Nat} (set : deadline = some D) (silent : ∀ a, due = some a → D < a)
      (early : D < Instant.ring (begun + limit)) :
      Verdict begun due limit deadline answer D .dropped none

/-- A deadline that is set later does not change the verdict. -/
theorem Verdict.congr {begun limit t : Nat} {due deadline deadline' : Option Nat} {answer : Answer}
    {outcome : PublishOutcome} {latency : Option Nat}
    (h : Verdict begun due limit deadline answer t outcome latency)
    (later : deadline' = deadline ∨ deadline = none ∧ ∀ D, deadline' = some D → t ≤ D) :
    Verdict begun due limit deadline' answer t outcome latency := by
  rcases later with rfl | ⟨rfl, after⟩
  · exact h
  · cases h with
    | answered rung inTime before given => exact .answered rung inTime after given
    | timedOut silent before => exact .timedOut silent after
    | dropped set silent early => cases set

def Dealing.begun? : Dealing → Option Reading
  | .begun r => some r
  | _ => none

def Scene.calls (s : Scene) : List Reading := s.dealings.filterMap Dealing.begun?

namespace Outlet

structure Later (o o' : Outlet) : Prop where
  now : o.scene.now ≤ o'.scene.now
  limit : o'.publisher.publishTimeout = o.publisher.publishTimeout
  deadline : o'.deadline? = o.deadline? ∨ o.deadline? = none ∧ o'.InTime o.scene.now

namespace Later
variable {o o₁ o₂ : Outlet}

theorem refl (o : Outlet) : o.Later o := ⟨Nat.le_refl _, rfl, .inl rfl⟩

theorem trans (h : o.Later o₁) (h' : o₁.Later o₂) : o.Later o₂ := by
  refine ⟨h.now.trans h'.now, h'.limit.trans h.limit, ?_⟩
  rcases h.deadline with same | ⟨unset, inTime⟩ <;>
    rcases h'.deadline with same' | ⟨unset', inTime'⟩
  · exact .inl (same'.trans same)
  · exact .inr ⟨same.symm.trans unset', fun D hD => h.now.trans (inTime' D hD)⟩
  · exact .inr ⟨unset, fun D hD => inTime D (same'.symm.trans hD)⟩
  · exact .inr ⟨unset, fun D hD => h.now.trans (inTime' D hD)⟩

end Later

structure Settles (o o' : Outlet) (r : Reading) (outcome : PublishOutcome) (latency : Option Nat) :
    Prop where
  fates : o'.scene.fates = o.scene.fates ++ [(r, outcome)]
  report : o'.publisher.report = o.publisher.report.add outcome
  metrics : o.scene.counts = true → o'.scene.metrics =
    (Publisher.observations r latency outcome).foldl Metrics.note o.scene.metrics

structure Flies (o o' : Outlet) (f : Publisher.Flight) : Prop where
  aloft : o'.publisher.aloft? = some f
  fates : o'.scene.fates = o.scene.fates
  report : o'.publisher.report = o.publisher.report

/-- The verdict on a publish in flight, when the publisher settles it. -/
theorem Paced.verdict {o : Outlet} (h : o.Paced) {f : Publisher.Flight}
    (flying : o.publisher.aloft? = some f) {outcome : PublishOutcome} {latency : Option Nat}
    {notices : List Happening} {b : Broker}
    (landed : o.publisher.Lands o.scene f outcome latency notices b) :
    Verdict f.started (f.pending.alarm.map Instant.ring) o.publisher.publishTimeout o.deadline?
      (o.scene.broker.finish f.pending.remainder).1 o.scene.now outcome latency := by
  obtain ⟨going, airborne⟩ := h.flight f flying
  obtain ⟨ticker, phase⟩ := Publisher.phase_of_aloft flying
  have inTime : o.InTime o.scene.now := h.timely going (by simp [Publisher.ending?, phase])
  have early (silent : Instant.hasRung f.pending.alarm o.scene.now = false) (a : Nat)
      (due : f.pending.alarm.map Instant.ring = some a) : o.scene.now < a := by
    obtain ⟨alarm, set, rfl⟩ := Option.map_eq_some_iff.mp due
    rw [set] at silent
    exact Instant.lt_ring_of_not_hasRung silent
  have timeout := airborne.timeout
  rw [Instant.after?] at timeout
  cases landed with
  | answered rung given =>
    obtain ⟨a, set⟩ : ∃ a, f.pending.alarm = some a :=
      Option.isSome_iff_exists.mp (Option.isSome_of_any rung)
    rw [set] at rung
    have due := Nat.le_antisymm (Instant.hasRung_some.mp rung) (airborne.unanswered a set)
    exact .answered (by rw [set, Option.map_some, due]) airborne.inTime inTime given
  | timedOut silent rung =>
    split at timeout
    · rw [timeout] at rung
      have elapsed := Nat.le_antisymm airborne.inTime (Instant.hasRung_some.mp rung)
      rw [elapsed]
      exact .timedOut (elapsed ▸ early silent) (elapsed ▸ inTime)
    · simp [timeout, Instant.hasRung] at rung
  | cutOff silent unexpired passed =>
    obtain ⟨_, D, set, due⟩ := h.passed passed
    obtain rfl := Nat.le_antisymm due (inTime D set)
    refine .dropped set (early silent) ?_
    split at timeout
    · rw [timeout] at unexpired
      exact Instant.lt_ring_of_not_hasRung unexpired
    next far =>
      exact Nat.lt_of_lt_of_le h.early ((Nat.le_of_not_lt far).trans (Instant.le_ring _))

/-- A publish in flight flies on until its verdict. -/
theorem Paced.flies {o o' : Outlet} (h : o.Paced) (turn : Turn o o') {f : Publisher.Flight}
    (flying : o.publisher.aloft? = some f) : Flies o o' f ∨ ∃ outcome latency,
      Settles o o' f.reading outcome latency ∧
      Verdict f.started (f.pending.alarm.map Instant.ring) o.publisher.publishTimeout o.deadline?
        (o.scene.broker.finish f.pending.remainder).1 o.scene.now outcome latency := by
  have flies {p : Publisher} {s : Scene} (aloft : p.aloft? = some f)
      (dealings : s.dealings = o.scene.dealings) (report : p.report = o.publisher.report) :
      Flies o { o with publisher := p, scene := s } f :=
    ⟨aloft, congrArg (List.filterMap _) dealings, report⟩
  cases turn with
  | publisher ready =>
    have verdict {outcome : PublishOutcome} {latency : Option Nat} {notices : List Happening}
        {b : Broker} := @Paced.verdict o h f flying outcome latency notices b
    have acts := h.acts ready
    generalize o.publisher.step o.scene = after at *
    obtain ⟨p', s'⟩ := after
    dsimp only at *
    cases acts with
    | fails c created => simp [Publisher.aloft?, created] at flying
    | rests what observed remarks quiet yields same =>
      refine .inl (flies (yields.aloft.trans flying) ?_ yields.report)
      rw [yields.tells.dealings, dealings_remarks remarks, List.append_nil]
    | sees seen yields deadline abandoned =>
      refine .inl (flies (yields.aloft.trans flying) ?_ yields.report)
      rw [yields.tells.dealings, List.filterMap_nil, List.append_nil]
    | givesUp n passed grounded => simp [grounded] at flying
    | declines r outcome grounded => simp [grounded] at flying
    | asks r a b outcome grounded => simp [grounded] at flying
    | begins r pending b grounded => simp [grounded] at flying
    | lands f' outcome latency notices b flying' landed yields deadline abandoned =>
      obtain rfl : f' = f := Option.some.inj (flying'.symm.trans flying)
      refine .inr ⟨outcome, latency, ⟨?_, yields.report, fun on => ?_⟩, verdict landed⟩
      · have silent : notices.filterMap Happening.dealing? = [] := by cases landed <;> rfl
        simp [Scene.fates, yields.tells.dealings, silent, Dealing.fate?]
      · exact yields.tells.metrics.trans (if_pos on)
  | visit visited => exact .inl (flies flying visited.dealings rfl)
  | cancel => exact .inl ⟨flying, rfl, rfl⟩
  | time idle later early alarms => exact .inl (flies flying rfl rfl)

structure Awaits (o o' : Outlet) (r : Reading) (begun : Nat) (due : Option Nat) : Prop where
  hand : o'.publisher.atHand? = some r
  fates : o'.scene.fates = o.scene.fates
  report : o'.publisher.report = o.publisher.report
  unanswered : ∀ a, due = some a → o'.scene.now ≤ a
  inTime : o'.scene.now ≤ Instant.ring (begun + o.publisher.publishTimeout)
  before : o'.InTime o'.scene.now

inductive Calls (o : Outlet) (r : Reading) (o' : Outlet) : Prop
  | asks (a : Answer) (b : Broker) (outcome : PublishOutcome) (started : o.scene.broker.start
        o.scene.now (r.message o.publisher.subjectRoot) = (.done a, b))
      (given : a.outcome? = some outcome) (settles : Settles o o' r outcome (some 0))
  | begins (pending : PendingPublish) (b : Broker) (started : o.scene.broker.start
        o.scene.now (r.message o.publisher.subjectRoot) = (.waiting pending, b))
      (timeout : Option Nat) (flies : Flies o o' ⟨r, pending, o.scene.now, timeout⟩)

theorem Paced.calls {o : Outlet} (h : o.Paced) (ready : o.publisher.isReady o.scene = true)
    {r : Reading} (called : (o.publisher.step o.scene).2.calls = o.scene.calls ++ [r]) :
    o.publisher.abandoned = false ∧ Calls o r { o with
      publisher := (o.publisher.step o.scene).1
      scene := (o.publisher.step o.scene).2 } := by
  have acts := h.acts ready
  generalize o.publisher.step o.scene = after at *
  obtain ⟨p', s'⟩ := after
  dsimp only at *
  have calls {what : List Happening} {observed : List Observation}
      (tells : o.scene.Tells what observed s') :
      (what.filterMap Happening.dealing?).filterMap Dealing.begun? = [r] := by
    rw [Scene.calls, tells.dealings, List.filterMap_append] at called
    exact List.append_cancel_left called
  cases acts with
  | fails c created ended scene =>
    rw [scene] at called
    exact absurd called.symm (by simp)
  | rests what observed remarks quiet yields same =>
    have unbegun := calls yields.tells
    rw [dealings_remarks remarks] at unbegun
    cases unbegun
  | sees seen yields => cases calls yields.tells
  | givesUp n passed grounded yields => cases calls yields.tells
  | declines r' outcome grounded why yields =>
    have unbegun := calls yields.tells
    simp [List.filterMap_cons, Happening.dealing?, Dealing.begun?] at unbegun
  | asks r' a b outcome grounded going started given yields =>
    obtain rfl : r' = r := by
      simpa [List.filterMap_cons, Happening.dealing?, Dealing.begun?] using calls yields.tells
    refine ⟨going, .asks a b outcome started given ⟨?_, yields.report, fun on => ?_⟩⟩
    · simp [Scene.fates, yields.tells.dealings, List.filterMap_cons, Happening.dealing?, Dealing.fate?]
    · exact yields.tells.metrics.trans (if_pos on)
  | begins r' pending b grounded going started yields =>
    obtain rfl : r' = r := List.head_eq_of_cons_eq (calls yields.tells)
    refine ⟨going, .begins pending b started _ ⟨yields.aloft, ?_, yields.report⟩⟩
    simp [Scene.fates, yields.tells.dealings, List.filterMap_cons, Happening.dealing?, Dealing.fate?]
  | lands f outcome latency notices b flying landed yields =>
    have unbegun := calls yields.tells
    have silent : notices.filterMap Happening.dealing? = [] := by cases landed <;> rfl
    rw [List.filterMap_append, silent, dealings_entries] at unbegun
    cases unbegun

end Outlet
end SensorFleet
