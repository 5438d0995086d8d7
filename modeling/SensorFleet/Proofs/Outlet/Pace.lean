import SensorFleet.Proofs.Fleet.DrainLimit
import SensorFleet.Proofs.Outlet.Execution

/-!
A publisher alone at the pace of the clock. Its deadline is set at the instant at which it is found
cancelled, and it goes on no longer than that; a publish in flight is no later than its answer, its
timeout and the deadline.
-/
namespace SensorFleet

theorem Instant.hasRung_some {a now : Nat} : hasRung (some a) now = true ↔ ring a ≤ now := by
  rw [hasRung, Option.any_some]
  exact isDue_iff

namespace Instant

/-- When a grace is over that began at an instant: at once if it is zero, and otherwise with the
first whole millisecond at which it has passed. -/
def graceEnd (begun grace : Nat) : Nat := if grace = 0 then begun else ring (begun + grace)

theorem le_graceEnd (begun grace : Nat) : begun ≤ graceEnd begun grace := by
  unfold graceEnd
  split
  · exact Nat.le_refl begun
  · exact (Nat.le_add_right begun grace).trans (le_ring _)

theorem graceEnd_of_graceEnd? {begun grace D : Nat} (h : graceEnd? begun grace = some D) :
    graceEnd begun grace = D := by
  rcases graceEnd?_cases h with ⟨rfl, rfl⟩ | ⟨grace, rfl⟩
  · exact if_pos rfl
  · exact if_neg grace

theorem limit_le_graceEnd {begun grace : Nat} (h : graceEnd? begun grace = none) :
    limit ≤ graceEnd begun grace := by
  cases grace with
  | zero => cases h
  | succ n =>
    rw [graceEnd, if_neg n.succ_ne_zero]
    exact (limit_le_of_graceEnd? h).trans (le_ring _)

end Instant

namespace Publisher

theorem atHand?_eq_aloft (p : Publisher) : p.atHand? = p.aloft?.map Flight.reading := by
  unfold atHand? aloft?
  cases p.phase <;> rfl

theorem aloft?_of_ending {p : Publisher} {e : Ending PublisherReport} (h : p.ending? = some e) :
    p.aloft? = none := by
  have hand := atHand?_of_ending h
  rwa [atHand?_eq_aloft, Option.map_eq_none_iff] at hand

theorem phase_of_aloft {p : Publisher} {f : Flight} (h : p.aloft? = some f) :
    ∃ ticker, p.phase = .publishing ticker f.reading f.pending f.started f.timeout := by
  unfold aloft? at h
  split at h
  next ticker r pending started timeout phase =>
    obtain rfl := Option.some.inj h
    exact ⟨ticker, phase⟩
  next => cases h

/-- The publisher goes on when the answer is due or the timeout is over. -/
theorem isReady_of_aloft {p : Publisher} {s : Scene} {f : Flight} (flying : p.aloft? = some f)
    (rung : (∃ a, f.pending.alarm = some a ∧ Instant.ring a ≤ s.now) ∨
      ∃ a, f.timeout = some a ∧ Instant.ring a ≤ s.now) : p.isReady s = true := by
  obtain ⟨ticker, phase⟩ := phase_of_aloft flying
  have heard {alarm : Option Nat} (h : ∃ a, alarm = some a ∧ Instant.ring a ≤ s.now) :
      Instant.hasRung alarm s.now = true := by
    obtain ⟨a, rfl, rung⟩ := h
    exact Instant.hasRung_some.mpr rung
  simp only [isReady, phase, Bool.or_eq_true]
  exact .inl (.inl (rung.imp heard heard))

theorem mem_alarms_of_aloft {p : Publisher} {f : Flight} (flying : p.aloft? = some f) {a : Nat}
    (waits : f.pending.alarm = some a ∨ f.timeout = some a) : a ∈ p.alarms := by
  obtain ⟨ticker, phase⟩ := phase_of_aloft flying
  simp only [alarms, phase, List.mem_append, Option.mem_toList]
  exact .inl waits

structure Flight.Airborne (f : Flight) (limit now : Nat) : Prop where
  calm : f.pending.remainder.Calm
  started : f.started ≤ now
  timeout : f.timeout = Instant.after? f.started limit
  inTime : now ≤ Instant.ring (f.started + limit)
  unanswered : ∀ a, f.pending.alarm = some a → now ≤ Instant.ring a

theorem deadlineInstant?_of_set {p : Publisher} {passes : Option Nat}
    (set : p.deadline = .set passes) (going : p.abandoned = false) :
    p.deadlineInstant? = passes := by
  simp [deadlineInstant?, set, going]

theorem isReady_of_deadlinePassed {p : Publisher} {s : Scene} (live : p.ending? = none)
    (passed : p.deadlinePassed s = true) : p.isReady s = true := by
  unfold isReady
  cases phase : p.phase with
  | created => rfl
  | waiting ticker parked | publishing ticker r pending started timeout => simp [passed]
  | ended e => simp [ending?, phase] at live

theorem mem_alarms_of_deadline {p : Publisher} {s : Scene} (live : p.ending? = none)
    (idle : p.isReady s = false) {a : Nat} (set : p.deadlineInstant? = some a) : a ∈ p.alarms := by
  unfold alarms
  cases phase : p.phase with
  | created => simp [isReady, phase] at idle
  | waiting ticker parked | publishing ticker r pending started timeout => simp [set]
  | ended e => simp [ending?, phase] at live

section Acts
variable {p p' : Publisher} {s s' : Scene}

theorem Acts.settings (h : p.Acts s p' s') : p.SameSettings p' := by
  cases h with
  | fails c created ended scene report settings same => exact settings
  | rests what observed remarks quiet yields => exact yields.settings
  | sees seen yields => exact yields.settings
  | givesUp n passed grounded yields => exact yields.settings
  | declines r outcome grounded why yields => exact yields.settings
  | asks r a b outcome grounded going started given yields => exact yields.settings
  | begins r pending b grounded going started yields => exact yields.settings
  | lands f outcome latency notices b flying landed yields => exact yields.settings

/-- The deadline is set, or it is left alone; the publisher gives up when it has passed. -/
theorem Acts.deadline (h : p.Acts s p' s') :
    p'.deadline = p.deadline ∧ (p'.abandoned = p.abandoned ∨
      p.deadlinePassed s = true ∧ p'.abandoned = true) ∨
    p.seesCancellation s = true ∧ p'.abandoned = p.abandoned ∧
      p'.deadline = .set (p.drainTimeout.bind (Instant.graceEnd? s.now)) := by
  have left (same : p.SameDeadline p') :
      p'.deadline = p.deadline ∧ (p'.abandoned = p.abandoned ∨
        p.deadlinePassed s = true ∧ p'.abandoned = true) := ⟨same.1, .inl same.2⟩
  cases h with
  | fails c created ended scene report settings same => exact .inl (left same)
  | rests what observed remarks quiet yields same => exact .inl (left same)
  | sees seen yields deadline abandoned => exact .inr ⟨seen, abandoned, deadline⟩
  | givesUp n passed grounded yields deadline abandoned =>
    exact .inl ⟨deadline, .inr ⟨passed, abandoned⟩⟩
  | declines r outcome grounded why yields same => exact .inl (left same)
  | asks r a b outcome grounded going started given yields same => exact .inl (left same)
  | begins r pending b grounded going started yields same => exact .inl (left same)
  | lands f outcome latency notices b flying landed yields deadline abandoned =>
    refine .inl ⟨deadline, ?_⟩
    cases landed with
    | answered rung given => exact .inl (abandoned.trans (if_neg (outcome_ne_dropped given)))
    | timedOut silent rung => exact .inl (abandoned.trans (if_neg nofun))
    | cutOff silent early passed => exact .inr ⟨passed, abandoned.trans (if_pos rfl)⟩

/-- Who gives up does so for good. -/
theorem Acts.going (h : p.Acts s p' s') (kept : p'.abandoned = false) : p.abandoned = false := by
  rcases h.deadline with ⟨_, same | ⟨_, gave⟩⟩ | ⟨_, same, _⟩
  · exact same.symm.trans kept
  · simp [gave] at kept
  · exact same.symm.trans kept

/-- What is in flight was in flight before, or was begun right now. -/
theorem Acts.aloft (h : p.Acts s p' s') {f : Flight} (flying : p'.aloft? = some f) :
    (p.aloft? = some f ∧ (p'.abandoned = p.abandoned)) ∨
    p.abandoned = false ∧ p'.abandoned = p.abandoned ∧
      (∃ b, s.broker.start s.now (f.reading.message p.subjectRoot) = (.waiting f.pending, b)) ∧
      f.started = s.now ∧ f.timeout = Instant.after? s.now p.publishTimeout := by
  cases h with
  | fails c created ended scene report settings same =>
    rw [aloft?_of_ending ended] at flying
    cases flying
  | rests what observed remarks quiet yields same =>
    exact .inl ⟨yields.aloft.symm.trans flying, same.2⟩
  | sees seen yields deadline abandoned =>
    exact .inl ⟨yields.aloft.symm.trans flying, abandoned⟩
  | givesUp n passed grounded yields =>
    rw [yields.aloft] at flying
    cases flying
  | declines r outcome grounded why yields =>
    rw [yields.aloft] at flying
    cases flying
  | asks r a b outcome grounded going started given yields =>
    rw [yields.aloft] at flying
    cases flying
  | begins r pending b grounded going started yields same =>
    rw [yields.aloft, Option.some.injEq] at flying
    subst flying
    exact .inr ⟨going, same.2, ⟨b, started⟩, rfl, rfl⟩
  | lands f' outcome latency notices b flying' landed yields =>
    rw [yields.aloft] at flying
    cases flying

end Acts
end Publisher

namespace Outlet

/-- When the drain timeout is over. -/
def deadline? (o : Outlet) : Option Nat :=
  o.since.bind fun c => o.publisher.drainTimeout.map (Instant.graceEnd c)

def InTime (o : Outlet) (t : Nat) : Prop := ∀ D, o.deadline? = some D → t ≤ D

theorem deadline?_eq_some {o : Outlet} {D : Nat} : o.deadline? = some D ↔
    ∃ c d, o.since = some c ∧ o.publisher.drainTimeout = some d ∧ Instant.graceEnd c d = D := by
  simp only [deadline?, Option.bind_eq_some_iff, Option.map_eq_some_iff]
  constructor
  · rintro ⟨c, hc, d, hd, rfl⟩
    exact ⟨c, d, hc, hd, rfl⟩
  · rintro ⟨c, d, hc, hd, rfl⟩
    exact ⟨c, hc, d, hd, rfl⟩

structure Paced (o : Outlet) : Prop where
  stage : o.publisher.stage = .fanout
  calm : o.scene.broker.kind.Calm
  early : o.scene.now < Instant.limit
  cancelled : o.scene.cancelled = o.since.isSome
  since : ∀ c, o.since = some c → c ≤ o.scene.now
  deadline : (∃ c, o.since = some c ∧
      o.publisher.deadline = .set (o.publisher.drainTimeout.bind (Instant.graceEnd? c))) ∨
    o.publisher.deadline = .unset ∧ o.publisher.abandoned = false ∧
      ∀ c, o.since = some c → o.publisher.ending? = none → o.scene.now = c
  given : o.publisher.abandoned = true → ∃ D, o.deadline? = some D
  timely : o.publisher.abandoned = false → o.publisher.ending? = none → o.InTime o.scene.now
  flight : ∀ f, o.publisher.aloft? = some f → o.publisher.abandoned = false ∧
    f.Airborne o.publisher.publishTimeout o.scene.now

theorem Fresh.paced {o : Outlet} (h : o.Fresh) : o.Paced := by
  have known (c : Nat) (hc : o.since = some c) : o.scene.now = c := by
    rw [h.since, Option.ite_none_right_eq_some, Option.some.injEq] at hc
    exact hc.2
  refine ⟨h.stage, h.calm, h.early, ?_, fun c hc => (known c hc).ge, ?_, ?_, fun _ _ D hD => ?_, ?_⟩
  · rw [h.since]
    cases o.scene.cancelled <;> rfl
  · exact .inr ⟨h.deadline, h.going, fun c hc _ => known c hc⟩
  · simp [h.going]
  · obtain ⟨c, d, hc, _, rfl⟩ := deadline?_eq_some.mp hD
    exact known c hc ▸ Instant.le_graceEnd c d
  · simp [Publisher.aloft?, h.created]

namespace Paced
variable {o : Outlet}

/-- A deadline that the publisher finds passed has come. -/
theorem passed (h : o.Paced) (passed : o.publisher.deadlinePassed o.scene = true) :
    o.publisher.abandoned = false ∧ ∃ D, o.deadline? = some D ∧ D ≤ o.scene.now := by
  rcases h.deadline with ⟨c, hc, set⟩ | ⟨unset, _⟩
  · simp only [Publisher.deadlinePassed, Publisher.deadlineInstant?, set] at passed
    split at passed
    · cases passed
    next going =>
      rw [Bool.not_eq_true] at going
      obtain ⟨D, hD, due⟩ := (Option.any_eq_true _ _).mp passed
      obtain ⟨d, hd, ends⟩ := Option.bind_eq_some_iff.mp hD
      have known := deadline?_eq_some.mpr ⟨c, d, hc, hd, Instant.graceEnd_of_graceEnd? ends⟩
      exact ⟨going, D, known, of_decide_eq_true due⟩
  · rw [Publisher.deadlinePassed_of_unset unset] at passed
    cases passed

theorem acts (h : o.Paced) (ready : o.publisher.isReady o.scene = true) :
    o.publisher.Acts o.scene (o.publisher.step o.scene).1 (o.publisher.step o.scene).2 :=
  Publisher.step_acts h.calm h.stage (fun f flying => (h.flight f flying).2.calm)
    (Publisher.live_of_isReady ready)

theorem kind_of_acts {p p' : Publisher} {s s' : Scene} (h : p.Acts s p' s') :
    s'.broker.kind = s.broker.kind := by
  cases h with
  | fails c created ended scene => rw [scene]
  | rests what observed remarks quiet yields => rw [yields.broker]
  | sees seen yields => rw [yields.broker]
  | givesUp n passed grounded yields => rw [yields.broker]
  | declines r outcome grounded why yields => rw [yields.broker]
  | asks r a b outcome grounded going started given yields =>
    rw [yields.broker, ← Broker.start_kind s.broker s.now (r.message p.subjectRoot), started]
  | begins r pending b grounded going started yields =>
    rw [yields.broker, ← Broker.start_kind s.broker s.now (r.message p.subjectRoot), started]
  | lands f outcome latency notices b flying landed yields =>
    rw [yields.broker]
    cases landed with
    | answered rung given => exact Broker.finish_kind _ _
    | timedOut silent rung | cutOff silent early passed => rfl

theorem frame_of_acts {p p' : Publisher} {s s' : Scene} (h : p.Acts s p' s') :
    s'.now = s.now ∧ s'.cancelled = s.cancelled ∧ s'.counts = s.counts := by
  have told {what : List Happening} {observed : List Observation}
      (tells : s.Tells what observed s') :
      s'.now = s.now ∧ s'.cancelled = s.cancelled ∧ s'.counts = s.counts :=
    ⟨tells.now, tells.cancelled, tells.counts⟩
  cases h with
  | fails c created ended scene => exact scene ▸ ⟨rfl, rfl, rfl⟩
  | rests what observed remarks quiet yields => exact told yields.tells
  | sees seen yields => exact told yields.tells
  | givesUp n passed grounded yields => exact told yields.tells
  | declines r outcome grounded why yields => exact told yields.tells
  | asks r a b outcome grounded going started given yields => exact told yields.tells
  | begins r pending b grounded going started yields => exact told yields.tells
  | lands f outcome latency notices b flying landed yields => exact told yields.tells

theorem publisher (h : o.Paced) (ready : o.publisher.isReady o.scene = true) :
    Paced { o with
      publisher := (o.publisher.step o.scene).1
      scene := (o.publisher.step o.scene).2 } := by
  have live := Publisher.live_of_isReady ready
  have acts := h.acts ready
  have settings := acts.settings
  have deadline := acts.deadline
  have aloft := @acts.aloft
  have going := acts.going
  have kind := kind_of_acts acts
  obtain ⟨now, cancelled, _⟩ := frame_of_acts acts
  generalize o.publisher.step o.scene = after at *
  obtain ⟨p', s'⟩ := after
  dsimp only at *
  have due : ({ o with publisher := p', scene := s' } : Outlet).deadline? = o.deadline? := by
    simp only [deadline?, settings.drainTimeout]
  refine ⟨settings.stage.trans h.stage, kind ▸ h.calm, now ▸ h.early, cancelled ▸ h.cancelled,
    now ▸ h.since, ?_, fun gave => ?_, fun kept _ D hD => ?_, fun f flying => ?_⟩
  · dsimp only
    rw [settings.drainTimeout, now]
    rcases deadline with ⟨same, abandoned⟩ | ⟨seen, kept, set⟩
    · rcases h.deadline with ⟨c, hc, before⟩ | ⟨unset, before, prompt⟩
      · exact .inl ⟨c, hc, same.trans before⟩
      · refine .inr ⟨same.trans unset, ?_, fun c hc _ => prompt c hc live⟩
        rcases abandoned with kept | ⟨passed, _⟩
        · exact kept.trans before
        · rw [Publisher.deadlinePassed_of_unset unset] at passed
          cases passed
    · simp only [Publisher.seesCancellation, Bool.and_eq_true, decide_eq_true_eq] at seen
      obtain ⟨c, hc⟩ := Option.isSome_iff_exists.mp (h.cancelled.symm.trans seen.1.1)
      rcases h.deadline with ⟨_, _, before⟩ | ⟨_, _, prompt⟩
      · simp [seen.2] at before
      · exact .inl ⟨c, hc, prompt c hc live ▸ set⟩
  · rw [due]
    rcases deadline with ⟨_, same | ⟨passed, _⟩⟩ | ⟨_, same, _⟩
    · exact h.given (same.symm.trans gave)
    · obtain ⟨_, D, hD, _⟩ := h.passed passed
      exact ⟨D, hD⟩
    · exact h.given (same.symm.trans gave)
  · rw [due] at hD
    exact now ▸ h.timely (going kept) live D hD
  · dsimp only at flying ⊢
    rw [settings.publishTimeout, now]
    rcases aloft flying with ⟨before, same⟩ | ⟨kept, same, ⟨b, started⟩, instant, timeout⟩
    · exact ⟨same.trans (h.flight f before).1, (h.flight f before).2⟩
    · refine ⟨same.trans kept, ?_, instant.le, timeout.trans (instant ▸ rfl), ?_, fun a ha => ?_⟩
      · have calm := Broker.start_calm h.calm o.scene.now
          (f.reading.message o.publisher.subjectRoot)
        rwa [started] at calm
      · rw [instant]
        exact Nat.le_trans (Nat.le_add_right _ _) (Instant.le_ring _)
      · obtain ⟨d, alarm⟩ := Broker.start_alarm started
        exact (Instant.le_of_after (alarm.symm.trans ha)).trans (Instant.le_ring a)

theorem visit (h : o.Paced) {s : Scene} (visited : Visited o.scene s) :
    Paced { o with scene := s } where
  stage := h.stage
  calm := visited.kind ▸ h.calm
  early := visited.now ▸ h.early
  cancelled := visited.cancelled.trans h.cancelled
  since := visited.now ▸ h.since
  deadline := visited.now ▸ h.deadline
  given := h.given
  timely := visited.now ▸ h.timely
  flight := visited.now ▸ h.flight

theorem cancel (h : o.Paced) : Paced { o with
    scene := { o.scene with cancelled := true }, since := o.since.or (some o.scene.now) } := by
  cases known : o.since with
  | some c =>
    have cancelled : o.scene.cancelled = true := by rw [h.cancelled, known]; rfl
    have same : ({ o with
        scene := { o.scene with cancelled := true }
        since := (some c).or (some o.scene.now) } : Outlet) = o := by
      obtain ⟨p, s, since⟩ := o
      obtain rfl : since = some c := known
      simp only [Option.some_or, Outlet.mk.injEq, true_and, and_true]
      rw [← cancelled]
    rw [same]
    exact h
  | none =>
    rw [Option.none_or]
    have deadline := h.deadline
    simp only [known, reduceCtorEq, false_and, exists_false, false_or] at deadline
    obtain ⟨unset, going, _⟩ := deadline
    refine ⟨h.stage, h.calm, h.early, rfl, fun c hc => (Option.some.inj hc).ge,
      .inr ⟨unset, going, fun c hc _ => Option.some.inj hc⟩, fun gave => ?_, fun _ _ D hD => ?_,
      h.flight⟩
    · simp [going] at gave
    · obtain ⟨c, d, hc, _, rfl⟩ := deadline?_eq_some.mp hD
      exact Option.some.inj hc ▸ Instant.le_graceEnd c d

/-- While the publisher waits, time passes no further than an alarm that it waits for. -/
theorem le_ring_of_idle {t a : Nat} (idle : o.publisher.isReady o.scene = false)
    (alarms : ∀ a ∈ o.publisher.alarms, Instant.ring a ≤ o.scene.now ∨ t ≤ Instant.ring a)
    (listed : a ∈ o.publisher.alarms)
    (heard : Instant.ring a ≤ o.scene.now → o.publisher.isReady o.scene = true) :
    t ≤ Instant.ring a :=
  (alarms a listed).resolve_left fun rung => by simp [heard rung] at idle

theorem time (h : o.Paced) {t : Nat} (idle : o.publisher.isReady o.scene = false)
    (later : o.scene.now ≤ t) (early : t < Instant.limit)
    (alarms : ∀ a ∈ o.publisher.alarms, Instant.ring a ≤ o.scene.now ∨ t ≤ Instant.ring a) :
    Paced { o with scene := { o.scene with now := t } } := by
  have set {c : Nat} (hc : o.since = some c) (live : o.publisher.ending? = none) :
      o.publisher.deadline = .set (o.publisher.drainTimeout.bind (Instant.graceEnd? c)) := by
    rcases h.deadline with ⟨c', hc', set⟩ | ⟨unset, going, _⟩
    · rw [hc, Option.some.injEq] at hc'
      exact hc' ▸ set
    · have cancelled : o.scene.cancelled = true := by rw [h.cancelled, hc]; rfl
      rw [Publisher.isReady_of_unset live cancelled unset going] at idle
      cases idle
  refine ⟨h.stage, h.calm, early, h.cancelled, fun c hc => (h.since c hc).trans later, ?_, h.given,
    fun going live D hD => ?_, fun f flying => ?_⟩
  · rcases h.deadline with kept | ⟨unset, going, _⟩
    · exact .inl kept
    · refine .inr ⟨unset, going, fun c hc live => ?_⟩
      have kept : o.publisher.deadline = _ := set hc live
      simp [unset] at kept
  · obtain ⟨c, d, hc, hd, rfl⟩ := deadline?_eq_some.mp hD
    have kept := set hc live
    rw [hd, Option.bind_some] at kept
    have passes := Publisher.deadlineInstant?_of_set kept going
    cases ends : Instant.graceEnd? c d with
    | none => exact (early.trans_le (Instant.limit_le_graceEnd ends)).le
    | some D =>
      rw [ends] at passes
      rw [Instant.graceEnd_of_graceEnd? ends]
      have ahead : o.scene.now < D := by
        refine Nat.lt_of_not_le fun due => ?_
        have passed : o.publisher.deadlinePassed o.scene = true := by
          rw [Publisher.deadlinePassed, passes]
          exact decide_eq_true due
        simp [Publisher.isReady_of_deadlinePassed live passed] at idle
      -- a grace of zero is over when it begins, so the deadline is the ring of an alarm
      rcases Instant.graceEnd?_cases ends with ⟨_, rfl⟩ | ⟨_, rfl⟩
      · exact absurd (h.since _ hc) (Nat.not_le_of_lt ahead)
      · have listed := alarms _ (Publisher.mem_alarms_of_deadline live idle passes)
        rw [Instant.ring_ring] at listed
        exact listed.resolve_left (Nat.not_le_of_lt ahead)
  · have flying : o.publisher.aloft? = some f := flying
    obtain ⟨going, airborne⟩ := h.flight f flying
    have inTime : t ≤ Instant.ring (f.started + o.publisher.publishTimeout) := by
      by_cases fits : f.started + o.publisher.publishTimeout < Instant.limit
      · have timeout : f.timeout = some (f.started + o.publisher.publishTimeout) :=
          airborne.timeout.trans (if_pos fits)
        exact le_ring_of_idle idle alarms (Publisher.mem_alarms_of_aloft flying (.inr timeout))
          fun rung => Publisher.isReady_of_aloft flying (.inr ⟨_, timeout, rung⟩)
      · have far : Instant.limit ≤ f.started + o.publisher.publishTimeout := Nat.le_of_not_lt fits
        exact Nat.le_trans (Nat.le_of_lt (Nat.lt_of_lt_of_le early far)) (Instant.le_ring _)
    have unanswered (a : Nat) (ha : f.pending.alarm = some a) : t ≤ Instant.ring a :=
      le_ring_of_idle idle alarms (Publisher.mem_alarms_of_aloft flying (.inl ha))
        fun rung => Publisher.isReady_of_aloft flying (.inl ⟨_, ha, rung⟩)
    exact ⟨going, airborne.calm, airborne.started.trans later, airborne.timeout, inTime, unanswered⟩

end Paced

theorem Reachable.paced {o : Outlet} (h : Reachable o) : o.Paced := by
  refine h.invariant (fun fresh => fresh.paced) fun _ turn hm => ?_
  cases turn with
  | publisher ready => exact hm.publisher ready
  | visit visited => exact hm.visit visited
  | cancel => exact hm.cancel
  | time idle later early alarms => exact hm.time idle later early alarms

end Outlet
end SensorFleet
