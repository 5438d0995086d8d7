import SensorFleet.Proofs.Intake.Tally

/-!
The cadence of an aggregator. Time does not pass a tick that rings, so each tick is taken at the very
instant at which it rings, which is less than a millisecond late, and none is ever skipped. So the
k-th summary is given at the first whole millisecond of k intervals after the start, whatever arrives
in between.
-/
namespace SensorFleet

section Ticks
variable {start interval k k' : Nat}

/-- When the k-th tick after a start rings. -/
def Instant.beat (start interval k : Nat) : Nat := ring (start + k * interval)

theorem Instant.beat_mono (le : k ≤ k') : beat start interval k ≤ beat start interval k' :=
  ring_mono (Nat.add_le_add_left (Nat.mul_le_mul_right interval le) start)

def Ticker.before (start interval k : Nat) : Ticker := ⟨start + k * interval, interval⟩

/-- A tick that is taken when it rings is not late enough for any to be skipped. -/
theorem Ticker.advance_at_beat (start interval k : Nat) :
    (before start interval k).advance (Instant.beat start interval k) =
      before start interval (k + 1) := by
  have soon := Instant.ring_lt (start + k * interval)
  have tolerance : Ticker.tolerance = 5000000 := rfl
  have early : ¬ start + k * interval + Ticker.tolerance < Instant.beat start interval k := by
    rw [Instant.beat, tolerance]
    omega
  have next : start + k * interval + interval = start + (k + 1) * interval := by
    rw [Nat.succ_mul, Nat.add_assoc]
  rw [Ticker.advance, before, if_neg early, next, before]

end Ticks

namespace Intake

/-- Up to when the aggregator was there: until it ended, or until now. -/
def horizon (o : Intake) : Nat :=
  match o.aggregator.phase with
  | .ended _ => o.aggregator.endedAt
  | _ => o.scene.now

def instants (o : Intake) : List Nat := (summaries o.scene.journal).map Summary.instant

section Horizon
variable {o : Intake}

theorem horizon_of_waiting {ticker : Ticker} {parked : Bool}
    (waiting : o.aggregator.phase = .waiting ticker parked) : o.horizon = o.scene.now := by
  rw [horizon, waiting]

theorem horizon_of_ended {e : Ending AggregatorReport} (ended : o.aggregator.phase = .ended e) :
    o.horizon = o.aggregator.endedAt := by
  rw [horizon, ended]

end Horizon

/-- The n ticks after a start were taken when they rang, and no other. -/
structure OnBeat (start interval n : Nat) (o : Intake) : Prop where
  own : o.aggregator.summaryInterval = interval
  instants : o.instants = (List.range' 1 n).map (Instant.beat start interval)
  past : ∀ k, 1 ≤ k → k ≤ n → Instant.beat start interval k ≤ o.horizon
  ahead : o.horizon ≤ Instant.beat start interval (n + 1)
  phase : (∃ parked, o.aggregator.phase = .waiting (.before start interval (n + 1)) parked) ∨
    ∃ report, o.aggregator.phase = .ended (.returned report)

namespace OnBeat
variable {o o' : Intake} {start interval n : Nat}

theorem first {parked : Bool} (own : o.aggregator.summaryInterval = interval)
    (none : o.instants = [])
    (waiting : o.aggregator.phase = .waiting (.before o.scene.now interval 1) parked) :
    OnBeat o.scene.now interval 0 o where
  own := own
  instants := none
  past := by
    intro k first last
    omega
  ahead := by
    rw [horizon_of_waiting waiting]
    exact Nat.le_trans (Nat.le_add_right _ _) (Instant.le_ring _)
  phase := .inl ⟨parked, waiting⟩

theorem keep (h : OnBeat start interval n o)
    (own : o'.aggregator.summaryInterval = o.aggregator.summaryInterval)
    (same : o'.instants = o.instants) (horizon : o'.horizon = o.horizon)
    (phase : (∃ parked, o'.aggregator.phase = .waiting (.before start interval (n + 1)) parked) ∨
      ∃ report, o'.aggregator.phase = .ended (.returned report)) :
    OnBeat start interval n o' :=
  ⟨own.trans h.own, same.trans h.instants, horizon ▸ h.past, horizon ▸ h.ahead, phase⟩

/-- A tick that is due rings at this instant, and the next one comes an interval later. -/
theorem sum {parked : Bool} (h : OnBeat start interval n o)
    (waiting : o.aggregator.phase = .waiting (.before start interval (n + 1)) parked)
    (due : (Ticker.before start interval (n + 1)).isDue o.scene.now = true)
    (own : o'.aggregator.summaryInterval = o.aggregator.summaryInterval)
    (one : o'.instants = o.instants ++ [o.scene.now]) (now : o'.scene.now = o.scene.now)
    (phase : o'.aggregator.phase =
      .waiting ((Ticker.before start interval (n + 1)).advance o.scene.now) false) :
    OnBeat start interval (n + 1) o' := by
  have ahead := h.ahead
  rw [horizon_of_waiting waiting] at ahead
  have rings : o.scene.now = Instant.beat start interval (n + 1) :=
    Nat.le_antisymm ahead (Instant.isDue_iff.mp due)
  have horizon : o'.horizon = Instant.beat start interval (n + 1) := by
    rw [horizon_of_waiting phase, now, rings]
  rw [rings, Ticker.advance_at_beat] at phase
  refine ⟨own.trans h.own, ?_, ?_, ?_, .inl ⟨false, phase⟩⟩
  · rw [one, h.instants, rings, List.range'_concat, List.map_append, Nat.one_mul, Nat.add_comm 1 n]
    rfl
  · intro k _ last
    rw [horizon]
    exact Instant.beat_mono last
  · rw [horizon]
    exact Instant.beat_mono (Nat.le_succ _)

end OnBeat

section Steps
variable {o o' : Intake} {start interval n : Nat} {what : List Happening}
  {phase : AggregatorPhase} {received lastSummary : Nat} {draining : Bool}

theorem act_does (ready : o.aggregator.isReady o.scene = true) :
    o.aggregator.Does o.scene o.act.aggregator o.act.scene :=
  Aggregator.step_does o.aggregator o.scene (Aggregator.live_of_isReady ready)

/-- The instants after a step that says what has no summary among it. -/
theorem act_instants (plain : ∀ w ∈ what, w.isSummary = false)
    (leaves : o.aggregator.Leaves o.scene what phase received lastSummary draining
      o.act.aggregator o.act.scene) : o.act.instants = o.instants := by
  obtain ⟨observed, tells⟩ := leaves.tells
  rw [instants, tells.journal, summaries_append, instants]
  intro e told
  obtain ⟨w, said, rfl⟩ := List.mem_map.mp (List.mem_reverse.mp told)
  exact plain w said

theorem OnBeat.rest (h : OnBeat start interval n o) {ticker : Ticker} {parked parked' : Bool}
    (waiting : o.aggregator.phase = .waiting ticker parked)
    (plain : ∀ w ∈ what, w.isSummary = false)
    (leaves : o.aggregator.Leaves o.scene what (.waiting ticker parked') received lastSummary draining
      o.act.aggregator o.act.scene) : OnBeat start interval n o.act := by
  obtain ⟨observed, tells⟩ := leaves.tells
  rcases h.phase with ⟨_, waiting'⟩ | ⟨report, ended⟩
  · obtain ⟨rfl, _⟩ := AggregatorPhase.waiting.inj (waiting.symm.trans waiting')
    refine h.keep leaves.interval (act_instants plain leaves) ?_ (.inl ⟨parked', leaves.phase⟩)
    rw [horizon_of_waiting leaves.phase, horizon_of_waiting waiting, tells.now]
  · cases waiting.symm.trans ended

theorem OnBeat.act (h : OnBeat start interval n o)
    (ready : o.aggregator.isReady o.scene = true) : ∃ n', OnBeat start interval n' o.act := by
  obtain ⟨parked, waiting⟩ : ∃ parked,
      o.aggregator.phase = .waiting (.before start interval (n + 1)) parked := by
    rcases h.phase with waiting | ⟨report, ended⟩
    · exact waiting
    · simp [Aggregator.isReady, ended] at ready
  cases act_does ready with
  | stalls fault created | starts ticker created => cases created.symm.trans waiting
  | drains ticker parked' buffered waiting' first leaves =>
    exact ⟨n, h.rest waiting' (List.forall_mem_singleton.mpr rfl) leaves⟩
  | parks ticker parked' waiting' leaves =>
    exact ⟨n, h.rest waiting' (List.forall_mem_nil _) leaves⟩
  | takes ticker parked' r remarks waiting' beside leaves =>
    refine ⟨n, h.rest waiting' (List.forall_mem_cons.mpr ⟨rfl, ?_⟩) leaves⟩
    intro w remarked
    exact Happening.isSummary_of_beside (beside w remarked)
  | sums ticker parked' buffered waiting' due leaves =>
    obtain ⟨observed, tells⟩ := leaves.tells
    obtain ⟨rfl, _⟩ := AggregatorPhase.waiting.inj (waiting'.symm.trans waiting)
    have one : o.act.instants = o.instants ++ [o.scene.now] := by
      rw [Intake.instants, tells.journal]
      exact (congrArg _ (summaries_cons _ _)).trans List.map_append
    exact ⟨n + 1, h.sum waiting due leaves.interval one tells.now leaves.phase⟩
  | stops ticker parked' waiting' endedAt leaves =>
    have horizon : o.act.horizon = o.horizon := by
      rw [horizon_of_ended leaves.phase, endedAt, horizon_of_waiting waiting]
    exact ⟨n, h.keep leaves.interval (act_instants (List.forall_mem_singleton.mpr rfl) leaves) horizon
      (.inr ⟨_, leaves.phase⟩)⟩

end Steps

structure Paced (o : Intake) : Prop where
  unbegun : o.began = none → o.aggregator.phase = .created ∧ o.instants = []
  begun : ∀ start, o.began = some start → 0 < o.aggregator.summaryInterval →
    start + o.aggregator.summaryInterval < Instant.limit →
    ∃ n, OnBeat start o.aggregator.summaryInterval n o

theorem begins {o : Intake} (ready : o.aggregator.isReady o.scene = true)
    (created : o.aggregator.phase = .created) (none : o.instants = [])
    (pos : 0 < o.aggregator.summaryInterval)
    (fits : o.scene.now + o.aggregator.summaryInterval < Instant.limit) :
    OnBeat o.scene.now o.aggregator.summaryInterval 0 o.act := by
  cases act_does ready with
  | stalls fault _ failed =>
    have never := Ticker.never_of_fault pos failed
    rw [Instant.after?, if_pos fits] at never
    cases never
  | starts ticker _ started leaves =>
    obtain ⟨observed, tells⟩ := leaves.tells
    have first : ticker = .before o.scene.now o.aggregator.summaryInterval 1 := by
      rw [Ticker.eq_of_start? started, Ticker.before, Nat.one_mul]
    have still := act_instants (List.forall_mem_singleton.mpr rfl) leaves
    rw [← tells.now] at first ⊢
    exact .first leaves.interval (still.trans none) (first ▸ leaves.phase)
  | drains ticker parked buffered waiting | sums ticker parked buffered waiting
  | takes ticker parked r remarks waiting | stops ticker parked waiting
  | parks ticker parked waiting => cases created.symm.trans waiting

theorem Paced.act {o : Intake} (h : o.Paced) (ready : o.aggregator.isReady o.scene = true) :
    o.act.Paced := by
  have own := (act_does ready).interval
  have began : o.act.began = o.began.or (some o.scene.now) := rfl
  constructor
  · intro unbegun
    rw [began, Option.or_eq_none_iff] at unbegun
    cases unbegun.2
  · intro start since pos fits
    rw [own] at pos fits ⊢
    cases before : o.began with
    | none =>
      obtain ⟨created, none⟩ := h.unbegun before
      rw [began, before, Option.none_or, Option.some.injEq] at since
      subst since
      exact ⟨0, begins ready created none pos fits⟩
    | some first =>
      rw [began, before, Option.some_or, Option.some.injEq] at since
      subst since
      obtain ⟨n, onBeat⟩ := h.begun first before pos fits
      exact onBeat.act ready

theorem Paced.others {o : Intake} {s : Scene} (h : o.Paced) (bypasses : o.scene.Bypasses s) :
    (o.enter s).Paced := by
  have still : (o.enter s).instants = o.instants := by
    obtain ⟨new, journal, beside⟩ := bypasses.journal
    rw [instants, enter_scene, journal, summaries_append, instants]
    intro e told
    exact Happening.isSummary_of_beside (beside e told)
  have horizon : (o.enter s).horizon = o.horizon := by
    rw [horizon, enter_aggregator, enter_scene, bypasses.now, horizon]
  constructor
  · intro unbegun
    rw [still]
    exact h.unbegun unbegun
  · intro start since pos fits
    obtain ⟨n, onBeat⟩ := h.begun start since pos fits
    exact ⟨n, onBeat.keep rfl still horizon onBeat.phase⟩

/-- Time does not pass the next tick. -/
theorem le_beat_of_mayPassTo {o : Intake} {start interval k t : Nat} {parked : Bool}
    (may : o.mayPassTo t = true)
    (waiting : o.aggregator.phase = .waiting (.before start interval k) parked) :
    t ≤ Instant.beat start interval k := by
  simp only [mayPassTo, Aggregator.isReady, Aggregator.alarms, waiting, List.all_cons, List.all_nil,
    Bool.and_true, Bool.and_eq_true, Bool.not_eq_true', Bool.or_eq_false_iff, Bool.or_eq_true,
    decide_eq_true_eq] at may
  obtain ⟨⟨⟨⟨⟨_, early⟩, _⟩, _⟩, _⟩, rung | within⟩ := may
  · rw [Ticker.isDue, rung] at early
    cases early
  · rw [Ticker.before] at within
    exact within

theorem OnBeat.time {o : Intake} {start interval n t : Nat} (h : OnBeat start interval n o)
    (may : o.mayPassTo t = true) : OnBeat start interval n (o.enter { o.scene with now := t }) := by
  rcases h.phase with ⟨parked, waiting⟩ | ⟨report, ended⟩
  · have later : o.scene.now ≤ t := by
      simp only [mayPassTo, Bool.and_eq_true, decide_eq_true_eq] at may
      exact may.1.2
    have horizon : (o.enter { o.scene with now := t }).horizon = t := horizon_of_waiting waiting
    refine ⟨h.own, h.instants, ?_, ?_, h.phase⟩
    · intro k first last
      have past := h.past k first last
      rw [horizon_of_waiting waiting] at past
      rw [horizon]
      exact past.trans later
    · rw [horizon]
      exact le_beat_of_mayPassTo may waiting
  · have horizon : (o.enter { o.scene with now := t }).horizon = o.horizon := by
      rw [horizon_of_ended ended]
      exact horizon_of_ended ended
    exact h.keep rfl rfl horizon h.phase

theorem Reachable.paced {o : Intake} (h : Reachable o) : o.Paced := by
  induction h with
  | @start o fresh =>
    have none : o.instants = [] := by
      rw [instants, ← List.append_nil o.scene.journal, summaries_append]
      · rfl
      · intro e told
        exact Happening.isSummary_of_beside (fresh.journal e told)
    refine ⟨fun _ => ⟨fresh.created, none⟩, ?_⟩
    intro start since
    rw [fresh.began] at since
    cases since
  | next prior turn ih =>
    cases turn with
    | aggregator ready => exact ih.act ready
    | others bypasses => exact ih.others bypasses
    | time may =>
      refine ⟨ih.unbegun, ?_⟩
      intro start since pos fits
      obtain ⟨n, onBeat⟩ := ih.begun start since pos fits
      exact ⟨n, onBeat.time may⟩

/-- An aggregator that began at an instant, with an interval that is not zero and a first tick that
can be represented, whatever arrives at its queue and whatever becomes of its fan-out, at any time: it
gives the k-th summary when the k-th tick rings, for all ticks that ring before it ends and none that
rings after, and is not lost; every summary counts the readings taken before it, and what the summaries
up to it say to have added since the ones before is that count; and the cancellation is told of at
most once. -/
theorem Reachable.cadence {o : Intake} (h : Reachable o) {start : Nat} (began : o.began = some start)
    (pos : 0 < o.aggregator.summaryInterval)
    (fits : start + o.aggregator.summaryInterval < Instant.limit) :
    (∃ n, o.instants = (List.range' 1 n).map (Instant.beat start o.aggregator.summaryInterval) ∧
      ∀ k, 1 ≤ k →
        (Instant.beat start o.aggregator.summaryInterval k < o.horizon → k ≤ n) ∧
        (k ≤ n → Instant.beat start o.aggregator.summaryInterval k ≤ o.horizon)) ∧
    (∀ c, o.aggregator.ending? ≠ some (.crashed c)) ∧
    (∀ e earlier m, e :: earlier <:+ o.scene.journal → e.summary? = some m →
      m.received = receipts earlier ∧ added earlier + m.sinceLast = m.received) ∧
    o.aggregator.report.received = receipts o.scene.journal ∧
    o.aggregator.lastSummary ≤ o.aggregator.report.received ∧
    drainings o.scene.journal ≤ 1 := by
  obtain ⟨n, onBeat⟩ := h.paced.begun start began pos fits
  have tallied := h.tallied
  refine ⟨⟨n, onBeat.instants, ?_⟩, ?_, ?_, tallied.counts, tallied.le, ?_⟩
  · intro k first
    refine ⟨fun rung => ?_, onBeat.past k first⟩
    by_contra beyond
    have next : Instant.beat start o.aggregator.summaryInterval (n + 1) ≤
        Instant.beat start o.aggregator.summaryInterval k := Instant.beat_mono (by omega)
    exact absurd (Nat.lt_of_le_of_lt next rung) (Nat.not_lt.mpr onBeat.ahead)
  · intro c crashed
    rcases onBeat.phase with ⟨parked, waiting⟩ | ⟨report, ended⟩
    · simp [Aggregator.ending?, waiting] at crashed
    · simp [Aggregator.ending?, ended] at crashed
  · intro e earlier m suffix given
    obtain ⟨counts, adds⟩ := tallied.balanced.suffix suffix given
    rw [added_cons, given] at adds
    exact ⟨counts, adds⟩
  · rw [tallied.told]
    split
    · exact Nat.le_refl 1
    · exact Nat.zero_le 1

/-- Ticks of 400 microseconds, so that two of them ring together at the first millisecond. Two readings
came before, of which the fan-out could take one; the cancellation is seen then, and the end comes
with the second millisecond. -/
theorem cadence_of_short_ticks :
    ∃ o : Intake, Reachable o ∧ o.began = some 0 ∧ o.aggregator.summaryInterval = 400000 ∧
      0 + 400000 < Instant.limit ∧ o.aggregator.phase = .ended (.returned ⟨2, 1, 1⟩) ∧
      o.horizon = 2000000 ∧
      (∃ n, 2 ≤ n ∧ n ≤ 5 ∧ o.instants = (List.range' 1 n).map (Instant.beat 0 400000)) ∧
      receipts o.scene.journal = 2 ∧ drainings o.scene.journal ≤ 1 := by
  let cues : List Cue := [.aggregator, .offer default, .aggregator, .offer default, .aggregator,
    .aggregator, .time 1000000, .aggregator, .aggregator, .cancel, .aggregator, .aggregator,
    .time 2000000, .close, .aggregator, .aggregator, .aggregator, .aggregator]
  let isEnded (o : Intake) : Bool := o.began = some 0 ∧ o.aggregator.summaryInterval = 400000 ∧
    o.aggregator.phase = .ended (.returned ⟨2, 1, 1⟩) ∧ o.horizon = 2000000 ∧
    o.aggregator.report.received = 2
  obtain ⟨o, reachable, played⟩ := exists_played 400000 2 true cues isEnded (by decide)
  obtain ⟨began, own, ended, horizon, received⟩ := of_decide_eq_true played
  have fits : 0 + 400000 < Instant.limit := by decide
  obtain ⟨⟨n, instants, ticks⟩, _, _, counts, _, told⟩ :=
    reachable.cadence began (own ▸ by decide) (own ▸ fits)
  rw [own] at instants ticks
  rw [horizon] at ticks
  have least : 2 ≤ n := (ticks 2 (by decide)).1 (by decide)
  have most : n ≤ 5 := by
    by_contra more
    exact absurd ((ticks 6 (by decide)).2 (by omega)) (by decide)
  exact ⟨o, reachable, began, own, fits, ended, horizon, ⟨n, least, most, instants⟩,
    counts ▸ received, told⟩

end Intake
end SensorFleet
