import SensorFleet.Proofs.Fleet.Ticks

/-!
The times of the readings of one slot. Within a run they do not go back, whatever the clock does,
since a run remembers its last time; the next run does not know it. So the readings of a slot fall
into blocks in order, one for each run, and are in order as a whole if no run follows another or if
the clock itself never goes back.
-/
namespace SensorFleet

/-- Never shows an earlier time at a later look or instant. -/
def Clock.IsForward (clock : Clock) : Prop :=
  ∀ look look' t t' : Nat, look ≤ look' → t ≤ t' →
    (clock look' t').isBefore (clock look t) = false

def InOrder (rs : List Reading) : Prop :=
  rs.Pairwise fun a b => b.capturedAt.isBefore a.capturedAt = false

theorem InOrder.snoc {rs : List Reading} {r : Reading} (h : InOrder rs)
    (hr : ∀ a ∈ rs, r.capturedAt.isBefore a.capturedAt = false) : InOrder (rs ++ [r]) := by
  refine List.pairwise_append.mpr ⟨h, List.pairwise_singleton _ _, fun a ha b hb => ?_⟩
  rw [List.mem_singleton.mp hb]
  exact hr a ha

namespace Scene

/-- The clock will not show an earlier time. -/
def IsPast (s : Scene) (time : WallTime) : Prop :=
  ∀ look now : Nat, s.looks ≤ look → s.now ≤ now → (s.clock look now).isBefore time = false

theorem IsPast.later {s s' : Scene} {time : WallTime} (clock : s'.clock = s.clock)
    (looks : s.looks ≤ s'.looks) (now : s.now ≤ s'.now) (h : s.IsPast time) : s'.IsPast time :=
  fun _ _ hl hn => clock ▸ h _ _ (Nat.le_trans looks hl) (Nat.le_trans now hn)

end Scene

namespace Run

/-- The time of a reading is not before the last one of the run. -/
theorem isBefore_stamped {run : Run} {last : WallTime} (h : run.last = some last)
    (x : Binary64) (shown : WallTime) : (run.stamped x shown).capturedAt.isBefore last = false := by
  simp only [stamped, h]
  exact shown.isBefore_latest_right last

theorem shown_isBefore_stamped (run : Run) (x : Binary64) (shown : WallTime) :
    (run.stamped x shown).capturedAt.isBefore shown = false := by
  unfold stamped
  dsimp only
  split
  · exact shown.isBefore_latest_left _
  · exact shown.isBefore_self

theorem isPast_stamped {run : Run} {s : Scene} (forward : s.clock.IsForward)
    (past : ∀ last, run.last = some last → s.IsPast last) (x : Binary64) :
    s.IsPast (run.stamped x (s.clock s.looks s.now)).capturedAt := by
  have shown : s.IsPast (s.clock s.looks s.now) := fun _ _ => forward _ _ _ _
  unfold stamped
  dsimp only
  split
  next last remembered =>
    exact fun _ _ hl hn =>
      WallTime.isBefore_latest (shown _ _ hl hn) (past last remembered _ _ hl hn)
  next => exact shown

end Run

namespace Station

/-- A step of a run makes no reading, or one with the time that it remembers from then on. -/
theorem Acts.adds {t t' : Station} {s s' : Scene} (acts : t.Acts s t' s') :
    ∃ new, s'.entered .primary = s.entered .primary ++ new ∧
      (t'.run.last = t.run.last ∧ new ++ t'.pending?.toList = t.pending?.toList ∨
        t.pending? = none ∧ ∃ r x, r = t.run.stamped x (s.clock s.looks s.now) ∧
          t'.run.last = some r.capturedAt ∧ new ++ t'.pending?.toList = [r]) := by
  cases acts with
  | stalls _ phase _ run' entered | starts _ phase _ run' entered | stops _ phase _ run' entered
  | crashes _ _ phase _ _ run' entered =>
    refine ⟨[], by simp [entered], .inl ⟨by rw [run']; rfl, ?_⟩⟩
    simp [pending?, phase, run', Run.endAt, Run.enter]
  | samples ticker x r phase going draw made sends =>
    have idle : t.pending? = none := by simp [pending?, phase]
    cases sends with
    | enters run' entered =>
      refine ⟨[r], entered, .inr ⟨idle, r, x, made, by rw [run']; rfl, ?_⟩⟩
      simp [pending?, run', Run.enter]
    | waits run' entered =>
      refine ⟨[], by simp [entered], .inr ⟨idle, r, x, made, by rw [run']; rfl, ?_⟩⟩
      simp [pending?, run', Run.enter]
  | retries ticker r phase sends =>
    cases sends with
    | enters run' entered =>
      refine ⟨[r], entered, .inl ⟨by rw [run']; rfl, ?_⟩⟩
      simp [pending?, phase, run', Run.enter]
    | waits run' entered =>
      refine ⟨[], by simp [entered], .inl ⟨by rw [run']; rfl, ?_⟩⟩
      simp [pending?, phase, run', Run.enter]

structure Orders (t : Station) (rs : List Reading) : Prop where
  inOrder : InOrder (rs ++ t.pending?.toList)
  bound : ∀ r ∈ rs ++ t.pending?.toList,
    ∃ last, t.run.last = some last ∧ last.isBefore r.capturedAt = false

/-- A step of a run keeps its readings in order, with those that entered. -/
theorem Acts.orders {t t' : Station} {s s' : Scene} (acts : t.Acts s t' s') {rs : List Reading}
    (h : t.Orders rs) : ∃ new, s'.entered .primary = s.entered .primary ++ new ∧
      t'.Orders (rs ++ new) := by
  obtain ⟨new, entered, added⟩ := acts.adds
  obtain ⟨inOrder, bound⟩ := h
  refine ⟨new, entered, ?_⟩
  rcases added with ⟨last, all⟩ | ⟨idle, r, x, made, last, all⟩
  · exact ⟨by rwa [List.append_assoc, all], by rwa [List.append_assoc, all, last]⟩
  · rw [idle, Option.toList_none, List.append_nil] at inOrder bound
    have before : ∀ a ∈ rs, r.capturedAt.isBefore a.capturedAt = false := by
      intro a ha
      obtain ⟨time, remembered, notAfter⟩ := bound a ha
      exact WallTime.isBefore_trans notAfter (made ▸ Run.isBefore_stamped remembered x _)
    refine ⟨by rw [List.append_assoc, all]; exact inOrder.snoc before, ?_⟩
    rw [List.append_assoc, all]
    intro a ha
    refine ⟨r.capturedAt, last, ?_⟩
    rcases List.mem_append.mp ha with ha | ha
    · exact before a ha
    · rw [List.mem_singleton.mp ha]
      exact WallTime.isBefore_self _

structure Trails (t : Station) (s : Scene) (rs : List Reading) : Prop where
  inOrder : InOrder (rs ++ t.pending?.toList)
  bound : ∀ r ∈ rs ++ t.pending?.toList, s.IsPast r.capturedAt
  last : ∀ last, t.run.last = some last → s.IsPast last

theorem Acts.trails {t t' : Station} {s s' : Scene} (acts : t.Acts s t' s')
    (same : s.SameSupply s') (forward : s.clock.IsForward) {rs : List Reading}
    (h : t.Trails s rs) : ∃ new, s'.entered .primary = s.entered .primary ++ new ∧
      t'.Trails s' (rs ++ new) := by
  obtain ⟨new, entered, added⟩ := acts.adds
  obtain ⟨inOrder, bound, past⟩ := h
  have keep {time : WallTime} : s.IsPast time → s'.IsPast time :=
    Scene.IsPast.later same.clock same.looks (Nat.le_of_eq same.now.symm)
  refine ⟨new, entered, ?_⟩
  rcases added with ⟨last, all⟩ | ⟨idle, r, x, made, last, all⟩
  · refine ⟨by rwa [List.append_assoc, all], ?_, fun time remembered => ?_⟩
    · rw [List.append_assoc, all]
      exact fun r hr => keep (bound r hr)
    · exact keep (past time (last ▸ remembered))
  · rw [idle, Option.toList_none, List.append_nil] at inOrder bound
    have isPast : s.IsPast r.capturedAt := made ▸ Run.isPast_stamped forward past x
    have before : ∀ a ∈ rs, r.capturedAt.isBefore a.capturedAt = false := fun a ha =>
      WallTime.isBefore_trans (bound a ha _ _ (Nat.le_refl _) (Nat.le_refl _))
        (made ▸ t.run.shown_isBefore_stamped x _)
    refine ⟨by rw [List.append_assoc, all]; exact inOrder.snoc before, ?_, ?_⟩
    · rw [List.append_assoc, all]
      intro a ha
      rcases List.mem_append.mp ha with ha | ha
      · exact keep (bound a ha)
      · rw [List.mem_singleton.mp ha]
        exact keep isPast
    · intro time remembered
      rw [last, Option.some.injEq] at remembered
      exact remembered ▸ keep isPast

end Station

namespace Supervisor

/-- The readings of a slot fall into blocks in order, one for each run, of which the last one is
that of the run under supervision. -/
structure Divides (t : Supervisor) (rs : List Reading) (blocks : List (List Reading)) : Prop where
  all : blocks.flatten = rs
  attempts : blocks.length = t.slot.attempts
  inOrder : ∀ block ∈ blocks, InOrder block
  current : ∀ station, t.phase = .supervising station →
    ∃ past current, blocks = past ++ [current] ∧ station.Orders current

structure Trails (t : Supervisor) (s : Scene) (rs : List Reading) : Prop where
  inOrder : InOrder rs
  bound : ∀ r ∈ rs, s.IsPast r.capturedAt
  station : ∀ station, t.phase = .supervising station → station.Trails s rs

theorem Trails.later {t : Supervisor} {s s' : Scene} {rs : List Reading} (h : t.Trails s rs)
    (clock : s'.clock = s.clock) (looks : s.looks ≤ s'.looks) (now : s.now ≤ s'.now) :
    t.Trails s' rs where
  inOrder := h.inOrder
  bound := fun r hr => (h.bound r hr).later clock looks now
  station := fun station phase =>
    have trails := h.station station phase
    ⟨trails.inOrder, fun r hr => (trails.bound r hr).later clock looks now,
      fun last remembered => (trails.last last remembered).later clock looks now⟩

end Supervisor

namespace Simulation
variable {c : Config} {p : Equipment} {m m' : Simulation} {i : Nat} {t t' : Supervisor}

theorem AtSlot.divides (happens : AtSlot m m' i t t') (proper : t.Proper)
    {id : ProducerId} (own : t.slot.id = id) {blocks : List (List Reading)}
    (h : t.Divides (m.scene.sentBy id) blocks) :
    ∃ blocks', t'.Divides (m'.scene.sentBy id) blocks' := by
  cases happens with
  | beside same beside =>
    refine ⟨blocks, ?_⟩
    rw [← own, beside.sentBy, own]
    rcases same with rfl | ⟨_, rfl⟩
    · exact h
    · exact ⟨h.all, h.attempts, h.inOrder, h.current⟩
  | steps ready proceeds alike =>
    rw [Scene.sentBy_congr (alike.entered .primary)]
    cases proceeds.goes with
    | finishes _ _ phase attempts =>
      exact ⟨blocks, h.all, h.attempts.trans attempts.symm, h.inOrder, by simp [phase]⟩
    | dies _ _ _ _ phase attempts =>
      exact ⟨blocks, h.all, h.attempts.trans attempts.symm, h.inOrder, by simp [phase]⟩
    | launches source _ _ _ phase attempts =>
      refine ⟨blocks ++ [[]], by simp [h.all], by simp [h.attempts, attempts], ?_, ?_⟩
      · intro block hb
        rcases List.mem_append.mp hb with hb | hb
        · exact h.inOrder block hb
        · rw [List.mem_singleton.mp hb]
          exact .nil
      · intro station hs
        rw [phase] at hs
        injection hs with hs
        subst hs
        exact ⟨blocks, [], rfl, .nil, by simp [Station.pending?, Supervisor.freshRun]⟩
  | runs station station' phase ready after acts same =>
    obtain ⟨past, current, split, orders⟩ := h.current station phase
    obtain ⟨new, entered, orders'⟩ := acts.orders orders
    refine ⟨past ++ [current ++ new], ?_, ?_, ?_, ?_⟩
    · rw [← own, AtSlot.sentBy_runs proper phase acts entered, own, ← h.all, split]
      simp
    · rw [after, ← h.attempts, split]
      simp
    · intro block hb
      rcases List.mem_append.mp hb with hb | hb
      · exact h.inOrder block (by rw [split]; exact List.mem_append_left _ hb)
      · rw [List.mem_singleton.mp hb]
        exact orders'.inOrder.sublist (List.sublist_append_left _ _)
    · intro station₁ hs
      rw [after] at hs
      injection hs with hs
      exact ⟨past, current ++ new, rfl, hs ▸ orders'⟩
  | time now later same after =>
    subst same after
    exact ⟨blocks, h.all, h.attempts, h.inOrder, h.current⟩

theorem AtSlot.trails (happens : AtSlot m m' i t t') (proper : t.Proper)
    (forward : m.scene.clock.IsForward) {id : ProducerId} (own : t.slot.id = id)
    (h : t.Trails m.scene (m.scene.sentBy id)) : t'.Trails m'.scene (m'.scene.sentBy id) := by
  cases happens with
  | beside same beside =>
    rw [← own, beside.sentBy, own]
    have later := h.later beside.clock beside.looks (Nat.le_of_eq beside.now.symm)
    rcases same with rfl | ⟨_, rfl⟩
    · exact later
    · exact ⟨later.inOrder, later.bound, later.station⟩
  | steps ready proceeds alike =>
    rw [Scene.sentBy_congr (alike.entered .primary)]
    have bounded (clock : m'.scene.clock = m.scene.clock) (looks : m.scene.looks ≤ m'.scene.looks)
        (now : m'.scene.now = m.scene.now) (r : Reading) (hr : r ∈ m.scene.sentBy id) :
        m'.scene.IsPast r.capturedAt := (h.bound r hr).later clock looks (Nat.le_of_eq now.symm)
    cases proceeds.goes with
    | finishes _ same phase =>
      exact ⟨h.inOrder, bounded same.clock same.looks same.now, by simp [phase]⟩
    | dies _ _ _ makes phase =>
      exact ⟨h.inOrder, bounded makes.clock makes.looks makes.now, by simp [phase]⟩
    | launches source _ _ makes phase =>
      have bound := bounded makes.clock makes.looks makes.now
      refine ⟨h.inOrder, bound, fun station hs => ?_⟩
      rw [phase] at hs
      injection hs with hs
      subst hs
      exact ⟨by simpa [Station.pending?, Supervisor.freshRun] using h.inOrder,
        by simpa [Station.pending?, Supervisor.freshRun] using bound,
        by simp [Supervisor.freshRun]⟩
  | runs station station' phase ready after acts same =>
    obtain ⟨new, entered, trails⟩ := acts.trails same forward (h.station station phase)
    rw [← own] at trails ⊢
    rw [← AtSlot.sentBy_runs proper phase acts entered] at trails
    refine ⟨trails.inOrder.sublist (List.sublist_append_left _ _),
      fun r hr => trails.bound r (List.mem_append_left _ hr), fun station₁ hs => ?_⟩
    rw [after] at hs
    injection hs with hs
    exact hs ▸ trails
  | time now later same after =>
    subst same after
    exact h.later rfl (Nat.le_refl _) later

theorem Reachable.divides (h : Reachable c p m) (few : c.producers < UInt32.size)
    (found : m.supervisors[i]? = some t) :
    ∃ blocks, t.Divides (m.scene.sentBy (idAt i)) blocks := by
  refine h.eachSlot (Q := fun i t s => ∃ blocks, t.Divides (s.sentBy (idAt i)) blocks) few ?_ ?_ i t
    found
  · intro m i started
    rw [start_sentBy started]
    exact ⟨[], rfl, rfl, by simp, by simp [Supervisor.new]⟩
  · intro m m' i t t' prior found happens hm
    obtain ⟨blocks, divides⟩ := hm
    obtain ⟨proper, own⟩ := prior.staffed.member i t found
    exact happens.divides proper own divides

theorem Reachable.trails (h : Reachable c p m) (few : c.producers < UInt32.size)
    (forward : p.clock.IsForward) (found : m.supervisors[i]? = some t) :
    t.Trails m.scene (m.scene.sentBy (idAt i)) := by
  refine h.eachSlot (Q := fun i t s => t.Trails s (s.sentBy (idAt i))) few ?_ ?_ i t found
  · intro m i started
    rw [start_sentBy started]
    exact ⟨.nil, by simp, by simp [Supervisor.new]⟩
  · intro m m' i t t' prior found happens hm
    obtain ⟨proper, own⟩ := prior.staffed.member i t found
    exact happens.trails proper (prior.supplied.clock ▸ forward) own hm

/-- The readings of a slot that entered the primary queue fall into blocks, one for each run that was
started, and within a block no time goes back. So none does as long as there was no restart; and
none does at all if the clock itself never goes back. -/
theorem Reachable.captured_in_order (h : Reachable c p m) {n : Nat} (ids : c.lastId = .ok n)
    (found : m.supervisors[i]? = some t) :
    (∃ runs : List (List Reading), runs.flatten = m.scene.sentBy t.slot.id ∧
      runs.length = t.slot.attempts ∧ ∀ run ∈ runs, InOrder run) ∧
    (t.slot.attempts ≤ 1 → InOrder (m.scene.sentBy t.slot.id)) ∧
    (p.clock.IsForward → InOrder (m.scene.sentBy t.slot.id)) := by
  have few := few_of_lastId ids
  obtain ⟨blocks, divides⟩ := h.divides few found
  rw [(h.staffed.member i t found).2]
  refine ⟨⟨blocks, divides.all, divides.attempts, divides.inOrder⟩, fun single => ?_,
    fun forward => (h.trails few forward found).inOrder⟩
  have all := divides.all
  have inOrder := divides.inOrder
  rw [← divides.attempts] at single
  match blocks, single with
  | [], _ => exact all ▸ .nil
  | [block], _ =>
    rw [List.flatten_singleton] at all
    exact all ▸ inOrder block List.mem_cons_self

/-- One producer, whose first run crashes at its second tick. The clock goes back by five seconds
between the first reading and the next one, which the second run takes. -/
def backwards : Config where
  producers := 1
  interval := Duration.ofMillis 10

def steppingBack : Equipment where
  clock := .listed #[⟨0, 0⟩, ⟨0, 0⟩, ⟨10, 0⟩, ⟨5, 0⟩]
  sources := fun _ nth _ => .source fun drawn =>
    if nth = 0 ∧ drawn = 1 then .crash .other else .value default

def twoRuns : List Cue :=
  [.event .aggregator, .event (.supervisor 0), .event (.run 0), .time 10000000, .event (.run 0),
    .time 20000000, .event (.run 0), .event (.supervisor 0), .event (.run 0), .time 30000000,
    .event (.run 0)]

/-- The second run starts with the time that the clock shows. -/
theorem not_in_order_after_restart :
    Simulation.check backwards steppingBack.broker.isSome = .ok () ∧
    ∃ m t, Reachable backwards steppingBack m ∧ m.supervisors[0]? = some t ∧
      t.slot.attempts = 2 ∧ ¬InOrder (m.scene.sentBy t.slot.id) := by
  let goesBack (m : Simulation) : Bool :=
    m.supervisors[0]?.any fun t => t.slot.attempts = 2 ∧
      (m.scene.sentBy t.slot.id).map Reading.capturedAt = [⟨10, 0⟩, ⟨5, 0⟩]
  obtain ⟨m, reachable, back⟩ : ∃ m, Reachable backwards steppingBack m ∧ goesBack m = true :=
    exists_reachable twoRuns (by decide)
  obtain ⟨t, found, back⟩ := (Option.any_eq_true _ _).mp back
  obtain ⟨attempts, times⟩ := of_decide_eq_true back
  refine ⟨rfl, m, t, reachable, found, attempts, fun inOrder => ?_⟩
  have forward : ((m.scene.sentBy t.slot.id).map Reading.capturedAt).Pairwise
    fun a b => b.isBefore a = false := List.pairwise_map.mpr inOrder
  rw [times] at forward
  simp [WallTime.isBefore] at forward

theorem in_order_within_each_run :
    ∃ m t, Reachable backwards steppingBack m ∧ backwards.lastId = .ok 1 ∧
      m.supervisors[0]? = some t ∧ ∃ runs : List (List Reading),
        runs.flatten = m.scene.sentBy t.slot.id ∧ runs.length = 2 ∧ ∀ run ∈ runs, InOrder run := by
  let isSecond (m : Simulation) : Bool := m.supervisors[0]?.any fun t => t.slot.attempts = 2
  obtain ⟨m, reachable, second⟩ : ∃ m, Reachable backwards steppingBack m ∧ isSecond m = true :=
    exists_reachable twoRuns (by decide)
  obtain ⟨t, found, second⟩ := (Option.any_eq_true _ _).mp second
  have attempts := of_decide_eq_true second
  have ids : backwards.lastId = .ok 1 := rfl
  obtain ⟨⟨runs, all, count, inOrder⟩, _⟩ := reachable.captured_in_order ids found
  exact ⟨m, t, reachable, ids, found, runs, all, count.trans attempts, inOrder⟩

end Simulation
end SensorFleet
