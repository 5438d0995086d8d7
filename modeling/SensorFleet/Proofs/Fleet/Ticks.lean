import SensorFleet.Proofs.Fleet.Containment
import SensorFleet.Proofs.Fleet.Launches

/-!
What happens to one slot. Its run starts its ticker, and draws once at each tick: a crash ends the
run, and a value makes a reading, which enters the primary queue sooner or later. What the others do
in the meantime touches neither the readings of the slot nor its sources.
-/
namespace SensorFleet

namespace Run

def stamped (run : Run) (x : Binary64) (shown : WallTime) : Reading :=
  ⟨run.id, x, match run.last with
    | some last => shown.latest last
    | none => shown⟩

def afterDraw (run : Run) (time : WallTime) : Run :=
  { run with drawn := run.drawn + 1, last := some time }

def enter (run : Run) (phase : RunPhase) : Run := { run with phase := phase }

def endAt (run : Run) (now : Nat) (e : Ending RunResult) : Run :=
  { run with phase := .ended e, endedAt := now }

end Run

namespace Station

inductive Sends (run : Run) (ticker : Ticker) (r : Reading) (s : Scene) (t' : Station) (s' : Scene) :
    Prop
  | enters (run' : t'.run = run.enter (.ticking ticker))
      (entered : s'.entered .primary = s.entered .primary ++ [r])
  | waits (run' : t'.run = run.enter (.sending ticker r))
      (entered : s'.entered .primary = s.entered .primary)

inductive Acts (t : Station) (s : Scene) (t' : Station) (s' : Scene) : Prop
  | stalls (fault : TickerFault) (phase : t.run.phase = .created)
      (refused : Ticker.start? s.now t.run.interval = .error fault)
      (run' : t'.run = t.run.endAt s.now (.crashed (.text fault.message)))
      (entered : s'.entered .primary = s.entered .primary)
  | starts (ticker : Ticker) (phase : t.run.phase = .created)
      (made : Ticker.start? s.now t.run.interval = .ok ticker)
      (run' : t'.run = t.run.enter (.ticking ticker))
      (entered : s'.entered .primary = s.entered .primary)
  | stops (ticker : Ticker) (phase : t.run.phase = .ticking ticker) (cancelled : s.cancelled = true)
      (run' : t'.run = t.run.endAt s.now (.returned .finished))
      (entered : s'.entered .primary = s.entered .primary)
  | crashes (ticker : Ticker) (c : Crash) (phase : t.run.phase = .ticking ticker)
      (going : s.cancelled = false) (draw : t.run.source t.run.drawn = .crash c)
      (run' : t'.run = t.run.endAt s.now (.crashed c))
      (entered : s'.entered .primary = s.entered .primary)
  | samples (ticker : Ticker) (x : Binary64) (r : Reading) (phase : t.run.phase = .ticking ticker)
      (going : s.cancelled = false) (draw : t.run.source t.run.drawn = .value x)
      (made : r = t.run.stamped x (s.clock s.looks s.now))
      (sends : Sends (t.run.afterDraw r.capturedAt) (ticker.advance s.now) r s t' s')
  | retries (ticker : Ticker) (r : Reading) (phase : t.run.phase = .sending ticker r)
      (sends : Sends t.run ticker r s t' s')

theorem afterSend_sends {t : Station} {who : Party} {s s₁ : Scene} {r : Reading} {q : ReadingQueue}
    (entered : s₁.entered .primary = s.entered .primary) (opened : q.isClosed = false)
    (ticker : Ticker) {look : SendLook × ReadingQueue} (looked : q.Sends who r look) :
    Sends t.run ticker r s (t.afterSend ticker r (s₁.afterSend .primary r look)).1
      (t.afterSend ticker r (s₁.afterSend .primary r look)).2 := by
  cases looked with
  | refused closed => exact absurd (opened.symm.trans closed) (by simp)
  | waits _ full =>
    refine .waits rfl ?_
    change Scene.history _ (Scene.setQueue _ _ _) = _
    rw [Scene.history_setQueue]
    exact entered
  | accepted _ room =>
    refine .enters rfl ?_
    change Scene.history _ (Scene.count _ _) = _
    rw [Scene.count_eq]
    change Scene.history _ (Scene.record _ _) = _
    rw [Scene.history_record, Scene.history_setQueue]
    simpa [Happening.entered?, Scene.entered] using entered

theorem sample_crash {t : Station} {c : Crash} (draw : t.run.source t.run.drawn = .crash c)
    (s : Scene) : t.sample s = (.error c, s.record (.sampled t.run.id)) := by
  simp only [sample, draw]

theorem sample_value {t : Station} {x : Binary64} (draw : t.run.source t.run.drawn = .value x)
    (s : Scene) :
    let r := t.run.stamped x (s.clock s.looks s.now)
    t.sample s = (.ok (r, { t with run := t.run.afterDraw r.capturedAt }),
      (s.record (.sampled t.run.id)).readClock.2) := by
  simp only [sample, draw]
  rfl

theorem step_acts {t : Station} (who : Party) {s : Scene} (live : t.ending? = none)
    (opened : s.primary.isClosed = false) : t.Acts s (t.step who s).1 (t.step who s).2 := by
  unfold step
  cases phase : t.run.phase with
  | created =>
    dsimp only
    split
    next fault refused => exact .stalls fault phase refused rfl rfl
    next ticker made =>
      exact .starts ticker phase made rfl ((Scene.alike_log rfl).entered .primary)
  | ticking ticker =>
    dsimp only
    split
    next cancelled =>
      exact .stops ticker phase cancelled rfl ((Scene.alike_log rfl).entered .primary)
    next going =>
      rw [Bool.not_eq_true] at going
      have drawn : (s.record (.sampled t.run.id)).entered .primary = s.entered .primary :=
        (Scene.alike_record rfl).entered .primary
      cases draw : t.run.source t.run.drawn with
      | crash c =>
        rw [sample_crash draw]
        exact .crashes ticker c phase going draw rfl drawn
      | value x =>
        have shown : (s.record (.sampled t.run.id)).readClock.2.entered .primary =
          s.entered .primary := drawn
        rw [sample_value draw]
        refine .samples ticker x _ phase going draw rfl ?_
        generalize t.run.stamped x (s.clock s.looks s.now) = r
        exact afterSend_sends (t := { t with run := t.run.afterDraw r.capturedAt }) shown opened _
          (s.primary.sends who r)
  | sending ticker r =>
    have looked := Channel.sends { s.primary with writable := s.primary.writable.resume who } who r
    refine .retries ticker r phase ?_
    exact afterSend_sends (q := { s.primary with writable := s.primary.writable.resume who })
      (s := s) rfl opened ticker looked
  | ended e => simp [ending?, phase] at live

theorem Acts.interval {t t' : Station} {s s' : Scene} (h : t.Acts s t' s') :
    t'.run.interval = t.run.interval := by
  have sent {run : Run} {ticker : Ticker} {r : Reading} (hs : Sends run ticker r s t' s') :
      t'.run.interval = run.interval := by
    cases hs with
    | enters run' | waits run' => rw [run']; rfl
  cases h with
  | stalls _ _ _ run' | starts _ _ _ run' | stops _ _ _ run' | crashes _ _ _ _ _ run' =>
    rw [run']
    rfl
  | samples _ _ _ _ _ _ _ sends => exact (sent sends).trans rfl
  | retries _ _ _ sends => exact sent sends

/-- At most one reading enters, and it is one of the run. -/
theorem Acts.entered {t t' : Station} {s s' : Scene} (h : t.Acts s t' s')
    (own : ∀ r, t.pending? = some r → r.producer = t.run.id) :
    s'.entered .primary = s.entered .primary ∨
      ∃ r, r.producer = t.run.id ∧ s'.entered .primary = s.entered .primary ++ [r] := by
  have sent {run : Run} {ticker : Ticker} {r : Reading} (hr : r.producer = t.run.id)
      (hs : Sends run ticker r s t' s') : s'.entered .primary = s.entered .primary ∨
        ∃ r, r.producer = t.run.id ∧ s'.entered .primary = s.entered .primary ++ [r] := by
    cases hs with
    | enters _ entered => exact .inr ⟨r, hr, entered⟩
    | waits _ entered => exact .inl entered
  cases h with
  | stalls _ _ _ _ entered | starts _ _ _ _ entered | stops _ _ _ _ entered
  | crashes _ _ _ _ _ _ entered => exact .inl entered
  | samples ticker x r phase going draw made sends => exact sent (made ▸ rfl) sends
  | retries ticker r phase sends => exact sent (own r (by simp [pending?, phase])) sends

end Station

namespace Scene

/-- The readings of a producer that entered the primary queue, in order. -/
def sentBy (s : Scene) (id : ProducerId) : List Reading :=
  (s.entered .primary).filter fun r => r.producer = id

structure Beside (s : Scene) (id : ProducerId) (s' : Scene) : Prop where
  now : s'.now = s.now
  clock : s'.clock = s.clock
  looks : s.looks ≤ s'.looks
  sources : s'.sources = s.sources
  created : s'.created.getD id 0 = s.created.getD id 0
  sentBy : s'.sentBy id = s.sentBy id

theorem SameSupply.beside {s s' : Scene} (same : s.SameSupply s') {id : ProducerId}
    (sentBy : s'.sentBy id = s.sentBy id) : s.Beside id s' :=
  ⟨same.now, same.clock, same.looks, same.sources, by rw [same.created], sentBy⟩

theorem sentBy_congr {s s' : Scene} (h : s'.entered .primary = s.entered .primary)
    (id : ProducerId) : s'.sentBy id = s.sentBy id := by rw [sentBy, h, sentBy]

theorem sentBy_own {s s' : Scene} {rs : List Reading} {id : ProducerId}
    (h : s'.entered .primary = s.entered .primary ++ rs) (own : ∀ r ∈ rs, r.producer = id) :
    s'.sentBy id = s.sentBy id ++ rs := by
  rw [sentBy, h, List.filter_append, sentBy, List.filter_eq_self (l := rs) |>.mpr]
  exact fun r hr => decide_eq_true (own r hr)

theorem sentBy_foreign {s s' : Scene} {rs : List Reading} {id : ProducerId}
    (h : s'.entered .primary = s.entered .primary ++ rs) (foreign : ∀ r ∈ rs, r.producer ≠ id) :
    s'.sentBy id = s.sentBy id := by
  rw [sentBy, h, List.filter_append, sentBy, List.filter_eq_nil_iff (l := rs) |>.mpr,
    List.append_nil]
  exact fun r hr => by simpa using foreign r hr

end Scene

namespace Simulation

/-- What a turn is for one slot. -/
inductive AtSlot (m m' : Simulation) (i : Nat) (t t' : Supervisor) : Prop
  | beside (same : t' = t ∨ t.hasEnded = true ∧ t' = { t with joined := true })
      (beside : m.scene.Beside t.slot.id m'.scene)
      (cancelled : m.scene.cancelled = true → m'.scene.cancelled = true)
  | steps (ready : t.isReady = true) (proceeds : t.Proceeds t.faults m.scene t' m'.scene)
      (alike : m.scene.Alike m'.scene)
  | runs (station station' : Station) (phase : t.phase = .supervising station)
      (ready : station.isReady (.slot i) m.scene = true)
      (after : t' = { t with phase := .supervising station', sent := station'.sent })
      (acts : station.Acts m.scene station' m'.scene) (same : m.scene.SameSupply m'.scene)
      (steady : m.scene.Steady m'.scene)
  | time (now : Nat) (later : m.scene.now ≤ now) (same : t' = t)
      (after : m' = { m with scene := { m.scene with now := now } })

section Slotwise
variable {c : Config} {p : Equipment} {m m' : Simulation}

theorem Entry.entered_of_tallies (entry : Entry m m') (same : m'.tallies = m.tallies) :
    m'.scene.entered .primary = m.scene.entered .primary := by
  cases entry with
  | quiet _ _ _ posts => simpa using posts.sent
  | sends i id n rs found own tallies _ _ posts =>
    rw [same] at tallies
    have kept : some (id, n) = some (id, n + rs.length) := by
      rw [← found, tallies, List.getElem?_set_self]
      exact (List.getElem?_eq_some_iff.mp found).1
    have none_sent : rs = [] := List.length_eq_zero_iff.mp (by simpa using kept)
    simpa [none_sent] using posts.sent
  | receives _ _ _ _ _ _ _ posts => simpa using posts.sent
  | fetches _ _ _ _ _ _ _ _ _ _ posts => simpa using posts.sent

theorem tallies_congr (h : m'.supervisors = m.supervisors) : m'.tallies = m.tallies := by
  rw [tallies, h, tallies]

theorem Reachable.ids_ne (h : Reachable c p m) (few : c.producers < UInt32.size) {i j : Nat}
    {t u : Supervisor} (ht : m.supervisors[i]? = some t) (hu : m.supervisors[j]? = some u)
    (hne : i ≠ j) : u.slot.id ≠ t.slot.id :=
  h.booked.distinct few (tallies_found ht) (tallies_found hu) hne

/-- Whatever a turn is, for a slot it is a step of its supervisor or of its run, or time passes, or
nothing happens to the slot but that its end is taken note of. -/
theorem Reachable.atSlot (h : Reachable c p m) (few : c.producers < UInt32.size) (turn : Turn m m')
    {i : Nat} {t' : Supervisor} (found' : m'.supervisors[i]? = some t') :
    ∃ t, m.supervisors[i]? = some t ∧ AtSlot m m' i t t' := by
  have staffed := h.staffed
  have entry := h.entry turn
  have cancelled := turn.cancelled staffed h.ordered
  have rest (supervisors : m'.supervisors = m.supervisors) (same : m.scene.SameSupply m'.scene) :
      ∃ t, m.supervisors[i]? = some t ∧ AtSlot m m' i t t' := by
    have entered := entry.entered_of_tallies (tallies_congr supervisors)
    exact ⟨t', supervisors ▸ found', .beside (.inl rfl)
      (same.beside (Scene.sentBy_congr entered _)) cancelled⟩
  cases turn with
  | shutdown cause phase =>
    refine rest rfl ?_
    exact ((Scene.SameSupply.refl m.scene).log _).trans ⟨rfl, rfl, Nat.le_refl _, rfl, rfl, rfl, rfl⟩
  | closeQueue phase => exact rest rfl (closeQueue_sameSupply m)
  | joinAggregator phase ended =>
    exact rest (joinAggregator_takes m _).keeps.supervisors (joinAggregator_sameSupply m _)
  | joinPublisher phase watched =>
    exact rest (joinPublisher_takes m _).keeps.supervisors (joinPublisher_sameSupply m _)
  | publisher present ready => exact rest rfl (Publisher.step_sameSupply _ _)
  | watcher unseen present ended => exact rest rfl (stepWatcher_sameSupply m _)
  | aggregator ready => exact rest rfl (Aggregator.step_sameSupply _ _)
  | @supervisor j u found ready =>
    obtain ⟨proper, _⟩ := staffed.member j u found
    have proceeds := Supervisor.step_proceeds proper (h.lawful j u found) (s := m.scene) ready
    have passes := Supervisor.step_passes proper m.scene ready
    rcases found_of_set found' with ⟨rfl, rfl⟩ | ⟨hne, found₁⟩
    · exact ⟨u, found, .steps ready proceeds passes.alike⟩
    · refine ⟨t', found₁, .beside (.inl rfl) ?_ cancelled⟩
      have foreign := h.ids_ne few found₁ found hne.symm
      have sentBy := Scene.sentBy_congr (passes.alike.entered .primary) t'.slot.id
      have made (makes : m.scene.Makes u.slot.id (u.step m.scene).2) :
          m.scene.Beside t'.slot.id (u.step m.scene).2 :=
        ⟨makes.now, makes.clock, makes.looks, makes.sources,
          by simp [makes.created, Std.ExtTreeMap.getD_insert, foreign], sentBy⟩
      cases proceeds.goes with
      | finishes _ same => exact same.beside sentBy
      | launches _ _ _ makes => exact made makes
      | dies _ _ _ makes => exact made makes
  | @run j u station found phase ready =>
    obtain ⟨proper, _⟩ := staffed.member j u found
    have opened := h.ordered.opened found (Supervisor.not_hasEnded_of_supervising phase)
    have acts := Station.step_acts (.slot j) (Station.live_of_isReady ready) opened
    have same := Station.step_sameSupply station (.slot j) m.scene
    have moves := Supervisor.stepRun_moves proper phase ready
    rw [Supervisor.stepRun_eq phase] at found' cancelled ⊢
    rcases found_of_set found' with ⟨rfl, rfl⟩ | ⟨hne, found₁⟩
    · exact ⟨u, found, .runs station _ phase ready rfl acts same (moves.steady opened)⟩
    · refine ⟨t', found₁, .beside (.inl rfl) (same.beside ?_) cancelled⟩
      have foreign := h.ids_ne few found₁ found hne.symm
      obtain ⟨id, _, own⟩ := proper.station station phase
      rcases acts.entered fun r hr => (own r hr).trans id.symm with entered | ⟨r, hr, entered⟩
      · exact Scene.sentBy_congr entered _
      · refine Scene.sentBy_foreign entered fun r' hr' => ?_
        rw [List.mem_singleton.mp hr', hr, id]
        exact foreign
  | @join j left u phase found ended unjoined =>
    have joins := join_joins phase ended j
    have entered := joins.alike.entered .primary
    have same := join_sameSupply m j u
    rw [joins.supervisors] at found'
    rcases found_of_set found' with ⟨rfl, rfl⟩ | ⟨hne, found₁⟩
    · exact ⟨u, found, .beside (.inr ⟨ended, rfl⟩)
        (same.beside (Scene.sentBy_congr entered _)) cancelled⟩
    · exact ⟨t', found₁, .beside (.inl rfl) (same.beside (Scene.sentBy_congr entered _)) cancelled⟩
  | time later => exact ⟨t', found', .time _ later rfl rfl⟩
  | cancel | turn => exact rest rfl ⟨rfl, rfl, Nat.le_refl _, rfl, rfl, rfl, rfl⟩

theorem start_sentBy (started : start c p = .ok m) (id : ProducerId) : m.scene.sentBy id = [] := by
  rw [Scene.sentBy, (start_started started).entered]
  rfl

/-- A run adds readings of its slot only. -/
theorem AtSlot.sentBy_runs {t : Supervisor} {station station' : Station} (proper : t.Proper)
    (phase : t.phase = .supervising station) (acts : station.Acts m.scene station' m'.scene)
    {new : List Reading}
    (entered : m'.scene.entered .primary = m.scene.entered .primary ++ new) :
    m'.scene.sentBy t.slot.id = m.scene.sentBy t.slot.id ++ new := by
  obtain ⟨id, _, pending⟩ := proper.station station phase
  refine Scene.sentBy_own entered ?_
  rcases acts.entered fun r hr => (pending r hr).trans id.symm with none | ⟨r, hr, one⟩
  · have : new = [] := by simpa [none] using entered
    simp [this]
  · rw [entered, List.append_cancel_left_eq] at one
    simp [one, hr, id]

/-- What holds of each slot at the start and survives what a turn is for it holds of each slot. -/
theorem Reachable.eachSlot {Q : Nat → Supervisor → Scene → Prop} (h : Reachable c p m)
    (few : c.producers < UInt32.size)
    (start : ∀ {m i}, Simulation.start c p = .ok m → Q i (Supervisor.new (idAt i) c.interval) m.scene)
    (turn : ∀ {m m' i t t'}, Reachable c p m → m.supervisors[i]? = some t → AtSlot m m' i t t' →
      Q i t m.scene → Q i t' m'.scene) :
    ∀ i t, m.supervisors[i]? = some t → Q i t m.scene := by
  refine h.invariant (P := fun m => ∀ i t, m.supervisors[i]? = some t → Q i t m.scene) ?_ ?_
  · intro m started i t found
    rw [(start_started started).found found]
    exact start started
  · intro m m' prior step hm i t' found'
    obtain ⟨t, found, happens⟩ := prior.atSlot few step found'
    exact turn prior found happens (hm i t found)

end Slotwise
end Simulation
end SensorFleet
