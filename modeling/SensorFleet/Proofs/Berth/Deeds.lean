import SensorFleet.Proofs.Outlet.Account

/-!
What a slot does in one step, whatever the primary queue is like. A step of a run takes a tick and
draws once from the source, or looks once for room at the queue, and tells of both in the journal. A
step of a supervisor tells of the moves of its slot and of the source that it asks for; while the
fleet is cancelled it asks for none and moves the slot towards its end only.
-/
namespace SensorFleet

namespace Happening

/-- Whether it tells of a slot: that a source was made for it or drawn from, that a reading of it
entered the primary queue, or that it moved. -/
def regards (id : ProducerId) : Happening → Bool
  | .sourceMade id' | .sampled id' | .notice (.slotMoved id' _ _) => id' = id
  | .entered .primary r => r.producer = id
  | _ => false

/-- Whether it tells of something begun: a source, a draw from one, or a way to the next run. -/
def isOnset : Happening → Bool
  | .sourceMade _ | .sampled _ => true
  | .notice (.slotMoved _ _ target) => target = .starting || target = .running
  | _ => false

def isSampled : Happening → Bool
  | .sampled _ => true
  | _ => false

theorem filterMap_entered (rs : List Reading) :
    (rs.map (entered .primary)).filterMap (entered? .primary) = rs := by
  rw [List.filterMap_map]
  exact List.filterMap_some

end Happening

namespace Scene

def doings (s : Scene) (id : ProducerId) : List Entry :=
  s.journal.reverse.filter fun e => e.what.regards id

theorem doings_record (s : Scene) (w : Happening) (id : ProducerId) :
    (s.record w).doings id = s.doings id ++ if w.regards id then [⟨s.now, w⟩] else [] := by
  simp only [doings, record, List.reverse_cons, List.filter_append, List.filter_singleton,
    Bool.cond_eq_ite]

theorem sentBy_eq_doings (s : Scene) (id : ProducerId) :
    s.sentBy id = (s.doings id).filterMap fun e => e.what.entered? .primary := by
  have own (w : Happening) : (w.entered? .primary).filter (·.producer = id) =
      if w.regards id then w.entered? .primary else none := by
    cases w with
    | entered stage r => cases stage <;> simp [Happening.entered?, Happening.regards, Option.filter]
    | notice n => cases n <;> simp [Happening.entered?]
    | _ => simp [Happening.entered?]
  simp only [sentBy, entered, history, doings, List.filter_filterMap, List.filterMap_filter, own]

namespace Tells
variable {s s' : Scene} {what : List Happening} {observed : List Observation}

theorem doings (h : s.Tells what observed s') (id : ProducerId) :
    s'.doings id = s.doings id ++ (what.filter (·.regards id)).map (Entry.mk s.now) := by
  rw [Scene.doings, h.journal, List.reverse_append, List.reverse_reverse, List.filter_append,
    List.filter_map]
  rfl

theorem entered (h : s.Tells what observed s') (stage : Stage) :
    s'.entered stage = s.entered stage ++ what.filterMap (Happening.entered? stage) := by
  rw [Scene.entered, history, h.journal, List.reverse_append, List.reverse_reverse,
    List.filterMap_append, List.filterMap_map]
  rfl

theorem readClock (h : s.Tells what observed s') : s.Tells what observed s'.readClock.2 :=
  ⟨h.now, h.cancelled, h.counts, h.journal, h.metrics⟩

theorem makeSource (h : s.Tells what observed s') (id : ProducerId) :
    s.Tells (what ++ [.sourceMade id]) observed (s'.makeSource id).2 :=
  have made := h.record (.sourceMade id)
  ⟨made.now, made.cancelled, made.counts, made.journal, made.metrics⟩

end Tells
end Scene

namespace SendLook

def phase (ticker : Ticker) (r : Reading) : SendLook → RunPhase
  | .accepted => .ticking ticker
  | .refused => .ended (.returned .refused)
  | .waits => .sending ticker r

def readings (r : Reading) : SendLook → List Reading
  | .accepted => [r]
  | _ => []

theorem eq_of_mem_readings {r r' : Reading} {look : SendLook} (h : r' ∈ look.readings r) :
    r' = r := by
  cases look with
  | accepted => exact List.mem_singleton.mp h
  | refused | waits => cases h

end SendLook

namespace Station

structure Leaves (t : Station) (s : Scene) (phase : RunPhase) (what : List Happening)
    (rs : List Reading) (looks : Nat) (t' : Station) (s' : Scene) : Prop where
  phase : t'.run.phase = phase
  id : t'.run.id = t.run.id
  interval : t'.run.interval = t.run.interval
  sent : t'.sent = t.sent + rs.length
  tells : ∃ observed, s.Tells (what ++ rs.map (.entered .primary)) observed s'
  looks : s'.looks = s.looks + looks

inductive Does (t : Station) (s : Scene) (t' : Station) (s' : Scene) : Prop
  | stalls (fault : TickerFault) (created : t.run.phase = .created)
      (refused : Ticker.start? s.now t.run.interval = .error fault)
      (leaves : t.Leaves s (.ended (.crashed (.text fault.message))) [] [] 0 t' s')
  | starts (ticker : Ticker) (created : t.run.phase = .created)
      (made : Ticker.start? s.now t.run.interval = .ok ticker)
      (leaves : t.Leaves s (.ticking ticker) [.notice (.producerStarting t.run.id)] [] 0 t' s')
  | stops (ticker : Ticker) (ticking : t.run.phase = .ticking ticker)
      (cancelled : s.cancelled = true) (leaves : t.Leaves s (.ended (.returned .finished))
        [.notice (.producerStopping t.run.id t.sent)] [] 0 t' s')
  | crashes (ticker : Ticker) (c : Crash) (ticking : t.run.phase = .ticking ticker)
      (going : s.cancelled = false) (draw : t.run.source t.run.drawn = .crash c)
      (leaves : t.Leaves s (.ended (.crashed c)) [.sampled t.run.id] [] 0 t' s')
  | samples (ticker : Ticker) (x : Binary64) (r : Reading) (look : SendLook)
      (ticking : t.run.phase = .ticking ticker) (going : s.cancelled = false)
      (draw : t.run.source t.run.drawn = .value x) (own : r.producer = t.run.id)
      (leaves : t.Leaves s (look.phase (ticker.advance s.now) r) [.sampled t.run.id]
        (look.readings r) 1 t' s')
  | retries (ticker : Ticker) (r : Reading) (look : SendLook)
      (sending : t.run.phase = .sending ticker r)
      (leaves : t.Leaves s (look.phase ticker r) [] (look.readings r) 0 t' s')

section Steps
variable {t t₁ t' : Station} {s s₁ s' : Scene} {phase : RunPhase} {what : List Happening}
  {rs : List Reading} {looks : Nat}

theorem Leaves.afterSend (h : t.Leaves s phase what [] looks t₁ s₁) (ticker : Ticker) (r : Reading)
    (look : SendLook × ReadingQueue) :
    t.Leaves s (look.1.phase ticker r) what (look.1.readings r) looks
      (t₁.afterSend ticker r (s₁.afterSend .primary r look)).1
      (t₁.afterSend ticker r (s₁.afterSend .primary r look)).2 := by
  obtain ⟨_, id, interval, sent, ⟨observed, tells⟩, looked⟩ := h
  rw [List.map_nil, List.append_nil] at tells
  obtain ⟨look, q⟩ := look
  cases look with
  | accepted =>
    refine ⟨rfl, id, interval, congrArg (· + 1) sent,
      ⟨observed ++ [.readingSent t₁.run.id], ?_⟩, ?_⟩
    · exact ((tells.setQueue .primary q).record (.entered .primary r)).count _
    · change (Scene.count _ _).looks = _
      rw [Scene.count_eq]
      exact looked
  | refused | waits =>
    refine ⟨rfl, id, interval, sent, ⟨observed, ?_⟩, looked⟩
    have told := tells.setQueue .primary q
    rwa [← List.append_nil what] at told

theorem step_does (t : Station) (who : Party) (s : Scene) (live : t.ending? = none) :
    t.Does s (t.step who s).1 (t.step who s).2 := by
  have untold := Scene.Tells.refl s
  unfold step
  cases phase : t.run.phase with
  | created =>
    dsimp only
    split
    next fault refused => exact .stalls fault phase refused ⟨rfl, rfl, rfl, rfl, ⟨_, untold⟩, rfl⟩
    next ticker made =>
      exact .starts ticker phase made ⟨rfl, rfl, rfl, rfl, ⟨_, untold.log _⟩, rfl⟩
  | ticking ticker =>
    dsimp only
    split
    next cancelled =>
      exact .stops ticker phase cancelled ⟨rfl, rfl, rfl, rfl, ⟨_, untold.log _⟩, rfl⟩
    next going =>
      rw [Bool.not_eq_true] at going
      have drawn := untold.record (.sampled t.run.id)
      cases draw : t.run.source t.run.drawn with
      | crash c =>
        rw [sample_crash draw]
        exact .crashes ticker c phase going draw ⟨rfl, rfl, rfl, rfl, ⟨_, drawn⟩, rfl⟩
      | value x =>
        rw [sample_value draw]
        generalize made : t.run.stamped x (s.clock s.looks s.now) = r
        have own : r.producer = t.run.id := made ▸ rfl
        have sampled : t.Leaves s (.ticking ticker) [.sampled t.run.id] [] 1
            { t with run := t.run.afterDraw r.capturedAt }
            (s.record (.sampled t.run.id)).readClock.2 :=
          ⟨phase, rfl, rfl, rfl, ⟨_, drawn.readClock⟩, rfl⟩
        exact .samples ticker x r _ phase going draw own
          (sampled.afterSend (ticker.advance s.now) r _)
  | sending ticker r =>
    have idle : t.Leaves s (.sending ticker r) [] [] 0 t s :=
      ⟨phase, rfl, rfl, rfl, ⟨_, untold⟩, rfl⟩
    exact .retries ticker r _ phase (idle.afterSend ticker r _)
  | ended e => simp [ending?, phase] at live

theorem Does.interval (h : t.Does s t' s') : t'.run.interval = t.run.interval := by
  cases h with
  | stalls _ _ _ leaves | starts _ _ _ leaves | stops _ _ _ leaves | crashes _ _ _ _ _ leaves
  | samples _ _ _ _ _ _ _ _ leaves | retries _ _ _ _ leaves => exact leaves.interval

theorem Does.tells (h : t.Does s t' s') : ∃ what observed, s.Tells what observed s' := by
  cases h with
  | stalls _ _ _ leaves | starts _ _ _ leaves | stops _ _ _ leaves | crashes _ _ _ _ _ leaves
  | samples _ _ _ _ _ _ _ _ leaves | retries _ _ _ _ leaves => exact ⟨_, leaves.tells⟩

theorem Leaves.entered (h : t.Leaves s phase what rs looks t' s')
    (asides : what.filterMap (Happening.entered? .primary) = []) :
    s'.entered .primary = s.entered .primary ++ rs := by
  obtain ⟨observed, tells⟩ := h.tells
  rw [tells.entered, List.filterMap_append, asides, Happening.filterMap_entered, List.nil_append]

theorem Does.enters (h : t.Does s t' s') (own : ∀ r, t.pending? = some r → r.producer = t.run.id) :
    ∃ rs, s'.sentBy t.run.id = s.sentBy t.run.id ++ rs ∧ t'.sent = t.sent + rs.length := by
  have enters {phase : RunPhase} {what : List Happening} {rs : List Reading} {looks : Nat}
      (leaves : t.Leaves s phase what rs looks t' s')
      (asides : what.filterMap (Happening.entered? .primary) = [])
      (own : ∀ r ∈ rs, r.producer = t.run.id) :
      ∃ rs, s'.sentBy t.run.id = s.sentBy t.run.id ++ rs ∧ t'.sent = t.sent + rs.length :=
    ⟨rs, Scene.sentBy_own (leaves.entered asides) own, leaves.sent⟩
  cases h with
  | stalls _ _ _ leaves | starts _ _ _ leaves | stops _ _ _ leaves | crashes _ _ _ _ _ leaves =>
    exact enters leaves rfl (by simp)
  | samples ticker x r look ticking going draw mine leaves =>
    exact enters leaves rfl fun r' listed => SendLook.eq_of_mem_readings listed ▸ mine
  | retries ticker r look sending leaves =>
    have mine := own r (by simp [pending?, sending])
    exact enters leaves rfl fun r' listed => SendLook.eq_of_mem_readings listed ▸ mine

end Steps
end Station

namespace Supervisor

structure Tells (s s' : Scene) : Prop where
  tells : ∃ what observed, s.Tells what observed s' ∧
    ∀ w ∈ what, w.isSampled = false ∧ w.entered? .primary = none ∧
      (s.cancelled = true → w.isOnset = false)
  looks : s'.looks = s.looks

namespace Tells
variable {s s' : Scene}

theorem refl (s : Scene) : Tells s s := ⟨⟨[], [], .refl s, by simp⟩, rfl⟩

theorem record (h : Tells s s') {w : Happening} (unsampled : w.isSampled = false)
    (outside : w.entered? .primary = none) (onset : s.cancelled = true → w.isOnset = false) :
    Tells s (s'.record w) := by
  obtain ⟨⟨what, observed, tells, each⟩, looks⟩ := h
  refine ⟨⟨_, _, tells.record w, ?_⟩, looks⟩
  simp only [List.mem_append, List.mem_singleton, or_imp, forall_and, forall_eq]
  simp only [forall_and] at each
  exact ⟨⟨each.1, unsampled⟩, ⟨each.2.1, outside⟩, each.2.2, onset⟩

theorem log (h : Tells s s') {n : Notice}
    (onset : s.cancelled = true → (Happening.notice n).isOnset = false) : Tells s (s'.log n) :=
  h.record rfl rfl onset

theorem count (h : Tells s s') (o : Observation) : Tells s (s'.count o) := by
  obtain ⟨⟨what, observed, tells, each⟩, looks⟩ := h
  refine ⟨⟨what, _, tells.count o, each⟩, ?_⟩
  rw [Scene.count_eq]
  exact looks

theorem makeSource (h : Tells s s') (id : ProducerId) (going : s.cancelled = false) :
    Tells s (s'.makeSource id).2 := by
  obtain ⟨⟨what, observed, tells, each⟩, looks⟩ := h
  refine ⟨⟨_, _, tells.makeSource id, ?_⟩, looks⟩
  simp only [List.mem_append, List.mem_singleton, or_imp, forall_and, forall_eq]
  simp only [forall_and] at each
  exact ⟨⟨each.1, rfl⟩, ⟨each.2.1, rfl⟩, each.2.2, by simp [going]⟩

/-- On its way to its end a slot passes through no state of something begun. -/
theorem logPath (h : Tells s s') (id : ProducerId) (source : SlotState) {path : List SlotState}
    (final : ∀ target ∈ path, target = .stopping ∨ target = .stopped) :
    Tells s (s'.logPath id source path) := by
  induction path generalizing s' source with
  | nil => exact h
  | cons target rest ih =>
    obtain ⟨first, later⟩ := List.forall_mem_cons.mp final
    refine ih (h.log fun _ => ?_) target later
    rcases first with rfl | rfl <;> rfl

theorem cancelled (h : Tells s s') : s'.cancelled = s.cancelled := by
  obtain ⟨⟨_, _, tells, _⟩, _⟩ := h
  exact tells.cancelled

theorem finish (h : Tells s s') (t : Supervisor) : Tells s (t.finish s').2 := by
  unfold Supervisor.finish
  rw [Slot.stop_eq]
  refine h.logPath _ _ fun target listed => ?_
  cases state : t.slot.state <;> simp_all [SlotState.pathToStop]

theorem launch (h : Tells s s') (t : Supervisor) : Tells s (t.launch s').2 := by
  unfold Supervisor.launch
  split
  · exact h.finish t
  next going =>
    rw [h.cancelled, Bool.not_eq_true] at going
    have made := h.makeSource t.slot.id going
    generalize s'.makeSource t.slot.id = creation at made
    obtain ⟨creation, s₁⟩ := creation
    cases creation with
    | crash c => exact made
    | source source =>
      dsimp only
      cases t.slot.startRun with
      | error e => exact made
      | ok slot => exact (made.log (by simp [going])).count _

theorem afterCrash (h : Tells s s') (t : Supervisor) (c : Crash) :
    Tells s (t.afterCrash s' c).2 := by
  unfold Supervisor.afterCrash
  cases t.slot.recordFault c.message with
  | error e => exact h
  | ok slot =>
    have recorded := ((h.log (n := .slotMoved slot.id t.slot.state .faulted) fun _ => rfl).count
      (.producerRestarted slot.id)).log
      (n := .producerFaulted ⟨slot.id, slot.attempts, c.message⟩) fun _ => rfl
    dsimp only
    split
    · exact (recorded.log (n := .notRestarting slot.id) fun _ => rfl).finish _
    next going =>
      rw [recorded.cancelled, Bool.not_eq_true] at going
      cases slot.moveTo .starting with
      | error e => exact recorded
      | ok next =>
        exact ((recorded.log (n := .slotMoved slot.id slot.state .starting)
          (by simp [going])).log (n := .restarting slot.id next.restarts) fun _ => rfl).launch _

theorem afterRun (h : Tells s s') (t : Supervisor) (e : Ending RunResult) :
    Tells s (t.afterRun s' e).2 := by
  have stopped := h.count (.producerStopped t.slot.id)
  unfold Supervisor.afterRun
  cases e with
  | returned result =>
    cases result with
    | finished => exact stopped.finish t
    | refused => exact (stopped.log (n := .sendRefused t.slot.id) fun _ => rfl).finish t
  | crashed c => exact stopped.afterCrash t c

end Tells

theorem step_tells (t : Supervisor) (s : Scene) : Tells s (t.step s).2 := by
  unfold step
  cases t.phase with
  | created => exact (Tells.refl s).launch t
  | supervising station =>
    dsimp only
    cases station.ending? with
    | none => exact .refl s
    | some e => exact (Tells.refl s).afterRun _ e
  | ended e => exact .refl s

end Supervisor
end SensorFleet
