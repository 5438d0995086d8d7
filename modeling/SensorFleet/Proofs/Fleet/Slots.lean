import SensorFleet.Fleet.Supervisor
import SensorFleet.Proofs.Fleet.Journal
import SensorFleet.Proofs.Queue.Look
import SensorFleet.Proofs.Slot.Calls

/-!
Steps of runs and of their supervisors. A step of a run leaves the scene alone but for one look at
the primary queue, and counts a reading exactly when it enters. A step of a supervisor leaves both
queues alone; it ends the supervision or goes on with a fresh run of the same slot.
-/
namespace SensorFleet

namespace Station

/-- The reading with which the run waits for room. -/
def pending? (t : Station) : Option Reading :=
  match t.run.phase with
  | .sending _ r => some r
  | _ => none

theorem live_of_isReady {t : Station} {who : Party} {s : Scene} (h : t.isReady who s = true) :
    t.ending? = none := by
  unfold isReady at h
  unfold ending?
  split
  next he => simp [he] at h
  next => rfl

inductive Moves (t : Station) (who : Party) (s : Scene) (t' : Station) (s' : Scene) : Prop
  | rests (alike : s.Alike s') (sent : t'.sent = t.sent) (idle : t.pending? = none)
      (idle' : t'.pending? = none) (unrefused : t'.ending? ≠ some (.returned .refused))
  | enters (r : Reading) (own : r.producer = t.run.id) (opened : s.primary.isClosed = false)
      (alike : ((s.setQueue .primary ((s.primary.writerBack who t.pending?.isSome).push r)).record
        (.entered .primary r)).Alike s')
      (sent : t'.sent = t.sent + 1) (idle' : t'.pending? = none) (live : t'.ending? = none)
  | parks (r : Reading) (own : r.producer = t.run.id) (opened : s.primary.isClosed = false)
      (full : s.primary.capacity ≤ s.primary.length)
      (alike : (s.setQueue .primary
        ((s.primary.writerBack who t.pending?.isSome).writerParked who)).Alike s')
      (sent : t'.sent = t.sent) (pending' : t'.pending? = some r) (live : t'.ending? = none)
  | refused (closed : s.primary.isClosed = true) (sent : t'.sent = t.sent)
      (idle' : t'.pending? = none)

/-- At an open queue no reading is refused. -/
theorem Moves.steady {t t' : Station} {who : Party} {s s' : Scene} (h : t.Moves who s t' s')
    (opened : s.primary.isClosed = false) : s.Steady s' := by
  have hs := Scene.Steady.refl s
  cases h with
  | rests alike => exact alike.steady
  | enters r own _ alike =>
    refine Scene.Steady.alike (Scene.Steady.record ?_ rfl) alike
    exact hs.setPrimary rfl rfl
  | parks r own _ full alike =>
    refine Scene.Steady.alike ?_ alike
    exact hs.setPrimary rfl rfl
  | refused closed => simp [opened] at closed

theorem Moves.unrefused {t t' : Station} {who : Party} {s s' : Scene} (h : t.Moves who s t' s')
    (opened : s.primary.isClosed = false) : t'.ending? ≠ some (.returned .refused) := by
  cases h with
  | rests _ _ _ _ unrefused => exact unrefused
  | enters r own _ alike sent idle' live => simp [live]
  | parks r own _ full alike sent pending' live => simp [live]
  | refused closed => simp [opened] at closed

theorem sample_alike (t : Station) (s : Scene) : s.Alike (t.sample s).2 := by
  have hr : s.Alike (s.record (.sampled t.run.id)) := Scene.alike_record rfl
  unfold sample
  dsimp only
  split
  · exact hr
  · exact hr.trans (Scene.alike_readClock _)

theorem sample_ok {t t₁ : Station} {s : Scene} {r : Reading} (h : (t.sample s).1 = .ok (r, t₁)) :
    r.producer = t.run.id ∧ t₁.run.id = t.run.id ∧ t₁.sent = t.sent := by
  unfold sample at h
  dsimp only at h
  split at h
  · cases h
  · injection h with h
    injection h with hr ht
    subst hr ht
    exact ⟨rfl, rfl, rfl⟩

theorem afterSend_moves {t t₁ : Station} {who : Party} {s s₁ : Scene} {r : Reading}
    (alike : s.Alike s₁) (own : r.producer = t.run.id) (sent : t₁.sent = t.sent) (ticker : Ticker)
    {look : SendLook × ReadingQueue}
    (hl : (s.primary.writerBack who t.pending?.isSome).send who r = look) :
    t.Moves who s (t₁.afterSend ticker r (s₁.afterSend .primary r look)).1
      (t₁.afterSend ticker r (s₁.afterSend .primary r look)).2 := by
  have hs := (s.primary.writerBack who t.pending?.isSome).sends who r
  rw [hl] at hs
  cases hs with
  | refused closed => exact .refused closed sent rfl
  | waits opened full => exact .parks r own opened full (alike.setQueue _ _) sent rfl rfl
  | accepted opened room =>
    refine .enters r own opened ?_ (congrArg (· + 1) sent) rfl rfl
    exact ((alike.setQueue _ _).record _).trans (Scene.alike_count fun _ => rfl)

theorem step_moves {t : Station} (who : Party) (s : Scene) (live : t.ending? = none)
    (own : ∀ r, t.pending? = some r → r.producer = t.run.id) :
    t.Moves who s (t.step who s).1 (t.step who s).2 := by
  unfold step
  cases hp : t.run.phase with
  | created =>
    have idle : t.pending? = none := by simp [pending?, hp]
    dsimp only
    split
    · exact .rests (.refl s) rfl idle rfl (by simp [ending?, endWith])
    · exact .rests (Scene.alike_log rfl) rfl idle rfl (by simp [ending?, enter])
  | ticking ticker =>
    have idle : t.pending? = none := by simp [pending?, hp]
    dsimp only
    split
    · exact .rests (Scene.alike_log rfl) rfl idle rfl (by simp [ending?, endWith])
    · have hs := t.sample_alike s
      cases hr : t.sample s with
      | mk made s₁ =>
        rw [hr] at hs
        cases made with
        | error c => exact .rests hs rfl idle rfl (by simp [ending?, endWith])
        | ok made =>
          obtain ⟨hown, _, hsent⟩ := sample_ok (congrArg Prod.fst hr)
          refine afterSend_moves hs hown hsent _ ?_
          rw [idle, hs.queue .primary]
          rfl
  | sending ticker r =>
    have pending : t.pending? = some r := by simp [pending?, hp]
    refine afterSend_moves (.refl s) (own r pending) rfl ticker ?_
    rw [pending]
    rfl
  | ended e => simp [ending?, hp] at live

theorem step_id (t : Station) (who : Party) (s : Scene) : (t.step who s).1.run.id = t.run.id := by
  have hafter (t₁ : Station) (ticker : Ticker) (r : Reading) (look : SendLook × Scene) :
      (t₁.afterSend ticker r look).1.run.id = t₁.run.id := by
    obtain ⟨look, s₁⟩ := look
    cases look <;> rfl
  unfold step
  split
  · split <;> rfl
  · split
    · rfl
    · cases hr : t.sample s with
      | mk made s₁ =>
        cases made with
        | error c => rfl
        | ok made => exact (hafter _ _ _ _).trans (sample_ok (congrArg Prod.fst hr)).2.1
  · exact hafter _ _ _ _
  · rfl

end Station

namespace Supervisor

def pending? (t : Supervisor) : Option Reading :=
  match t.phase with
  | .supervising station => station.pending?
  | _ => none

theorem phase_of_ending {t : Supervisor} {e : Ending (Except SlotError SlotReport)}
    (h : t.ending? = some e) : t.phase = .ended e := by
  unfold ending? at h
  split at h
  next he => rw [he, Option.some.inj h]
  next => cases h

theorem phase_of_hasEnded {t : Supervisor} (h : t.hasEnded = true) : ∃ e, t.phase = .ended e := by
  obtain ⟨e, he⟩ := Option.isSome_iff_exists.mp h
  exact ⟨e, phase_of_ending he⟩

theorem not_hasEnded_of_isReady {t : Supervisor} (h : t.isReady = true) : t.hasEnded = false := by
  unfold isReady at h
  unfold hasEnded ending?
  split
  next e he => simp [he] at h
  next => rfl

theorem not_hasEnded_of_supervising {t : Supervisor} {station : Station}
    (h : t.phase = .supervising station) : t.hasEnded = false := by
  simp [hasEnded, ending?, h]

def Reports (t : Supervisor) (report : SlotReport) : Prop :=
  report.producer = t.slot.id ∧ report.state = .stopped ∧ report.sent = t.sent

structure Proper (t : Supervisor) : Prop where
  station : ∀ station, t.phase = .supervising station →
    station.run.id = t.slot.id ∧ station.sent = t.sent ∧
      ∀ r, station.pending? = some r → r.producer = t.slot.id
  report : ∀ report, t.phase = .ended (.returned (.ok report)) → t.Reports report

structure Passes (t : Supervisor) (s : Scene) (t' : Supervisor) (s' : Scene) : Prop where
  alike : s.Alike s'
  slot : t'.slot.id = t.slot.id
  sent : t'.sent = t.sent
  joined : t'.joined = t.joined
  next : (∃ run : Run, t'.phase = .supervising ⟨run, t.sent⟩ ∧ run.phase = .created ∧
      run.id = t.slot.id) ∨
    ∃ e, t'.phase = .ended e ∧ ∀ report, e = .returned (.ok report) → t.Reports report

namespace Passes
variable {t t₁ t' : Supervisor} {s s₁ s' : Scene}

theorem after (h : t₁.Passes s₁ t' s') (alike : s.Alike s₁) (slot : t₁.slot.id = t.slot.id)
    (sent : t₁.sent = t.sent) (joined : t₁.joined = t.joined) : t.Passes s t' s' := by
  refine ⟨alike.trans h.alike, h.slot.trans slot, h.sent.trans sent, h.joined.trans joined, ?_⟩
  have hn := h.next
  unfold Reports at hn ⊢
  rwa [slot, sent] at hn

theorem pending (h : t.Passes s t' s') : t'.pending? = none := by
  unfold pending?
  rcases h.next with ⟨run, hp, hc, _⟩ | ⟨e, hp, _⟩
  · simp [hp, Station.pending?, hc]
  · simp [hp]

theorem proper (h : t.Passes s t' s') : t'.Proper := by
  rcases h.next with ⟨run, hp, hc, hid⟩ | ⟨e, hp, hr⟩
  · refine ⟨?_, fun report he => by simp [hp] at he⟩
    intro station he
    rw [hp] at he
    injection he with he
    subst he
    exact ⟨hid.trans h.slot.symm, h.sent.symm, by simp [Station.pending?, hc]⟩
  · refine ⟨fun station he => by simp [hp] at he, ?_⟩
    intro report he
    rw [hp] at he
    injection he with he
    have hrep := hr report he
    unfold Reports at hrep ⊢
    rwa [h.slot, h.sent]

end Passes

theorem endWith_passes (t : Supervisor) (s : Scene) {e : Ending (Except SlotError SlotReport)}
    (he : ∀ report, e = .returned (.ok report) → t.Reports report) :
    t.Passes s (t.endWith s e).1 (t.endWith s e).2 :=
  ⟨.refl s, rfl, rfl, rfl, .inr ⟨e, rfl, he⟩⟩

theorem finish_passes (t : Supervisor) (s : Scene) :
    t.Passes s (t.finish s).1 (t.finish s).2 := by
  unfold finish
  rw [Slot.stop_eq]
  refine (endWith_passes _ _ ?_).after (Scene.alike_logPath _ _ _ _) rfl rfl rfl
  intro report he
  injection he with he
  injection he with he
  subst he
  exact ⟨rfl, rfl, rfl⟩

theorem launch_passes (t : Supervisor) (s : Scene) :
    t.Passes s (t.launch s).1 (t.launch s).2 := by
  unfold launch
  split
  · exact finish_passes t s
  · have hm := s.alike_makeSource t.slot.id
    cases hs : s.makeSource t.slot.id with
    | mk made s₁ =>
      rw [hs] at hm
      cases made with
      | crash c =>
        exact (endWith_passes t s₁ (by simp)).after hm rfl rfl rfl
      | source source =>
        dsimp only
        cases hr : t.slot.startRun with
        | error e => exact (endWith_passes t s₁ (by simp)).after hm rfl rfl rfl
        | ok slot =>
          have hid := Slot.startRun_id hr
          refine ⟨(hm.trans (Scene.alike_log rfl)).trans (Scene.alike_count fun _ => rfl), hid, rfl,
            rfl, .inl ⟨_, rfl, rfl, hid⟩⟩

theorem afterCrash_passes (t : Supervisor) (s : Scene) (c : Crash) :
    t.Passes s (t.afterCrash s c).1 (t.afterCrash s c).2 := by
  unfold afterCrash
  cases hf : t.slot.recordFault c.message with
  | error e => exact endWith_passes t s (by simp)
  | ok slot =>
    have hid := Slot.recordFault_id hf
    have hs : s.Alike (((s.log (.slotMoved slot.id t.slot.state .faulted)).count
        (.producerRestarted slot.id)).log (.producerFaulted ⟨slot.id, slot.attempts, c.message⟩)) :=
      ((Scene.alike_log rfl).trans (Scene.alike_count fun _ => rfl)).trans (Scene.alike_log rfl)
    dsimp only
    split
    · exact (finish_passes _ _).after (hs.trans (Scene.alike_log rfl)) hid rfl rfl
    · cases hm : slot.moveTo .starting with
      | error e => exact (endWith_passes _ _ (by simp)).after hs hid rfl rfl
      | ok next =>
        have hn : next.id = slot.id := by rw [Slot.moveTo_ok hm]
        exact (launch_passes _ _).after
          ((hs.trans (Scene.alike_log rfl)).trans (Scene.alike_log rfl)) (hn.trans hid) rfl rfl

theorem afterRun_passes (t : Supervisor) (s : Scene) (e : Ending RunResult) :
    t.Passes s (t.afterRun s e).1 (t.afterRun s e).2 := by
  have hs : s.Alike (s.count (.producerStopped t.slot.id)) := Scene.alike_count fun _ => rfl
  unfold afterRun
  cases e with
  | returned result =>
    cases result with
    | finished => exact (finish_passes _ _).after hs rfl rfl rfl
    | refused => exact (finish_passes _ _).after (hs.trans (Scene.alike_log rfl)) rfl rfl rfl
  | crashed c => exact (afterCrash_passes _ _ _).after hs rfl rfl rfl

theorem step_passes {t : Supervisor} (h : t.Proper) (s : Scene) (ready : t.isReady = true) :
    t.Passes s (t.step s).1 (t.step s).2 := by
  unfold isReady at ready
  unfold step
  cases hp : t.phase with
  | created => exact launch_passes t s
  | supervising station =>
    simp only [hp] at ready
    obtain ⟨e, he⟩ := Option.isSome_iff_exists.mp ready
    simp only [he]
    exact (afterRun_passes _ _ _).after (.refl s) rfl (h.station station hp).2.1 rfl
  | ended e => simp [hp] at ready

/-- A supervisor that can go on has no run that waits. -/
theorem pending_of_ready {t : Supervisor} (ready : t.isReady = true) : t.pending? = none := by
  unfold isReady at ready
  unfold pending?
  cases hp : t.phase with
  | created => rfl
  | supervising station =>
    simp only [hp, Station.ending?] at ready ⊢
    unfold Station.pending?
    split at ready
    next he => simp [he]
    next => cases ready
  | ended e => rfl

theorem stepRun_eq {t : Supervisor} {station : Station} (h : t.phase = .supervising station)
    (who : Party) (s : Scene) :
    t.stepRun who s =
      ({ t with
          phase := .supervising (station.step who s).1
          sent := (station.step who s).1.sent }, (station.step who s).2) := by
  simp [stepRun, h]

end Supervisor
end SensorFleet
