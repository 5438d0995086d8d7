import SensorFleet.Proofs.Fleet.Order
import SensorFleet.Proofs.Queue.Waiting

/-!
Who waits where. The writers on the books of the primary queue are the slots whose runs hold a
reading back, its only reader is the aggregator, and the only reader of the fan-out is the
publisher; each is on the books exactly when it is parked. Nobody waits to write into the fan-out.
-/
namespace SensorFleet

def Party.reads (who : Party) (parked : Bool) : Party → Prop := fun x => parked = true ∧ x = who

namespace Channel.Attended
variable {q : ReadingQueue} {W : Party → Prop} {who : Party} {parked : Bool}

theorem reader_gone (x : Party) :
    who.reads parked x ∧ x ≠ who ↔ who.reads false x := by
  simp only [Party.reads]
  tauto

theorem reader_parked (x : Party) : x = who ∨ who.reads false x ↔ who.reads true x := by
  simp [Party.reads]

theorem back (h : q.Attended 0 0 W (who.reads parked))
    (woken : parked = true → q.isReaderWoken who = true) :
    (q.readerBack who parked).Attended 1 0 W (who.reads false) := by
  cases parked with
  | false => exact h.mono (Nat.zero_le 1) (Nat.le_refl 0)
  | true => exact (h.readerBack (woken rfl)).congr (fun _ => Iff.rfl) reader_gone

theorem leave (h : q.Attended 0 0 W (who.reads parked)) :
    (if parked then q.abandonRecv who else q).Attended 0 0 W (who.reads false) := by
  cases parked with
  | false => exact h
  | true => exact (h.abandonRecv who).congr (fun _ => Iff.rfl) reader_gone

theorem parkSole {r w : Nat} (h : q.Attended r w W (who.reads false)) (opened : q.isClosed = false)
    (buffer : q.buffer = []) :
    (q.readerParked who).Attended 0 w W (who.reads true) :=
  (h.parkReader opened buffer (by simp [Party.reads])).congr (fun _ => Iff.rfl) reader_parked

end Channel.Attended

namespace Scene

structure Attended (s : Scene) (W : Party → Prop) (a p : Bool) : Prop where
  primary : s.primary.Attended 0 0 W (Party.aggregator.reads a)
  fanout : s.fanout.Attended 0 0 (fun _ => False) (Party.publisher.reads p)

theorem Attended.alike {s s' : Scene} {W : Party → Prop} {a p : Bool} (h : s.Attended W a p)
    (ha : s.Alike s') : s'.Attended W a p :=
  ⟨ha.primary ▸ h.primary, ha.fanout ▸ h.fanout⟩

theorem abandonRecv_queue (s : Scene) (stage : Stage) (who : Party) (parked : Bool) :
    s.abandonRecv stage who parked = s.setQueue stage
      (if parked then (s.queue stage).abandonRecv who else s.queue stage) := by
  cases parked
  · cases stage <;> rfl
  · rfl

end Scene

namespace Station

theorem woken_of_isReady {t : Station} {who : Party} {s : Scene} (h : t.isReady who s = true)
    (pending : t.pending?.isSome = true) : s.primary.isWriterWoken who = true := by
  unfold isReady at h
  unfold pending? at pending
  split at h
  next he => simp [he] at pending
  next he => simp [he] at pending
  next => exact h
  next he => simp [he] at pending

theorem Moves.attended {t t' : Station} {who : Party} {s s' : Scene} (h : t.Moves who s t' s')
    {W : Party → Prop} {a p : Bool} (hs : s.Attended W a p)
    (known : W who ↔ t.pending?.isSome = true)
    (woken : t.pending?.isSome = true → s.primary.isWriterWoken who = true)
    (opened : s.primary.isClosed = false) :
    s'.Attended (fun x => (x = who ∧ t'.pending?.isSome = true) ∨ x ≠ who ∧ W x) a p := by
  have found : (s.primary.writerBack who t.pending?.isSome).Attended 0 1 (fun x => W x ∧ x ≠ who)
      (Party.aggregator.reads a) := by
    cases hp : t.pending?.isSome with
    | true => exact hs.primary.writerBack (woken hp)
    | false =>
      refine (hs.primary.mono (Nat.le_refl 0) (Nat.zero_le 1)).congr (fun x => ?_) fun _ => Iff.rfl
      constructor
      · intro hx
        refine ⟨hx, ?_⟩
        rintro rfl
        simp [known, hp] at hx
      · exact fun hx => hx.1
  cases h with
  | rests alike sent idle idle' =>
    have hw : ¬W who := by simp [known, idle]
    refine ⟨?_, alike.fanout ▸ hs.fanout⟩
    rw [alike.primary]
    refine hs.primary.congr (fun x => ?_) fun _ => Iff.rfl
    have hx : W x → x ≠ who := by
      rintro hx rfl
      exact hw hx
    simp only [idle', Option.isSome_none, Bool.false_eq_true, and_false, false_or]
    exact ⟨fun h => ⟨hx h, h⟩, fun h => h.2⟩
  | enters r own _ alike sent idle' =>
    refine ⟨?_, ?_⟩
    · rw [alike.primary]
      refine (found.push opened r).congr (fun x => ?_) fun _ => Iff.rfl
      simp only [idle', Option.isSome_none, Bool.false_eq_true, and_false, false_or]
      exact and_comm
    · exact alike.fanout ▸ hs.fanout
  | parks r own _ full alike sent pending' =>
    refine ⟨?_, ?_⟩
    · rw [alike.primary]
      refine (found.parkWriter opened full (by simp)).congr (fun x => ?_)
        fun _ => Iff.rfl
      simp only [pending', Option.isSome_some, and_true]
      exact or_congr_right and_comm
    · exact alike.fanout ▸ hs.fanout
  | refused closed => simp [opened] at closed

end Station

namespace Aggregator

theorem Hands.attended {forwards : Bool} {n n' : AggregatorReport} {r : Reading} {s s' : Scene}
    (h : Hands forwards n r s n' s') {W : Party → Prop} {a p : Bool} (hs : s.Attended W a p) :
    s'.Attended W a p := by
  cases h with
  | keeps off alike => exact hs.alike alike
  | enters on opened alike =>
    refine Scene.Attended.alike ?_ alike
    exact ⟨hs.primary, (hs.fanout.mono (Nat.le_refl 0) (Nat.zero_le 1)).push opened r⟩
  | drops on late alike =>
    rw [Scene.count_eq] at alike
    refine Scene.Attended.alike ?_ alike
    exact ⟨hs.primary, hs.fanout.setLate late⟩

theorem Moves.attended {a a' : Aggregator} {s s' : Scene} (h : a.Moves s a' s') {W : Party → Prop}
    {p : Bool} (hs : s.Attended W a.isParked p) : s'.Attended W a'.isParked p := by
  cases h with
  | starts alike created awake' =>
    have awake : a.isParked = false := by simp [isParked, created]
    rw [awake']
    rw [awake] at hs
    exact hs.alike alike
  | turns alike awake' =>
    rw [awake']
    rw [Scene.abandonRecv_queue] at alike
    refine Scene.Attended.alike ?_ alike
    exact ⟨hs.primary.leave, hs.fanout⟩
  | takes r rest buffer woken hands awake' =>
    rw [awake']
    refine hands.attended ?_
    exact ⟨(hs.primary.back woken).take buffer, hs.fanout⟩
  | stops s₁ buffer closed woken last alike ended =>
    have awake' : a'.isParked = false := by simp [isParked, ended]
    have hs₁ : s₁.Attended W false p := by
      rw [last]
      exact ⟨(hs.primary.back woken).finish closed, hs.fanout⟩
    rw [awake']
    refine Scene.Attended.alike ?_ alike
    split
    · exact ⟨hs₁.primary, hs₁.fanout.close⟩
    · exact hs₁
  | parks buffer opened woken alike parked' =>
    rw [parked']
    refine Scene.Attended.alike ?_ alike
    exact ⟨(hs.primary.back woken).parkSole opened buffer,
      hs.fanout⟩

end Aggregator

namespace Publisher

theorem Concludes.queues {n : PublisherReport} {r : Reading} {s s' : Scene} {p' : Publisher}
    (h : Concludes n r s p' s') :
    s'.primary = s.primary ∧ s'.fanout = s.fanout ∧ p'.isParked = false := by
  cases h with
  | settles b o settled alike total hand' awake' =>
    rw [Scene.count_eq] at alike
    exact ⟨alike.primary, alike.fanout, awake'⟩
  | awaits b alike report hand' awake' => exact ⟨alike.primary, alike.fanout, awake'⟩
  | crashes b c alike ended hand' awake' => exact ⟨alike.primary, alike.fanout, awake'⟩

theorem Moves.attended {p p' : Publisher} {s s' : Scene} (h : p.Moves s p' s')
    (stage : p.stage = .fanout) {W : Party → Prop} {a : Bool} (hs : s.Attended W a p.isParked) :
    s'.Attended W a p'.isParked := by
  cases h with
  | rests alike parked =>
    rw [parked]
    exact hs.alike alike
  | turns alike hand hand' awake' =>
    rw [awake']
    rw [stage, Scene.abandonRecv_queue] at alike
    refine Scene.Attended.alike ?_ alike
    exact ⟨hs.primary, hs.fanout.leave⟩
  | takes r rest buffer woken hand next =>
    rw [stage] at buffer woken next
    obtain ⟨hq, hf, awake'⟩ := next.queues
    rw [awake']
    refine ⟨hq ▸ hs.primary, ?_⟩
    rw [hf]
    exact (hs.fanout.back woken).take buffer
  | settles r hand awake next =>
    obtain ⟨hq, hf, awake'⟩ := next.queues
    rw [awake] at hs
    rw [awake']
    exact ⟨hq ▸ hs.primary, hf ▸ hs.fanout⟩
  | stops buffer closed woken hand alike ended =>
    have awake' : p'.isParked = false := by simp [isParked, ended]
    rw [awake']
    rw [stage] at closed woken alike
    refine Scene.Attended.alike ?_ alike
    exact ⟨hs.primary, (hs.fanout.back woken).finish closed⟩
  | parks buffer opened woken hand alike hand' parked' =>
    rw [parked']
    rw [stage] at buffer opened woken alike
    refine Scene.Attended.alike ?_ alike
    exact ⟨hs.primary,
      (hs.fanout.back woken).parkSole opened buffer⟩

end Publisher

namespace Simulation

def Sending (supervisors : Array Supervisor) (x : Party) : Prop :=
  ∃ i t, x = .slot i ∧ supervisors[i]? = some t ∧ t.pending?.isSome = true

theorem sending_slot {supervisors : Array Supervisor} {i : Nat} {t : Supervisor}
    (found : supervisors[i]? = some t) :
    Sending supervisors (.slot i) ↔ t.pending?.isSome = true := by
  constructor
  · rintro ⟨j, u, hj, hu, pending⟩
    injection hj with hj
    subst hj
    rw [found, Option.some.injEq] at hu
    exact hu ▸ pending
  · exact fun pending => ⟨i, t, rfl, found, pending⟩

theorem sending_set {supervisors : Array Supervisor} {i : Nat} {t : Supervisor}
    (found : supervisors[i]? = some t) (t' : Supervisor) (x : Party) :
    Sending (supervisors.setIfInBounds i t') x ↔
      (x = .slot i ∧ t'.pending?.isSome = true) ∨ x ≠ .slot i ∧ Sending supervisors x := by
  have inside : i < supervisors.size := (Array.getElem?_eq_some_iff.mp found).1
  by_cases hx : x = .slot i
  · subst hx
    rw [sending_slot (Array.getElem?_setIfInBounds_self_of_lt inside)]
    simp
  · simp only [hx, false_and, ne_eq, not_false_eq_true, true_and, false_or]
    refine exists_congr fun j => exists_congr fun u => and_congr_right fun hj => ?_
    have hne : i ≠ j := by
      rintro rfl
      exact hx hj
    rw [Array.getElem?_setIfInBounds_ne hne]

theorem sending_set_of_idle {supervisors : Array Supervisor} {i : Nat} {t t' : Supervisor}
    (found : supervisors[i]? = some t) (idle : t.pending? = none) (idle' : t'.pending? = none)
    (x : Party) : Sending supervisors x ↔ Sending (supervisors.setIfInBounds i t') x := by
  rw [sending_set found]
  by_cases hx : x = .slot i
  · subst hx
    simp [sending_slot found, idle, idle']
  · simp [hx]

structure Waits (m : Simulation) : Prop where
  attended : m.scene.Attended (Sending m.supervisors) m.aggregator.isParked
    (m.publisher.any Publisher.isParked)
  stage : ∀ p, m.publisher = some p → p.stage = .fanout

theorem Started.waits {c : Config} {p : Equipment} {m : Simulation} (h : Started c p m) :
    Waits m := by
  have none_sending (x : Party) : False ↔ Sending m.supervisors x := by
    refine ⟨False.elim, ?_⟩
    rintro ⟨i, t, _, ht, pending⟩
    rw [h.found ht] at pending
    cases pending
  have none_reads (who x : Party) : False ↔ who.reads false x := by simp [Party.reads]
  have awake : m.publisher.any Publisher.isParked = false := by
    rw [h.publisher, publisherOf]
    split <;> rfl
  refine ⟨⟨?_, ?_⟩, ?_⟩
  · rw [h.primary, h.aggregator]
    exact (Channel.attended_new _).congr none_sending (none_reads _)
  · rw [h.fanout, awake]
    exact (Channel.attended_new _).congr (fun _ => Iff.rfl) (none_reads _)
  · exact fun q present => (h.publisher_created present).1

/-- The tasks are left alone, and the fan-out is at most closed. -/
theorem Waits.keep {m m' : Simulation} (h : Waits m) (supervisors : m'.supervisors = m.supervisors)
    (aggregator : m'.aggregator = m.aggregator) (publisher : m'.publisher = m.publisher)
    (primary : m'.scene.primary = m.scene.primary)
    (fanout : m'.scene.fanout = m.scene.fanout ∨ m'.scene.fanout = m.scene.fanout.close) :
    Waits m' := by
  refine ⟨?_, publisher ▸ h.stage⟩
  rw [supervisors, aggregator, publisher]
  refine ⟨primary ▸ h.attended.primary, ?_⟩
  rcases fanout with hf | hf
  · exact hf ▸ h.attended.fanout
  · exact hf ▸ h.attended.fanout.close

theorem Turn.waits {c : Config} {m m' : Simulation} (turn : Turn m m') (staffed : Staffed c m)
    (ordered : Ordered m) (h : Waits m) : Waits m' := by
  cases turn with
  | shutdown cause phase =>
    have alike := shutdown_alike m cause
    exact h.keep rfl rfl rfl alike.primary (.inl alike.fanout)
  | closeQueue phase =>
    rw [closeQueue_eq (ordered.opened_of_joining phase)]
    exact ⟨⟨h.attended.primary.close, h.attended.fanout⟩, h.stage⟩
  | @joinAggregator e phase ended =>
    have takes := joinAggregator_takes m e
    have keeps := takes.keeps
    have alike := takes.scene
    refine h.keep keeps.supervisors keeps.aggregator keeps.publisher ?_ ?_
    · split at alike
      · exact alike.primary
      · exact alike.primary
    · split at alike
      · exact .inr alike.fanout
      · exact .inl alike.fanout
  | @joinPublisher e phase watched =>
    have takes := joinPublisher_takes m e
    have keeps := takes.keeps
    obtain ⟨b, alike⟩ := takes.scene
    exact h.keep keeps.supervisors keeps.aggregator keeps.publisher alike.primary (.inl alike.fanout)
  | @publisher p present ready =>
    have stage := h.stage p present
    have hs := h.attended
    rw [present] at hs
    refine ⟨(Publisher.step_moves p m.scene ready).attended stage hs, ?_⟩
    intro p' hp'
    injection hp' with hp'
    rw [← hp', Publisher.step_stage, stage]
  | @watcher p e unseen present ended =>
    have alike := stepWatcher_alike m e
    exact h.keep rfl rfl rfl alike.primary (.inr alike.fanout)
  | aggregator ready =>
    exact ⟨(Aggregator.step_moves m.aggregator m.scene ready).attended h.attended, h.stage⟩
  | @supervisor i t found ready =>
    have passes := Supervisor.step_passes (staffed.member i t found).1 m.scene ready
    have same := sending_set_of_idle found (Supervisor.pending_of_ready ready) passes.pending
    have hs := h.attended.alike passes.alike
    exact ⟨⟨hs.primary.congr same fun _ => Iff.rfl, hs.fanout⟩, h.stage⟩
  | @run i t station found phase ready =>
    have moves := Supervisor.stepRun_moves (staffed.member i t found).1 phase ready
    have opened := ordered.opened found (Supervisor.not_hasEnded_of_supervising phase)
    have known := sending_slot found
    have pending : t.pending? = station.pending? := by simp [Supervisor.pending?, phase]
    rw [pending] at known
    have hs := moves.attended h.attended known (Station.woken_of_isReady ready) opened
    rw [Supervisor.stepRun_eq phase]
    refine ⟨⟨hs.primary.congr (fun x => ?_) fun _ => Iff.rfl, hs.fanout⟩, h.stage⟩
    rw [sending_set found]
    rfl
  | @join i left t phase found ended unjoined =>
    have joins := join_joins phase ended i
    obtain ⟨e, he⟩ := Supervisor.phase_of_hasEnded ended
    have idle : t.pending? = none := by simp [Supervisor.pending?, he]
    have idle' : Supervisor.pending? { t with joined := true } = none := idle
    have hs := h.attended.alike joins.alike
    refine ⟨?_, joins.publisher ▸ h.stage⟩
    rw [joins.supervisors, joins.aggregator, joins.publisher]
    exact ⟨hs.primary.congr (sending_set_of_idle found idle idle') fun _ => Iff.rfl, hs.fanout⟩
  | time | cancel | turn => exact ⟨⟨h.attended.primary, h.attended.fanout⟩, h.stage⟩

theorem Reachable.waits {c : Config} {p : Equipment} {m : Simulation} (h : Reachable c p m) :
    Waits m :=
  h.invariant (fun started => (start_started started).waits) fun prior turn hm =>
    turn.waits prior.staffed prior.ordered hm

end Simulation
end SensorFleet
