import SensorFleet.Proofs.Fleet.Containment
import SensorFleet.Proofs.Fleet.Supply

/-!
Executions at the pace of the clock. Time passes only while nobody can go on, and never beyond an
alarm that has not rung; whoever cancels the run from outside may do so in between. The scheduler
keeps to this pace. Along the way it is noted when the run was cancelled first.
-/
namespace SensorFleet.Simulation

def keepsPace (m : Simulation) : Cue → Bool
  | .time t => machine.isIdle m &&
      m.alarms.all fun a => Instant.isDue a m.scene.now || t ≤ Instant.ring a
  | _ => true

/-- The instant, if the run is cancelled. -/
def cancelledNow? (m : Simulation) : Option Nat :=
  if m.scene.cancelled then some m.scene.now else none

/-- The states that a simulation comes to at the pace of the clock, each with the instant at which
the run was first cancelled, if it was. -/
inductive Timed (c : Config) (p : Equipment) : Option Nat → Simulation → Prop
  | start {m : Simulation} (started : start c p = .ok m) : Timed c p m.cancelledNow? m
  | next {since : Option Nat} {m m' : Simulation} (prior : Timed c p since m) (cue : Cue)
      (paced : m.keepsPace cue = true) (step : m.next? cue = some m') :
      Timed c p (since.or m'.cancelledNow?) m'

section Scheduler
variable {m : Simulation} {t : Nat}

/-- Time may pass up to the next ring, whoever makes it pass. -/
theorem keepsPace_of_nextRing (idle : machine.isIdle m = true)
    (next : ∀ ring, machine.nextRing? m = some ring → t ≤ ring) : m.keepsPace (.time t) = true := by
  simp only [keepsPace, idle, Bool.true_and, List.all_eq_true, Bool.or_eq_true,
    decide_eq_true_eq, Instant.isDue_iff]
  intro a ha
  by_cases due : Instant.ring a ≤ m.scene.now
  · exact .inl due
  · have later : Instant.ring a ∈
        ((m.alarms.map Instant.ring).filter fun t => m.scene.now < t) :=
      List.mem_filter.mpr ⟨List.mem_map_of_mem ha, decide_eq_true (Nat.lt_of_not_le due)⟩
    cases first : machine.nextRing? m with
    | none =>
      have none_later := List.min?_eq_none_iff.mp first
      rw [show ((m.alarms.map Instant.ring).filter fun t => m.scene.now < t) = [] from none_later]
        at later
      cases later
    | some ring =>
      exact .inr (Nat.le_trans (next ring first) (List.min?_eq_some_iff.mp first |>.2 _ later))

/-- The scheduler keeps the pace. -/
theorem Timed.of_step {c : Config} {p : Equipment} {since : Option Nat} {m' : Simulation}
    (h : Timed c p since m) (hs : machine.Step m m') : Timed c p (since.or m'.cancelledNow?) m' := by
  cases hs with
  | event e offered ready =>
    have hr : m.isReady e = true := ready
    exact h.next (.event e) rfl (by simp [next?, hr, machine])
  | @time t idle next =>
    have ht := List.min?_mem next
    rw [List.mem_filter, decide_eq_true_eq] at ht
    have hlt : m.scene.now < t := ht.2
    refine h.next (.time t) (keepsPace_of_nextRing idle fun ring hr => ?_) ?_
    · rw [next, Option.some.injEq] at hr
      exact Nat.le_of_eq hr
    · simp [next?, Nat.le_of_lt hlt]

end Scheduler

/-- What a list of cues leads to from a state, with the instant of the first cancellation, if every
cue keeps the pace. -/
def followPaced (since : Option Nat) (m : Simulation) : List Cue → Option (Option Nat × Simulation)
  | [] => some (since, m)
  | cue :: cues =>
    if m.keepsPace cue then
      (m.next? cue).bind fun m' => followPaced (since.or m'.cancelledNow?) m' cues
    else none

theorem Timed.follow {c : Config} {p : Equipment} {since since' : Option Nat} {m m' : Simulation}
    {cues : List Cue} (h : Timed c p since m)
    (hf : followPaced since m cues = some (since', m')) : Timed c p since' m' := by
  induction cues generalizing since m with
  | nil =>
    simp only [followPaced, Option.some.injEq, Prod.mk.injEq] at hf
    exact hf.1 ▸ hf.2 ▸ h
  | cons cue cues ih =>
    simp only [followPaced, Option.ite_none_right_eq_some, Option.bind_eq_some_iff] at hf
    obtain ⟨paced, m₁, step, rest⟩ := hf
    exact ih (h.next cue paced step) rest

theorem exists_timed {c : Config} {p : Equipment} (cues : List Cue)
    {f : Option Nat → Simulation → Bool}
    (h : ((start c p).toOption.bind fun m => followPaced m.cancelledNow? m cues).any
      (fun r => f r.1 r.2) = true) :
    ∃ since m, Timed c p since m ∧ f since m = true := by
  obtain ⟨⟨since, m⟩, run, holds⟩ := (Option.any_eq_true _ _).mp h
  obtain ⟨m₀, hs, hf⟩ := Option.bind_eq_some_iff.mp run
  cases started : Simulation.start c p with
  | error e => simp [started, Except.toOption] at hs
  | ok m₁ =>
    simp only [started, Except.toOption, Option.some.injEq] at hs
    subst hs
    exact ⟨since, m, (Timed.start started).follow hf, holds⟩

namespace Timed
variable {c : Config} {p : Equipment} {since : Option Nat} {m m' : Simulation}

theorem reachable (h : Timed c p since m) : Reachable c p m := by
  induction h with
  | start started => exact .start started
  | next _ cue _ step ih => exact ih.next cue step

theorem cancelled (h : Timed c p since m) : m.scene.cancelled = since.isSome := by
  have noted (m : Simulation) : m.cancelledNow?.isSome = m.scene.cancelled := by
    unfold cancelledNow?
    cases m.scene.cancelled <;> rfl
  induction h with
  | @start m started => exact (noted m).symm
  | @next since _ m prior cue paced step ih =>
    cases since with
    | none => exact (noted m).symm
    | some t =>
      have reachable := prior.reachable
      exact (turn_of_next step).cancelled reachable.staffed reachable.ordered ih

end Timed

section Events
variable {c : Config} {p : Equipment} {m : Simulation}

theorem Reachable.now_step (h : Reachable c p m) {e : SimulationEvent} (ready : m.isReady e = true) :
    (m.step e).scene.now = m.scene.now := by
  cases e with
  | shutdown cause => rfl
  | coordinator =>
    simp only [step, stepCoordinator]
    split
    · exact (closeQueue_sameSupply m).now
    · cases m.aggregator.ending? with
      | none => rfl
      | some e => exact (joinAggregator_sameSupply m e).now
    · cases m.watched with
      | none => rfl
      | some e => exact (joinPublisher_sameSupply m e).now
    · rfl
  | publisher =>
    simp only [step]
    split
    · exact (Publisher.step_sameSupply _ _).now
    · rfl
  | watcher =>
    simp only [step]
    split
    · exact (stepWatcher_sameSupply m _).now
    · rfl
  | aggregator => exact (Aggregator.step_sameSupply _ _).now
  | supervisor i =>
    obtain ⟨t, found, ready⟩ := (Option.any_eq_true _ _).mp ready
    simp only [step, found]
    exact (Supervisor.step_passes (h.staffed.member i t found).1 m.scene ready).alike.now
  | run i =>
    obtain ⟨t, found, _⟩ := (Option.any_eq_true _ _).mp ready
    simp only [step, found, Supervisor.stepRun]
    split
    · exact (Station.step_sameSupply _ _ _).now
    · rfl
  | join i =>
    simp only [step]
    split
    · exact (join_sameSupply m i _).now
    · rfl

end Events

namespace Timed
variable {c : Config} {p : Equipment} {since : Option Nat} {m : Simulation}

/-- What holds at the start and survives every turn that takes no time, and time passing while
nobody can go on, holds at the pace of the clock. -/
theorem invariant {P : Option Nat → Simulation → Prop} (h : Timed c p since m)
    (start : ∀ {m}, Simulation.start c p = .ok m → P m.cancelledNow? m)
    (turn : ∀ {since m m'}, Timed c p since m → Turn m m' → m'.scene.now = m.scene.now →
      P since m → P (since.or m'.cancelledNow?) m')
    (time : ∀ {since m t}, Timed c p since m → machine.isIdle m = true → m.scene.now ≤ t →
      (∀ a ∈ m.alarms, Instant.ring a ≤ m.scene.now ∨ t ≤ Instant.ring a) → P since m →
      P since { m with scene := { m.scene with now := t } }) : P since m := by
  induction h with
  | start started => exact start started
  | @next since m m' prior cue paced step ih =>
    have turned := turn_of_next step
    cases cue with
    | event e =>
      simp only [next?, Option.ite_none_right_eq_some, Option.some.injEq] at step
      obtain ⟨ready, rfl⟩ := step
      exact turn prior turned (prior.reachable.now_step ready) ih
    | outside i =>
      simp only [next?, Option.some.injEq] at step
      subst step
      refine turn prior turned ?_ ih
      cases i <;> rfl
    | time t =>
      simp only [next?, Option.ite_none_right_eq_some, Option.some.injEq] at step
      obtain ⟨later, rfl⟩ := step
      simp only [keepsPace, Bool.and_eq_true, List.all_eq_true, Bool.or_eq_true,
        decide_eq_true_eq, Instant.isDue_iff] at paced
      have same : since.or (machine.moveTo m t).cancelledNow? = since := by
        have before := prior.cancelled
        cases since with
        | none => simp [cancelledNow?, machine, before]
        | some t => rfl
      rw [same]
      exact time prior paced.1 later paced.2 ih

theorem le_now {t : Nat} (h : Timed c p (some t) m) : t ≤ m.scene.now := by
  refine h.invariant (P := fun since m => ∀ t, since = some t → t ≤ m.scene.now) ?_ ?_ ?_ t rfl
  · intro m _ t ht
    simp only [cancelledNow?, Option.ite_none_right_eq_some, Option.some.injEq] at ht
    exact Nat.le_of_eq ht.2.symm
  · intro since m m' _ _ now hm t ht
    rw [now]
    cases since with
    | some t' => exact hm t ht
    | none =>
      simp only [Option.none_or, cancelledNow?, Option.ite_none_right_eq_some, Option.some.injEq,
        now] at ht
      exact Nat.le_of_eq ht.2.symm
  · intro since m t' _ _ later _ hm t ht
    exact Nat.le_trans (hm t ht) later

end Timed
end SensorFleet.Simulation
