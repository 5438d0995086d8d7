import SensorFleet.Proofs.Fleet.CalmPorts

/-!
Sources and the order in which they are asked for. A run draws from what the factory gave for its
place among all calls, of which the supervisors of all producers make theirs in any order. A seeded
factory mixes that place into the seed. So the stream of a run is the same in two executions if its
source was asked for at the same place, and the seeds are the same in no other case.
-/
namespace SensorFleet

/-! ## Places in a list -/

section Places
variable {α : Type} [DecidableEq α] {x : α} {l l' : List α} {n k k' : Nat}

/-- An element stands in a list at a place, and `n` times before. -/
structure IsNth (x : α) (l : List α) (n k : Nat) : Prop where
  here : l[k]? = some x
  before : (l.take k).count x = n

namespace IsNth

theorem lt_length (h : IsNth x l n k) : k < l.length :=
  (List.getElem?_eq_some_iff.mp h.here).1

theorem append (h : IsNth x l n k) (later : List α) : IsNth x (l ++ later) n k where
  here := by rw [List.getElem?_append_left h.lt_length, h.here]
  before := by rw [List.take_append_of_le_length (Nat.le_of_lt h.lt_length), h.before]

theorem last (l : List α) (x : α) : IsNth x (l ++ [x]) (l.count x) l.length :=
  ⟨List.getElem?_concat_length, by rw [List.take_left']; rfl⟩

theorem le_of_place (h : IsNth x l n k) (h' : IsNth x l n k') : k ≤ k' := by
  by_contra later
  have later : k' < k := Nat.lt_of_not_le later
  -- the element at `k'` is one of those before `k`
  have more : (l.take (k' + 1)).count x ≤ (l.take k).count x :=
    (List.take_sublist_take_left later).count_le x
  rw [List.take_add_one, h'.here, List.count_append, h'.before, h.before, Option.toList_some,
    List.count_singleton_self] at more
  omega

/-- There is only one such place. -/
theorem unique (h : IsNth x l n k) (h' : IsNth x l n k') : k = k' :=
  Nat.le_antisymm (h.le_of_place h') (h'.le_of_place h)

theorem unique_of_prefix (h : IsNth x l n k) (h' : IsNth x l' n k') (more : l <+: l') : k = k' := by
  obtain ⟨later, rfl⟩ := more
  exact (h.append later).unique h'

end IsNth
end Places

namespace SourceFactory

/-- The factor that is mixed in for the place can be cancelled. -/
theorem mul_factor_inj {x y : UInt64} :
    x * 0x9e3779b97f4a7c15 = y * 0x9e3779b97f4a7c15 ↔ x = y := by
  have inverse (z : UInt64) : z * 0x9e3779b97f4a7c15 * 0xf1de83e19937733d = z := by
    rw [UInt64.mul_assoc, show (0x9e3779b97f4a7c15 : UInt64) * 0xf1de83e19937733d = 1 from rfl,
      UInt64.mul_one]
  refine ⟨fun same => ?_, fun same => by rw [same]⟩
  calc x = x * 0x9e3779b97f4a7c15 * 0xf1de83e19937733d := (inverse x).symm
    _ = y * 0x9e3779b97f4a7c15 * 0xf1de83e19937733d := by rw [same]
    _ = y := inverse y

/-- For one producer, the seeds of two places agree only when the counter has come round. -/
theorem mixedSeed_inj {seed : UInt64} {k k' : Nat} {id : ProducerId} :
    mixedSeed seed k id = mixedSeed seed k' id ↔ k % UInt64.size = k' % UInt64.size := by
  unfold mixedSeed
  rw [UInt64.xor_left_inj, UInt64.xor_right_inj, mul_factor_inj, ← UInt64.toNat_inj]
  exact Iff.rfl

end SourceFactory

/-! ## What the runs draw from -/

/-- The sources of a slot were asked for one after another, once for each attempt, and the current
run draws from what the factory gave at the last call. -/
structure Supervisor.Fed (f : SourceFactory) (made : List ProducerId) (t : Supervisor) : Prop where
  asked : (∀ c, t.phase ≠ .ended (.crashed c)) → made.count t.slot.id = t.slot.attempts
  source : ∀ station, t.phase = .supervising station → ∃ n k, t.slot.attempts = n + 1 ∧
    IsNth t.slot.id made n k ∧ f t.slot.id n k = .source station.run.source

namespace Supervisor.Fed
variable {f : SourceFactory} {made : List ProducerId} {t t' : Supervisor}

theorem beside (h : t.Fed f made) {new : List ProducerId}
    (none : (made ++ new).count t.slot.id = made.count t.slot.id) : t.Fed f (made ++ new) where
  asked := fun alive => none.trans (h.asked alive)
  source := by
    intro station phase
    obtain ⟨n, k, attempt, place, given⟩ := h.source station phase
    exact ⟨n, k, attempt, place.append new, given⟩

theorem steps {s s' : Scene} {fs : List ProducerFault} (h : t.Fed s.sources s.made)
    (live : t.hasEnded = false) (counted : s.Counted) (proceeds : t.Proceeds fs s t' s')
    (slot : t'.slot.id = t.slot.id) : t'.Fed s.sources s'.made := by
  have asked := h.asked fun c crashed => by
    simp [Supervisor.hasEnded, Supervisor.ending?, crashed] at live
  cases proceeds.goes with
  | finishes isOver same phase attempts =>
    exact ⟨fun _ => by rw [same.made, slot, attempts, asked], by simp [phase]⟩
  | launches source going given makes phase attempts =>
    refine ⟨fun _ => by rw [makes.made, slot, attempts, List.count_append, asked]; simp, ?_⟩
    intro station supervising
    rw [phase, SupervisorPhase.supervising.injEq] at supervising
    rw [nextSource, counted.created, counted.total, asked] at given
    refine ⟨t.slot.attempts, s.made.length, attempts, ?_, ?_⟩
    · rw [makes.made, slot, ← asked]
      exact .last _ _
    · rw [slot, given, ← supervising]
      rfl
  | dies c going given makes phase attempts =>
    exact ⟨fun alive => absurd phase (alive c), by simp [phase]⟩

theorem runs {s s' : Scene} (h : t.Fed f made) {station station' : Station}
    (phase : t.phase = .supervising station) (acts : station.Acts s station' s') :
    Fed f made { t with phase := .supervising station', sent := station'.sent } where
  asked := fun _ => h.asked (by simp [phase])
  source := by
    rintro _ ⟨⟩
    obtain ⟨n, k, attempt, place, given⟩ := h.source station phase
    exact ⟨n, k, attempt, place, by rw [acts.source, given]⟩

end Supervisor.Fed

namespace Simulation

section Fed
variable {c : Config} {p : Equipment} {m m' : Simulation}

/-- Calls of the factory are only added. -/
theorem Turn.made_append (turn : Turn m m') (prior : Reachable c p m) :
    ∃ new, m'.scene.made = m.scene.made ++ new := by
  have rest {m' : Simulation} (same : m.scene.SameSupply m'.scene) :
      ∃ new, m'.scene.made = m.scene.made ++ new := ⟨[], by rw [same.made, List.append_nil]⟩
  cases turn with
  | shutdown cause phase =>
    refine rest ?_
    exact ((Scene.SameSupply.refl m.scene).log _).trans ⟨rfl, rfl, Nat.le_refl _, rfl, rfl, rfl, rfl⟩
  | closeQueue phase => exact rest (closeQueue_sameSupply m)
  | joinAggregator phase ended => exact rest (joinAggregator_sameSupply m _)
  | joinPublisher phase watched => exact rest (joinPublisher_sameSupply m _)
  | publisher present ready => exact rest (Publisher.step_sameSupply _ _)
  | watcher unseen present ended => exact rest (stepWatcher_sameSupply m _)
  | aggregator ready => exact rest (Aggregator.step_sameSupply _ _)
  | @supervisor i t found ready =>
    have proceeds := Supervisor.step_proceeds (prior.staffed.member i t found).1
      (prior.lawful i t found) (s := m.scene) ready
    cases proceeds.goes with
    | finishes isOver same => exact rest same
    | launches _ _ _ makes | dies _ _ _ makes => exact ⟨_, makes.made⟩
  | @run i t station found phase ready =>
    rw [Supervisor.stepRun_eq phase]
    exact rest (Station.step_sameSupply _ _ _)
  | join phase found ended unjoined => exact rest (join_sameSupply m _ _)
  | time | cancel | turn => exact ⟨[], (List.append_nil _).symm⟩

theorem start_fed {i : Nat} {t : Supervisor} (started : start c p = .ok m)
    (found : m.supervisors[i]? = some t) : t.Fed p.sources m.scene.made := by
  rw [(start_started started).found found, start_scene started]
  exact ⟨fun _ => rfl, nofun⟩

theorem Reachable.fed (h : Reachable c p m) (few : c.producers < UInt32.size) :
    ∀ (i : Nat) t, m.supervisors[i]? = some t → t.Fed p.sources m.scene.made := by
  refine h.invariant (P := fun m => ∀ (i : Nat) t, m.supervisors[i]? = some t →
    t.Fed p.sources m.scene.made) (fun started i t found => start_fed started found) ?_
  intro m m' prior turn hm i t' found'
  obtain ⟨t, found, happens⟩ := prior.atSlot few turn found'
  have fed := hm i t found
  have counted := prior.supplied.counted
  have counted' := (turn.supplied prior.staffed prior.lawful prior.supplied).counted
  obtain ⟨new, made⟩ := turn.made_append prior
  cases happens with
  | beside same beside =>
    have kept : t.Fed p.sources m'.scene.made := by
      rw [made]
      refine fed.beside ?_
      rw [← made, ← counted'.created, ← counted.created, beside.created]
    rcases same with rfl | ⟨_, rfl⟩
    · exact kept
    · exact ⟨kept.asked, kept.source⟩
  | steps ready proceeds =>
    rw [← prior.supplied.sources] at fed ⊢
    have slot := (prior.staffed.member i t found).2
    exact fed.steps (Supervisor.not_hasEnded_of_isReady ready) counted proceeds
      (((turn.staffed prior.staffed).member i t' found').2.trans slot.symm)
  | runs station station' phase ready after acts same =>
    rw [same.made, after]
    exact fed.runs phase acts
  | time now later same after =>
    rw [same, after]
    exact fed

/-- Two executions with factories of the same seed, whatever else they are given and in whatever
order their supervisors go on, and a producer that is at the same attempt in both. Its runs draw
from the streams of two seeds, in which nothing differs but the places of the two calls among all
calls. The streams are the same if the places are, as they are when the calls came in the same
order; and the seeds agree in no other case. -/
theorem Reachable.reproducible {c c' : Config} {p p' : Equipment} {m m' : Simulation}
    (h : Reachable c p m) (h' : Reachable c' p' m') (few : c.producers < UInt32.size)
    (few' : c'.producers < UInt32.size) {seed : UInt64} (seeded : p.sources = .seeded seed)
    (seeded' : p'.sources = .seeded seed) {i i' : Nat} {t t' : Supervisor} {station station' : Station}
    (found : m.supervisors[i]? = some t) (found' : m'.supervisors[i']? = some t')
    (phase : t.phase = .supervising station) (phase' : t'.phase = .supervising station')
    (own : t'.slot.id = t.slot.id) (attempt : t'.slot.attempts = t.slot.attempts) :
    ∃ n k k', t.slot.attempts = n + 1 ∧
      IsNth t.slot.id m.scene.made n k ∧ IsNth t.slot.id m'.scene.made n k' ∧
      station.run.source = .random (SourceFactory.mixedSeed seed k t.slot.id) ∧
      station'.run.source = .random (SourceFactory.mixedSeed seed k' t.slot.id) ∧
      (SourceFactory.mixedSeed seed k t.slot.id = SourceFactory.mixedSeed seed k' t.slot.id ↔
        k % UInt64.size = k' % UInt64.size) ∧
      (k % UInt64.size = k' % UInt64.size → station.run.source = station'.run.source) ∧
      (m.scene.made <+: m'.scene.made → k = k') := by
  obtain ⟨n, k, nth, place, given⟩ := (h.fed few i t found).source station phase
  obtain ⟨n', k', nth', place', given'⟩ := (h'.fed few' i' t' found').source station' phase'
  obtain rfl : n' = n := Nat.succ.inj (nth'.symm.trans (attempt.trans nth))
  rw [own] at place' given'
  rw [seeded, SourceFactory.seeded, Creation.source.injEq] at given
  rw [seeded', SourceFactory.seeded, Creation.source.injEq] at given'
  refine ⟨n', k, k', nth, place, place', given.symm, given'.symm, SourceFactory.mixedSeed_inj,
    fun same => ?_, place.unique_of_prefix place'⟩
  rw [← given, ← given', SourceFactory.mixedSeed_inj.mpr same]

def sown : Config := { producers := 2, capacity := 1 }

def sower : Equipment where
  clock := .fixed default
  sources := .seeded 7

def isSown (made : List ProducerId) (m : Simulation) : Bool :=
  decide (m.scene.made = made) && m.supervisors[0]?.any fun t =>
    match t.phase with
    | .supervising _ => decide (t.slot.attempts = 1)
    | _ => false

theorem first_of_isSown {made : List ProducerId} {m : Simulation} (h : m.isSown made = true) :
    m.scene.made = made ∧ ∃ t station, m.supervisors[0]? = some t ∧
      t.phase = .supervising station ∧ t.slot.attempts = 1 := by
  simp only [isSown, Bool.and_eq_true, decide_eq_true_eq] at h
  obtain ⟨t, found, begun⟩ := (Option.any_eq_true _ _).mp h.2
  cases phase : t.phase with
  | supervising station => exact ⟨h.1, t, station, found, phase, by simpa [phase] using begun⟩
  | _ => simp [phase] at begun

/-- The supervisors start in the same order, and one of the runs is further than the other. -/
theorem same_source_at_the_same_place :
    ∃ (m m' : Simulation) (t t' : Supervisor) (station station' : Station),
      Reachable sown sower m ∧ Reachable sown sower m' ∧ m.supervisors[0]? = some t ∧
      m'.supervisors[0]? = some t' ∧ t.phase = .supervising station ∧
      t'.phase = .supervising station' ∧ station.run.source = station'.run.source := by
  obtain ⟨m, reachable, begun⟩ : ∃ m, Reachable sown sower m ∧ m.isSown [1] = true :=
    exists_reachable [.event (.supervisor 0)] (by decide)
  obtain ⟨m', reachable', begun'⟩ : ∃ m, Reachable sown sower m ∧ m.isSown [1, 2] = true :=
    exists_reachable [.event .aggregator, .event (.supervisor 0), .event (.supervisor 1),
      .event (.run 0)] (by decide)
  obtain ⟨made, t, station, found, phase, attempt⟩ := first_of_isSown begun
  obtain ⟨made', t', station', found', phase', attempt'⟩ := first_of_isSown begun'
  have own := (reachable.staffed.member 0 t found).2
  have own' := (reachable'.staffed.member 0 t' found').2
  obtain ⟨n, k, k', _, _, _, _, _, _, same, ordered⟩ := reachable.reproducible reachable'
    (by decide) (by decide) rfl rfl found found' phase phase' (own'.trans own.symm)
    (attempt'.trans attempt.symm)
  have together : k = k' := ordered (by rw [made, made']; exact ⟨[2], rfl⟩)
  exact ⟨m, m', t, t', station, station', reachable, reachable', found, found', phase, phase',
    same (by rw [together])⟩

/-- Two executions that differ only in which supervisor starts first. Each producer is asked for one
source, but the first producer draws another value. -/
theorem other_source_after_swapped_starts :
    check sown sower.broker.isSome = .ok () ∧
    ∃ (m m' : Simulation) (t t' : Supervisor) (station station' : Station),
      Reachable sown sower m ∧ Reachable sown sower m' ∧
      (∀ id, m.scene.made.count id = m'.scene.made.count id) ∧
      m.supervisors[0]? = some t ∧ m'.supervisors[0]? = some t' ∧
      t.phase = .supervising station ∧ t'.phase = .supervising station' ∧
      t.slot.attempts = 1 ∧ t'.slot.attempts = 1 ∧
      station.run.source 0 ≠ station'.run.source 0 := by
  obtain ⟨m, reachable, begun⟩ : ∃ m, Reachable sown sower m ∧ m.isSown [1, 2] = true :=
    exists_reachable [.event (.supervisor 0), .event (.supervisor 1)] (by decide)
  obtain ⟨m', reachable', begun'⟩ : ∃ m, Reachable sown sower m ∧ m.isSown [2, 1] = true :=
    exists_reachable [.event (.supervisor 1), .event (.supervisor 0)] (by decide)
  obtain ⟨made, t, station, found, phase, attempt⟩ := first_of_isSown begun
  obtain ⟨made', t', station', found', phase', attempt'⟩ := first_of_isSown begun'
  -- the first producer is the one with the id 1
  have draws {k : Nat} {m : Simulation} {t : Supervisor} {station : Station}
      (h : Reachable sown sower m) (found : m.supervisors[0]? = some t)
      (phase : t.phase = .supervising station) (attempt : t.slot.attempts = 1)
      (place : IsNth 1 m.scene.made 0 k) :
      station.run.source = .random (SourceFactory.mixedSeed 7 k 1) := by
    obtain ⟨n, k', nth, place', given⟩ := (h.fed (by decide) 0 t found).source station phase
    rw [(h.staffed.member 0 t found).2] at place' given
    obtain rfl : n = 0 := Nat.succ.inj (nth.symm.trans attempt)
    rw [place.unique place']
    exact (Creation.source.inj given).symm
  have first := draws reachable found phase attempt (k := 0) (by rw [made]; exact ⟨rfl, rfl⟩)
  have second := draws reachable' found' phase' attempt' (k := 1) (by rw [made']; exact ⟨rfl, rfl⟩)
  refine ⟨rfl, m, m', t, t', station, station', reachable, reachable', fun id => ?_, found, found',
    phase, phase', attempt, attempt', ?_⟩
  · rw [made, made']
    exact (List.Perm.swap 2 1 []).count_eq id
  · rw [first, second]
    decide +kernel

end Fed
end Simulation

end SensorFleet
