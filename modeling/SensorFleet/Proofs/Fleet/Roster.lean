import SensorFleet.Proofs.Fleet.Coordination

/-!
The supervisors of a simulation. There is one for each producer, in the order of their ids, and a
turn replaces at most one of them.
-/
namespace SensorFleet

section Replacement
variable {α β : Type}

theorem found_of_set {xs : Array α} {i j : Nat} {a b : α}
    (h : (xs.setIfInBounds i a)[j]? = some b) : (i = j ∧ a = b) ∨ (i ≠ j ∧ xs[j]? = some b) := by
  rw [Array.getElem?_setIfInBounds] at h
  split at h
  next hij =>
    split at h
    · exact .inl ⟨hij, Option.some.inj h⟩
    · cases h
  next hij => exact .inr ⟨hij, h⟩

theorem sum_map_set {l : List α} {i : Nat} {a : α} (f : α → Nat) (h : l[i]? = some a) (b : α) :
    ((l.set i b).map f).sum + f a = (l.map f).sum + f b := by
  induction l generalizing i with
  | nil => simp at h
  | cons x xs ih =>
    cases i with
    | zero =>
      simp only [List.getElem?_cons_zero, Option.some.injEq] at h
      subst h
      simp only [List.set_cons_zero, List.map_cons, List.sum_cons]
      omega
    | succ i =>
      have hi := ih (by simpa using h)
      simp only [List.set_cons_succ, List.map_cons, List.sum_cons]
      omega

/-- Where nothing was selected before, whatever is selected now is added. -/
theorem filterMap_set_perm {l : List α} {i : Nat} {a : α} {f : α → Option β} (h : l[i]? = some a)
    (ha : f a = none) (b : α) : ((l.set i b).filterMap f).Perm ((f b).toList ++ l.filterMap f) := by
  induction l generalizing i with
  | nil => simp at h
  | cons x xs ih =>
    cases i with
    | zero =>
      simp only [List.getElem?_cons_zero, Option.some.injEq] at h
      subst h
      cases hb : f b <;> simp [ha, hb]
    | succ i =>
      have hi := ih (by simpa using h)
      rw [List.set_cons_succ]
      cases hx : f x with
      | none => simpa [hx] using hi
      | some y =>
        simp only [List.filterMap_cons, hx]
        exact (hi.cons y).trans List.perm_middle.symm

end Replacement

namespace Supervisor

inductive Turns (t : Supervisor) (i : Nat) (s : Scene) : Supervisor → Prop
  | steps (ready : t.isReady = true) : Turns t i s (t.step s).1
  | runs {station : Station} (phase : t.phase = .supervising station)
      (ready : station.isReady (.slot i) s = true) : Turns t i s (t.stepRun (.slot i) s).1
  | joins (ended : t.hasEnded = true) (unjoined : t.joined = false) :
      Turns t i s { t with joined := true }

theorem stepRun_moves {t : Supervisor} (h : t.Proper) {station : Station}
    (phase : t.phase = .supervising station) {who : Party} {s : Scene}
    (ready : station.isReady who s = true) :
    station.Moves who s (station.step who s).1 (station.step who s).2 := by
  have hs := h.station station phase
  refine Station.step_moves who s (Station.live_of_isReady ready) ?_
  intro r hr
  rw [hs.1]
  exact hs.2.2 r hr

theorem stepRun_proper {t : Supervisor} (h : t.Proper) {station : Station}
    (phase : t.phase = .supervising station) {who : Party} {s : Scene}
    (ready : station.isReady who s = true) : (t.stepRun who s).1.Proper := by
  have hs := h.station station phase
  have hid : (station.step who s).1.run.id = t.slot.id := (station.step_id who s).trans hs.1
  rw [stepRun_eq phase]
  refine ⟨?_, fun report he => by simp at he⟩
  intro station' he
  injection he with he
  subst he
  refine ⟨hid, rfl, ?_⟩
  cases stepRun_moves h phase ready with
  | rests alike sent idle idle' => simp [idle']
  | enters r own opened alike sent idle' => simp [idle']
  | refused closed sent idle' => simp [idle']
  | parks r own opened full alike sent pending' =>
    intro r' hr
    rw [pending', Option.some.injEq] at hr
    rw [← hr, own, hs.1]

theorem Turns.proper {t t' : Supervisor} {i : Nat} {s : Scene} (h : t.Turns i s t')
    (ht : t.Proper) : t'.Proper := by
  cases h with
  | steps ready => exact (step_passes ht s ready).proper
  | runs phase ready => exact stepRun_proper ht phase ready
  | joins ended unjoined => exact ⟨ht.station, ht.report⟩

theorem Turns.id {t t' : Supervisor} {i : Nat} {s : Scene} (h : t.Turns i s t') (ht : t.Proper) :
    t'.slot.id = t.slot.id := by
  cases h with
  | steps ready => exact (step_passes ht s ready).slot
  | runs phase ready => rw [stepRun_eq phase]
  | joins ended unjoined => rfl

end Supervisor

namespace Simulation

/-- A turn leaves the supervisors alone or replaces one of them. -/
theorem Turn.supervisors {m m' : Simulation} (h : Turn m m') :
    m'.supervisors = m.supervisors ∨
      ∃ i t t', m.supervisors[i]? = some t ∧ t.Turns i m.scene t' ∧
        m'.supervisors = m.supervisors.setIfInBounds i t' := by
  cases h with
  | joinAggregator phase ended => exact .inl (joinAggregator_takes m _).keeps.supervisors
  | joinPublisher phase watched => exact .inl (joinPublisher_takes m _).keeps.supervisors
  | @supervisor i t found ready => exact .inr ⟨i, t, _, found, .steps ready, rfl⟩
  | @run i t station found phase ready => exact .inr ⟨i, t, _, found, .runs phase ready, rfl⟩
  | @join i left t phase found ended unjoined =>
    exact .inr ⟨i, t, _, found, .joins ended unjoined, (join_joins phase ended i).supervisors⟩
  | _ => exact .inl rfl

structure Staffed (c : Config) (m : Simulation) : Prop where
  size : m.supervisors.size = c.producers
  member : ∀ i t, m.supervisors[i]? = some t → t.Proper ∧ t.slot.id = UInt32.ofNat (i + 1)

theorem found_supervisorsOf {c : Config} {i : Nat} {t : Supervisor}
    (h : (supervisorsOf c)[i]? = some t) :
    i < c.producers ∧ t = Supervisor.new (UInt32.ofNat (i + 1)) c.interval := by
  simp only [supervisorsOf, List.getElem?_toArray, List.getElem?_map, Option.map_eq_some_iff] at h
  obtain ⟨j, hj, ht⟩ := h
  obtain ⟨hlt, hij⟩ := List.getElem?_eq_some_iff.mp hj
  rw [List.getElem_range] at hij
  rw [List.length_range] at hlt
  subst hij
  exact ⟨hlt, ht.symm⟩

theorem Started.found {c : Config} {p : Equipment} {m : Simulation} (h : Started c p m) {i : Nat}
    {t : Supervisor} (found : m.supervisors[i]? = some t) :
    t = Supervisor.new (UInt32.ofNat (i + 1)) c.interval :=
  (found_supervisorsOf (h.supervisors ▸ found)).2

theorem Started.not_joined {c : Config} {p : Equipment} {m : Simulation} (h : Started c p m) {i : Nat}
    {t : Supervisor} (found : m.supervisors[i]? = some t) : t.joined = false := by
  rw [h.found found]
  rfl

theorem Started.staffed {c : Config} {p : Equipment} {m : Simulation} (h : Started c p m) :
    Staffed c m where
  size := by simp [h.supervisors, supervisorsOf]
  member := by
    intro i t ht
    obtain rfl := h.found ht
    exact ⟨⟨fun _ he => by simp [Supervisor.new] at he, fun _ he => by simp [Supervisor.new] at he⟩,
      rfl⟩

/-- What holds of each supervisor holds after a turn, if it holds of the one that moves. -/
theorem Turn.each {P : Nat → Supervisor → Prop} {m m' : Simulation} (turn : Turn m m')
    (h : ∀ i t, m.supervisors[i]? = some t → P i t)
    (moves : ∀ {i t t'}, m.supervisors[i]? = some t → t.Turns i m.scene t' → P i t') :
    ∀ i t, m'.supervisors[i]? = some t → P i t := by
  intro j u hu
  rcases turn.supervisors with hs | ⟨i, t, t', found, turns, hs⟩
  · exact h j u (hs ▸ hu)
  · rw [hs] at hu
    rcases found_of_set hu with ⟨rfl, rfl⟩ | ⟨_, hu⟩
    · exact moves found turns
    · exact h j u hu

theorem Turn.staffed {c : Config} {m m' : Simulation} (h : Turn m m') (hm : Staffed c m) :
    Staffed c m' where
  size := by
    rcases h.supervisors with hs | ⟨i, t, t', _, _, hs⟩
    · rw [hs, hm.size]
    · rw [hs, Array.size_setIfInBounds, hm.size]
  member := by
    refine h.each hm.member fun {i t t'} found turns => ?_
    obtain ⟨proper, id⟩ := hm.member i t found
    exact ⟨turns.proper proper, (turns.id proper).trans id⟩

theorem Reachable.staffed {c : Config} {p : Equipment} {m : Simulation} (h : Reachable c p m) :
    Staffed c m :=
  h.invariant (fun started => (start_started started).staffed) fun _ turn hm => turn.staffed hm

end Simulation
end SensorFleet
