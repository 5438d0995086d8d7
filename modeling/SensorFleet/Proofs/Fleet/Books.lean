import SensorFleet.Proofs.Fleet.Postings
import SensorFleet.Proofs.Fleet.Waits

/-!
The books of a simulation. A turn is the entry of at most one task: a run adds to the tally of its
slot, the aggregator to its counts and the publisher to its own, each as many as the scene accounts
for. So the books agree with the scene in every reachable state.
-/
namespace SensorFleet.Simulation

def tallies (m : Simulation) : List (ProducerId × Nat) :=
  m.supervisors.toList.map fun t => (t.slot.id, t.sent)

theorem tallies_found {m : Simulation} {i : Nat} {t : Supervisor}
    (found : m.supervisors[i]? = some t) : m.tallies[i]? = some (t.slot.id, t.sent) := by
  simp [tallies, found]

theorem tallies_set {m m' : Simulation} {i : Nat} {u : Supervisor}
    (supervisors : m'.supervisors = m.supervisors.setIfInBounds i u) :
    m'.tallies = m.tallies.set i (u.slot.id, u.sent) := by
  simp [tallies, supervisors, List.map_set]

theorem tallies_set_same {m m' : Simulation} {i : Nat} {t u : Supervisor}
    (found : m.supervisors[i]? = some t)
    (supervisors : m'.supervisors = m.supervisors.setIfInBounds i u)
    (id : u.slot.id = t.slot.id) (sent : u.sent = t.sent) : m'.tallies = m.tallies := by
  have hf := tallies_found found
  rw [tallies_set supervisors, id, sent]
  obtain ⟨inside, he⟩ := List.getElem?_eq_some_iff.mp hf
  rw [← he, List.set_getElem_self]

inductive Entry (m m' : Simulation) : Prop
  | quiet (tallies : m'.tallies = m.tallies) (aggregator : m'.aggregator = m.aggregator)
      (publisher : m'.publisher = m.publisher) (posts : m.scene.Posts {} m'.scene)
  | sends (i : Nat) (id : ProducerId) (n : Nat) (rs : List Reading)
      (found : m.tallies[i]? = some (id, n)) (own : ∀ r ∈ rs, r.producer = id)
      (tallies : m'.tallies = m.tallies.set i (id, n + rs.length))
      (aggregator : m'.aggregator = m.aggregator) (publisher : m'.publisher = m.publisher)
      (posts : m.scene.Posts { sent := rs } m'.scene)
  | receives (taken entered lost : List Reading) (tallies : m'.tallies = m.tallies)
      (forwards : m'.aggregator.forwards = m.aggregator.forwards)
      (deals : Aggregator.Deals m.aggregator.forwards m.aggregator.report m'.aggregator.report taken
        entered lost)
      (publisher : m'.publisher = m.publisher)
      (posts : m.scene.Posts { received := taken, forwarded := entered, settled := lost } m'.scene)
  | fetches (p p' : Publisher) (fetched settled : List Reading) (tallies : m'.tallies = m.tallies)
      (aggregator : m'.aggregator = m.aggregator) (present : m.publisher = some p)
      (live : p.ending? = none) (present' : m'.publisher = some p')
      (deals : (∃ c, p'.ending? = some (.crashed c)) ∨ p.Deals p' fetched settled)
      (posts : m.scene.Posts { fetched := fetched, settled := settled } m'.scene)

theorem Entry.posts {m m' : Simulation} (entry : Entry m m') : ∃ p, m.scene.Posts p m'.scene := by
  cases entry with
  | quiet _ _ _ posts => exact ⟨_, posts⟩
  | sends _ _ _ _ _ _ _ _ _ posts => exact ⟨_, posts⟩
  | receives _ _ _ _ _ _ _ posts => exact ⟨_, posts⟩
  | fetches _ _ _ _ _ _ _ _ _ _ posts => exact ⟨_, posts⟩

theorem Keeps.entry {m m' : Simulation} (keeps : m.Keeps m') (posts : m.scene.Posts {} m'.scene) :
    Entry m m' :=
  .quiet (by rw [tallies, keeps.supervisors, tallies]) keeps.aggregator keeps.publisher posts

theorem Turn.entry {c : Config} {m m' : Simulation} (turn : Turn m m') (staffed : Staffed c m)
    (ordered : Ordered m) (waits : Waits m) : Entry m m' := by
  cases turn with
  | shutdown cause phase =>
    have posts : m.scene.Posts {} { m.scene with cancelled := true } :=
      .untouched rfl rfl rfl rfl rfl
    exact .quiet rfl rfl rfl (posts.alike (shutdown_alike m cause))
  | closeQueue phase =>
    rw [closeQueue_eq (ordered.opened_of_joining phase)]
    have posts := (Scene.Posts.refl m.scene).setQueue .primary (q := m.scene.primary.close) rfl
      fun _ => rfl
    exact .quiet rfl rfl rfl (posts.record (fun _ => rfl) fun _ => rfl)
  | @joinAggregator e phase ended =>
    have takes := joinAggregator_takes m e
    have alike := takes.scene
    refine takes.keeps.entry ?_
    split at alike
    · exact (Scene.Posts.close m.scene .fanout).alike alike
    · exact .of_alike alike
  | @joinPublisher e phase watched =>
    have takes := joinPublisher_takes m e
    obtain ⟨b, alike⟩ := takes.scene
    exact takes.keeps.entry ((Scene.Posts.setBroker m.scene b).alike alike)
  | @publisher p present ready =>
    obtain ⟨fetched, settled, posts, deals⟩ :=
      (Publisher.step_moves p m.scene ready).posts (waits.stage p present)
    exact .fetches p _ fetched settled rfl rfl present (Publisher.live_of_isReady ready) rfl deals
      posts
  | @watcher p e unseen present ended =>
    exact .quiet rfl rfl rfl ((Scene.Posts.close m.scene .fanout).alike (stepWatcher_alike m e))
  | aggregator ready =>
    obtain ⟨taken, entered, lost, deals, posts⟩ :=
      (Aggregator.step_moves m.aggregator m.scene ready).posts
    exact .receives taken entered lost rfl (Aggregator.step_forwards _ _) deals rfl posts
  | @supervisor i t found ready =>
    have passes := Supervisor.step_passes (staffed.member i t found).1 m.scene ready
    exact .quiet (tallies_set_same found rfl passes.slot passes.sent) rfl rfl (.of_alike passes.alike)
  | @run i t station found phase ready =>
    have proper := (staffed.member i t found).1
    have opened := ordered.opened found (Supervisor.not_hasEnded_of_supervising phase)
    obtain ⟨rs, posts, sent, own⟩ := (Supervisor.stepRun_moves proper phase ready).posts opened
    obtain ⟨hid, hsent, _⟩ := proper.station station phase
    rw [hid] at own
    refine .sends i t.slot.id t.sent rs (tallies_found found) own ?_ rfl rfl ?_
    · rw [tallies_set (u := (t.stepRun (.slot i) m.scene).1) rfl, Supervisor.stepRun_eq phase]
      simp only [sent, hsent]
    · rw [Supervisor.stepRun_eq phase]
      exact posts
  | @join i left t phase found ended unjoined =>
    have joins := join_joins phase ended i
    exact .quiet (tallies_set_same found joins.supervisors rfl rfl) joins.aggregator joins.publisher
      (.of_alike joins.alike)
  | time | cancel | turn => exact .quiet rfl rfl rfl (.untouched rfl rfl rfl rfl rfl)

def idAt (i : Nat) : ProducerId := UInt32.ofNat (i + 1)

theorem few_of_lastId {c : Config} {n : Nat} (h : c.lastId = .ok n) :
    c.producers < UInt32.size := by
  unfold Config.lastId at h
  split at h
  next few => exact few
  next => cases h

theorem toNat_idAt {n i : Nat} (few : n < UInt32.size) (h : i < n) : (idAt i).toNat = i + 1 :=
  UInt32.toNat_ofNat_of_lt' (by omega)

structure Booked (c : Config) (m : Simulation) : Prop where
  flows : m.scene.Flows
  ids : m.tallies.map Prod.fst = (List.range c.producers).map idAt
  sent : (m.tallies.map Prod.snd).sum = (m.scene.entered .primary).length
  slots : c.producers < UInt32.size → ∀ (i : Nat) id n, m.tallies[i]? = some (id, n) →
    n = countOf id (m.scene.entered .primary)
  received : m.aggregator.report.received = (m.scene.taken .primary).length
  forwards : m.aggregator.forwards = c.publishes

theorem countOf_own {id : ProducerId} {rs : List Reading} (h : ∀ r ∈ rs, r.producer = id) :
    countOf id rs = rs.length :=
  List.countP_eq_length.mpr fun r hr => decide_eq_true (h r hr)

theorem countOf_foreign {id id' : ProducerId} {rs : List Reading} (h : ∀ r ∈ rs, r.producer = id)
    (hne : id' ≠ id) : countOf id' rs = 0 :=
  List.countP_eq_zero.mpr fun r hr => by simpa [h r hr] using hne.symm

namespace Booked
variable {c : Config} {m m' : Simulation}

theorem found (h : Booked c m) {i : Nat} {id : ProducerId} {n : Nat}
    (found : m.tallies[i]? = some (id, n)) : i < c.producers ∧ id = idAt i := by
  have hi : (m.tallies.map Prod.fst)[i]? = some id := by simp [found]
  rw [h.ids, List.getElem?_map, Option.map_eq_some_iff] at hi
  obtain ⟨j, hj, hid⟩ := hi
  obtain ⟨hlt, hij⟩ := List.getElem?_eq_some_iff.mp hj
  rw [List.getElem_range] at hij
  rw [List.length_range] at hlt
  subst hij
  exact ⟨hlt, hid.symm⟩

theorem distinct (h : Booked c m) (few : c.producers < UInt32.size) {i j : Nat}
    {id id' : ProducerId} {n n' : Nat} (hi : m.tallies[i]? = some (id, n))
    (hj : m.tallies[j]? = some (id', n')) (hne : i ≠ j) : id' ≠ id := by
  obtain ⟨hlt, rfl⟩ := h.found hi
  obtain ⟨hlt', rfl⟩ := h.found hj
  intro he
  have hn := congrArg UInt32.toNat he
  rw [toNat_idAt few hlt, toNat_idAt few hlt'] at hn
  omega

theorem sends (h : Booked c m) {i : Nat} {id : ProducerId} {n : Nat} {rs : List Reading}
    (found : m.tallies[i]? = some (id, n)) (own : ∀ r ∈ rs, r.producer = id)
    (tallies : m'.tallies = m.tallies.set i (id, n + rs.length))
    (aggregator : m'.aggregator = m.aggregator) (posts : m.scene.Posts { sent := rs } m'.scene) :
    Booked c m' where
  flows := posts.flows h.flows
  ids := by
    obtain ⟨inside, he⟩ := List.getElem?_eq_some_iff.mp found
    have hlt : i < (m.tallies.map Prod.fst).length := by simpa using inside
    have hfst : (m.tallies.map Prod.fst)[i] = id := by simp [he]
    rw [tallies, List.map_set, ← h.ids]
    conv_lhs => rw [← hfst]
    exact List.set_getElem_self _
  sent := by
    have hs := sum_map_set Prod.snd found (id, n + rs.length)
    have hr := posts.sent
    simp only at hr hs
    rw [hr, List.length_append, ← h.sent, tallies]
    omega
  slots := by
    intro few j id' n' hj
    rw [posts.sent, countOf_append]
    rw [tallies, List.getElem?_set] at hj
    split at hj
    next hij =>
      split at hj
      · injection hj with hj
        injection hj with hid hn
        rw [← hid, ← hn, countOf_own own, h.slots few i id n found]
      · cases hj
    next hij =>
      rw [countOf_foreign own (h.distinct few found hj hij), h.slots few j id' n' hj]
      rfl
  received := by rw [aggregator, posts.received, List.append_nil, h.received]
  forwards := aggregator ▸ h.forwards

theorem others (h : Booked c m) {p : Posting} (unsent : p.sent = [])
    (posts : m.scene.Posts p m'.scene) (tallies : m'.tallies = m.tallies)
    (received : m'.aggregator.report.received = m.aggregator.report.received + p.received.length)
    (forwards : m'.aggregator.forwards = m.aggregator.forwards) : Booked c m' := by
  have sent : m'.scene.entered .primary = m.scene.entered .primary := by
    rw [posts.sent, unsent, List.append_nil]
  refine ⟨posts.flows h.flows, by rw [tallies, h.ids], by rw [tallies, sent, h.sent], ?_, ?_,
    forwards.trans h.forwards⟩
  · rw [tallies, sent]
    exact h.slots
  · rw [received, posts.received, List.length_append, h.received]

end Booked

theorem Entry.booked {c : Config} {m m' : Simulation} (entry : Entry m m') (h : Booked c m) :
    Booked c m' := by
  cases entry with
  | quiet tallies aggregator publisher posts =>
    exact h.others rfl posts tallies (by rw [aggregator]; rfl) (by rw [aggregator])
  | sends i id n rs found own tallies aggregator publisher posts =>
    exact h.sends found own tallies aggregator posts
  | receives taken entered lost tallies forwards deals publisher posts =>
    exact h.others rfl posts tallies deals.received forwards
  | fetches p p' fetched settled tallies aggregator present live present' deals posts =>
    exact h.others rfl posts tallies (by rw [aggregator]; rfl) (by rw [aggregator])

theorem Started.entered {c : Config} {p : Equipment} {m : Simulation} (h : Started c p m)
    (stage : Stage) : m.scene.entered stage = [] := by
  rw [Scene.entered, Scene.history_eq_marks fun _ hw => Happening.entered?_of_isAside hw stage,
    h.marks]
  rfl

theorem Started.taken {c : Config} {p : Equipment} {m : Simulation} (h : Started c p m)
    (stage : Stage) : m.scene.taken stage = [] := by
  rw [Scene.taken, Scene.history_eq_marks fun _ hw => Happening.taken?_of_isAside hw stage, h.marks]
  rfl

theorem Started.booked {c : Config} {p : Equipment} {m : Simulation} (h : Started c p m) :
    Booked c m := by
  have fresh : m.tallies = (List.range c.producers).map fun i => (idAt i, 0) := by
    rw [tallies, h.supervisors, supervisorsOf, List.map_map]
    rfl
  refine ⟨?_, ?_, ?_, ?_, ?_, ?_⟩
  · intro stage
    rw [h.entered, h.taken]
    cases stage
    · rw [show m.scene.queue .primary = _ from h.primary]
      rfl
    · rw [show m.scene.queue .fanout = _ from h.fanout]
      rfl
  · rw [fresh, List.map_map]
    rfl
  · rw [h.entered, fresh, List.map_map]
    exact List.sum_eq_zero_iff_forall_eq_nat.mpr (by simp)
  · intro _ i id n found
    rw [fresh, List.getElem?_map, Option.map_eq_some_iff] at found
    obtain ⟨_, _, he⟩ := found
    rw [h.entered]
    exact (congrArg Prod.snd he).symm
  · rw [h.taken, h.aggregator]
    rfl
  · rw [h.aggregator]
    rfl

theorem Reachable.entry {c : Config} {p : Equipment} {m m' : Simulation} (h : Reachable c p m)
    (turn : Turn m m') : Entry m m' := turn.entry h.staffed h.ordered h.waits

theorem Reachable.booked {c : Config} {p : Equipment} {m : Simulation} (h : Reachable c p m) :
    Booked c m :=
  h.invariant (fun started => (start_started started).booked) fun prior turn hm =>
    (prior.entry turn).booked hm

end SensorFleet.Simulation
