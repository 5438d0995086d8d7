import SensorFleet.Proofs.Fleet.Consumers
import SensorFleet.Proofs.Fleet.Slots

/-!
What a step adds to the accounts of a scene: the readings that entered a queue or were taken from
one, and those that met an outcome on the way to the broker. A run adds what it sent, the aggregator
hands on or loses what it received, and the publisher settles what it fetched, sooner or later.
-/
namespace SensorFleet

structure Posting where
  sent : List Reading := []
  received : List Reading := []
  forwarded : List Reading := []
  fetched : List Reading := []
  settled : List Reading := []

namespace Posting

def enter : Stage → Reading → Posting
  | .primary, r => { sent := [r] }
  | .fanout, r => { forwarded := [r] }

def take : Stage → Reading → Posting
  | .primary, r => { received := [r] }
  | .fanout, r => { fetched := [r] }

def append (p p' : Posting) : Posting :=
  ⟨p.sent ++ p'.sent, p.received ++ p'.received, p.forwarded ++ p'.forwarded,
    p.fetched ++ p'.fetched, p.settled ++ p'.settled⟩

end Posting

def countOf (id : ProducerId) (rs : List Reading) : Nat := rs.countP fun r => r.producer = id

@[simp] theorem countOf_nil (id : ProducerId) : countOf id [] = 0 := rfl

@[simp] theorem countOf_append (id : ProducerId) (rs rs' : List Reading) :
    countOf id (rs ++ rs') = countOf id rs + countOf id rs' := List.countP_append

@[simp] theorem countOf_singleton (id : ProducerId) (r : Reading) :
    countOf id [r] = if r.producer = id then 1 else 0 := by
  simp [countOf, List.countP_cons]

/-- A closed channel stays closed, and empty once it is empty. -/
structure Channel.Ages {ω α : Type} (q q' : Channel ω α) : Prop where
  closed : q.isClosed = true → q'.isClosed = true
  drained : q.isClosed = true → q.buffer = [] → q'.buffer = []

namespace Channel.Ages
variable {ω α : Type} {q q' q'' : Channel ω α}

theorem refl (q : Channel ω α) : q.Ages q := ⟨id, fun _ => id⟩

theorem trans (h : q.Ages q') (h' : q'.Ages q'') : q.Ages q'' :=
  ⟨fun hc => h'.closed (h.closed hc), fun hc hb => h'.drained (h.closed hc) (h.drained hc hb)⟩

theorem of_opened (h : q.isClosed = false) (r : Channel ω α) : q.Ages r :=
  ⟨fun hc => by simp [h] at hc, fun hc => by simp [h] at hc⟩

end Channel.Ages

namespace Scene

theorem ages_setQueue {s : Scene} {stage : Stage} {q : ReadingQueue} (h : (s.queue stage).Ages q)
    (g : Stage) : (s.queue g).Ages ((s.setQueue stage q).queue g) := by
  by_cases he : g = stage
  · subst he
    rwa [queue_setQueue]
  · rw [queue_setQueue_of_ne s q he]
    exact .refl _

structure Posts (s : Scene) (p : Posting) (s' : Scene) : Prop where
  sent : s'.entered .primary = s.entered .primary ++ p.sent
  received : s'.taken .primary = s.taken .primary ++ p.received
  forwarded : s'.entered .fanout = s.entered .fanout ++ p.forwarded
  fetched : s'.taken .fanout = s.taken .fanout ++ p.fetched
  settled : ∀ id, s'.metrics.outcomes id = s.metrics.outcomes id +
    if s.counts then countOf id p.settled else 0
  counts : s'.counts = s.counts
  flows : s.Flows → s'.Flows
  ages : ∀ stage, (s.queue stage).Ages (s'.queue stage)

namespace Posts
variable {s s' s'' : Scene} {p p' : Posting}

theorem trans (h : s.Posts p s') (h' : s'.Posts p' s'') : s.Posts (p.append p') s'' where
  sent := by rw [h'.sent, h.sent, List.append_assoc]; rfl
  received := by rw [h'.received, h.received, List.append_assoc]; rfl
  forwarded := by rw [h'.forwarded, h.forwarded, List.append_assoc]; rfl
  fetched := by rw [h'.fetched, h.fetched, List.append_assoc]; rfl
  settled := by
    intro id
    rw [h'.settled, h.settled, h.counts, Posting.append, countOf_append]
    split
    · exact Nat.add_assoc _ _ _
    · rfl
  counts := h'.counts.trans h.counts
  flows := fun hs => h'.flows (h.flows hs)
  ages := fun stage => (h.ages stage).trans (h'.ages stage)

theorem refl (s : Scene) : s.Posts {} s :=
  ⟨by simp, by simp, by simp, by simp, by simp, rfl, id, fun _ => .refl _⟩

theorem of_alike (h : s.Alike s') : s.Posts {} s' :=
  ⟨by simp [h.entered], by simp [h.taken], by simp [h.entered], by simp [h.taken],
    by simp [h.outcomes], h.counts, fun hs => hs.alike h, fun stage => h.queue stage ▸ .refl _⟩

theorem alike (h : s.Posts p s') (ha : s'.Alike s'') : s.Posts p s'' := by
  have ht := h.trans (of_alike ha)
  simpa only [Posting.append, List.append_nil] using ht

theorem setQueue (h : s.Posts p s') (stage : Stage) {q : ReadingQueue}
    (hq : q.buffer = (s'.queue stage).buffer)
    (hc : (s'.queue stage).isClosed = true → q.isClosed = true) :
    s.Posts p (s'.setQueue stage q) where
  sent := by rw [entered, history_setQueue]; exact h.sent
  received := by rw [taken, history_setQueue]; exact h.received
  forwarded := by rw [entered, history_setQueue]; exact h.forwarded
  fetched := by rw [taken, history_setQueue]; exact h.fetched
  settled := by
    cases stage
    · exact h.settled
    · exact h.settled
  counts := by
    cases stage
    · exact h.counts
    · exact h.counts
  flows := fun hs => (h.flows hs).setQueue hq
  ages := fun g => (h.ages g).trans (ages_setQueue ⟨hc, fun _ hb => hq.trans hb⟩ g)

theorem enter (h : s.Posts {} s') (stage : Stage) {q : ReadingQueue} {r : Reading}
    (hq : q.buffer = (s'.queue stage).buffer ++ [r])
    (opened : (s'.queue stage).isClosed = false) :
    s.Posts (.enter stage r) ((s'.setQueue stage q).record (.entered stage r)) := by
  have hf (hs : s.Flows) := (h.flows hs).enter hq
  have ha (g : Stage) := (h.ages g).trans (ages_setQueue (.of_opened opened q) g)
  obtain ⟨sent, received, forwarded, fetched, settled, counts, _⟩ := h
  cases stage with
  | primary | fanout =>
    refine ⟨?_, ?_, ?_, ?_, settled, counts, hf, ha⟩
    all_goals
      simp only [entered, taken, List.append_nil] at sent received forwarded fetched
      simp [entered, taken, history_record, history_setQueue, Happening.entered?, Happening.taken?,
        Posting.enter, sent, received, forwarded, fetched]

theorem take (h : s.Posts {} s') (stage : Stage) {q : ReadingQueue} {r : Reading}
    (hq : (s'.queue stage).buffer = r :: q.buffer)
    (hc : (s'.queue stage).isClosed = true → q.isClosed = true) :
    s.Posts (.take stage r) ((s'.setQueue stage q).record (.taken stage r)) := by
  have hf (hs : s.Flows) := (h.flows hs).take hq
  have ha (g : Stage) := (h.ages g).trans
    (ages_setQueue (q := q) ⟨hc, fun _ hb => by simp [hq] at hb⟩ g)
  obtain ⟨sent, received, forwarded, fetched, settled, counts, _⟩ := h
  cases stage with
  | primary | fanout =>
    refine ⟨?_, ?_, ?_, ?_, settled, counts, hf, ha⟩
    all_goals
      simp only [entered, taken, List.append_nil] at sent received forwarded fetched
      simp [entered, taken, history_record, history_setQueue, Happening.entered?, Happening.taken?,
        Posting.take, sent, received, forwarded, fetched]

theorem count (h : s.Posts {} s') {o : Observation} {r : Reading}
    (settled : ∀ id, o.settles id = if r.producer = id then 1 else 0) :
    s.Posts { settled := [r] } (s'.count o) := by
  have ho := outcomes_count s' o
  have hs := h.settled
  refine ⟨?_, ?_, ?_, ?_, ?_, ?_, ?_, ?_⟩
  · rw [count_eq]; exact h.sent
  · rw [count_eq]; exact h.received
  · rw [count_eq]; exact h.forwarded
  · rw [count_eq]; exact h.fetched
  · intro id
    rw [ho, hs, h.counts, settled, countOf_nil, countOf_singleton, ite_self, Nat.add_zero]
  · rw [count_eq]; exact h.counts
  · rw [count_eq]; exact h.flows
  · rw [count_eq]; exact h.ages

theorem untouched (primary : s'.primary = s.primary) (fanout : s'.fanout = s.fanout)
    (journal : s'.journal = s.journal) (metrics : s'.metrics = s.metrics)
    (counts : s'.counts = s.counts) : s.Posts {} s' := by
  have he (stage : Stage) : s'.entered stage = s.entered stage := by
    rw [entered, history, journal]
    rfl
  have ht (stage : Stage) : s'.taken stage = s.taken stage := by
    rw [taken, history, journal]
    rfl
  have hq (stage : Stage) : s'.queue stage = s.queue stage := by
    cases stage
    · exact primary
    · exact fanout
  refine ⟨by simp [he], by simp [ht], by simp [he], by simp [ht], by simp [metrics], counts, ?_,
    fun stage => hq stage ▸ .refl _⟩
  intro hs stage
  rw [he, ht, hq]
  exact hs stage

theorem setBroker (s : Scene) (b : Broker) : s.Posts {} { s with broker := b } :=
  untouched rfl rfl rfl rfl rfl

theorem record (h : s.Posts p s') {w : Happening} (he : ∀ stage, w.entered? stage = none)
    (ht : ∀ stage, w.taken? stage = none) : s.Posts p (s'.record w) := by
  have hentered (stage : Stage) : (s'.record w).entered stage = s'.entered stage := by
    simp [entered, history_record, he]
  have htaken (stage : Stage) : (s'.record w).taken stage = s'.taken stage := by
    simp [taken, history_record, ht]
  refine ⟨(hentered _).trans h.sent, (htaken _).trans h.received, (hentered _).trans h.forwarded,
    (htaken _).trans h.fetched, h.settled, h.counts, ?_, h.ages⟩
  intro hs stage
  rw [hentered, htaken]
  exact h.flows hs stage

theorem abandonRecv (s : Scene) (stage : Stage) (who : Party) (parked : Bool) :
    s.Posts {} (s.abandonRecv stage who parked) := by
  unfold Scene.abandonRecv
  split
  · exact (refl s).setQueue _ rfl id
  · exact refl s

theorem close (s : Scene) (stage : Stage) : s.Posts {} (s.close stage).2 :=
  (refl s).setQueue _ rfl fun _ => rfl

end Posts
end Scene

theorem Station.Moves.posts {t t' : Station} {who : Party} {s s' : Scene}
    (h : t.Moves who s t' s') (opened : s.primary.isClosed = false) :
    ∃ rs : List Reading, s.Posts { sent := rs } s' ∧ t'.sent = t.sent + rs.length ∧
      ∀ r ∈ rs, r.producer = t.run.id := by
  have hs := Scene.Posts.refl s
  cases h with
  | rests alike sent => exact ⟨[], .of_alike alike, sent, by simp⟩
  | enters r own opened alike sent =>
    refine ⟨[r], Scene.Posts.alike ?_ alike, sent, by simpa using own⟩
    exact hs.enter .primary rfl opened
  | parks r own _ full alike sent =>
    refine ⟨[], Scene.Posts.alike ?_ alike, sent, by simp⟩
    exact hs.setQueue .primary rfl id
  | refused closed => simp [opened] at closed

namespace Aggregator

/-- What the aggregator does with the readings that it received: it keeps them if it does not
forward, and otherwise each of them enters the fan-out or is dropped. -/
structure Deals (forwards : Bool) (n n' : AggregatorReport) (taken entered lost : List Reading) :
    Prop where
  received : n'.received = n.received + taken.length
  forwarded : n'.forwarded = n.forwarded + entered.length
  dropped : n'.dropped = n.dropped + lost.length
  all : forwards = true → taken = entered ++ lost

theorem Hands.posts {forwards : Bool} {n n' : AggregatorReport} {r : Reading} {s s' : Scene}
    (h : Hands forwards n r s n' s') : ∃ entered lost, Deals forwards n n' [r] entered lost ∧
      s.Posts { forwarded := entered, settled := lost } s' := by
  cases h with
  | keeps off alike report =>
    exact ⟨[], [], ⟨by simp [report], by simp [report], by simp [report], by simp [off]⟩,
      .of_alike alike⟩
  | enters on opened alike report =>
    refine ⟨[r], [], ⟨by simp [report], by simp [report], by simp [report], by simp⟩, ?_⟩
    refine Scene.Posts.alike ?_ alike
    exact (Scene.Posts.refl s).enter .fanout rfl opened
  | drops on late alike report =>
    refine ⟨[], [r], ⟨by simp [report], by simp [report], by simp [report], by simp⟩, ?_⟩
    refine Scene.Posts.alike (Scene.Posts.count ?_ fun _ => rfl) alike
    exact (Scene.Posts.refl s).setQueue .fanout rfl id

theorem Moves.posts {a a' : Aggregator} {s s' : Scene} (h : a.Moves s a' s') :
    ∃ taken entered lost, Deals a.forwards a.report a'.report taken entered lost ∧
      s.Posts { received := taken, forwarded := entered, settled := lost } s' := by
  have rest (report : a'.report = a.report) : Deals a.forwards a.report a'.report [] [] [] :=
    ⟨by simp [report], by simp [report], by simp [report], by simp⟩
  have hs := Scene.Posts.refl s
  cases h with
  | starts alike created awake' report => exact ⟨[], [], [], rest report, .of_alike alike⟩
  | turns alike awake' report =>
    exact ⟨[], [], [], rest report, (Scene.Posts.abandonRecv s _ _ _).alike alike⟩
  | takes r buffer' buffer woken hands =>
    obtain ⟨entered, lost, deals, posts⟩ := hands.posts
    refine ⟨[r], entered, lost, deals, Scene.Posts.trans (p := .take .primary r) ?_ posts⟩
    exact hs.take .primary buffer id
  | stops s₁ buffer closed woken last alike ended report =>
    have hs₁ : s.Posts {} s₁ := last ▸ hs.setQueue .primary rfl id
    refine ⟨[], [], [], rest report, Scene.Posts.alike ?_ alike⟩
    split
    · exact hs₁.setQueue .fanout rfl fun _ => rfl
    · exact hs₁
  | parks buffer opened woken alike parked' report =>
    refine ⟨[], [], [], rest report, Scene.Posts.alike ?_ alike⟩
    exact hs.setQueue .primary rfl id

end Aggregator

namespace Publisher

/-- What the publisher does with the readings that it fetched and the one at hand: it has settled
them, and counted them, up to the one that is at hand now. -/
def Deals (p p' : Publisher) (fetched settled : List Reading) : Prop :=
  p.atHand?.toList ++ fetched = settled ++ p'.atHand?.toList ∧
    p'.report.total = p.report.total + settled.length

theorem Concludes.posts {n : PublisherReport} {r : Reading} {s s' : Scene} {p' : Publisher}
    (h : Concludes n r s p' s') : ∃ settled, s.Posts { settled := settled } s' ∧
      ((∃ c, p'.ending? = some (.crashed c)) ∨
        [r] = settled ++ p'.atHand?.toList ∧ p'.report.total = n.total + settled.length) := by
  cases h with
  | settles b o settled alike total hand' =>
    refine ⟨[r], ((Scene.Posts.setBroker s b).count settled).alike alike, .inr ⟨?_, total⟩⟩
    simp [hand']
  | awaits b alike report hand' =>
    refine ⟨[], (Scene.Posts.setBroker s b).alike alike, .inr ⟨?_, ?_⟩⟩
    · simp [hand']
    · simp [report]
  | crashes b c alike ended =>
    exact ⟨[], (Scene.Posts.setBroker s b).alike alike, .inl ⟨c, ended⟩⟩

theorem Moves.posts {p p' : Publisher} {s s' : Scene} (h : p.Moves s p' s')
    (stage : p.stage = .fanout) : ∃ fetched settled,
      s.Posts { fetched := fetched, settled := settled } s' ∧
        ((∃ c, p'.ending? = some (.crashed c)) ∨ p.Deals p' fetched settled) := by
  have hs := Scene.Posts.refl s
  cases h with
  | rests alike parked hand report =>
    exact ⟨[], [], .of_alike alike, .inr ⟨by simp [hand], by simp [report]⟩⟩
  | turns alike hand hand' awake' report =>
    exact ⟨[], [], (Scene.Posts.abandonRecv s _ _ _).alike alike,
      .inr ⟨by simp [hand, hand'], by simp [report]⟩⟩
  | takes r buffer' buffer woken hand next =>
    rw [stage] at buffer next
    obtain ⟨settled, posts, outcome⟩ := next.posts
    refine ⟨[r], settled, Scene.Posts.trans (p := .take .fanout r) ?_ posts,
      outcome.imp_right fun h => ⟨?_, h.2⟩⟩
    · exact hs.take .fanout buffer id
    · simpa [hand] using h.1
  | settles r hand awake next =>
    obtain ⟨settled, posts, outcome⟩ := next.posts
    exact ⟨[], settled, posts, outcome.imp_right fun h => ⟨by simpa [hand] using h.1, h.2⟩⟩
  | stops buffer closed woken hand alike ended report =>
    rw [stage] at alike
    have hand' : p'.atHand? = none := by simp [atHand?, ended]
    refine ⟨[], [], Scene.Posts.alike ?_ alike, .inr ⟨by simp [hand, hand'], by simp [report]⟩⟩
    exact hs.setQueue .fanout rfl id
  | parks buffer opened woken hand alike hand' parked' report =>
    rw [stage] at alike
    refine ⟨[], [], Scene.Posts.alike ?_ alike, .inr ⟨by simp [hand, hand'], by simp [report]⟩⟩
    exact hs.setQueue .fanout rfl id

end Publisher
end SensorFleet
