import SensorFleet.Proofs.Broker.Answers
import SensorFleet.Proofs.Fleet.BrokerLife
import SensorFleet.Proofs.Fleet.Ticks

/-!
What a broker in memory holds after a run or in the middle of one: an image of the stream of
readings. Each reading that the publisher fetched has one fate or is at hand. The broker has
accepted exactly those that the publisher counts as published, in the order in which the aggregator
received them, each at most once.
-/
namespace SensorFleet

namespace Dealing

def fetched? : Dealing → Option Reading
  | .fetched r => some r
  | _ => none

def fate? : Dealing → Option (Reading × PublishOutcome)
  | .settled r outcome => some (r, outcome)
  | _ => none

end Dealing

def publishedOf (fates : List (Reading × PublishOutcome)) : List Reading :=
  (fates.filter fun f => f.2 = .published).map Prod.fst

/-- The counts of a list of fates. -/
def tally (fates : List (Reading × PublishOutcome)) : PublisherReport :=
  fates.foldl (fun n f => n.add f.2) {}

section Fates
variable (fates fates' : List (Reading × PublishOutcome))

theorem publishedOf_append : publishedOf (fates ++ fates') = publishedOf fates ++ publishedOf fates' := by
  simp only [publishedOf, List.filter_append, List.map_append]

theorem publishedOf_sublist : (publishedOf fates).Sublist (fates.map Prod.fst) :=
  List.filter_sublist.map Prod.fst

theorem tally_append (f : Reading × PublishOutcome) :
    tally (fates ++ [f]) = (tally fates).add f.2 := by
  simp only [tally, List.foldl_append, List.foldl_cons, List.foldl_nil]

theorem success_tally : (tally fates).success = (publishedOf fates).length := by
  induction fates using List.reverseRecOn with
  | nil => rfl
  | append_singleton fates f ih =>
    obtain ⟨r, outcome⟩ := f
    rw [tally_append, publishedOf_append, List.length_append, ← ih]
    cases outcome <;> rfl

end Fates

namespace Scene

/-- What became of the readings that the publisher is done with, in order. -/
def fates (s : Scene) : List (Reading × PublishOutcome) := s.dealings.filterMap Dealing.fate?

theorem taken_fanout (s : Scene) : s.taken .fanout = s.dealings.filterMap Dealing.fetched? := by
  have told (w : Happening) : w.taken? .fanout = w.dealing?.bind Dealing.fetched? := by
    cases w with
    | taken stage r => cases stage <;> rfl
    | notice n => cases n <;> rfl
    | _ => rfl
  simp only [taken, dealings, history, List.filterMap_filterMap, told]

end Scene

namespace Broker

/-- A broker in memory that has recorded nothing so far; its switches may stand in any way. -/
structure Fresh (b : Broker) : Prop where
  kind : b.kind = .recording
  messages : b.messages = #[]
  accepted : b.accepted = 0

end Broker

structure Images (root : String) (s : Scene) (q : Publisher) : Prop where
  own : q.subjectRoot = root
  kind : s.broker.kind = .recording
  fetched : s.taken .fanout = s.fates.map Prod.fst ++ q.atHand?.toList
  messages : s.broker.messages.toList = (publishedOf s.fates).map (Reading.message root)
  accepted : s.broker.accepted = (publishedOf s.fates).length
  report : q.report = tally s.fates
  flight : ∀ r pending, q.flight? = some (r, pending) → pending.remainder = .deliver (r.message root)

namespace Images
variable {root : String} {s s' : Scene} {q q' : Publisher}

theorem keep (h : Images root s q) (kind : s'.broker.kind = s.broker.kind)
    (messages : s'.broker.messages = s.broker.messages)
    (accepted : s'.broker.accepted = s.broker.accepted) {ds : List Dealing}
    (dealings : s'.dealings = s.dealings ++ ds) (fetched : ds.filterMap Dealing.fetched? = [])
    (fates : ds.filterMap Dealing.fate? = []) : Images root s' q := by
  have taken : s'.taken .fanout = s.taken .fanout := by
    rw [Scene.taken_fanout, dealings, List.filterMap_append, fetched, List.append_nil,
      Scene.taken_fanout]
  have same : s'.fates = s.fates := by
    rw [Scene.fates, dealings, List.filterMap_append, fates, List.append_nil, Scene.fates]
  exact ⟨h.own, kind.trans h.kind, by rw [taken, same, h.fetched],
    by rw [messages, same, h.messages], by rw [accepted, same, h.accepted], by rw [same, h.report],
    h.flight⟩

theorem next (h : Images root s q) {ds : List Dealing} {b : Broker} {n : PublisherReport}
    {flight : Option (Reading × PendingPublish)} (leaves : q.Leaves s ds b n flight q' s')
    (kind : b.kind = .recording)
    (fetched : q.atHand?.toList ++ ds.filterMap Dealing.fetched? =
      (ds.filterMap Dealing.fate?).map Prod.fst ++ (flight.map Prod.fst).toList)
    (messages : b.messages.toList = s.broker.messages.toList ++
      (publishedOf (ds.filterMap Dealing.fate?)).map (Reading.message root))
    (accepted : b.accepted = s.broker.accepted + (publishedOf (ds.filterMap Dealing.fate?)).length)
    (report : n = (ds.filterMap Dealing.fate?).foldl (fun n f => n.add f.2) q.report)
    (pending : ∀ r pending, flight = some (r, pending) →
      pending.remainder = .deliver (r.message root)) : Images root s' q' := by
  have fates : s'.fates = s.fates ++ ds.filterMap Dealing.fate? := by
    rw [Scene.fates, leaves.dealings, List.filterMap_append, Scene.fates]
  refine ⟨leaves.root.trans h.own, leaves.broker ▸ kind, ?_, ?_, ?_, ?_, ?_⟩
  · rw [Scene.taken_fanout, leaves.dealings, List.filterMap_append, ← Scene.taken_fanout, h.fetched,
      List.append_assoc, fetched, fates, List.map_append, List.append_assoc,
      Publisher.atHand?_eq q', leaves.flight]
  · rw [leaves.broker, messages, h.messages, fates, publishedOf_append, List.map_append]
  · rw [leaves.broker, accepted, h.accepted, fates, publishedOf_append, List.length_append]
  · rw [leaves.report, report, h.report, fates, tally, tally, List.foldl_append]
  · rw [leaves.flight]
    exact pending

theorem hears (h : Images root s q) {r : Reading} {ds : List Dealing} {b : Broker} {a : Answer}
    (hears : q.Hears r s ds b q' s' a) (takes : s.broker.Takes (r.message root) a b)
    (unsettled : ds.filterMap Dealing.fate? = [])
    (fetched : q.atHand?.toList ++ ds.filterMap Dealing.fetched? = [r]) : Images root s' q' := by
  have settles {outcome : PublishOutcome} (leaves : q.Leaves s (ds ++ [.settled r outcome]) b
      (q.report.add outcome) none q' s') (kind : b.kind = .recording)
      (messages : b.messages.toList = s.broker.messages.toList ++
        (publishedOf [(r, outcome)]).map (Reading.message root))
      (accepted : b.accepted = s.broker.accepted + (publishedOf [(r, outcome)]).length) :
      Images root s' q' := by
    have fates : (ds ++ [Dealing.settled r outcome]).filterMap Dealing.fate? = [(r, outcome)] := by
      rw [List.filterMap_append, unsettled]
      rfl
    refine h.next leaves kind ?_ (fates ▸ messages) (fates ▸ accepted) (fates ▸ rfl) nofun
    rw [fates, List.filterMap_append, ← List.append_assoc, fetched]
    rfl
  cases hears with
  | outcome outcome given leaves =>
    cases takes with
    | accepts =>
      cases given
      refine settles leaves (by simp [Broker.accept, h.kind]) ?_ ?_
      · simp [Broker.accept, h.kind, publishedOf]
      · simp [Broker.accept, h.kind, publishedOf]
    | refuses e =>
      cases given
      exact settles leaves h.kind (by simp [publishedOf]) (by simp [publishedOf])
  | crash c => cases takes

theorem speaks (h : Images root s q) (speaks : q.Speaks s q' s') : Images root s' q' := by
  have unpublished {r : Reading} {outcome : PublishOutcome} (lost : outcome ≠ .published) :
      publishedOf [(r, outcome)] = [] := by simp [publishedOf, lost]
  have own := h.own
  have inMemory := Broker.isScripted_of_recording h.kind
  cases speaks with
  | rests leaves =>
    refine h.next leaves h.kind ?_ (by simp [publishedOf]) (by simp [publishedOf]) rfl h.flight
    rw [q.atHand?_eq]
    simp
  | declines r outcome idle lost leaves =>
    refine h.next leaves h.kind ?_ ?_ ?_ rfl nofun
    · simp [q.atHand?_eq, idle, List.filterMap_cons, Dealing.fetched?, Dealing.fate?]
    · simp [List.filterMap_cons, Dealing.fate?, unpublished lost]
    · simp [List.filterMap_cons, Dealing.fate?, unpublished lost]
  | begins r pending b idle started leaves =>
    obtain ⟨rfl, remainder⟩ := Broker.start_waits inMemory (own ▸ started)
    refine h.next leaves h.kind ?_ ?_ ?_ rfl ?_
    · simp [q.atHand?_eq, idle, List.filterMap_cons, Dealing.fetched?, Dealing.fate?]
    · simp [List.filterMap_cons, Dealing.fate?, publishedOf]
    · simp [List.filterMap_cons, Dealing.fate?, publishedOf]
    · intro r' pending' same
      cases same
      exact remainder
  | asks r a b idle started hears =>
    refine h.hears hears (Broker.start_takes inMemory (own ▸ started)) rfl ?_
    simp [q.atHand?_eq, idle, List.filterMap_cons, Dealing.fetched?]
  | hears r pending a b flying finished hears =>
    rw [h.flight r pending flying] at finished
    refine h.hears hears (Broker.finish_takes finished) rfl ?_
    simp [q.atHand?_eq, flying]
  | givesUp r pending outcome flying lost leaves =>
    refine h.next leaves h.kind ?_ ?_ ?_ rfl nofun
    · simp [q.atHand?_eq, flying, List.filterMap_cons, Dealing.fetched?, Dealing.fate?]
    · simp [Dealing.fate?, unpublished lost]
    · simp [Dealing.fate?, unpublished lost]

end Images

theorem ProducerId.text_inj {id id' : ProducerId} (h : id.text = id'.text) : id = id' := by
  have digits : Nat.toDigits 10 id.toNat = Nat.toDigits 10 id'.toNat := by
    rw [← Nat.toList_repr, ← Nat.toList_repr]
    exact congrArg String.toList h
  have same := congrArg (Nat.ofDigitChars 10 · 0) digits
  simp only [Nat.ofDigitChars_toDigits (show 1 < 10 by decide) (Nat.le_refl 10)] at same
  exact UInt32.toNat_inj.mp same

/-- The subjects under one root tell producers apart. -/
theorem Reading.subject_eq_iff (r : Reading) (root : String) (id : ProducerId) :
    r.subject root = root ++ ".data." ++ id.text ↔ r.producer = id := by
  rw [subject, String.append_right_inj]
  exact ⟨ProducerId.text_inj, congrArg _⟩

namespace Simulation

theorem Deals.images {m m' : Simulation} (deals : Deals m m') {root : String}
    (h : ∀ q, m.publisher = some q → Images root m.scene q) :
    ∀ q, m'.publisher = some q → Images root m'.scene q := by
  intro q' present
  cases deals with
  | apart scene publisher result =>
    rw [publisher] at present
    refine (h q' present).keep ?_ ?_ ?_ (scene.dealings.trans (List.append_nil _).symm) rfl rfl
    all_goals rw [scene.broker]
  | turns switch broker dealings publisher result =>
    rw [publisher] at present
    refine (h q' present).keep ?_ ?_ ?_ (dealings.trans (List.append_nil _).symm) rfl rfl
    all_goals
      rw [broker]
      cases switch <;> rfl
  | speaks q q₁ before live after speaks result =>
    rw [after, Option.some.injEq] at present
    exact present ▸ (h q before).speaks speaks
  | leaves r absent publisher going result broker dealings => simp [publisher] at present
  | closes r error phase watched publisher result broker dealings =>
    rw [publisher] at present
    have images := h q' present
    have closed : m.scene.broker.close.2 = { m.scene.broker with closed := true } := by
      simp [Broker.close, images.kind]
    rw [closed] at broker
    refine images.keep ?_ ?_ ?_ dealings ?_ ?_
    · rw [broker]
    · rw [broker]
    · rw [broker]
    · cases r <;> rfl
    · cases r <;> rfl

theorem Reachable.images {c : Config} {p : Equipment} {m : Simulation} (h : Reachable c p m)
    {b : Broker} (given : p.broker = some b) (fresh : b.Fresh) :
    ∀ q, m.publisher = some q → Images c.subjectRoot m.scene q := by
  refine h.invariant (fun {m} started q present => ?_) fun prior turn hm =>
    (turn.deals prior).images hm
  obtain ⟨broker, nothing⟩ := start_broker started
  rw [given, Option.getD_some] at broker
  obtain ⟨_, created, report⟩ := (start_started started).publisher_created present
  have root : q.subjectRoot = c.subjectRoot := by
    rw [(start_started started).publisher, publisherOf] at present
    split at present
    · cases present
      rfl
    · cases present
  have fates : m.scene.fates = [] := by rw [Scene.fates, nothing]; rfl
  refine ⟨root, broker ▸ fresh.kind, ?_, ?_, ?_, ?_, ?_⟩
  · rw [Scene.taken_fanout, nothing, fates]
    simp [Publisher.atHand?, created]
  · rw [broker, fresh.messages, fates]
    rfl
  · rw [broker, fresh.accepted, fates]
    rfl
  · rw [report, fates]
    rfl
  · simp [Publisher.flight?, created]

/-- What entered the fan-out was received by the aggregator, in the same order. -/
theorem Reachable.forwarded_sublist {c : Config} {p : Equipment} {m : Simulation}
    (h : Reachable c p m) (publishes : c.publishes = true) :
    (m.scene.entered .fanout).Sublist (m.scene.taken .primary) := by
  refine h.invariant (P := fun m => (m.scene.entered .fanout).Sublist (m.scene.taken .primary))
    (fun {m} started => ?_) fun {m m'} prior turn hm => ?_
  · rw [(start_started started).entered .fanout]
    exact List.nil_sublist _
  · cases prior.entry turn with
    | quiet tallies aggregator publisher posts =>
      rw [posts.forwarded, posts.received]
      simpa using hm
    | sends i id n rs found own tallies aggregator publisher posts =>
      rw [posts.forwarded, posts.received]
      simpa using hm
    | receives taken entered lost tallies forwards deals publisher posts =>
      have all := deals.all (prior.booked.forwards.trans publishes)
      rw [posts.forwarded, posts.received]
      refine hm.append ?_
      change entered.Sublist taken
      rw [all]
      exact List.sublist_append_left entered lost
    | fetches q q' fetched settled tallies aggregator before live after deals posts =>
      rw [posts.forwarded, posts.received]
      simpa using hm

/-- In a run that publishes to a fresh broker in memory, whose switches may be turned at any time.
Each reading that the publisher fetched has met its fate or is at hand, and the publisher has counted
all fates. The broker holds the messages of the readings that were published, as many as it has
accepted and the publisher counts; these are some of the readings that the aggregator received, each
at most once and in the same order. Under the subject of a producer are its own, in the order in
which it sent them. -/
theorem Reachable.broker_image {c : Config} {p : Equipment} {m : Simulation} (h : Reachable c p m)
    (publishes : c.publishes = true) {b : Broker} (given : p.broker = some b) (fresh : b.Fresh) :
    ∃ q, m.publisher = some q ∧
      m.scene.taken .fanout = m.scene.fates.map Prod.fst ++ q.atHand?.toList ∧
      q.report = tally m.scene.fates ∧
      m.scene.broker.messages.toList =
        (publishedOf m.scene.fates).map (Reading.message c.subjectRoot) ∧
      (publishedOf m.scene.fates).Sublist (m.scene.taken .primary) ∧
      m.scene.broker.accepted = (publishedOf m.scene.fates).length ∧
      q.report.success = m.scene.broker.accepted ∧
      ∀ id : ProducerId,
        (m.scene.broker.messages.toList.filter fun x =>
          x.subject = c.subjectRoot ++ ".data." ++ id.text) =
          ((publishedOf m.scene.fates).filter fun r => r.producer = id).map
            (Reading.message c.subjectRoot) ∧
        ((publishedOf m.scene.fates).filter fun r => r.producer = id).Sublist
          (m.scene.sentBy id) := by
  obtain ⟨q, present⟩ := Option.isSome_iff_exists.mp (h.accounted.present.trans publishes)
  have images := h.images given fresh q present
  have flows := h.booked.flows
  -- from the broker back to the producers, each stage has seen all that comes after it
  have fetched : (publishedOf m.scene.fates).Sublist (m.scene.taken .fanout) := by
    rw [images.fetched]
    exact (publishedOf_sublist _).trans (List.sublist_append_left _ _)
  have forwarded : (m.scene.taken .fanout).Sublist (m.scene.entered .fanout) := by
    rw [← flows .fanout]
    exact List.sublist_append_left _ _
  have received := (fetched.trans forwarded).trans (h.forwarded_sublist publishes)
  have sent : (m.scene.taken .primary).Sublist (m.scene.entered .primary) := by
    rw [← flows .primary]
    exact List.sublist_append_left _ _
  refine ⟨q, present, images.fetched, images.report, images.messages, received, images.accepted, ?_,
    fun id => ⟨?_, (received.trans sent).filter _⟩⟩
  · rw [images.report, success_tally, images.accepted]
  · rw [images.messages, List.filter_map]
    congr 2
    funext r
    exact decide_eq_decide.mpr (r.subject_eq_iff c.subjectRoot id)

/-- One of two readings gets through: the broker rejects the other. -/
theorem image_of_one_in_two :
    ∃ (c : Config) (p : Equipment) (b : Broker) (m : Simulation) (q : Publisher) (r r' : Reading),
      Reachable c p m ∧ c.publishes = true ∧ p.broker = some b ∧ b.Fresh ∧
      m.scene.fates = [(r, .failed (.rejected "quota")), (r', .published)] ∧
      m.publisher = some q ∧ q.report = { success := 1, failures := 1 } ∧
      m.scene.broker.messages.toList = [r'.message c.subjectRoot] := by
  let c : Config := { producers := 2, capacity := 2, publishes := true }
  let b : Broker := { kind := .recording, delay := 10 }
  let p : Equipment :=
    { clock := .fixed default, sources := fun _ _ _ => .source fun _ => .value default
      broker := some b }
  let cues : List Cue := [.event .publisher, .event .aggregator, .event (.supervisor 0),
    .event (.supervisor 1), .event (.run 0), .event (.run 1), .time 100000000, .event (.run 0),
    .event (.run 1), .event .aggregator, .event .aggregator, .event .publisher,
    .outside (.turn (.rejection (some "quota"))), .time 110000000, .event .publisher,
    .event .publisher, .outside (.turn (.rejection none)), .time 120000000, .event .publisher]
  let r : Reading := ⟨1, default, default⟩
  let r' : Reading := ⟨2, default, default⟩
  obtain ⟨m, reachable, fates⟩ : ∃ m, Reachable c p m ∧ decide (m.scene.fates =
      [(r, .failed (.rejected "quota")), (r', .published)]) = true :=
    exists_reachable cues (by decide)
  rw [decide_eq_true_eq] at fates
  have fresh : b.Fresh := ⟨rfl, rfl, rfl⟩
  obtain ⟨q, present, _, report, messages, _⟩ := reachable.broker_image rfl rfl fresh
  rw [fates] at report messages
  exact ⟨c, p, b, m, q, r, r', reachable, rfl, rfl, fresh, fates, present, report, messages⟩

end Simulation
end SensorFleet
