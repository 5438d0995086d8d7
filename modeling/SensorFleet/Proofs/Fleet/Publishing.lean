import SensorFleet.Proofs.Fleet.Dealings

/-!
What the publisher says to the broker and what it hears. A step fetches at most one reading, begins
its publish unless it is hopeless, and settles a reading when the broker has answered, or when the
timeout or the deadline comes first. Only what the broker accepts is counted as published.
-/
namespace SensorFleet

def Reading.message (root : String) (r : Reading) : Message := ⟨r.subject root, r.payload⟩

/-- What becomes of a reading by an answer, unless it is a crash. -/
def Answer.outcome? : Answer → Option PublishOutcome
  | .accepted => some .published
  | .failed e => some (.failed e)
  | .crashed _ => none

def PublisherReport.add (n : PublisherReport) : PublishOutcome → PublisherReport
  | .published => { n with success := n.success + 1 }
  | .failed _ => { n with failures := n.failures + 1 }
  | .dropped => { n with dropped := n.dropped + 1 }

namespace Publisher

def flight? (p : Publisher) : Option (Reading × PendingPublish) :=
  match p.phase with
  | .publishing _ r pending _ _ => some (r, pending)
  | _ => none

theorem atHand?_eq (p : Publisher) : p.atHand? = p.flight?.map Prod.fst := by
  unfold atHand? flight?
  cases p.phase <;> rfl

theorem flight?_of_ending {p : Publisher} {e : Ending PublisherReport} (h : p.ending? = some e) :
    p.flight? = none := by
  have hand := atHand?_of_ending h
  rwa [atHand?_eq, Option.map_eq_none_iff] at hand

structure Leaves (p : Publisher) (s : Scene) (ds : List Dealing) (b : Broker) (n : PublisherReport)
    (flight : Option (Reading × PendingPublish)) (p' : Publisher) (s' : Scene) : Prop where
  dealings : s'.dealings = s.dealings ++ ds
  broker : s'.broker = b
  report : p'.report = n
  flight : p'.flight? = flight
  root : p'.subjectRoot = p.subjectRoot

inductive Hears (p : Publisher) (r : Reading) (s : Scene) (ds : List Dealing) (b : Broker)
    (p' : Publisher) (s' : Scene) : Answer → Prop
  | outcome {a : Answer} (outcome : PublishOutcome) (given : a.outcome? = some outcome)
      (leaves : p.Leaves s (ds ++ [.settled r outcome]) b (p.report.add outcome) none p' s') :
      Hears p r s ds b p' s' a
  | crash (c : Crash) (leaves : p.Leaves s ds b p.report none p' s')
      (ended : p'.ending? = some (.crashed c)) : Hears p r s ds b p' s' (.crashed c)

inductive Speaks (p : Publisher) (s : Scene) (p' : Publisher) (s' : Scene) : Prop
  | rests (leaves : p.Leaves s [] s.broker p.report p.flight? p' s')
  | declines (r : Reading) (outcome : PublishOutcome) (idle : p.flight? = none)
      (unpublished : outcome ≠ .published)
      (leaves : p.Leaves s [.fetched r, .settled r outcome] s.broker (p.report.add outcome) none p' s')
  | begins (r : Reading) (pending : PendingPublish) (b : Broker) (idle : p.flight? = none)
      (started : s.broker.start s.now (r.message p.subjectRoot) = (.waiting pending, b))
      (leaves : p.Leaves s [.fetched r, .begun r] b p.report (some (r, pending)) p' s')
  | asks (r : Reading) (a : Answer) (b : Broker) (idle : p.flight? = none)
      (started : s.broker.start s.now (r.message p.subjectRoot) = (.done a, b))
      (hears : p.Hears r s [.fetched r, .begun r] b p' s' a)
  | hears (r : Reading) (pending : PendingPublish) (a : Answer) (b : Broker)
      (flying : p.flight? = some (r, pending))
      (finished : s.broker.finish pending.remainder = (a, b))
      (hears : p.Hears r s [] b p' s' a)
  | givesUp (r : Reading) (pending : PendingPublish) (outcome : PublishOutcome)
      (flying : p.flight? = some (r, pending)) (unpublished : outcome ≠ .published)
      (leaves : p.Leaves s [.settled r outcome] s.broker (p.report.add outcome) none p' s')

section Outcomes
variable {p : Publisher} {s s₁ : Scene} {ds : List Dealing}

theorem settle_leaves (before : s₁.dealings = s.dealings ++ ds) (ticker : Ticker) (r : Reading)
    (outcome : PublishOutcome) : p.Leaves s (ds ++ [.settled r outcome]) s₁.broker
      (p.report.add outcome) none (p.settle s₁ ticker r outcome).1
      (p.settle s₁ ticker r outcome).2 := by
  have counted (o : Observation) :=
    (Scene.Apart.refl (s₁.record (.publishOver r outcome))).count o
  have apart : (s₁.record (.publishOver r outcome)).Apart (p.settle s₁ ticker r outcome).2 := by
    cases outcome with
    | published | dropped => exact counted _
    | failed e => exact (counted _).log (by split <;> rfl)
  have settled : (s₁.record (.publishOver r outcome)).dealings =
      s.dealings ++ (ds ++ [.settled r outcome]) := by
    rw [Scene.dealings_record, before, List.append_assoc]
    rfl
  refine ⟨apart.dealings.trans settled, apart.broker, ?_, ?_, ?_⟩
  · cases outcome <;> rfl
  · cases outcome <;> rfl
  · cases outcome <;> rfl

theorem conclude_hears (before : s₁.dealings = s.dealings ++ ds) (ticker : Ticker) (r : Reading)
    (started : Nat) (answer : Answer) : p.Hears r s ds s₁.broker
      (p.conclude s₁ ticker r started answer).1 (p.conclude s₁ ticker r started answer).2 answer := by
  have timed := (Scene.Apart.refl s₁).count (.publishLatency r.producer (s₁.now - started))
  have settles (outcome : PublishOutcome) :=
    settle_leaves (p := p) (timed.dealings.trans before) ticker r outcome
  simp only [timed.broker] at settles
  cases answer with
  | accepted => exact .outcome .published rfl (settles _)
  | failed e => exact .outcome (.failed e) rfl (settles _)
  | crashed c => exact .crash c ⟨before, rfl, rfl, rfl, rfl⟩ rfl

end Outcomes

theorem publish_speaks {p : Publisher} {s s₁ : Scene} {r : Reading} (idle : p.flight? = none)
    (fetched : s₁.dealings = s.dealings ++ [.fetched r]) (broker : s₁.broker = s.broker)
    (now : s₁.now = s.now) (ticker : Ticker) :
    p.Speaks s (p.publish s₁ ticker r).1 (p.publish s₁ ticker r).2 := by
  have declines (outcome : PublishOutcome) := settle_leaves (p := p) fetched ticker r outcome
  rw [broker] at declines
  unfold publish
  split
  · exact .declines r .dropped idle nofun (declines _)
  · split
    · exact .declines r (.failed .notConnected) idle nofun (declines _)
    · have begun (b : Broker) : ({ s₁.record (.publishBegun r) with broker := b } : Scene).dealings =
          s.dealings ++ [.fetched r, .begun r] := by
        refine (Scene.dealings_record s₁ _).trans ?_
        rw [fetched, List.append_assoc]
        rfl
      have asked : (s₁.record (.publishBegun r)).broker.start (s₁.record (.publishBegun r)).now
          ⟨r.subject p.subjectRoot, r.payload⟩ = s.broker.start s.now (r.message p.subjectRoot) := by
        rw [← broker, ← now]
        rfl
      dsimp only
      rw [asked]
      cases started : s.broker.start s.now (r.message p.subjectRoot) with
      | mk start b =>
        cases start with
        | done a =>
          exact .asks r a b idle started (conclude_hears (begun b) ticker r _ a)
        | waiting pending => exact .begins r pending b idle started ⟨begun b, rfl, rfl, rfl, rfl⟩

theorem rests_of_apart {p p' : Publisher} {s s' : Scene} (apart : s.Apart s')
    (report : p'.report = p.report) (flight : p'.flight? = p.flight?)
    (root : p'.subjectRoot = p.subjectRoot) : p.Speaks s p' s' :=
  .rests ⟨by rw [apart.dealings, List.append_nil], apart.broker, report, flight, root⟩

theorem start_speaks {p : Publisher} (h : p.phase = .created) (s : Scene) :
    p.Speaks s (p.start s).1 (p.start s).2 := by
  have idle : p.flight? = none := by simp [flight?, h]
  have hs := Scene.Apart.refl s
  unfold start
  split
  · exact rests_of_apart hs rfl idle.symm rfl
  · exact rests_of_apart ((hs.log rfl).count _) rfl idle.symm rfl

theorem stepWaiting_speaks {p : Publisher} {ticker : Ticker} {parked : Bool} (s : Scene)
    (stage : p.stage = .fanout) (hp : p.phase = .waiting ticker parked) :
    p.Speaks s (p.stepWaiting s ticker parked).1 (p.stepWaiting s ticker parked).2 := by
  have idle : p.flight? = none := by simp [flight?, hp]
  have hs := Scene.Apart.refl s
  have leave := hs.abandonRecv p.stage .publisher parked
  unfold stepWaiting
  dsimp only
  split
  · exact rests_of_apart (leave.log rfl) rfl idle.symm rfl
  · split
    · exact rests_of_apart hs rfl rfl rfl
    · split
      · exact rests_of_apart (leave.log rfl) rfl idle.symm rfl
      · split
        · exact rests_of_apart ((leave.count _).log rfl) rfl idle.symm rfl
        · have looked := s.receives p.stage .publisher parked
          generalize s.recv p.stage .publisher parked = look at looked
          rw [stage] at looked
          cases looked with
          | @item r rest buffer =>
            have fetched := (s.setQueue .fanout (((s.queue .fanout).readerBack .publisher
              parked).itemTaken rest)).dealings_record (.taken .fanout r)
            rw [Scene.dealings_setQueue] at fetched
            exact publish_speaks idle fetched rfl rfl ticker
          | ended buffer closed =>
            have seen : s.Apart (s.setQueue .fanout
                ((s.queue .fanout).readerBack .publisher parked).endSeen) := hs.setQueue _ _
            exact rests_of_apart ((seen.count _).log rfl) rfl idle.symm rfl
          | waits buffer opened =>
            have parks : s.Apart (s.setQueue .fanout (((s.queue .fanout).readerBack .publisher
                parked).readerParked .publisher)) := hs.setQueue _ _
            exact rests_of_apart parks rfl idle.symm rfl

theorem stepPublishing_speaks {p : Publisher} {ticker : Ticker} {r : Reading}
    {pending : PendingPublish} {started : Nat} {timeout : Option Nat} (s : Scene)
    (hp : p.phase = .publishing ticker r pending started timeout) :
    p.Speaks s (p.stepPublishing s ticker r pending started timeout).1
      (p.stepPublishing s ticker r pending started timeout).2 := by
  have flying : p.flight? = some (r, pending) := by simp [flight?, hp]
  have nothing (b : Broker) : ({ s with broker := b } : Scene).dealings = s.dealings ++ [] :=
    (List.append_nil s.dealings).symm
  unfold stepPublishing
  split
  · cases finished : s.broker.finish pending.remainder with
    | mk a b =>
      exact .hears r pending a b flying finished (conclude_hears (nothing b) ticker r started a)
  · split
    · have timedOut := conclude_hears (p := p) (nothing s.broker) ticker r started
        (.failed (.timeout p.publishTimeout))
      cases timedOut with
      | outcome outcome given leaves =>
        obtain rfl : _ = outcome := Option.some.inj given
        exact .givesUp r pending (.failed (.timeout p.publishTimeout)) flying nofun leaves
    · split
      · exact rests_of_apart (.refl s) rfl rfl rfl
      · split
        · have noted : s.Apart (s.log (.deadlinePassedMidPublish r.producer)) :=
            (Scene.Apart.refl s).log rfl
          have dropped := settle_leaves (p := { p with abandoned := true })
            (noted.dealings.trans (nothing s.broker)) ticker r .dropped
          rw [noted.broker] at dropped
          exact .givesUp r pending .dropped flying nofun { dropped with }
        · exact rests_of_apart (.refl s) rfl rfl rfl

theorem step_speaks {p : Publisher} (stage : p.stage = .fanout) (s : Scene) :
    p.Speaks s (p.step s).1 (p.step s).2 := by
  unfold step
  cases hp : p.phase with
  | created => exact start_speaks hp s
  | waiting ticker parked => exact stepWaiting_speaks s stage hp
  | publishing ticker r pending started timeout => exact stepPublishing_speaks s hp
  | ended e => exact rests_of_apart (.refl s) rfl rfl rfl

end Publisher
end SensorFleet
