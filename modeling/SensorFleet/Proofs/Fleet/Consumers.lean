import SensorFleet.Fleet.Aggregator
import SensorFleet.Fleet.Publisher
import SensorFleet.Proofs.Fleet.Journal
import SensorFleet.Proofs.Queue.Look

/-!
Steps of the two consumers. A step of the aggregator takes at most one reading from the primary
queue and, if it forwards, offers it to the fan-out or counts it as dropped. A step of the publisher
takes at most one reading and settles at most one; a reading that was taken is at hand until it is
settled or the publisher crashes.
-/
namespace SensorFleet

namespace Scene

inductive Receives (s : Scene) (stage : Stage) (who : Party) (parked : Bool) :
    RecvLook Reading × Scene → Prop
  | item {r : Reading} {rest : List Reading} (buffer : (s.queue stage).buffer = r :: rest) :
      Receives s stage who parked (.item r,
        (s.setQueue stage (((s.queue stage).readerBack who parked).itemTaken rest)).record
          (.taken stage r))
  | ended (buffer : (s.queue stage).buffer = []) (closed : (s.queue stage).isClosed = true) :
      Receives s stage who parked (.ended,
        s.setQueue stage ((s.queue stage).readerBack who parked).endSeen)
  | waits (buffer : (s.queue stage).buffer = []) (opened : (s.queue stage).isClosed = false) :
      Receives s stage who parked (.waits,
        s.setQueue stage (((s.queue stage).readerBack who parked).readerParked who))

theorem receives (s : Scene) (stage : Stage) (who : Party) (parked : Bool) :
    s.Receives stage who parked (s.recv stage who parked) := by
  have hr := ((s.queue stage).readerBack who parked).receives who
  unfold recv
  dsimp only
  rw [← Channel.recv_readerBack]
  generalize ((s.queue stage).readerBack who parked).recv who = look at hr
  cases hr with
  | item buffer => exact .item buffer
  | ended buffer closed => exact .ended buffer closed
  | waits buffer opened => exact .waits buffer opened

end Scene

namespace Aggregator

/-- Whether it is known at the primary queue. -/
def isParked (a : Aggregator) : Bool :=
  match a.phase with
  | .waiting _ parked => parked
  | _ => false

theorem live_of_isReady {a : Aggregator} {s : Scene} (h : a.isReady s = true) :
    a.ending? = none := by
  unfold isReady at h
  unfold ending?
  split
  next he => simp [he] at h
  next => rfl

inductive Hands (forwards : Bool) (n : AggregatorReport) (r : Reading) (s : Scene)
    (n' : AggregatorReport) (s' : Scene) : Prop
  | keeps (off : forwards = false) (alike : s.Alike s')
      (report : n' = { n with received := n.received + 1 })
  | enters (on : forwards = true) (opened : s.fanout.isClosed = false)
      (alike : ((s.setQueue .fanout (s.fanout.push r)).record (.entered .fanout r)).Alike s')
      (report : n' = { n with received := n.received + 1, forwarded := n.forwarded + 1 })
  | drops (on : forwards = true) (late : Nat)
      (alike : ((s.setQueue .fanout { s.fanout with late := late }).count
        (.publishFailed r.producer "dropped")).Alike s')
      (report : n' = { n with received := n.received + 1, dropped := n.dropped + 1 })

inductive Moves (a : Aggregator) (s : Scene) (a' : Aggregator) (s' : Scene) : Prop
  | starts (alike : s.Alike s') (created : a.phase = .created) (awake' : a'.isParked = false)
      (report : a'.report = a.report) (unreturned : ∀ r, a'.ending? ≠ some (.returned r))
  | turns (alike : (s.abandonRecv .primary .aggregator a.isParked).Alike s')
      (awake' : a'.isParked = false) (report : a'.report = a.report) (live : a'.ending? = none)
  | takes (r : Reading) (rest : List Reading) (buffer : s.primary.buffer = r :: rest)
      (woken : a.isParked = true → s.primary.isReaderWoken .aggregator = true)
      (hands : Hands a.forwards a.report r ((s.setQueue .primary
        ((s.primary.readerBack .aggregator a.isParked).itemTaken rest)).record (.taken .primary r))
        a'.report s')
      (awake' : a'.isParked = false) (live : a'.ending? = none)
  | stops (s₁ : Scene) (buffer : s.primary.buffer = []) (closed : s.primary.isClosed = true)
      (woken : a.isParked = true → s.primary.isReaderWoken .aggregator = true)
      (last : s₁ = s.setQueue .primary (s.primary.readerBack .aggregator a.isParked).endSeen)
      (alike : (if a.forwards then (s₁.close .fanout).2 else s₁).Alike s')
      (ended : a'.phase = .ended (.returned a.report)) (report : a'.report = a.report)
  | parks (buffer : s.primary.buffer = []) (opened : s.primary.isClosed = false)
      (woken : a.isParked = true → s.primary.isReaderWoken .aggregator = true)
      (alike : (s.setQueue .primary
        ((s.primary.readerBack .aggregator a.isParked).readerParked .aggregator)).Alike s')
      (parked' : a'.isParked = true) (report : a'.report = a.report) (live : a'.ending? = none)

theorem Hands.steady {forwards : Bool} {n n' : AggregatorReport} {r : Reading} {s s' : Scene}
    (h : Hands forwards n r s n' s') : s.Steady s' := by
  cases h with
  | keeps off alike => exact alike.steady
  | enters on opened alike => exact (((Scene.Steady.refl s).setFanout _).record rfl).alike alike
  | drops on late alike => exact (((Scene.Steady.refl s).setFanout _).count _).alike alike

theorem Moves.steady {a a' : Aggregator} {s s' : Scene} (h : a.Moves s a' s') : s.Steady s' := by
  have hs := Scene.Steady.refl s
  cases h with
  | starts alike => exact alike.steady
  | turns alike => exact (hs.abandonRecv _ _ _).alike alike
  | takes r rest buffer woken hands =>
    refine Scene.Steady.trans ?_ hands.steady
    refine Scene.Steady.record ?_ rfl
    exact hs.setPrimary rfl rfl
  | stops s₁ buffer closed woken last alike =>
    have hs₁ : s.Steady s₁ := last ▸ hs.setPrimary rfl rfl
    refine Scene.Steady.alike ?_ alike
    split
    · exact hs₁.setFanout _
    · exact hs₁
  | parks buffer opened woken alike =>
    refine Scene.Steady.alike ?_ alike
    exact hs.setPrimary rfl rfl

theorem receive_hands (a : Aggregator) (s : Scene) (r : Reading) :
    Hands a.forwards a.report r s (a.receive s r).1.report (a.receive s r).2 := by
  have hs : s.Alike ((s.count .readingReceived).log (.readingReceived r.producer r.value)) :=
    (Scene.alike_count fun _ => rfl).trans (Scene.alike_log rfl)
  unfold receive
  dsimp only
  cases hf : a.forwards with
  | false => exact .keeps rfl hs rfl
  | true =>
    generalize hs₁ : (s.count .readingReceived).log (.readingReceived r.producer r.value) = s₁ at hs
    have hq : s₁.queue .fanout = s.fanout := hs.fanout
    have ho := s.fanout.offers r
    simp only [if_true, forward, Scene.offer, hq]
    generalize s.fanout.offer r = look at ho
    cases ho with
    | closed closed =>
      exact .drops rfl _ (((hs.setQueue _ _).count _).trans
        (Scene.alike_log (by split <;> rfl))) rfl
    | full opened full =>
      exact .drops rfl s.fanout.late (((hs.setQueue _ _).count _).trans
        (Scene.alike_log (by split <;> rfl))) rfl
    | accepted opened room =>
      exact .enters rfl opened ((hs.setQueue _ _).record _) rfl

theorem receive_phase (a : Aggregator) (s : Scene) (r : Reading) :
    (a.receive s r).1.phase = a.phase := by
  unfold receive forward
  dsimp only
  split
  · split <;> rfl
  · rfl

theorem start_moves {a : Aggregator} (h : a.phase = .created) (s : Scene) :
    a.Moves s (a.start s).1 (a.start s).2 := by
  unfold start
  split
  · exact .starts (.refl s) h rfl rfl (by simp [ending?])
  · exact .starts (Scene.alike_log rfl) h rfl rfl (by simp [ending?])

theorem finish_alike (a : Aggregator) (s : Scene) :
    (if a.forwards then (s.close .fanout).2 else s).Alike (a.finish s).2 :=
  Scene.alike_log rfl

theorem step_moves (a : Aggregator) (s : Scene) (ready : a.isReady s = true) :
    a.Moves s (a.step s).1 (a.step s).2 := by
  unfold step
  cases hp : a.phase with
  | created => exact start_moves hp s
  | waiting ticker parked =>
    have hk : a.isParked = parked := by simp [isParked, hp]
    simp only [isReady, hp, Bool.or_eq_true] at ready
    dsimp only
    split
    · exact .turns (by rw [hk]; exact Scene.alike_log rfl) rfl rfl rfl
    next hs =>
      split
      · exact .turns (by rw [hk]; exact Scene.alike_log rfl) rfl rfl rfl
      next hd =>
        have woken : a.isParked = true → s.primary.isReaderWoken .aggregator = true := by
          simpa [hs, hd, hk, or_iff_not_imp_left] using ready
        have hr := s.receives .primary .aggregator parked
        generalize s.recv .primary .aggregator parked = look at hr
        cases hr with
        | item buffer =>
          refine .takes _ _ buffer woken ?_ ?_ ?_
          · rw [hk]
            exact receive_hands { a with phase := .waiting ticker false } _ _
          · simp [isParked, receive_phase]
          · simp [ending?, receive_phase]
        | ended buffer closed =>
          exact .stops _ buffer closed woken (by rw [hk]; rfl)
            (finish_alike a _) rfl rfl
        | waits buffer opened =>
          exact .parks buffer opened woken
            (by rw [hk]; exact .refl _) rfl rfl rfl
  | ended e => simp [isReady, hp] at ready

theorem step_forwards (a : Aggregator) (s : Scene) : (a.step s).1.forwards = a.forwards := by
  have hreceive (a : Aggregator) (s : Scene) (r : Reading) :
      (a.receive s r).1.forwards = a.forwards := by
    unfold receive forward
    dsimp only
    split
    · split <;> rfl
    · rfl
  unfold step
  split
  · unfold start
    split <;> rfl
  · dsimp only
    split
    · rfl
    · split
      · rfl
      · split
        · exact hreceive _ _ _
        · rfl
        · rfl
  · rfl

end Aggregator

def PublisherReport.total (r : PublisherReport) : Nat := r.success + r.failures + r.dropped

namespace Publisher

def isParked (p : Publisher) : Bool :=
  match p.phase with
  | .waiting _ parked => parked
  | _ => false

def atHand? (p : Publisher) : Option Reading :=
  match p.phase with
  | .publishing _ r _ _ _ => some r
  | _ => none

theorem live_of_isReady {p : Publisher} {s : Scene} (h : p.isReady s = true) :
    p.ending? = none := by
  unfold isReady at h
  unfold ending?
  split
  next he => simp [he] at h
  next => rfl

theorem atHand?_of_ending {p : Publisher} {e : Ending PublisherReport} (h : p.ending? = some e) :
    p.atHand? = none := by
  unfold ending? at h
  unfold atHand?
  split at h
  next he => simp [he]
  next => cases h

inductive Concludes (n : PublisherReport) (r : Reading) (s : Scene) (p' : Publisher) (s' : Scene) :
    Prop
  | settles (b : Broker) (o : Observation)
      (settled : ∀ id, o.settles id = if r.producer = id then 1 else 0)
      (alike : (({ s with broker := b } : Scene).count o).Alike s')
      (total : p'.report.total = n.total + 1) (hand' : p'.atHand? = none)
      (awake' : p'.isParked = false) (live : p'.ending? = none)
  | awaits (b : Broker) (alike : ({ s with broker := b } : Scene).Alike s') (report : p'.report = n)
      (hand' : p'.atHand? = some r) (awake' : p'.isParked = false) (live : p'.ending? = none)
  | crashes (b : Broker) (c : Crash) (alike : ({ s with broker := b } : Scene).Alike s')
      (ended : p'.ending? = some (.crashed c)) (hand' : p'.atHand? = none)
      (awake' : p'.isParked = false)

inductive Moves (p : Publisher) (s : Scene) (p' : Publisher) (s' : Scene) : Prop
  | rests (alike : s.Alike s') (parked : p'.isParked = p.isParked) (hand : p'.atHand? = p.atHand?)
      (report : p'.report = p.report) (unreturned : ∀ n, p'.ending? ≠ some (.returned n))
  | turns (alike : (s.abandonRecv p.stage .publisher p.isParked).Alike s') (hand : p.atHand? = none)
      (hand' : p'.atHand? = none) (awake' : p'.isParked = false) (report : p'.report = p.report)
      (live : p'.ending? = none)
  | takes (r : Reading) (rest : List Reading) (buffer : (s.queue p.stage).buffer = r :: rest)
      (woken : p.isParked = true → (s.queue p.stage).isReaderWoken .publisher = true)
      (hand : p.atHand? = none)
      (next : Concludes p.report r ((s.setQueue p.stage
        (((s.queue p.stage).readerBack .publisher p.isParked).itemTaken rest)).record
          (.taken p.stage r)) p' s')
  | settles (r : Reading) (hand : p.atHand? = some r) (awake : p.isParked = false)
      (next : Concludes p.report r s p' s')
  | stops (buffer : (s.queue p.stage).buffer = []) (closed : (s.queue p.stage).isClosed = true)
      (woken : p.isParked = true → (s.queue p.stage).isReaderWoken .publisher = true)
      (hand : p.atHand? = none)
      (alike : (s.setQueue p.stage
        ((s.queue p.stage).readerBack .publisher p.isParked).endSeen).Alike s')
      (ended : p'.phase = .ended (.returned p.report)) (report : p'.report = p.report)
  | parks (buffer : (s.queue p.stage).buffer = []) (opened : (s.queue p.stage).isClosed = false)
      (woken : p.isParked = true → (s.queue p.stage).isReaderWoken .publisher = true)
      (hand : p.atHand? = none)
      (alike : (s.setQueue p.stage
        (((s.queue p.stage).readerBack .publisher p.isParked).readerParked .publisher)).Alike s')
      (hand' : p'.atHand? = none) (parked' : p'.isParked = true) (report : p'.report = p.report)
      (live : p'.ending? = none)

theorem Concludes.steady {n : PublisherReport} {r : Reading} {s s' : Scene} {p' : Publisher}
    (h : Concludes n r s p' s') : s.Steady s' := by
  have hs (b : Broker) : s.Steady { s with broker := b } := (Scene.Steady.refl s).setBroker b
  cases h with
  | settles b o settled alike => exact ((hs b).count o).alike alike
  | awaits b alike => exact (hs b).alike alike
  | crashes b c alike => exact (hs b).alike alike

theorem Moves.steady {p p' : Publisher} {s s' : Scene} (h : p.Moves s p' s') : s.Steady s' := by
  have hs := Scene.Steady.refl s
  cases h with
  | rests alike => exact alike.steady
  | turns alike => exact (hs.abandonRecv _ _ _).alike alike
  | takes r rest buffer woken hand next =>
    refine Scene.Steady.trans ?_ next.steady
    refine Scene.Steady.record ?_ rfl
    exact hs.setQueue rfl rfl
  | settles r hand awake next => exact next.steady
  | stops buffer closed woken hand alike =>
    refine Scene.Steady.alike ?_ alike
    exact hs.setQueue rfl rfl
  | parks buffer opened woken hand alike =>
    refine Scene.Steady.alike ?_ alike
    exact hs.setQueue rfl rfl

theorem settle_concludes {p : Publisher} {n : PublisherReport} {s s₁ : Scene} {r : Reading}
    {b : Broker} (hn : p.report = n) (alike : ({ s with broker := b } : Scene).Alike s₁)
    (ticker : Ticker) (outcome : PublishOutcome) :
    Concludes n r s (p.settle s₁ ticker r outcome).1 (p.settle s₁ ticker r outcome).2 := by
  subst hn
  have hr := alike.trans (Scene.alike_record (w := .publishOver r outcome) rfl)
  cases outcome with
  | published =>
    refine .settles b (.publishSucceeded r.producer) (fun _ => rfl) (hr.count _) ?_ rfl rfl rfl
    simp only [settle, PublisherReport.total]
    omega
  | failed e =>
    refine .settles b (.publishFailed r.producer e.reason) (fun _ => rfl)
      ((hr.count _).trans (Scene.alike_log (by split <;> rfl))) ?_ rfl rfl rfl
    simp only [settle, PublisherReport.total]
    omega
  | dropped =>
    exact .settles b (.publishFailed r.producer "dropped") (fun _ => rfl) (hr.count _) rfl rfl rfl
      rfl

theorem conclude_concludes {p : Publisher} {n : PublisherReport} {s s₁ : Scene} {r : Reading}
    {b : Broker} (hn : p.report = n) (alike : ({ s with broker := b } : Scene).Alike s₁)
    (ticker : Ticker) (started : Nat) (answer : Answer) :
    Concludes n r s (p.conclude s₁ ticker r started answer).1
      (p.conclude s₁ ticker r started answer).2 := by
  have hl := alike.trans
    (Scene.alike_count (o := .publishLatency r.producer (s₁.now - started)) fun _ => rfl)
  cases answer with
  | accepted => exact settle_concludes hn hl ticker _
  | failed e => exact settle_concludes hn hl ticker _
  | crashed c => exact .crashes b c alike rfl rfl rfl

theorem publish_concludes {p : Publisher} {n : PublisherReport} (hn : p.report = n) (s : Scene)
    (ticker : Ticker) (r : Reading) :
    Concludes n r s (p.publish s ticker r).1 (p.publish s ticker r).2 := by
  unfold publish
  split
  · exact settle_concludes hn (.refl s) ticker _
  · split
    · exact settle_concludes hn (.refl s) ticker _
    · have hr : s.Alike (s.record (.publishBegun r)) := Scene.alike_record rfl
      dsimp only
      generalize (s.record (.publishBegun r)).broker.start (s.record (.publishBegun r)).now
        ⟨r.subject p.subjectRoot, r.payload⟩ = begun
      obtain ⟨start, b⟩ := begun
      cases start with
      | done answer => exact conclude_concludes hn (hr.setBroker b) ticker _ answer
      | waiting pending => exact .awaits b (hr.setBroker b) hn rfl rfl rfl

theorem stepWaiting_moves {p : Publisher} {ticker : Ticker} {parked : Bool} {s : Scene}
    (hp : p.phase = .waiting ticker parked) (ready : p.isReady s = true) :
    p.Moves s (p.stepWaiting s ticker parked).1 (p.stepWaiting s ticker parked).2 := by
  have hk : p.isParked = parked := by simp [isParked, hp]
  have hh : p.atHand? = none := by simp [atHand?, hp]
  simp only [isReady, hp, Bool.or_eq_true] at ready
  unfold stepWaiting
  dsimp only
  split
  · exact .turns (by rw [hk]; exact Scene.alike_log rfl) hh rfl rfl rfl rfl
  next hs =>
    split
    · exact .rests (.refl s) rfl rfl rfl (by simp [ending?, setDeadline, hp])
    next hu =>
      split
      · exact .turns (by rw [hk]; exact Scene.alike_log rfl) hh rfl rfl rfl rfl
      next hl =>
        split
        · refine .turns ?_ hh rfl rfl rfl rfl
          rw [hk]
          exact (Scene.alike_count fun _ => rfl).trans (Scene.alike_log rfl)
        next hd =>
          have woken : p.isParked = true → (s.queue p.stage).isReaderWoken .publisher = true := by
            simpa [hs, hu, hl, hd, hk, or_iff_not_imp_left] using ready
          have hr := s.receives p.stage .publisher parked
          generalize s.recv p.stage .publisher parked = look at hr
          cases hr with
          | item buffer =>
            refine .takes _ _ buffer woken hh ?_
            rw [hk]
            exact publish_concludes rfl _ _ _
          | ended buffer closed =>
            refine .stops buffer closed woken hh ?_ rfl rfl
            rw [hk]
            exact (Scene.alike_count fun _ => rfl).trans (Scene.alike_log rfl)
          | waits buffer opened =>
            exact .parks buffer opened woken hh
              (by rw [hk]; exact .refl _) rfl rfl rfl rfl

theorem stepPublishing_moves {p : Publisher} {ticker : Ticker} {r : Reading}
    {pending : PendingPublish} {started : Nat} {timeout : Option Nat} (s : Scene)
    (hp : p.phase = .publishing ticker r pending started timeout) :
    p.Moves s (p.stepPublishing s ticker r pending started timeout).1
      (p.stepPublishing s ticker r pending started timeout).2 := by
  have hk : p.isParked = false := by simp [isParked, hp]
  have hh : p.atHand? = some r := by simp [atHand?, hp]
  unfold stepPublishing
  split
  · exact .settles r hh hk (conclude_concludes rfl (.refl _) ticker started _)
  · split
    · exact .settles r hh hk (conclude_concludes rfl (.refl s) ticker started _)
    · split
      · exact .rests (.refl s) rfl rfl rfl (by simp [ending?, setDeadline, hp])
      · split
        · have hs : ({ s with broker := s.broker } : Scene).Alike
              (s.log (.deadlinePassedMidPublish r.producer)) := Scene.alike_log rfl
          have abandoned : ({ p with abandoned := true } : Publisher).report = p.report := rfl
          exact .settles r hh hk (settle_concludes abandoned hs ticker .dropped)
        · exact .rests (.refl s) rfl rfl rfl (by simp [ending?, hp])

theorem start_moves {p : Publisher} (h : p.phase = .created) (s : Scene) :
    p.Moves s (p.start s).1 (p.start s).2 := by
  unfold start
  split
  · exact .rests (.refl s) (by simp [isParked, h]) (by simp [atHand?, h]) rfl (by simp [ending?])
  · exact .rests ((Scene.alike_log rfl).trans (Scene.alike_count fun _ => rfl))
      (by simp [isParked, h]) (by simp [atHand?, h]) rfl (by simp [ending?])

theorem step_stage (p : Publisher) (s : Scene) : (p.step s).1.stage = p.stage := by
  have hsettle (p : Publisher) (s : Scene) (ticker : Ticker) (r : Reading) (o : PublishOutcome) :
      (p.settle s ticker r o).1.stage = p.stage := by
    cases o <;> rfl
  have hconclude (p : Publisher) (s : Scene) (ticker : Ticker) (r : Reading) (started : Nat)
      (answer : Answer) : (p.conclude s ticker r started answer).1.stage = p.stage := by
    cases answer with
    | crashed c => rfl
    | _ => exact hsettle _ _ _ _ _
  have hpublish (p : Publisher) (s : Scene) (ticker : Ticker) (r : Reading) :
      (p.publish s ticker r).1.stage = p.stage := by
    unfold publish
    split
    · exact hsettle _ _ _ _ _
    · split
      · exact hsettle _ _ _ _ _
      · dsimp only
        split
        · exact hconclude _ _ _ _ _ _
        · rfl
  unfold step
  split
  · unfold start
    split <;> rfl
  · unfold stepWaiting
    dsimp only
    repeat' split
    all_goals first | rfl | exact hpublish _ _ _ _
  · unfold stepPublishing
    dsimp only
    repeat' split
    all_goals first | rfl | exact hconclude _ _ _ _ _ _
  · rfl

theorem step_moves (p : Publisher) (s : Scene) (ready : p.isReady s = true) :
    p.Moves s (p.step s).1 (p.step s).2 := by
  unfold step
  cases hp : p.phase with
  | created => exact start_moves hp s
  | waiting ticker parked => exact stepWaiting_moves hp ready
  | publishing ticker r pending started timeout => exact stepPublishing_moves s hp
  | ended e => simp [isReady, hp] at ready

end Publisher
end SensorFleet
