import SensorFleet.Proofs.Fleet.BrokerImage
import SensorFleet.Proofs.Metrics.PublishCounts
import SensorFleet.Proofs.Outlet.Pace

/-!
What became of the readings that a publisher alone has taken. Each is fetched, its publish is begun
unless that is hopeless, and it is settled, before the next one is fetched; it is counted once, in
the report and in the metrics, and its latency is observed if its publish came to an end.
-/
namespace SensorFleet

structure Treatment where
  reading : Reading
  /-- Whether its publish was begun. -/
  called : Bool
  outcome : PublishOutcome
deriving DecidableEq, Repr

namespace Treatment

def dealings (t : Treatment) : List Dealing :=
  .fetched t.reading :: ((if t.called then [.begun t.reading] else []) ++
    [.settled t.reading t.outcome])

def fate (t : Treatment) : Reading × PublishOutcome := (t.reading, t.outcome)

/-- Whether its publish came to an end of its own. -/
def isTimed (t : Treatment) : Bool := t.called && t.outcome ≠ .dropped

def count (t : Treatment) : PublishCount :=
  match t.outcome with
  | .published => .published
  | .failed e => .failed e.reason
  | .dropped => .failed "dropped"

def addsTo (t : Treatment) (id : ProducerId) (k : PublishCount) : Nat :=
  if t.reading.producer = id then
    (if k = t.count then 1 else 0) + if k = .timed ∧ t.isTimed then 1 else 0
  else 0

@[simp] theorem fetched_dealings (t : Treatment) :
    t.dealings.filterMap Dealing.fetched? = [t.reading] := by
  obtain ⟨r, called, outcome⟩ := t
  cases called <;> rfl

@[simp] theorem fate_dealings (t : Treatment) :
    t.dealings.filterMap Dealing.fate? = [t.fate] := by
  obtain ⟨r, called, outcome⟩ := t
  cases called <;> rfl

/-- The observations that are made of it come to what it adds. -/
theorem sum_observations (t : Treatment) {latency : Option Nat}
    (timed : latency.isSome = t.isTimed) (id : ProducerId) (k : PublishCount) :
    ((Publisher.observations t.reading latency t.outcome).map (·.addsTo id k)).sum =
      t.addsTo id k := by
  have settled : (t.outcome.observation t.reading.producer).addsTo id k =
      if t.reading.producer = id ∧ k = t.count then 1 else 0 := by
    unfold count PublishOutcome.observation
    cases t.outcome <;> rfl
  simp only [Publisher.observations, List.map_append, List.sum_append, List.map_map, List.map_cons,
    List.map_nil, List.sum_singleton, settled, addsTo, ← timed]
  by_cases own : t.reading.producer = id <;> cases latency <;>
    simp [own, Observation.addsTo, Nat.add_comm]

end Treatment

namespace Happening

theorem notice_of_isRemark {w : Happening} (h : w.isRemark = true) :
    ∃ n, w = .notice n ∧ w.isDeadline = false ∧ w.dealing? = none := by
  cases w with
  | notice n =>
    simp only [isRemark, Bool.and_eq_true, Bool.not_eq_true', Option.isNone_iff_eq_none] at h
    exact ⟨n, rfl, h⟩
  | _ => cases h

end Happening

namespace PublishOutcome

theorem notices_told (id : ProducerId) (o : PublishOutcome) :
    ∀ w ∈ o.notices id, w.isRemark = true := by
  cases o with
  | failed e =>
    simp only [notices, List.mem_singleton, forall_eq]
    split <;> rfl
  | _ => exact fun w hw => by cases hw

end PublishOutcome

theorem dealings_remarks {what : List Happening} (remarks : ∀ w ∈ what, w.isRemark = true) :
    what.filterMap Happening.dealing? = [] := by
  refine List.filterMap_eq_nil_iff.mpr fun w hw => ?_
  obtain ⟨n, rfl, _, undealt⟩ := Happening.notice_of_isRemark (remarks w hw)
  exact undealt

@[simp] theorem dealings_entries (r : Reading) (o : PublishOutcome) :
    (o.entries r).filterMap Happening.dealing? = [.settled r o] := by
  rw [PublishOutcome.entries, List.filterMap_cons, dealings_remarks (o.notices_told r.producer)]
  rfl

namespace Scene
variable {s s' : Scene} {what : List Happening} {observed : List Observation}

theorem Tells.dealings (h : s.Tells what observed s') :
    s'.dealings = s.dealings ++ what.filterMap Happening.dealing? := by
  rw [Scene.dealings, history, h.journal, List.reverse_append, List.reverse_reverse,
    List.filterMap_append, Scene.dealings, history, List.filterMap_map]
  rfl

theorem Tells.publishCount (h : s.Tells what observed s') (on : s.counts = true) (id : ProducerId)
    (k : PublishCount) : s'.metrics.publishCount id k =
      s.metrics.publishCount id k + (observed.map (·.addsTo id k)).sum := by
  rw [h.metrics, if_pos on, Metrics.publishCount_notes]

end Scene

namespace Publisher
variable {p p' : Publisher} {s s' : Scene}

/-- The dealings with the reading in flight so far. -/
def unsettled (p : Publisher) : List Dealing :=
  p.aloft?.elim [] fun f => [.fetched f.reading, .begun f.reading]

theorem unsettled_of_grounded (grounded : p.aloft? = none) : p.unsettled = [] := by
  rw [unsettled, grounded]
  rfl

theorem unsettled_of_aloft {f : Flight} (flying : p.aloft? = some f) :
    p.unsettled = [.fetched f.reading, .begun f.reading] := by
  rw [unsettled, flying]
  rfl

structure Treats (p : Publisher) (s : Scene) (t : Option Treatment) (p' : Publisher) (s' : Scene) :
    Prop where
  dealings : ∃ ds, s'.dealings = s.dealings ++ ds ∧
    p.unsettled ++ ds = t.toList.flatMap Treatment.dealings ++ p'.unsettled
  report : p'.report = t.toList.foldl (fun n t => n.add t.outcome) p.report
  metrics : s.counts = true → ∀ id k, s'.metrics.publishCount id k =
    s.metrics.publishCount id k + (t.toList.map (·.addsTo id k)).sum
  order : ∀ u ∈ t, u.outcome = .dropped ∧ p'.abandoned = true ∨
    u.outcome ≠ .dropped ∧ p.abandoned = false

namespace Yields
variable {what : List Happening} {observed : List Observation} {b : Broker} {n : PublisherReport}
  {flight : Option Flight}

theorem treats_none (yields : p.Yields s what observed b p.report flight p' s')
    (quiet : ∀ o ∈ observed, ∃ connected, o = .brokerConnection connected)
    (dealt : p.unsettled ++ what.filterMap Happening.dealing? = p'.unsettled) :
    p.Treats s none p' s' where
  dealings := ⟨_, yields.tells.dealings, dealt⟩
  report := yields.report
  metrics := by
    intro on id k
    rw [yields.tells.publishCount on]
    refine congrArg _ (List.sum_eq_zero fun x hx => ?_)
    obtain ⟨o, ho, rfl⟩ := List.mem_map.mp hx
    obtain ⟨connected, rfl⟩ := quiet o ho
    rfl
  order := by simp

theorem treats_some {t : Treatment} {latency : Option Nat}
    (yields : p.Yields s what (observations t.reading latency t.outcome) b
      (p.report.add t.outcome) none p' s')
    (timed : latency.isSome = t.isTimed)
    (dealt : p.unsettled ++ what.filterMap Happening.dealing? = t.dealings)
    (order : t.outcome = .dropped ∧ p'.abandoned = true ∨
      t.outcome ≠ .dropped ∧ p.abandoned = false) :
    p.Treats s (some t) p' s' where
  dealings := ⟨_, yields.tells.dealings, by simp [dealt, unsettled_of_grounded yields.aloft]⟩
  report := yields.report
  metrics := by
    intro on id k
    rw [yields.tells.publishCount on, t.sum_observations timed]
    simp
  order := by
    rintro _ ⟨⟩
    exact order

end Yields

/-- A step is done with at most one reading, which it drops only for the deadline. -/
theorem Acts.treats (h : p.Acts s p' s') (going : ∀ f, p.aloft? = some f → p.abandoned = false) :
    ∃ t, p.Treats s t p' s' := by
  have kept {q q' : Publisher} (aloft : q'.aloft? = q.aloft?) : q.unsettled = q'.unsettled := by
    rw [unsettled, unsettled, aloft]
  cases h with
  | fails c created ended scene report settings same =>
    refine ⟨none, ⟨⟨[], by simp [scene], ?_⟩, report, fun _ _ _ => by simp [scene], by simp⟩⟩
    have grounded : p.aloft? = none := by simp [aloft?, created]
    simp [unsettled_of_grounded grounded, unsettled_of_grounded (aloft?_of_ending ended)]
  | rests what observed remarks quiet yields same =>
    refine ⟨none, yields.treats_none quiet ?_⟩
    rw [dealings_remarks remarks, List.append_nil, kept yields.aloft]
  | sees seen yields deadline abandoned =>
    exact ⟨none, yields.treats_none (by simp) (by simp [kept yields.aloft])⟩
  | givesUp n passed grounded yields deadline abandoned =>
    refine ⟨none, yields.treats_none (by simp) ?_⟩
    simp [kept (yields.aloft.trans grounded.symm), List.filterMap_cons, Happening.dealing?]
  | declines r outcome grounded why yields same =>
    refine ⟨some ⟨r, false, outcome⟩, yields.treats_some rfl ?_ ?_⟩
    · simp [unsettled_of_grounded grounded, Happening.dealing?, Treatment.dealings]
    · rcases why with ⟨rfl, gave⟩ | ⟨rfl, going⟩
      · exact .inl ⟨rfl, same.2.trans gave⟩
      · exact .inr ⟨by simp, going⟩
  | asks r a b outcome grounded going started given yields same =>
    have answered := outcome_ne_dropped given
    refine ⟨some ⟨r, true, outcome⟩, yields.treats_some ?_ ?_ (.inr ⟨answered, going⟩)⟩
    · simp [Treatment.isTimed, answered]
    · simp [unsettled_of_grounded grounded, Happening.dealing?, Treatment.dealings]
  | begins r pending b grounded going started yields same =>
    refine ⟨none, yields.treats_none (by simp) ?_⟩
    simp [unsettled_of_grounded grounded, unsettled_of_aloft yields.aloft, Happening.dealing?]
  | lands f outcome latency notices b flying landed yields deadline abandoned =>
    have settled (heard : notices.filterMap Happening.dealing? = []) : p.unsettled ++
        (notices ++ outcome.entries f.reading).filterMap Happening.dealing? =
          Treatment.dealings ⟨f.reading, true, outcome⟩ := by
      rw [unsettled_of_aloft flying, List.filterMap_append, heard, dealings_entries]
      rfl
    refine ⟨some ⟨f.reading, true, outcome⟩, ?_⟩
    cases landed with
    | answered rung given =>
      have answered := outcome_ne_dropped given
      exact yields.treats_some (by simp [Treatment.isTimed, answered]) (settled rfl)
        (.inr ⟨answered, going f flying⟩)
    | timedOut silent rung =>
      exact yields.treats_some rfl (settled rfl) (.inr ⟨by simp, going f flying⟩)
    | cutOff silent early passed =>
      exact yields.treats_some rfl (settled rfl) (.inl ⟨rfl, abandoned.trans (if_pos rfl)⟩)

end Publisher

namespace Outlet

/-- Nothing is dropped before the publisher gives up, and everything is dropped afterwards. -/
def InOrder (abandoned : Bool) (ts : List Treatment) : Prop :=
  ∃ attempted dropped, ts = attempted ++ dropped ∧ (∀ t ∈ attempted, t.outcome ≠ .dropped) ∧
    (∀ t ∈ dropped, t.outcome = .dropped) ∧ (abandoned = false → dropped = [])

theorem InOrder.snoc {abandoned abandoned' : Bool} {ts : List Treatment} {t : Option Treatment}
    (h : InOrder abandoned ts) (kept : abandoned' = false → abandoned = false)
    (order : ∀ u ∈ t, u.outcome = .dropped ∧ abandoned' = true ∨
      u.outcome ≠ .dropped ∧ abandoned = false) : InOrder abandoned' (ts ++ t.toList) := by
  obtain ⟨attempted, dropped, rfl, tried, lost, before⟩ := h
  cases t with
  | none => exact ⟨attempted, dropped, List.append_nil _, tried, lost, before ∘ kept⟩
  | some u =>
    rcases order u rfl with ⟨last, gave⟩ | ⟨last, going⟩
    · refine ⟨attempted, dropped ++ [u], List.append_assoc .., tried, ?_, ?_⟩
      · simpa [or_imp, forall_and] using ⟨lost, last⟩
      · simp [gave]
    · obtain rfl := before going
      refine ⟨attempted ++ [u], [], by simp, ?_, nofun, fun _ => rfl⟩
      simpa [or_imp, forall_and] using ⟨tried, last⟩

structure Treated (o : Outlet) (ts : List Treatment) : Prop where
  dealings : o.scene.dealings = ts.flatMap Treatment.dealings ++ o.publisher.unsettled
  report : o.publisher.report = tally (ts.map Treatment.fate)
  metrics : o.scene.counts = true → ∀ id k,
    o.scene.metrics.publishCount id k = (ts.map (·.addsTo id k)).sum
  order : InOrder o.publisher.abandoned ts

theorem Visited.dealings {s s' : Scene} (h : Visited s s') : s'.dealings = s.dealings := by
  rcases h.journal with same | ⟨r, entered⟩
  · rw [Scene.dealings, Scene.history, same]
    rfl
  · rw [Scene.dealings, Scene.history, entered, List.reverse_cons, List.filterMap_append]
    exact List.append_nil _

namespace Treated
variable {o : Outlet} {ts : List Treatment}

theorem fates (h : o.Treated ts) : o.scene.fates = ts.map Treatment.fate := by
  have loose : o.publisher.unsettled.filterMap Dealing.fate? = [] := by
    rw [Publisher.unsettled]
    cases o.publisher.aloft? <;> rfl
  rw [Scene.fates, h.dealings, List.filterMap_append, loose, List.append_nil, List.filterMap_flatMap]
  simp only [Treatment.fate_dealings, ← List.map_eq_flatMap]

theorem taken (h : o.Treated ts) : o.scene.taken .fanout =
    ts.map Treatment.reading ++ (o.publisher.aloft?.map Publisher.Flight.reading).toList := by
  have loose : o.publisher.unsettled.filterMap Dealing.fetched? =
      (o.publisher.aloft?.map Publisher.Flight.reading).toList := by
    rw [Publisher.unsettled]
    cases o.publisher.aloft? <;> rfl
  rw [Scene.taken_fanout, h.dealings, List.filterMap_append, loose, List.filterMap_flatMap]
  simp only [Treatment.fetched_dealings, ← List.map_eq_flatMap]

theorem publisher (h : o.Treated ts) (paced : o.Paced)
    (ready : o.publisher.isReady o.scene = true) : ∃ us, Treated { o with
      publisher := (o.publisher.step o.scene).1
      scene := (o.publisher.step o.scene).2 } us := by
  have acts := paced.acts ready
  obtain ⟨t, treats⟩ := acts.treats fun f flying => (paced.flight f flying).1
  obtain ⟨_, _, counts⟩ := Paced.frame_of_acts acts
  obtain ⟨ds, dealings, loose⟩ := treats.dealings
  refine ⟨ts ++ t.toList, ⟨?_, ?_, fun on id k => ?_, h.order.snoc acts.going treats.order⟩⟩
  · rw [dealings, h.dealings, List.append_assoc, loose, ← List.append_assoc, List.flatMap_append]
  · rw [treats.report, h.report]
    cases t with
    | none => simp
    | some t =>
      rw [List.map_append]
      exact (tally_append _ t.fate).symm
  · rw [treats.metrics (counts.symm.trans on), h.metrics (counts.symm.trans on), List.map_append,
      List.sum_append]

theorem visit (h : o.Treated ts) {s : Scene} (visited : Visited o.scene s) :
    Treated { o with scene := s } ts :=
  ⟨visited.dealings.trans h.dealings, h.report,
    fun on => visited.metrics ▸ h.metrics (visited.counts.symm.trans on), h.order⟩

end Treated

theorem Reachable.treated {o : Outlet} (h : Reachable o) : ∃ ts, o.Treated ts := by
  refine h.invariant (P := fun o => ∃ ts, o.Treated ts) (fun fresh => ⟨[], ?_⟩)
    fun prior turn hm => ?_
  · refine ⟨?_, fresh.report, fun _ id k => ?_, ⟨[], [], rfl, nofun, nofun, fun _ => rfl⟩⟩
    · rw [Publisher.unsettled_of_grounded (by simp [Publisher.aloft?, fresh.created]), Scene.dealings,
        Scene.history, fresh.journal]
      rfl
    · rw [Metrics.publishCount, Metrics.producer, fresh.metrics, Std.ExtTreeMap.getD_empty]
      cases k <;> rfl
  · obtain ⟨ts, treated⟩ := hm
    cases turn with
    | publisher ready => exact treated.publisher prior.paced ready
    | visit visited => exact ⟨ts, treated.visit visited⟩
    | cancel => exact ⟨ts, treated.dealings, treated.report, treated.metrics, treated.order⟩
    | time idle later early alarms =>
      exact ⟨ts, treated.dealings, treated.report, treated.metrics, treated.order⟩

end Outlet
end SensorFleet
