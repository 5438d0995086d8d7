import SensorFleet.Proofs.Fleet.Results
import SensorFleet.Proofs.Outlet.Trace

/-!
The deadline of a publisher is final. What it settles before the deadline was attempted, and what it
settles afterwards is dropped; nothing is published, or left in flight, later than that, and the
deadline is not waited for any more once it has passed.
-/
namespace SensorFleet

def Happening.isCall : Happening → Bool
  | .publishBegun _ => true
  | _ => false

namespace PublishOutcome

/-- What the journal says of an outcome tells of no call and of no deadline. -/
theorem entries_aside (o : PublishOutcome) (r : Reading) :
    ∀ w ∈ o.entries r, w.isCall = false ∧ w.isDeadline = false := by
  intro w hw
  rcases List.mem_cons.mp hw with rfl | hw
  · exact ⟨rfl, rfl⟩
  · obtain ⟨n, rfl, aside, _⟩ := Happening.notice_of_isRemark (o.notices_told r.producer w hw)
    exact ⟨rfl, aside⟩

end PublishOutcome

namespace Publisher
variable {p p' : Publisher} {s s' : Scene} {what : List Happening}

/-- Whether a step waits for the deadline, that is whether nothing that goes before it is due. -/
def awaitsDeadline (p : Publisher) (s : Scene) : Bool :=
  match p.phase with
  | .waiting _ _ => !(s.cancelled && !p.draining) && !p.abandoned
  | .publishing _ _ pending _ timeout =>
    !Instant.hasRung pending.alarm s.now && !Instant.hasRung timeout s.now
  | _ => false

structure Warns (p : Publisher) (what : List Happening) (p' : Publisher) : Prop where
  calls : (∀ w ∈ what, w.isCall = false) ∨
    p.abandoned = false ∧ ∀ w ∈ what, w.isDeadline = false
  count : what.countP Happening.isDeadline + p.abandoned.toNat = p'.abandoned.toNat

theorem Warns.of_aside (aside : ∀ w ∈ what, w.isDeadline = false)
    (calls : (∀ w ∈ what, w.isCall = false) ∨ p.abandoned = false)
    (same : p'.abandoned = p.abandoned) : p.Warns what p' where
  calls := calls.imp_right fun going => ⟨going, aside⟩
  count := by
    have unheard : what.countP Happening.isDeadline = 0 :=
      List.countP_eq_zero.mpr fun w hw => by simp [aside w hw]
    rw [unheard, Nat.zero_add, same]

theorem Warns.of_passed {w : Happening} (told : w.isDeadline = true) (call : w.isCall = false)
    (aside : ∀ w ∈ what, w.isCall = false ∧ w.isDeadline = false)
    (going : p.abandoned = false) (gave : p'.abandoned = true) : p.Warns (w :: what) p' where
  calls := .inl (List.forall_mem_cons.mpr ⟨call, fun w hw => (aside w hw).1⟩)
  count := by
    have unheard : what.countP Happening.isDeadline = 0 :=
      List.countP_eq_zero.mpr fun w hw => by simp [aside w hw]
    rw [List.countP_cons_of_pos told, unheard, going, gave]
    rfl

theorem Lands.warns {f : Flight} {outcome : PublishOutcome} {latency : Option Nat}
    {notices : List Happening} {b : Broker} (h : p.Lands s f outcome latency notices b)
    (abandoned : p'.abandoned = if outcome = .dropped then true else p.abandoned) :
    p.Warns (notices ++ outcome.entries f.reading) p' := by
  have aside := outcome.entries_aside f.reading
  cases h with
  | answered rung given =>
    rw [if_neg (outcome_ne_dropped given)] at abandoned
    exact .of_aside (fun w hw => (aside w hw).2) (.inl fun w hw => (aside w hw).1) abandoned
  | timedOut silent rung =>
    exact .of_aside (fun w hw => (aside w hw).2) (.inl fun w hw => (aside w hw).1) abandoned
  | cutOff silent early passed =>
    exact .of_passed rfl rfl aside (going_of_deadlinePassed passed) abandoned

theorem Acts.told (h : p.Acts s p' s') :
    ∃ what observed, s.Tells what observed s' ∧ p.Warns what p' := by
  cases h with
  | fails c created ended scene report settings same =>
    exact ⟨[], [], scene ▸ .refl s, .of_aside nofun (.inl nofun) same.2⟩
  | rests what observed remarks quiet yields same =>
    refine ⟨what, observed, yields.tells, .of_aside ?_ (.inl ?_) same.2⟩
    · exact fun w hw => (Happening.notice_of_isRemark (remarks w hw)).choose_spec.2.1
    · intro w hw
      obtain ⟨n, rfl, _⟩ := Happening.notice_of_isRemark (remarks w hw)
      rfl
  | sees seen yields deadline abandoned =>
    exact ⟨[], [], yields.tells, .of_aside nofun (.inl nofun) abandoned⟩
  | givesUp n passed grounded yields deadline abandoned =>
    exact ⟨_, _, yields.tells, .of_passed rfl rfl nofun (going_of_deadlinePassed passed) abandoned⟩
  | declines r outcome grounded why yields same =>
    have aside := outcome.entries_aside r
    refine ⟨_, _, yields.tells, .of_aside ?_ (.inl ?_) same.2⟩
    · exact List.forall_mem_cons.mpr ⟨rfl, fun w hw => (aside w hw).2⟩
    · exact List.forall_mem_cons.mpr ⟨rfl, fun w hw => (aside w hw).1⟩
  | asks r a b outcome grounded going started given yields same =>
    refine ⟨_, _, yields.tells, .of_aside ?_ (.inr going) same.2⟩
    simp only [List.forall_mem_cons]
    exact ⟨rfl, rfl, fun w hw => (outcome.entries_aside r w hw).2⟩
  | begins r pending b grounded going started yields same =>
    exact ⟨_, _, yields.tells, .of_aside (by simp [Happening.isDeadline]) (.inr going) same.2⟩
  | lands f outcome latency notices b flying landed yields deadline abandoned =>
    exact ⟨_, _, yields.tells, landed.warns abandoned⟩

end Publisher

namespace Outlet

def warnings (o : Outlet) : Nat := o.scene.journal.countP fun e => e.what.isDeadline

structure Warned (o : Outlet) : Prop where
  flows : o.scene.Flows
  past : ∀ e ∈ o.scene.journal, e.instant ≤ o.scene.now
  calls : ∀ e ∈ o.scene.journal, e.what.isCall = true → o.InTime e.instant
  warnings : o.warnings = o.publisher.abandoned.toNat
  silence : o.scene.journal.Pairwise fun later earlier =>
    earlier.what.isDeadline = true → later.what.isCall = false
  returned : ∀ n, o.publisher.ending? = some (.returned n) →
    n = o.publisher.report ∧ o.scene.fanout.Sealed

namespace Warned
variable {o : Outlet}

/-- A publisher that goes on was not told of the deadline. -/
theorem unwarned (h : o.Warned) (going : o.publisher.abandoned = false) :
    ∀ e ∈ o.scene.journal, e.what.isDeadline = false := by
  have none : o.scene.journal.countP (fun e => e.what.isDeadline) = 0 := by
    rw [← Outlet.warnings, h.warnings, going]
    rfl
  simpa using List.countP_eq_zero.mp none

/-- What is new tells of no call unless it tells of no deadline, and nor does what was there. -/
theorem silence_tells (h : o.Warned) {what : List Happening} {observed : List Observation}
    {s : Scene} {p : Publisher} (tells : o.scene.Tells what observed s)
    (warns : o.publisher.Warns what p) : s.journal.Pairwise fun later earlier =>
      earlier.what.isDeadline = true → later.what.isCall = false := by
  rw [tells.journal, List.pairwise_append, List.pairwise_reverse, List.pairwise_map]
  refine ⟨?_, h.silence, fun later new earlier old warned => ?_⟩
  · refine List.pairwise_of_forall_mem_list fun w hw w' hw' warned => ?_
    rcases warns.calls with uncalled | ⟨_, unwarned⟩
    · exact uncalled w' hw'
    · simp [unwarned w hw] at warned
  · obtain ⟨w, hw, rfl⟩ := List.mem_map.mp (List.mem_reverse.mp new)
    rcases warns.calls with uncalled | ⟨going, _⟩
    · exact uncalled w hw
    · simp [h.unwarned going earlier old] at warned

theorem publisher (h : o.Warned) (paced : o.Paced) (ready : o.publisher.isReady o.scene = true) :
    Warned { o with
      publisher := (o.publisher.step o.scene).1
      scene := (o.publisher.step o.scene).2 } := by
  have live := Publisher.live_of_isReady ready
  have acts := paced.acts ready
  have settings := acts.settings
  have moves := Publisher.step_moves o.publisher o.scene ready
  obtain ⟨fetched, settled, posts, _⟩ := moves.posts paced.stage
  obtain ⟨now, _, _⟩ := Paced.frame_of_acts acts
  obtain ⟨what, observed, tells, warns⟩ := acts.told
  have returned := @moves.returned
  generalize o.publisher.step o.scene = after at *
  obtain ⟨p', s'⟩ := after
  dsimp only at *
  have due : ({ o with publisher := p', scene := s' } : Outlet).deadline? = o.deadline? := by
    simp only [deadline?, settings.drainTimeout]
  have written (e : Entry) (he : e ∈ s'.journal) :
      (∃ w ∈ what, e = ⟨o.scene.now, w⟩) ∨ e ∈ o.scene.journal := by
    rw [tells.journal, List.mem_append, List.mem_reverse, List.mem_map] at he
    rcases he with ⟨w, hw, rfl⟩ | before
    · exact .inl ⟨w, hw, rfl⟩
    · exact .inr before
  refine ⟨posts.flows h.flows, fun e he => ?_, fun e he call => ?_, ?_, h.silence_tells tells warns,
    fun n hn => ?_⟩
  · rcases written e he with ⟨w, _, rfl⟩ | before
    · exact now.ge
    · exact now ▸ h.past e before
  · intro D hD
    rw [due] at hD
    rcases written e he with ⟨w, hw, rfl⟩ | before
    · rcases warns.calls with uncalled | ⟨going, _⟩
      · simp [uncalled w hw] at call
      · exact paced.timely going live D hD
    · exact h.calls e before call D hD
  · have kept := h.warnings
    simp only [Outlet.warnings, tells.journal, List.countP_append, List.countP_reverse,
      List.countP_map] at kept ⊢
    rw [kept, ← warns.count]
    rfl
  · obtain ⟨report, sealed⟩ := returned hn
    rw [paced.stage] at sealed
    exact ⟨report, (posts.ages .fanout).sealed sealed⟩

theorem visit (h : o.Warned) {s : Scene} (visited : Visited o.scene s) :
    Warned { o with scene := s } := by
  have sealed := visited.ages.sealed
  rcases visited.journal with same | ⟨r, entered⟩
  · refine ⟨visited.flows h.flows, ?_, ?_, ?_, ?_, fun n hn => ?_⟩
    · exact same ▸ visited.now ▸ h.past
    · exact same ▸ h.calls
    · exact (congrArg (List.countP _) same).trans h.warnings
    · exact same ▸ h.silence
    · exact (h.returned n hn).imp_right sealed
  · refine ⟨visited.flows h.flows, fun e he => ?_, fun e he call => ?_, ?_, ?_, fun n hn => ?_⟩
    · rw [entered, List.mem_cons] at he
      rcases he with rfl | before
      · exact visited.now.ge
      · exact visited.now ▸ h.past e before
    · rw [entered, List.mem_cons] at he
      rcases he with rfl | before
      · cases call
      · exact h.calls e before call
    · refine Eq.trans ?_ h.warnings
      simp only [Outlet.warnings, entered]
      rfl
    · rw [entered]
      exact List.pairwise_cons.mpr ⟨fun _ _ _ => rfl, h.silence⟩
    · exact (h.returned n hn).imp_right sealed

theorem cancel (h : o.Warned) : Warned { o with
    scene := { o.scene with cancelled := true }, since := o.since.or (some o.scene.now) } := by
  refine ⟨h.flows, h.past, fun e he call D hD => ?_, h.warnings, h.silence, h.returned⟩
  cases known : o.since with
  | some c =>
    refine h.calls e he call D ?_
    rw [known, Option.some_or] at hD
    rwa [deadline?, known]
  | none =>
    obtain ⟨c, d, hc, _, rfl⟩ := deadline?_eq_some.mp hD
    rw [known, Option.none_or, Option.some.injEq] at hc
    exact (h.past e he).trans (hc ▸ Instant.le_graceEnd c d)

end Warned

theorem Fresh.warned {o : Outlet} (h : o.Fresh) : o.Warned := by
  refine ⟨fun stage => ?_, ?_, ?_, ?_, ?_, fun n hn => ?_⟩
  · rw [Scene.taken, Scene.entered, Scene.history, Scene.history, h.journal, h.queues stage]
    rfl
  · simp [h.journal]
  · simp [h.journal]
  · simp [warnings, h.journal, h.going]
  · simp [h.journal]
  · simp [Publisher.ending?, h.created] at hn

theorem Reachable.warned {o : Outlet} (h : Reachable o) : o.Warned := by
  refine h.invariant (fun fresh => fresh.warned) fun prior turn hm => ?_
  cases turn with
  | publisher ready => exact hm.publisher prior.paced ready
  | visit visited => exact hm.visit visited
  | cancel => exact hm.cancel
  | time idle later early alarms =>
    exact ⟨hm.flows, fun e he => (hm.past e he).trans later, hm.calls, hm.warnings, hm.silence,
      hm.returned⟩

/-- What was settled, what is at hand and what waits is all that ever entered, in order. -/
theorem Reachable.fates_entered {o : Outlet} (h : Reachable o) :
    o.scene.fates.map Prod.fst ++ o.publisher.atHand?.toList ++ o.scene.fanout.buffer =
      o.scene.entered .fanout := by
  obtain ⟨ts, treated⟩ := h.treated
  have taken : o.scene.taken .fanout =
      o.scene.fates.map Prod.fst ++ o.publisher.atHand?.toList := by
    rw [treated.taken, treated.fates, List.map_map, Publisher.atHand?_eq_aloft]
    rfl
  rw [← taken]
  exact h.warned.flows .fanout

namespace Paced
variable {o : Outlet}

theorem going_of_unlimited (h : o.Paced)
    (unlimited : o.since = none ∨ o.publisher.drainTimeout = none) :
    o.publisher.abandoned = false := by
  refine (Bool.not_eq_true _).mp fun gave => ?_
  obtain ⟨D, hD⟩ := h.given gave
  obtain ⟨c, d, hc, hd, _⟩ := deadline?_eq_some.mp hD
  simp [hc, hd] at unlimited

theorem timely_of_atHand (h : o.Paced) (flying : o.publisher.atHand?.isSome) :
    o.InTime o.scene.now := by
  rw [Publisher.atHand?_eq_aloft, Option.isSome_map] at flying
  obtain ⟨f, flying⟩ := Option.isSome_iff_exists.mp flying
  obtain ⟨ticker, phase⟩ := Publisher.phase_of_aloft flying
  exact h.timely (h.flight f flying).1 (by simp [Publisher.ending?, phase])

theorem awaitsDeadline_of_abandoned (h : o.Paced) (gave : o.publisher.abandoned = true) :
    o.publisher.awaitsDeadline o.scene = false := by
  unfold Publisher.awaitsDeadline
  split
  · rw [gave, Bool.not_true, Bool.and_false]
  next ticker r pending started timeout phase =>
    have going := (h.flight ⟨r, pending, started, timeout⟩ (by simp [Publisher.aloft?, phase])).1
    simp [gave] at going
  · rfl

end Paced

/-- In every state of every execution: of the readings that were taken, in the order in which they
entered the fan-out, some were attempted and those after them dropped; none is dropped unless the
publisher is cancelled and its drain timeout is limited. No publish is begun after the deadline,
which for a drain timeout of zero is the cancellation itself, nor any more once the publisher was
told of the deadline, and none is in flight after it. The publisher is told at most once, and does
not wait for the deadline afterwards. It returns only when the fan-out is closed and empty, and then
its report counts each reading that ever entered once. -/
theorem Reachable.deadline_final {o : Outlet} (h : Reachable o) :
    (∃ attempted dropped, o.scene.fates = attempted ++ dropped ∧
      (∀ f ∈ attempted, f.2 ≠ .dropped) ∧ ∀ f ∈ dropped, f.2 = .dropped) ∧
    o.scene.fates.map Prod.fst ++ o.publisher.atHand?.toList ++ o.scene.fanout.buffer =
      o.scene.entered .fanout ∧
    (o.since = none ∨ o.publisher.drainTimeout = none → ∀ f ∈ o.scene.fates, f.2 ≠ .dropped) ∧
    (∀ e ∈ o.scene.journal, e.what.isCall = true → ∀ D, o.deadline? = some D → e.instant ≤ D) ∧
    (o.publisher.atHand?.isSome → ∀ D, o.deadline? = some D → o.scene.now ≤ D) ∧
    o.scene.journal.Pairwise (fun later earlier =>
      earlier.what.isDeadline = true → later.what.isCall = false) ∧
    o.warnings ≤ 1 ∧
    (0 < o.warnings → o.publisher.awaitsDeadline o.scene = false) ∧
    ∀ n, o.publisher.ending? = some (.returned n) →
      o.scene.fanout.Sealed ∧ o.scene.fates.map Prod.fst = o.scene.entered .fanout ∧
        n = tally o.scene.fates := by
  have paced := h.paced
  have warned := h.warned
  have all := h.fates_entered
  obtain ⟨ts, treated⟩ := h.treated
  have fates := treated.fates
  obtain ⟨attempted, dropped, rfl, tried, lost, before⟩ := treated.order
  refine ⟨?_, all, fun unlimited f hf => ?_, warned.calls, paced.timely_of_atHand, warned.silence,
    ?_, fun told => ?_, fun n hn => ?_⟩
  · refine ⟨attempted.map Treatment.fate, dropped.map Treatment.fate, ?_, ?_, ?_⟩
    · rw [fates, List.map_append]
    · exact List.forall_mem_map.mpr tried
    · exact List.forall_mem_map.mpr lost
  · rw [fates, before (paced.going_of_unlimited unlimited), List.append_nil] at hf
    obtain ⟨t, ht, rfl⟩ := List.mem_map.mp hf
    exact tried t ht
  · rw [warned.warnings]
    exact Bool.toNat_le _
  · rw [warned.warnings] at told
    have gave := Bool.toNat_eq_one.mp (Nat.le_antisymm (Bool.toNat_le _) told)
    exact paced.awaitsDeadline_of_abandoned gave
  · obtain ⟨report, sealed⟩ := warned.returned n hn
    refine ⟨sealed, ?_, ?_⟩
    · rwa [Publisher.atHand?_of_ending hn, sealed.2, Option.toList_none, List.append_nil,
        List.append_nil] at all
    · rw [report, treated.report, fates]

/-- The broker does not answer: one reading is given up at the deadline and the other is dropped. -/
theorem deadline_final_past_a_deadline : ∃ o, Reachable o ∧ o.warnings = 1 ∧
    o.publisher.awaitsDeadline o.scene = false ∧ o.scene.fanout.Sealed ∧
    o.scene.fates.map Prod.fst = o.scene.entered .fanout ∧
    tally o.scene.fates = ⟨0, 0, 2⟩ := by
  let hangs : Broker :=
    { kind := .scripted (fun _ => { delay := Instant.limit }) none }
  have calm : hangs.kind.Calm := fun _ _ => nofun
  let cues : List Cue := [.offer default, .offer default, .publisher, .publisher, .time 10000000,
    .cancel, .publisher, .time 60000000, .publisher, .close, .publisher, .publisher, .publisher]
  let isOver (o : Outlet) : Bool :=
    o.warnings = 1 ∧ o.publisher.ending? = some (.returned ⟨0, 0, 2⟩)
  obtain ⟨o, reachable, finished⟩ := (setUp_fresh calm (Duration.ofMillis 5000)
    (some (Duration.ofMillis 50))).exists_reachable cues isOver (by decide)
  obtain ⟨told, returned⟩ := of_decide_eq_true finished
  obtain ⟨_, _, _, _, _, _, _, unawaited, ended⟩ := reachable.deadline_final
  obtain ⟨sealed, all, counts⟩ := ended _ returned
  exact ⟨o, reachable, told, unawaited (told.symm ▸ Nat.one_pos), sealed, all, counts.symm⟩

/-- With a drain timeout of zero, a cancellation at half a millisecond drops what waits right then. -/
example : ((setUp { kind := .recording } (Duration.ofMillis 50) (some 0)).follow
    [.publisher, .publisher, .time 500000, .offer default, .offer default, .cancel, .close,
      .publisher, .publisher, .publisher, .publisher, .publisher, .publisher]).any (fun o =>
    o.deadline? = some 500000 ∧ o.publisher.endedAt = 500000 ∧
      o.publisher.ending? = some (.returned ⟨0, 0, 2⟩)) = true := by decide

end Outlet
end SensorFleet
