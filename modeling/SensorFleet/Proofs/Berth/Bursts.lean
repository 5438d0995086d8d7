import SensorFleet.Proofs.Berth.Rhythm

/-!
How many ticks a run takes at one instant. A run whose reading had to wait finds that ticks have
passed meanwhile. Those that lie more than the tolerance back are skipped over by the next one that
is taken; the others are taken one after another at once. When the period is longer than the
tolerance there is one of these at most.
-/
namespace SensorFleet

/-- The last of numbers that are spaced lies as many spaces after the first. -/
theorem add_length_mul_le_of_spaced {a space most : Nat} {as : List Nat}
    (spaced : (a :: as).Pairwise fun a b => a + space ≤ b) (le : ∀ b ∈ a :: as, b ≤ most) :
    a + as.length * space ≤ most := by
  induction as generalizing a with
  | nil => simpa using le
  | cons b bs ih =>
    obtain ⟨first, rest⟩ := List.pairwise_cons.mp spaced
    have next := first b List.mem_cons_self
    have last := ih rest fun c listed => le c (List.mem_cons_of_mem _ listed)
    rw [List.length_cons, Nat.add_mul, Nat.one_mul]
    omega

namespace RunLog
variable {log : RunLog} {period : Nat}

/-- No more ticks are taken at one instant than fit into the tolerance, besides one. -/
theorem Keeps.length_taken_le (h : log.Keeps period) (pos : 0 < period) (instant : Nat) :
    (log.ticks.filter (·.taken = instant)).length ≤ 1 + Ticker.tolerance / period := by
  have ordered := h.ordered.filter (·.taken = instant)
  have taken : ∀ a ∈ log.ticks.filter (·.taken = instant), a.taken = instant ∧ a.due ≤ instant := by
    intro a listed
    obtain ⟨listed, same⟩ := List.mem_filter.mp listed
    have same := of_decide_eq_true same
    exact ⟨same, same ▸ h.due_le a listed⟩
  generalize log.ticks.filter (·.taken = instant) = ticks at ordered taken
  match ticks with
  | [] => exact Nat.zero_le _
  | [a] => exact Nat.le_add_right _ _
  | a :: b :: rest =>
    -- the first is no later than the tolerance, or the second would not be due yet
    have inTime : instant ≤ a.due + Ticker.tolerance := by
      have precedes := (List.pairwise_cons.mp ordered).1 b List.mem_cons_self
      have first := (taken a List.mem_cons_self).1
      have second := (taken b (by simp)).2
      refine Nat.le_of_not_lt fun late => ?_
      have ahead := precedes.skips (first ▸ late)
      omega
    have last : a.due + (b :: rest).length * period ≤ instant := by
      have spaced : ((a :: b :: rest).map Tick.due).Pairwise fun a b => a + period ≤ b :=
        List.pairwise_map.mpr (ordered.imp fun precedes => precedes.spaced)
      have within : ∀ due ∈ (a :: b :: rest).map Tick.due, due ≤ instant :=
        List.forall_mem_map.mpr fun c listed => (taken c listed).2
      simpa using add_length_mul_le_of_spaced spaced within
    have fits : (b :: rest).length ≤ Ticker.tolerance / period := by
      rw [Nat.le_div_iff_mul_le pos]
      omega
    rw [List.length_cons]
    omega

/-- When the period is longer than the tolerance, each tick is taken before the next one is due. -/
theorem Keeps.taken_lt (h : log.Keeps period) (long : Ticker.tolerance < period) :
    log.ticks.Pairwise fun a b => a.taken < b.due ∧ a.taken < b.taken := by
  refine h.ordered.imp_of_mem fun {a b} _ listed precedes => ?_
  have due := h.due_le b listed
  have spaced := precedes.spaced
  have ahead : a.taken < b.due := by
    by_cases late : a.due + Ticker.tolerance < a.taken
    · exact precedes.skips late
    · omega
  exact ⟨ahead, Nat.lt_of_lt_of_le ahead due⟩

end RunLog

namespace Berth

/-- After a tick that is more than the tolerance late, a run takes none before the schedule is ahead
again. It takes no more ticks at once than fit into the tolerance, besides one. When the period is
longer than the tolerance, it takes no two at once, and each before the next one is due. -/
theorem Reachable.no_burst {o : Berth} (h : Reachable o) (pos : 0 < o.supervisor.interval)
    {log : RunLog} (listed : log ∈ o.logs) :
    (log.ticks.Pairwise fun a b => a.due + Ticker.tolerance < a.taken → a.taken < b.due) ∧
      (∀ instant, (log.ticks.filter (·.taken = instant)).length ≤
        1 + Ticker.tolerance / o.supervisor.interval) ∧
      (Ticker.tolerance < o.supervisor.interval →
        log.ticks.Pairwise fun a b => a.taken < b.due ∧ a.taken < b.taken) := by
  have keeps := h.rhythmic.keeps log listed
  exact ⟨keeps.ordered.imp fun precedes => precedes.skips, keeps.length_taken_le pos,
    keeps.taken_lt⟩

/-- A run that ticks each ten milliseconds, whose second reading waits from 20 to 47: it takes the
tick of 30 then, and the next one at 50. -/
theorem no_burst_after_a_stall : ∃ o log, Reachable o ∧ 0 < o.supervisor.interval ∧ o.logs = [log] ∧
    log.ticks = [⟨10000000, 10000000⟩, ⟨20000000, 20000000⟩, ⟨30000000, 47000000⟩,
      ⟨50000000, 50000000⟩] ∧
    Ticker.tolerance < o.supervisor.interval ∧
    log.ticks.Pairwise fun a b => a.taken < b.due ∧ a.taken < b.taken := by
  let isStalled (o : Berth) : Bool := 0 < o.supervisor.interval ∧
    Ticker.tolerance < o.supervisor.interval ∧ o.logs.map RunLog.ticks =
      [[⟨10000000, 10000000⟩, ⟨20000000, 20000000⟩, ⟨30000000, 47000000⟩, ⟨50000000, 50000000⟩]]
  obtain ⟨o, leads, stalled⟩ := exists_played 10000000 1 steady
    [.supervisor, .run, .time 10000000, .run, .time 20000000, .run,
      .time 47000000, .take, .run, .run, .take, .run, .time 50000000, .run] isStalled (by decide)
  obtain ⟨pos, long, ticks⟩ := of_decide_eq_true stalled
  obtain ⟨log, logs, ticks⟩ := List.map_eq_singleton_iff.mp ticks
  have reachable : Reachable o := ⟨_, setUp_fresh _ _ _, leads⟩
  have listed : log ∈ o.logs := logs ▸ List.mem_cons_self
  exact ⟨o, log, reachable, pos, logs, ticks, long, (reachable.no_burst pos listed).2.2 long⟩

/-- A run that ticks each millisecond, whose third reading waits from 3 to 6: at 6 it takes the
ticks of 4 and of 5, and draws twice. -/
theorem burst_within_tolerance : ∃ o log, Reachable o ∧
    o.supervisor.interval = Duration.ofMillis 1 ∧ o.logs = [log] ∧
    log.ticks.map Tick.taken = [1000000, 2000000, 3000000, 6000000, 6000000] ∧
    o.scene.draws o.id = [1000000, 2000000, 3000000, 6000000, 6000000] := by
  let isBurst (o : Berth) : Bool := o.supervisor.interval = Duration.ofMillis 1 ∧
    o.scene.draws o.id = [1000000, 2000000, 3000000, 6000000, 6000000] ∧
    o.logs.map (·.ticks.map Tick.taken) = [[1000000, 2000000, 3000000, 6000000, 6000000]]
  obtain ⟨o, leads, bursts⟩ := exists_played 1000000 2 steady
    [.supervisor, .run, .time 1000000, .run, .time 2000000, .run, .time 3000000, .run,
      .time 6000000, .take, .take, .run, .run, .run] isBurst (by decide)
  obtain ⟨interval, draws, taken⟩ := of_decide_eq_true bursts
  obtain ⟨log, logs, taken⟩ := List.map_eq_singleton_iff.mp taken
  exact ⟨o, log, ⟨_, setUp_fresh _ _ _, leads⟩, interval, logs, taken, draws⟩

end Berth
end SensorFleet
