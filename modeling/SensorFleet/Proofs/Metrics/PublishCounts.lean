import SensorFleet.Proofs.Metrics.Outcomes

/-!
What the metrics count of the publishes of a producer: how many readings were published, how many
were not for each reason, and how many latencies were taken. Each observation adds a fixed amount to
each count, whatever was observed before.
-/
namespace SensorFleet

inductive PublishCount
  | published
  | failed (reason : String)
  | timed
deriving DecidableEq

namespace Counters

def publishCount (c : Counters) : PublishCount → Nat
  | .published => c.published
  | .failed reason => c.failures.getD reason 0
  | .timed => c.attempts

theorem publishCount_addFailure (c : Counters) (reason : String) (k : PublishCount) :
    (c.addFailure reason).publishCount k =
      c.publishCount k + if k = .failed reason then 1 else 0 := by
  cases k with
  | published | timed => rfl
  | failed reason' =>
    simp only [addFailure, publishCount, Std.ExtTreeMap.getD_insert,
      Std.LawfulEqCmp.compare_eq_iff_eq, PublishCount.failed.injEq, eq_comm (a := reason')]
    split
    next same => rw [same]
    next => rfl

end Counters

def Observation.addsTo (o : Observation) (id : ProducerId) (k : PublishCount) : Nat :=
  match o with
  | .publishSucceeded i => if i = id ∧ k = .published then 1 else 0
  | .publishFailed i reason => if i = id ∧ k = .failed reason then 1 else 0
  | .publishLatency i _ => if i = id ∧ k = .timed then 1 else 0
  | _ => 0

namespace Metrics

def publishCount (m : Metrics) (id : ProducerId) : PublishCount → Nat :=
  (m.producer id).publishCount

theorem publishCount_update (m : Metrics) (i : ProducerId) {f : Counters → Counters}
    {k : PublishCount} {n : Nat}
    (adds : ∀ c, (f c).publishCount k = c.publishCount k + n) (id : ProducerId) :
    (m.update i f).publishCount id k = m.publishCount id k + if i = id then n else 0 := by
  simp only [publishCount, producer_update]
  split
  · exact adds _
  · rfl

theorem publishCount_note (m : Metrics) (o : Observation) (id : ProducerId) (k : PublishCount) :
    (m.note o).publishCount id k = m.publishCount id k + o.addsTo id k := by
  cases o with
  | producerStarted _ | producerStopped _ | readingReceived | brokerConnection _ => rfl
  | readingSent i | producerRestarted i =>
    rw [note, publishCount_update (n := 0)]
    · exact congrArg _ (ite_self 0)
    · intro c
      cases k <;> rfl
  | publishSucceeded i =>
    rw [note, publishCount_update (n := if k = .published then 1 else 0), ← ite_and]
    · rfl
    · intro c
      cases k <;> rfl
  | publishFailed i reason =>
    rw [note, publishCount_update _ _ fun c => c.publishCount_addFailure reason k, ← ite_and]
    rfl
  | publishLatency i latency =>
    rw [note, publishCount_update (n := if k = .timed then 1 else 0), ← ite_and]
    · rfl
    · intro c
      cases k <;> rfl

theorem publishCount_notes (os : List Observation) (m : Metrics) (id : ProducerId)
    (k : PublishCount) :
    (os.foldl note m).publishCount id k = m.publishCount id k + (os.map (·.addsTo id k)).sum := by
  induction os generalizing m with
  | nil => rfl
  | cons o os ih =>
    rw [List.foldl_cons, ih, publishCount_note, List.map_cons, List.sum_cons, Nat.add_assoc]

end Metrics
end SensorFleet
