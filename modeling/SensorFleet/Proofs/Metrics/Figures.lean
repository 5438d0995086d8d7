import SensorFleet.Proofs.Metrics.Outcomes

/-!
Figures of a run in its metrics: the gauge of active runs, the readings received, and the readings
sent and the restarts, for one producer and in all. Each observation adds a fixed amount to each
figure, whatever was observed before.
-/
namespace SensorFleet

inductive Figure
  | active
  | received
  | sent (id : ProducerId)
  | restarts (id : ProducerId)
  | sentInAll
  | restartsInAll

def Observation.adds : Observation → Figure → Int
  | .producerStarted _, .active => 1
  | .producerStopped _, .active => -1
  | .readingReceived, .received => 1
  | .readingSent id, .sent id' | .producerRestarted id, .restarts id' => if id = id' then 1 else 0
  | .readingSent _, .sentInAll | .producerRestarted _, .restartsInAll => 1
  | _, _ => 0

/-- What a figure gains by `a` readings sent and `b` restarts of a producer. -/
def Figure.gain (id : ProducerId) (a b : Nat) : Figure → Int
  | .active | .received => 0
  | .sent id' => if id = id' then a else 0
  | .restarts id' => if id = id' then b else 0
  | .sentInAll => a
  | .restartsInAll => b

namespace Metrics

theorem sumOf_update (m : Metrics) (id : ProducerId) {f : Counters → Counters}
    {w : Counters → Nat} {n : Nat} (zero : w {} = 0) (adds : ∀ c, w (f c) = w c + n) :
    (m.update id f).sumOf w = m.sumOf w + n := by
  have before : m.table[id]?.elim 0 w = w (m.producer id) := by
    rw [producer, Std.ExtTreeMap.getD_eq_getD_getElem?]
    cases m.table[id]? with
    | none => exact zero.symm
    | some c => rfl
  have inserted := tableWeight_insert w m.table id (f (m.producer id))
  rw [before, adds] at inserted
  simp only [sumOf, update, foldl_eq_tableWeight]
  omega

def figure (m : Metrics) : Figure → Int
  | .active => m.active
  | .received => m.received
  | .sent id => (m.producer id).sent
  | .restarts id => (m.producer id).restarts
  | .sentInAll => m.sumOf Counters.sent
  | .restartsInAll => m.sumOf Counters.restarts

/-- An update of one producer shows in its own figures and in those of all. -/
theorem figure_update (m : Metrics) (id : ProducerId) {f : Counters → Counters} {a b : Nat}
    (sent : ∀ c, (f c).sent = c.sent + a) (restarts : ∀ c, (f c).restarts = c.restarts + b)
    (k : Figure) : (m.update id f).figure k = m.figure k + k.gain id a b := by
  cases k with
  | active | received => exact (Int.add_zero _).symm
  | sent id' =>
    simp only [figure, producer_update, Figure.gain]
    split
    · rw [sent, Int.natCast_add]
    · exact (Int.add_zero _).symm
  | restarts id' =>
    simp only [figure, producer_update, Figure.gain]
    split
    · rw [restarts, Int.natCast_add]
    · exact (Int.add_zero _).symm
  | sentInAll => exact congrArg Int.ofNat (m.sumOf_update id rfl sent)
  | restartsInAll => exact congrArg Int.ofNat (m.sumOf_update id rfl restarts)

theorem figure_note (m : Metrics) (o : Observation) (k : Figure) :
    (m.note o).figure k = m.figure k + o.adds k := by
  cases o with
  | producerStarted id | producerStopped id | readingReceived | brokerConnection connected =>
    cases k <;> simp [note, figure, Observation.adds, producer, sumOf, Int.sub_eq_add_neg]
  | publishSucceeded id | publishFailed id reason | publishLatency id latency =>
    rw [note, figure_update (a := 0) (b := 0)]
    · cases k <;> simp [Figure.gain, Observation.adds]
    · exact fun _ => rfl
    · exact fun _ => rfl
  | readingSent id =>
    rw [note, figure_update (a := 1) (b := 0)]
    · cases k <;> simp [Figure.gain, Observation.adds]
    · exact fun _ => rfl
    · exact fun _ => rfl
  | producerRestarted id =>
    rw [note, figure_update (a := 0) (b := 1)]
    · cases k <;> simp [Figure.gain, Observation.adds]
    · exact fun _ => rfl
    · exact fun _ => rfl

end Metrics
end SensorFleet
