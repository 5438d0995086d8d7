import Mathlib.Data.List.Count
import Mathlib.Data.List.Induction
import SensorFleet.Proofs.Metrics.Figures
import SensorFleet.Proofs.Metrics.PublishCounts

/-!
What the metrics hold after any observations. The counters of a producer are the numbers of its
observations of each kind, so that the order of the observations does not show, but for the broker's
connection, which is the one observed last. Counts are naturals, and words of 64 bits hold the same
as long as they fit.
-/
namespace SensorFleet

namespace Observation

/-- The producer for which an observation is counted, if it is counted for one. -/
def producer? : Observation → Option ProducerId
  | .readingSent id | .producerRestarted id | .publishSucceeded id | .publishFailed id _
  | .publishLatency id _ => some id
  | .producerStarted _ | .producerStopped _ | .readingReceived | .brokerConnection _ => none

def starts : Observation → Bool
  | .producerStarted _ => true
  | _ => false

def stops : Observation → Bool
  | .producerStopped _ => true
  | _ => false

def fails (id : ProducerId) : Observation → Bool
  | .publishFailed i _ => i = id
  | _ => false

def latency? (id : ProducerId) : Observation → Option Nat
  | .publishLatency i latency => if i = id then some latency else none
  | _ => none

def connection? : Observation → Option Bool
  | .brokerConnection connected => some connected
  | _ => none

end Observation

def latencies (id : ProducerId) (seen : List Observation) : List Nat :=
  seen.filterMap (Observation.latency? id)

def lastConnection (seen : List Observation) : Bool :=
  (seen.filterMap Observation.connection?).getLast?.getD false

/-- No producer's latencies exceed the longest length of time in sum. -/
def Timely (seen : List Observation) : Prop :=
  ∀ id, (latencies id seen).sum ≤ Duration.longest

theorem latencies_concat (id : ProducerId) (seen : List Observation) (o : Observation) :
    latencies id (seen ++ [o]) = latencies id seen ++ (o.latency? id).toList := by
  rw [latencies, List.filterMap_append, latencies]
  cases h : o.latency? id <;> simp [h]

theorem Timely.earlier {seen more : List Observation} (timely : Timely (seen ++ more)) :
    Timely seen := by
  intro id
  have bound := timely id
  rw [latencies, List.filterMap_append, List.sum_append] at bound
  exact Nat.le_of_add_right_le bound

theorem Timely.perm {seen seen' : List Observation} (timely : Timely seen)
    (perm : seen'.Perm seen) : Timely seen' := by
  intro id
  rw [latencies, (perm.filterMap _).sum_eq]
  exact timely id

/-- The entry of a table that counts, which has none for what did not happen. -/
def entryOf (n : Nat) : Option Nat := if n = 0 then none else some n

/-- The counters are those of a producer after some observations: each is the number of observations
that it is there for, and the latencies are summed up. -/
structure Counters.Tally (c : Counters) (id : ProducerId) (seen : List Observation) : Prop where
  sent : c.sent = seen.count (.readingSent id)
  restarts : c.restarts = seen.count (.producerRestarted id)
  published : c.published = seen.count (.publishSucceeded id)
  failures : ∀ reason : String,
    c.failures[reason]? = entryOf (seen.count (.publishFailed id reason))
  failureCount : c.failureCount = seen.countP (Observation.fails id)
  attempts : c.attempts = (latencies id seen).length
  latency : c.latency = (latencies id seen).sum

/-- Counters depend on the observations only, and not on their order. -/
theorem Counters.Tally.eq_of_perm {c c' : Counters} {id : ProducerId}
    {seen seen' : List Observation} (tally : c.Tally id seen) (tally' : c'.Tally id seen')
    (perm : seen'.Perm seen) : c' = c := by
  have timed : (latencies id seen').Perm (latencies id seen) := perm.filterMap _
  have sent : c'.sent = c.sent := by rw [tally'.sent, tally.sent, perm.count_eq]
  have restarts : c'.restarts = c.restarts := by rw [tally'.restarts, tally.restarts, perm.count_eq]
  have published : c'.published = c.published := by
    rw [tally'.published, tally.published, perm.count_eq]
  have failures : c'.failures = c.failures := Std.ExtTreeMap.ext_getElem? fun reason => by
    rw [tally'.failures, tally.failures, perm.count_eq]
  have attempts : c'.attempts = c.attempts := by
    rw [tally'.attempts, tally.attempts, timed.length_eq]
  have latency : c'.latency = c.latency := by rw [tally'.latency, tally.latency, timed.sum_eq]
  cases c
  cases c'
  simp only [Counters.mk.injEq]
  exact ⟨sent, restarts, published, failures, attempts, latency⟩

namespace Metrics

def after (seen : List Observation) : Metrics := seen.foldl note {}

theorem after_concat (seen : List Observation) (o : Observation) :
    after (seen ++ [o]) = (after seen).note o := by
  rw [after, List.foldl_append, after]
  rfl

/-- A number that each observation of some kind raises by one, and no other changes, counts them. -/
theorem after_eq_countP {g : Metrics → Nat} {p : Observation → Bool} (zero : g {} = 0)
    (step : ∀ m o, g (m.note o) = g m + if p o then 1 else 0) (seen : List Observation) :
    g (after seen) = seen.countP p := by
  induction seen using List.reverseRecOn with
  | nil => exact zero
  | append_singleton seen o ih =>
    rw [after_concat, step, ih, List.countP_append, List.countP_singleton]

theorem figure_after {k : Figure} {g : Metrics → Nat} {p : Observation → Bool} (zero : g {} = 0)
    (shown : ∀ m, m.figure k = g m) (adds : ∀ o, o.adds k = if p o then 1 else 0)
    (seen : List Observation) : g (after seen) = seen.countP p := by
  refine after_eq_countP zero (fun m o => ?_) seen
  have step := figure_note m o k
  rw [shown, shown, adds] at step
  by_cases h : p o
  · rw [if_pos h] at step ⊢
    omega
  · rw [if_neg h] at step ⊢
    omega

theorem publishCount_after {id : ProducerId} {k : PublishCount} {p : Observation → Bool}
    (adds : ∀ o, o.addsTo id k = if p o then 1 else 0) (seen : List Observation) :
    (after seen).publishCount id k = seen.countP p := by
  refine after_eq_countP (g := fun m => m.publishCount id k) ?_ (fun m o => ?_) seen
  · cases k <;> rfl
  · rw [publishCount_note, adds]

/-! ### The counters of one producer -/

section Producer
variable (seen : List Observation) (id : ProducerId)

theorem sent_after : ((after seen).producer id).sent = seen.count (.readingSent id) := by
  refine figure_after (k := .sent id) rfl (fun _ => rfl) (fun o => ?_) seen
  cases o <;> simp [Observation.adds]

theorem restarts_after :
    ((after seen).producer id).restarts = seen.count (.producerRestarted id) := by
  refine figure_after (k := .restarts id) rfl (fun _ => rfl) (fun o => ?_) seen
  cases o <;> simp [Observation.adds]

theorem published_after :
    ((after seen).producer id).published = seen.count (.publishSucceeded id) := by
  refine publishCount_after (k := .published) (fun o => ?_) seen
  cases o <;> simp [Observation.addsTo]

theorem failed_after (reason : String) :
    ((after seen).producer id).failures.getD reason 0 = seen.count (.publishFailed id reason) := by
  refine publishCount_after (k := .failed reason) (fun o => ?_) seen
  cases o with
  | publishFailed i r =>
    simp only [Observation.addsTo, beq_iff_eq, PublishCount.failed.injEq,
      Observation.publishFailed.injEq, eq_comm (a := r)]
  | _ => simp [Observation.addsTo]

theorem timed_after : ((after seen).producer id).attempts = (latencies id seen).length := by
  rw [latencies, List.length_filterMap_eq_countP]
  refine publishCount_after (k := .timed) (fun o => ?_) seen
  cases o <;> simp [Observation.addsTo, Observation.latency?, apply_ite]

theorem failureCount_after :
    ((after seen).producer id).failureCount = seen.countP (Observation.fails id) := by
  refine after_eq_countP (g := fun m => (m.producer id).failureCount) rfl (fun m o => ?_) seen
  -- Failures are the outcomes that are not publishes.
  have outcome := outcomes_note m o id
  have publish := publishCount_note m o id .published
  simp only [outcomes, Counters.outcomes, publishCount, Counters.publishCount] at outcome publish
  have apart : o.settles id = o.addsTo id .published + if o.fails id then 1 else 0 := by
    cases o <;> simp [Observation.settles, Observation.addsTo, Observation.fails]
  omega

/-- No reason stands in a table of failures without having occurred. -/
theorem failures_after_ne_zero (reason : String) :
    ((after seen).producer id).failures[reason]? ≠ some 0 := by
  induction seen using List.reverseRecOn with
  | nil => simp [after, producer]
  | append_singleton seen o ih =>
    rw [after_concat]
    cases o with
    | publishFailed i r =>
      rw [note, producer_update]
      split
      · rw [Counters.addFailure, Std.ExtTreeMap.getElem?_insert]
        split
        · exact fun h => Nat.succ_ne_zero _ (Option.some.inj h)
        · exact ih
      · exact ih
    | producerStarted _ | producerStopped _ | readingReceived | brokerConnection _ => exact ih
    | readingSent i | producerRestarted i | publishSucceeded i | publishLatency i _ =>
      rw [note, producer_update]
      split <;> exact ih

theorem failures_after (reason : String) :
    ((after seen).producer id).failures[reason]? =
      entryOf (seen.count (.publishFailed id reason)) := by
  have nonzero := failures_after_ne_zero seen id reason
  rw [← failed_after, Std.ExtTreeMap.getD_eq_getD_getElem?]
  cases h : ((after seen).producer id).failures[reason]? with
  | none => rfl
  | some n => exact (if_neg fun zero => nonzero (h.trans (congrArg some zero))).symm

theorem latency_after (timely : Timely seen) :
    ((after seen).producer id).latency = (latencies id seen).sum := by
  induction seen using List.reverseRecOn with
  | nil => rfl
  | append_singleton seen o ih =>
    have before := ih timely.earlier
    have bound := timely id
    rw [latencies_concat, List.sum_append, ← before] at bound ⊢
    rw [after_concat]
    cases o with
    | publishLatency i latency =>
      rw [note, producer_update]
      by_cases own : i = id
      · simp only [Observation.latency?, own, if_true, Option.toList_some, List.sum_singleton]
          at bound ⊢
        rw [if_pos bound]
      · simp [Observation.latency?, own]
    | producerStarted _ | producerStopped _ | readingReceived | brokerConnection _ => rfl
    | readingSent i | producerRestarted i | publishSucceeded i | publishFailed i _ =>
      rw [note, producer_update]
      split <;> rfl

theorem named_after : id ∈ (after seen).table ↔ ∃ o ∈ seen, o.producer? = some id := by
  induction seen using List.reverseRecOn with
  | nil => simp [after]
  | append_singleton seen o ih =>
    have step (m : Metrics) : id ∈ (m.note o).table ↔ id ∈ m.table ∨ o.producer? = some id := by
      cases o <;> simp [note, update, Observation.producer?, or_comm]
    rw [after_concat, step, ih]
    simp [or_and_right, exists_or]

theorem tally_after (timely : Timely seen) :
    ((after seen).producer id).Tally id seen :=
  ⟨sent_after seen id, restarts_after seen id, published_after seen id, failures_after seen id,
    failureCount_after seen id, timed_after seen id, latency_after seen id timely⟩

end Producer

/-! ### The whole -/

theorem received_after (seen : List Observation) :
    (after seen).received = seen.count .readingReceived := by
  refine figure_after (k := .received) rfl (fun _ => rfl) (fun o => ?_) seen
  cases o <;> simp [Observation.adds]

theorem active_after (seen : List Observation) :
    (after seen).active = seen.countP Observation.starts - seen.countP Observation.stops := by
  induction seen using List.reverseRecOn with
  | nil => rfl
  | append_singleton seen o ih =>
    have step := figure_note (after seen) o .active
    simp only [figure] at step
    rw [after_concat, step, ih, List.countP_append, List.countP_append, List.countP_singleton,
      List.countP_singleton]
    cases o <;> simp [Observation.adds, Observation.starts, Observation.stops] <;> omega

theorem connected_after (seen : List Observation) :
    (after seen).connected = lastConnection seen := by
  induction seen using List.reverseRecOn with
  | nil => rfl
  | append_singleton seen o ih =>
    rw [after_concat, lastConnection, List.filterMap_append]
    cases o with
    | brokerConnection connected => simp [note, Observation.connection?]
    | _ => simpa [note, update, Observation.connection?, lastConnection] using ih

theorem mem_producers_iff (seen : List Observation) (id : ProducerId) :
    id ∈ (after seen).producers ↔ ∃ o ∈ seen, o.producer? = some id :=
  Std.ExtTreeMap.mem_keys.trans (named_after seen id)

theorem producers_ascending (m : Metrics) : m.producers.Pairwise (· < ·) := by
  refine Std.ExtTreeMap.ordered_keys.imp ?_
  intro a b h
  exact Std.compare_eq_lt.mp h

theorem table_ext {m m' : Metrics} (named : ∀ id, id ∈ m'.table ↔ id ∈ m.table)
    (counters : ∀ id, m'.producer id = m.producer id) : m'.table = m.table := by
  refine Std.ExtTreeMap.ext_getElem? fun id => ?_
  by_cases h : id ∈ m.table
  · calc m'.table[id]?
      _ = some (m'.producer id) := Std.ExtTreeMap.getElem?_eq_some_getD ((named id).mpr h)
      _ = some (m.producer id) := congrArg some (counters id)
      _ = m.table[id]? := (Std.ExtTreeMap.getElem?_eq_some_getD h).symm
  · rw [Std.ExtTreeMap.getElem?_eq_none h, Std.ExtTreeMap.getElem?_eq_none (mt (named id).mp h)]

/-- The sum over the producers for which something was counted. -/
def total (m : Metrics) (w : Counters → Nat) : Nat :=
  (m.producers.map fun id => w (m.producer id)).sum

theorem sumOf_eq_total (m : Metrics) (w : Counters → Nat) : m.sumOf w = m.total w := by
  rw [sumOf, foldl_eq_tableWeight, tableWeight, total, producers,
    ← Std.ExtTreeMap.map_fst_toList_eq_keys, List.map_map]
  refine congrArg List.sum (List.map_congr_left ?_)
  rintro ⟨id, c⟩ h
  have found := Std.ExtTreeMap.mem_toList_iff_getElem?_eq_some.mp h
  simp [producer, Std.ExtTreeMap.getD_eq_getD_getElem?, found]

/-- What the metrics account for after some observations. Those of one producer are counted for it,
whatever was observed of the others, and the order shows in the broker's connection only. -/
structure Account (seen : List Observation) : Prop where
  accepted : ∀ before o later, seen = before ++ o :: later → (after before).refusal? o = none
  tallies : ∀ id, ((after seen).producer id).Tally id seen
  ascending : (after seen).producers.Pairwise (· < ·)
  named : ∀ id, id ∈ (after seen).producers ↔ ∃ o ∈ seen, o.producer? = some id
  unnamed : ∀ id, id ∉ (after seen).producers → (after seen).producer id = {}
  snapshot : (after seen).snapshot =
    { active := seen.countP Observation.starts - seen.countP Observation.stops
      sent := (after seen).total Counters.sent
      received := seen.count .readingReceived
      restarts := (after seen).total Counters.restarts
      published := (after seen).total Counters.published
      failures := (after seen).total Counters.failureCount
      connected := lastConnection seen }
  orderless : ∀ seen' : List Observation, seen'.Perm seen →
    after seen' = { after seen with connected := lastConnection seen' }

theorem refusal?_after {before : List Observation} {o : Observation}
    (timely : Timely (before ++ [o])) : (after before).refusal? o = none := by
  cases o with
  | publishLatency id latency =>
    have bound := timely id
    rw [latencies_concat, List.sum_append, ← latency_after before id timely.earlier] at bound
    simp only [Observation.latency?, if_true, Option.toList_some, List.sum_singleton] at bound
    exact if_neg (Nat.not_lt.mpr bound)
  | _ => rfl

theorem after_perm {seen seen' : List Observation} (timely : Timely seen)
    (perm : seen'.Perm seen) :
    after seen' = { after seen with connected := lastConnection seen' } := by
  have table : (after seen').table = (after seen).table := by
    refine table_ext (fun id => ?_) fun id => ?_
    · rw [named_after, named_after]
      exact exists_congr fun o => and_congr_left fun _ => perm.mem_iff
    · exact (tally_after seen id timely).eq_of_perm (tally_after seen' id (timely.perm perm)) perm
  have active : (after seen').active = (after seen).active := by
    rw [active_after, active_after, perm.countP_eq, perm.countP_eq]
  have received : (after seen').received = (after seen).received := by
    rw [received_after, received_after, perm.count_eq]
  rw [← connected_after]
  dsimp only
  rw [← table, ← active, ← received]

/-- Every observation is counted, in any order, as long as the sums of latencies stay in range. -/
theorem after_accounts {seen : List Observation} (timely : Timely seen) : Account seen where
  accepted := by
    rintro before o later rfl
    rw [← List.singleton_append, ← List.append_assoc] at timely
    exact refusal?_after timely.earlier
  tallies := fun id => tally_after seen id timely
  ascending := producers_ascending _
  named := mem_producers_iff seen
  unnamed := fun id h =>
    Std.ExtTreeMap.getD_eq_fallback (mt Std.ExtTreeMap.mem_keys.mpr h)
  snapshot := by
    rw [Metrics.snapshot, active_after, received_after, connected_after]
    simp only [sumOf_eq_total]
  orderless := fun _ perm => after_perm timely perm

/-- What is observed of two producers, one of which takes as long as can be in two publishes. -/
def observations : List Observation :=
  [.producerStarted 1, .producerStarted 2, .readingSent 1, .readingSent 1, .readingSent 2,
    .readingReceived, .producerRestarted 2, .brokerConnection true, .publishFailed 1 "timeout",
    .publishLatency 1 (Duration.longest - 1), .publishSucceeded 2, .publishLatency 2 5,
    .publishFailed 1 "timeout", .publishLatency 1 1, .producerStopped 1, .brokerConnection false]

theorem observations_account : Timely observations ∧ Account observations := by
  have timely : Timely observations := by
    intro id
    by_cases first : 1 = id
    · subst first
      decide
    · by_cases second : 2 = id
      · subst second
        decide
      · simp [observations, latencies, List.filterMap_cons, Observation.latency?, first, second]
  exact ⟨timely, after_accounts timely⟩

end Metrics

end SensorFleet
