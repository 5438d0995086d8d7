import SensorFleet.Metrics
import Mathlib.Algebra.BigOperators.Group.List.Basic
import Mathlib.Algebra.GroupWithZero.Nat
import Mathlib.Data.List.Nodup

/-!
Outcomes of publishing in the counters of a run. The outcomes of a producer are its publishes that
succeeded and its failures, summed over all reasons; each observation adds to them exactly when it
tells of an outcome of that producer.
-/
namespace SensorFleet

section Table
variable {κ ν : Type} {cmp : κ → κ → Ordering} [Std.TransCmp cmp]

/-- The sum of the weights of the values in a table. -/
def tableWeight (w : ν → Nat) (t : Std.ExtTreeMap κ ν cmp) : Nat :=
  (t.toList.map fun e => w e.2).sum

theorem foldl_eq_tableWeight (w : ν → Nat) (t : Std.ExtTreeMap κ ν cmp) :
    t.foldl (fun n _ x => n + w x) 0 = tableWeight w t := by
  rw [Std.ExtTreeMap.foldl_eq_foldl_toList, tableWeight, List.sum_eq_foldl, List.foldl_map]

theorem nodup_toList (t : Std.ExtTreeMap κ ν cmp) : t.toList.Nodup := by
  have hk : (t.toList.map Prod.fst).Nodup := by
    rw [Std.ExtTreeMap.map_fst_toList_eq_keys]
    exact t.nodup_keys
  exact hk.of_map

variable [Std.LawfulEqCmp cmp] [DecidableEq κ]

/-- A table is the value at a key, if there is one, and the rest. -/
theorem toList_perm (t : Std.ExtTreeMap κ ν cmp) (k : κ) :
    t.toList.Perm ((t[k]?.toList.map fun x => (k, x)) ++ t.toList.filter fun e => e.1 ≠ k) := by
  refine (List.perm_ext_iff_of_nodup (nodup_toList t) ?_).mpr ?_
  · refine List.Nodup.append ?_ ((nodup_toList t).filter _) ?_
    · cases t[k]? <;> simp
    · rintro ⟨k', x⟩ hx hy
      simp only [List.mem_map, Option.mem_toList, Prod.mk.injEq] at hx
      obtain ⟨_, _, rfl, _⟩ := hx
      simp at hy
  · rintro ⟨k', x⟩
    by_cases hk : k' = k
    · subst hk
      simp
    · simp [hk, Ne.symm hk]

theorem toList_insert_perm (t : Std.ExtTreeMap κ ν cmp) (k : κ) (x : ν) :
    (t.insert k x).toList.Perm ((k, x) :: t.toList.filter fun e => e.1 ≠ k) := by
  refine (List.perm_ext_iff_of_nodup (nodup_toList _) ?_).mpr ?_
  · exact ((nodup_toList t).filter _).cons (by simp)
  · rintro ⟨k', y⟩
    simp only [Std.ExtTreeMap.mem_toList_iff_getElem?_eq_some, Std.ExtTreeMap.getElem?_insert,
      List.mem_cons, List.mem_filter, Prod.mk.injEq, decide_eq_true_eq,
      Std.LawfulEqCmp.compare_eq_iff_eq]
    by_cases hk : k = k'
    · subst hk
      simp [eq_comm]
    · simp [hk, Ne.symm hk]

theorem tableWeight_insert (w : ν → Nat) (t : Std.ExtTreeMap κ ν cmp) (k : κ) (x : ν) :
    tableWeight w (t.insert k x) + (t[k]?.elim 0 w) = tableWeight w t + w x := by
  have hi := ((toList_insert_perm t k x).map fun e => w e.2).sum_eq
  have ht := ((toList_perm t k).map fun e => w e.2).sum_eq
  have he : (((t[k]?.toList.map fun y => (k, y)).map fun e => w e.2)).sum = t[k]?.elim 0 w := by
    cases t[k]? <;> simp
  simp only [List.map_cons, List.sum_cons, List.map_append, List.sum_append, he] at hi ht
  simp only [tableWeight]
  omega

end Table

namespace Counters

theorem failureCount_addFailure (c : Counters) (reason : String) :
    (c.addFailure reason).failureCount = c.failureCount + 1 := by
  have hi := tableWeight_insert id c.failures reason (c.failures.getD reason 0 + 1)
  have hg : c.failures[reason]?.elim 0 id = c.failures.getD reason 0 := by
    rw [Std.ExtTreeMap.getD_eq_getD_getElem?]
    cases c.failures[reason]? <;> rfl
  have hf (c : Counters) : c.failureCount = tableWeight id c.failures :=
    foldl_eq_tableWeight id c.failures
  rw [hf, hf]
  simp only [addFailure, id_eq] at hi hg ⊢
  omega

def outcomes (c : Counters) : Nat := c.published + c.failureCount

end Counters

/-- Whether an observation tells of an outcome of a producer, as a number. -/
def Observation.settles (o : Observation) (id : ProducerId) : Nat :=
  match o with
  | .publishSucceeded i | .publishFailed i _ => if i = id then 1 else 0
  | _ => 0

namespace Metrics

def outcomes (m : Metrics) (id : ProducerId) : Nat := (m.producer id).outcomes

theorem producer_update (m : Metrics) (i : ProducerId) (f : Counters → Counters) (id : ProducerId) :
    (m.update i f).producer id = if i = id then f (m.producer id) else m.producer id := by
  simp only [producer, update, Std.ExtTreeMap.getD_insert, Std.LawfulEqCmp.compare_eq_iff_eq]
  split
  next h => rw [h]
  next h => rfl

theorem outcomes_note (m : Metrics) (o : Observation) (id : ProducerId) :
    (m.note o).outcomes id = m.outcomes id + o.settles id := by
  cases o with
  | producerStarted _ | producerStopped _ | readingReceived | brokerConnection _ => rfl
  | readingSent i | producerRestarted i | publishLatency i l =>
    simp only [note, outcomes, producer_update, Observation.settles]
    split <;> rfl
  | publishSucceeded i =>
    simp only [note, outcomes, producer_update, Observation.settles]
    split
    · simp only [Counters.outcomes, Counters.failureCount]
      omega
    · rfl
  | publishFailed i reason =>
    simp only [note, outcomes, producer_update, Observation.settles]
    split
    · simp only [Counters.outcomes, Counters.failureCount_addFailure]
      simp only [Counters.addFailure]
      omega
    · rfl

end Metrics
end SensorFleet
