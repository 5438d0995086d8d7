import Mathlib.Algebra.BigOperators.Group.List.Basic
import Mathlib.Algebra.GroupWithZero.Nat
import SensorFleet.Report

/-!
Slots in the report of a simulation. A report holds the reports of its slots sorted by producer,
with their sums, so that the order in which the slots finished does not show; looking up a producer
finds its slot if there is one, and nothing otherwise.
-/
namespace SensorFleet.SimReport

/-! ### Sums -/

theorem total_eq_sum (f : SlotReport → Nat) (slots : List SlotReport) :
    total f slots = (slots.map f).sum := by
  induction slots with
  | nil => rfl
  | cons s slots ih =>
    rw [List.map_cons, List.sum_cons, ← ih]
    rfl

/-- Adds counts up one after another in a word of 64 bits, which none of the sums may overflow. -/
def addUp (counts : List Nat) : Option Nat :=
  counts.foldlM (fun n k => if n + k < UInt64.size then some (n + k) else none) 0

theorem addUp_eq {counts : List Nat} (fits : counts.sum < UInt64.size) :
    addUp counts = some counts.sum := by
  have onward (counts : List Nat) (n : Nat) (fits : n + counts.sum < UInt64.size) :
      counts.foldlM (fun n k => if n + k < UInt64.size then some (n + k) else none) n =
        some (n + counts.sum) := by
    induction counts generalizing n with
    | nil => rfl
    | cons k counts ih =>
      rw [List.sum_cons, ← Nat.add_assoc] at fits ⊢
      rw [List.foldlM_cons, if_pos (by omega)]
      exact ih (n + k) fits
  rw [addUp, onward counts 0 (by rwa [Nat.zero_add]), Nat.zero_add]

/-! ### Sorting -/

theorem sortSlots_perm (slots : List SlotReport) : (sortSlots slots).Perm slots :=
  List.mergeSort_perm _ _

theorem sortSlots_pairwise (slots : List SlotReport) :
    ((sortSlots slots).map fun s => s.producer.toNat).Pairwise (· ≤ ·) := by
  have trans : ∀ a b c : SlotReport, decide (a.producer ≤ b.producer) = true →
      decide (b.producer ≤ c.producer) = true → decide (a.producer ≤ c.producer) = true := by
    intro a b c
    simp only [decide_eq_true_eq, UInt32.le_iff_toNat_le]
    exact Nat.le_trans
  have linear : ∀ a b : SlotReport,
      (decide (a.producer ≤ b.producer) || decide (b.producer ≤ a.producer)) = true := by
    intro a b
    simp only [Bool.or_eq_true, decide_eq_true_eq, UInt32.le_iff_toNat_le]
    exact Nat.le_total _ _
  refine List.pairwise_map.mpr ((List.pairwise_mergeSort trans linear slots).imp fun hab => ?_)
  simpa only [decide_eq_true_eq, UInt32.le_iff_toNat_le] using hab

def Ascending (slots : List SlotReport) : Prop :=
  slots.Pairwise fun a b => a.producer.toNat < b.producer.toNat

theorem sortSlots_ascending {slots : List SlotReport}
    (distinct : (slots.map SlotReport.producer).Nodup) : Ascending (sortSlots slots) := by
  have ordered := List.pairwise_map.mp (sortSlots_pairwise slots)
  have apart := List.pairwise_map.mp
    ((((sortSlots_perm slots).map SlotReport.producer).nodup_iff).mpr distinct)
  refine (ordered.and apart).imp fun h => Nat.lt_of_le_of_ne h.1 fun same => ?_
  exact h.2 (UInt32.toNat_inj.mp same)

/-- Lists that ascend and have the same slots are the same. -/
theorem Ascending.eq_of_perm {slots slots' : List SlotReport} (h : Ascending slots)
    (h' : Ascending slots') (perm : slots.Perm slots') : slots = slots' :=
  perm.eq_of_pairwise (fun _ _ _ _ before after => absurd after (Nat.lt_asymm before)) h h'

theorem sortSlots_eq_of_perm {slots slots' : List SlotReport}
    (distinct : (slots.map SlotReport.producer).Nodup) (perm : slots'.Perm slots) :
    sortSlots slots' = sortSlots slots := by
  have distinct' := ((perm.map SlotReport.producer).nodup_iff).mpr distinct
  have same : (sortSlots slots').Perm (sortSlots slots) :=
    ((sortSlots_perm slots').trans perm).trans (sortSlots_perm slots).symm
  exact (sortSlots_ascending distinct').eq_of_perm (sortSlots_ascending distinct) same

theorem total_eq_of_perm {slots slots' : List SlotReport} (perm : slots'.Perm slots)
    (f : SlotReport → Nat) : total f slots' = total f slots := by
  rw [total_eq_sum, total_eq_sum, (perm.map f).sum_eq]

/-! ### Looking up -/

section Search
variable {slots : Array SlotReport} {id : ProducerId}

theorem Ascending.lt (h : Ascending slots.toList) {i j : Nat} {a b : SlotReport}
    (ha : slots[i]? = some a) (hb : slots[j]? = some b) (before : i < j) :
    a.producer.toNat < b.producer.toNat := by
  obtain ⟨hi, rfl⟩ := Array.getElem?_eq_some_iff.mp ha
  obtain ⟨hj, rfl⟩ := Array.getElem?_eq_some_iff.mp hb
  exact List.pairwise_iff_getElem.mp h i j hi hj before

/-- The slot at a place is not above the producer exactly if the place is not behind its slot. -/
theorem any_le_iff (h : Ascending slots.toList) {k : Nat} {s : SlotReport}
    (here : slots[k]? = some s) (own : s.producer = id) (m : Nat) :
    ((slots[m]?).any fun t => t.producer ≤ id) = true ↔ m ≤ k := by
  subst own
  cases there : slots[m]? with
  | none =>
    have outside := Array.getElem?_eq_none_iff.mp there
    have inside := (Array.getElem?_eq_some_iff.mp here).1
    simp only [Option.any_none, Bool.false_eq_true, false_iff]
    omega
  | some t =>
    simp only [Option.any_some, decide_eq_true_eq, UInt32.le_iff_toNat_le]
    rcases Nat.lt_trichotomy m k with before | rfl | behind
    · have less := h.lt there here before
      omega
    · obtain rfl : s = t := Option.some.inj (here.symm.trans there)
      simp
    · have more := h.lt here there behind
      omega

/-- Halving keeps the place of the slot in its range. -/
theorem search_eq (h : Ascending slots.toList) {k base size : Nat} {s : SlotReport}
    (here : slots[k]? = some s) (own : s.producer = id) (low : base ≤ k) (high : k < base + size) :
    search slots id base size = k := by
  fun_induction search slots id base size with
  | case1 base size small => omega
  | case2 base size large half next ih =>
    have turn := any_le_iff h here own (base + half)
    by_cases upper : base + half ≤ k
    · have moved : next = base + half := if_pos (turn.mpr upper)
      exact ih (by omega) (by omega)
    · have stays : next = base := if_neg fun above => upper (turn.mp above)
      exact ih (by omega) (by omega)

end Search

/-- A slot is found by its producer exactly if it is one of the report's slots. -/
theorem slot?_eq_some_iff {r : SimReport} (h : Ascending r.producers.toList) (id : ProducerId)
    (s : SlotReport) : r.slot? id = some s ↔ s ∈ r.producers.toList ∧ s.producer = id := by
  unfold slot?
  rw [Option.filter_eq_some_iff, decide_eq_true_eq]
  constructor
  · rintro ⟨found, own⟩
    exact ⟨Array.mem_toList_iff.mpr (Array.mem_of_getElem? found), own⟩
  · rintro ⟨member, own⟩
    obtain ⟨k, here⟩ := Array.mem_iff_getElem?.mp (Array.mem_toList_iff.mp member)
    have inside := (Array.getElem?_eq_some_iff.mp here).1
    rw [search_eq h here own (Nat.zero_le k) (by omega)]
    exact ⟨here, own⟩

/-! ### The whole report -/

/-- What a report says of the slots and of the other parts from which it was made. A sum that fits
its word does not overflow while it is added up in the order of the report. -/
structure Tells (r : SimReport) (slots : List SlotReport) (aggregated : AggregatorReport)
    (published : Option PublisherReport) : Prop where
  same : r.producers.toList.Perm slots
  order : Ascending r.producers.toList
  sent : r.sent = (slots.map SlotReport.sent).sum
  restarts : r.restarts = (slots.map SlotReport.restarts).sum
  dropped : r.dropped = aggregated.dropped + published.elim 0 PublisherReport.dropped
  sentFits : r.sent < UInt64.size →
    addUp (r.producers.toList.map SlotReport.sent) = some r.sent
  restartsFit : r.restarts < UInt64.size →
    addUp (r.producers.toList.map SlotReport.restarts) = some r.restarts
  droppedFits : r.dropped < UInt64.size →
    addUp [aggregated.dropped, published.elim 0 PublisherReport.dropped] = some r.dropped
  found : ∀ id s, r.slot? id = some s ↔ s ∈ slots ∧ s.producer = id

section Parts
variable {slots slots' : List SlotReport} {aggregated : AggregatorReport}
  {published : Option PublisherReport} (distinct : (slots.map SlotReport.producer).Nodup)
  (runId : RunId) (startedAt finishedAt : WallTime)
include distinct

theorem ofParts_of_perm (perm : slots'.Perm slots) :
    ofParts runId startedAt finishedAt slots' aggregated published =
      ofParts runId startedAt finishedAt slots aggregated published := by
  rw [ofParts, ofParts, sortSlots_eq_of_perm distinct perm, total_eq_of_perm perm,
    total_eq_of_perm perm]

theorem ofParts_tells :
    (ofParts runId startedAt finishedAt slots aggregated published).Tells slots aggregated
      published := by
  have perm := sortSlots_perm slots
  have order := sortSlots_ascending distinct
  have added (f : SlotReport → Nat) (fits : total f slots < UInt64.size) :
      addUp ((sortSlots slots).map f) = some (total f slots) := by
    rw [total_eq_sum, ← (perm.map f).sum_eq] at fits ⊢
    exact addUp_eq fits
  exact {
    same := perm
    order := order
    sent := total_eq_sum _ slots
    restarts := total_eq_sum _ slots
    dropped := rfl
    sentFits := added SlotReport.sent
    restartsFit := added SlotReport.restarts
    droppedFits := fun fits => addUp_eq fits
    found := fun id s => by
      rw [slot?_eq_some_iff order]
      exact and_congr_left' perm.mem_iff }

/-- The report is the same in whatever order the slots come. It has them all, sorted by producer,
with their sums, and finds each of them by its producer and nothing else. -/
theorem ofParts_orderless (perm : slots'.Perm slots) :
    ofParts runId startedAt finishedAt slots' aggregated published =
        ofParts runId startedAt finishedAt slots aggregated published ∧
      (ofParts runId startedAt finishedAt slots aggregated published).Tells slots aggregated
        published :=
  ⟨ofParts_of_perm distinct runId startedAt finishedAt perm,
    ofParts_tells distinct runId startedAt finishedAt⟩

end Parts

def finishers : List SlotReport :=
  [⟨3, .stopped, 18446744073709551608, 0, []⟩, ⟨1, .stopped, 7, 1, [⟨1, 1, "boom"⟩]⟩,
    ⟨2, .stopped, 0, 0, []⟩]

theorem finishers_orderless :
    (finishers.map SlotReport.producer).Nodup ∧
      finishers.reverse.Perm finishers ∧
      ofParts ⟨0⟩ ⟨0, 0⟩ ⟨9, 0⟩ finishers.reverse ⟨7, 4, 3⟩ (some ⟨2, 1, 1⟩) =
        ofParts ⟨0⟩ ⟨0, 0⟩ ⟨9, 0⟩ finishers ⟨7, 4, 3⟩ (some ⟨2, 1, 1⟩) ∧
      (ofParts ⟨0⟩ ⟨0, 0⟩ ⟨9, 0⟩ finishers ⟨7, 4, 3⟩ (some ⟨2, 1, 1⟩)).Tells finishers ⟨7, 4, 3⟩
        (some ⟨2, 1, 1⟩) := by
  have distinct : (finishers.map SlotReport.producer).Nodup := by decide
  have perm := finishers.reverse_perm
  exact ⟨distinct, perm, ofParts_orderless distinct ⟨0⟩ ⟨0, 0⟩ ⟨9, 0⟩ perm⟩

end SensorFleet.SimReport
