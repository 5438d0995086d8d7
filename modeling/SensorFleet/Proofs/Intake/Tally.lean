import SensorFleet.Proofs.Intake.Execution

/-!
What the journal says of an aggregator: the readings that it took, its summaries and whether it told
of the cancellation. In all executions its counts are those of the journal, so that every summary
counts the readings taken before it and adds up with the summaries before to that count.
-/
namespace SensorFleet

structure Summary where
  instant : Nat
  received : Nat
  sinceLast : Nat
deriving DecidableEq, Repr

def Entry.summary? (e : Entry) : Option Summary :=
  match e.what with
  | .notice (.aggregatorSummary received sinceLast _) => some ⟨e.instant, received, sinceLast⟩
  | _ => none

theorem Entry.summary?_eq_none {e : Entry} (plain : e.what.isSummary = false) :
    e.summary? = none := by
  unfold Happening.isSummary at plain
  unfold Entry.summary?
  split
  next told =>
    rw [told] at plain
    cases plain
  next => rfl

namespace Intake

section Journal
variable {journal new : List Entry} {e : Entry}

def receipts (journal : List Entry) : Nat := journal.countP fun e => e.what.isReceipt

def drainings (journal : List Entry) : Nat := journal.countP fun e => e.what.isDraining

def summaries (journal : List Entry) : List Summary := journal.reverse.filterMap Entry.summary?

/-- What the summaries of a journal say that they add, in all. -/
def added (journal : List Entry) : Nat := ((summaries journal).map Summary.sinceLast).sum

theorem receipts_cons (e : Entry) (journal : List Entry) :
    receipts (e :: journal) = receipts journal + if e.what.isReceipt then 1 else 0 :=
  List.countP_cons

theorem drainings_cons (e : Entry) (journal : List Entry) :
    drainings (e :: journal) = drainings journal + if e.what.isDraining then 1 else 0 :=
  List.countP_cons

theorem summaries_cons (e : Entry) (journal : List Entry) :
    summaries (e :: journal) = summaries journal ++ e.summary?.toList := by
  have last : [e].filterMap Entry.summary? = e.summary?.toList := by
    cases given : e.summary? with
    | none => rw [List.filterMap_cons_none given]; rfl
    | some m => rw [List.filterMap_cons_some given]; rfl
  rw [summaries, List.reverse_cons, List.filterMap_append, last, summaries]

theorem added_cons (e : Entry) (journal : List Entry) :
    added (e :: journal) = added journal + (e.summary?.toList.map Summary.sinceLast).sum := by
  rw [added, summaries_cons, List.map_append, List.sum_append, added]

theorem summaries_append (plain : ∀ e ∈ new, e.what.isSummary = false) :
    summaries (new ++ journal) = summaries journal := by
  induction new with
  | nil => rfl
  | cons e new ih =>
    have none := Entry.summary?_eq_none (plain e List.mem_cons_self)
    rw [List.cons_append, summaries_cons, none, ih fun e' h => plain e' (List.mem_cons_of_mem e h)]
    exact List.append_nil _

/-- Every summary counts the readings taken before it, and is the sum of what has been added. -/
def Balanced : List Entry → Prop
  | [] => True
  | e :: earlier =>
    (∀ m, e.summary? = some m → m.received = receipts earlier ∧ added (e :: earlier) = m.received) ∧
      Balanced earlier

theorem Balanced.suffix (h : Balanced journal) {earlier : List Entry}
    (suffix : e :: earlier <:+ journal) {m : Summary} (given : e.summary? = some m) :
    m.received = receipts earlier ∧ added (e :: earlier) = m.received := by
  induction journal with
  | nil => simp at suffix
  | cons e' journal ih =>
    rcases List.suffix_cons_iff.mp suffix with same | within
    · obtain ⟨rfl, rfl⟩ := List.cons.inj same
      exact h.1 m given
    · exact ih h.2 within

end Journal

structure Tallied (received lastSummary : Nat) (draining : Bool) (journal : List Entry) : Prop where
  counts : received = receipts journal
  adds : lastSummary = added journal
  le : lastSummary ≤ received
  told : drainings journal = if draining then 1 else 0
  balanced : Balanced journal

namespace Tallied
variable {received received' lastSummary lastSummary' : Nat} {draining draining' : Bool}
  {journal new : List Entry} {e : Entry}

/-- One entry more, which is reckoned with if it is a summary. -/
theorem cons (h : Tallied received lastSummary draining journal)
    (counts : received' = received + if e.what.isReceipt then 1 else 0)
    (adds : lastSummary' = lastSummary + (e.summary?.toList.map Summary.sinceLast).sum)
    (le : lastSummary' ≤ received')
    (told : (if draining' then 1 else 0) = (if draining then 1 else 0) +
      if e.what.isDraining then 1 else 0)
    (given : ∀ m, e.summary? = some m → m.received = received ∧ lastSummary' = m.received) :
    Tallied received' lastSummary' draining' (e :: journal) := by
  have whole : lastSummary' = added (e :: journal) := by rw [added_cons, ← h.adds, adds]
  refine ⟨?_, whole, le, ?_, ?_, h.balanced⟩
  · rw [receipts_cons, ← h.counts, counts]
  · rw [drainings_cons, h.told, told]
  · rw [← h.counts, ← whole]
    exact given

theorem aside (h : Tallied received lastSummary draining journal)
    (beside : e.what.isTallied = false) : Tallied received lastSummary draining (e :: journal) := by
  simp only [Happening.isTallied, Bool.or_eq_false_iff] at beside
  obtain ⟨⟨untaken, undrained⟩, unsummed⟩ := beside
  have none := Entry.summary?_eq_none unsummed
  apply h.cons
  · rw [untaken]
    rfl
  · rw [none]
    rfl
  · exact h.le
  · rw [undrained]
    rfl
  · rw [none]
    exact nofun

theorem append (h : Tallied received lastSummary draining journal)
    (beside : ∀ e ∈ new, e.what.isTallied = false) :
    Tallied received lastSummary draining (new ++ journal) := by
  induction new with
  | nil => exact h
  | cons e new ih =>
    have rest := ih fun e' h' => beside e' (List.mem_cons_of_mem e h')
    exact rest.aside (beside e List.mem_cons_self)

theorem take (h : Tallied received lastSummary draining journal) (t : Nat) (r : Reading) :
    Tallied (received + 1) lastSummary draining (⟨t, .taken .primary r⟩ :: journal) :=
  h.cons rfl rfl (Nat.le_succ_of_le h.le) rfl nofun

theorem drain (h : Tallied received lastSummary false journal) (t n buffered : Nat) :
    Tallied received lastSummary true (⟨t, .notice (.drainingQueue n buffered)⟩ :: journal) :=
  h.cons rfl rfl h.le rfl nofun

theorem sum (h : Tallied received lastSummary draining journal) (t buffered : Nat) :
    Tallied received received draining
      (⟨t, .notice (.aggregatorSummary received (received - lastSummary) buffered)⟩ :: journal) := by
  apply h.cons
  · rfl
  · exact (Nat.add_sub_cancel' h.le).symm
  · exact Nat.le_refl received
  · rfl
  · rintro _ ⟨⟩
    exact ⟨rfl, rfl⟩

end Tallied
section Steps
variable {a a' : Aggregator} {s s' : Scene}

theorem Tallied.of_leaves {what : List Happening} {phase : AggregatorPhase}
    {received lastSummary : Nat} {draining : Bool}
    (h : Tallied received lastSummary draining
      ((what.map (Entry.mk s.now)).reverse ++ s.journal))
    (leaves : a.Leaves s what phase received lastSummary draining a' s') :
    Tallied a'.report.received a'.lastSummary a'.draining s'.journal := by
  obtain ⟨observed, tells⟩ := leaves.tells
  rwa [leaves.received, leaves.lastSummary, leaves.draining, tells.journal]

/-- The counts after a step are those of the journal after it. -/
theorem Tallied.step (h : Tallied a.report.received a.lastSummary a.draining s.journal)
    (does : a.Does s a' s') : Tallied a'.report.received a'.lastSummary a'.draining s'.journal := by
  cases does with
  | stalls fault created failed leaves => exact of_leaves h leaves
  | parks ticker parked waiting leaves => exact of_leaves h leaves
  | starts ticker created started leaves => exact of_leaves (h.aside rfl) leaves
  | stops ticker parked waiting endedAt leaves => exact of_leaves (h.aside rfl) leaves
  | drains ticker parked buffered waiting first leaves =>
    rw [first] at h
    exact of_leaves (h.drain s.now _ buffered) leaves
  | sums ticker parked buffered waiting due leaves => exact of_leaves (h.sum s.now buffered) leaves
  | takes ticker parked r remarks waiting beside leaves =>
    refine of_leaves ?_ leaves
    rw [List.map_cons, List.reverse_cons, List.append_assoc]
    apply (h.take s.now r).append
    intro e told
    obtain ⟨w, remarked, rfl⟩ := List.mem_map.mp (List.mem_reverse.mp told)
    exact beside w remarked

end Steps

theorem Reachable.tallied {o : Intake} (h : Reachable o) :
    Tallied o.aggregator.report.received o.aggregator.lastSummary o.aggregator.draining
      o.scene.journal := by
  induction h with
  | start fresh =>
    rw [fresh.received, fresh.lastSummary, fresh.draining, ← List.append_nil (_ : Scene).journal]
    exact Tallied.append ⟨rfl, rfl, Nat.le_refl 0, rfl, trivial⟩ fresh.journal
  | next prior turn ih =>
    cases turn with
    | aggregator ready =>
      exact ih.step (Aggregator.step_does _ _ (Aggregator.live_of_isReady ready))
    | others bypasses =>
      obtain ⟨new, journal, beside⟩ := bypasses.journal
      rw [enter_aggregator, enter_scene, journal]
      exact ih.append beside
    | time => exact ih

end Intake
end SensorFleet
