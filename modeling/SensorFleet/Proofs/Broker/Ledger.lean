import Mathlib.Data.List.Nodup
import SensorFleet.Proofs.Broker.Traffic

/-!
What a broker in memory keeps of the traffic at it. It counts the publishes that were accepted and
nothing else, and a recording one holds their messages in the order in which they were answered. A
publish that was not accepted can be taken out of what happened without a change to anything else.
Once the broker is closed, nothing that starts is accepted any more.
-/
namespace SensorFleet

namespace Broker

def records (b : Broker) : Bool :=
  match b.kind with
  | .loopback => false
  | _ => true

structure Holds (b : Broker) (ms : List Message) (b' : Broker) : Prop where
  kind : b'.kind = b.kind
  accepted : b'.accepted = b.accepted + ms.length
  messages : b'.messages.toList = b.messages.toList ++ if b.records then ms else []

namespace Holds
variable {b b' b'' : Broker} {ms ms' : List Message}

theorem same (kind : b'.kind = b.kind) (accepted : b'.accepted = b.accepted)
    (messages : b'.messages = b.messages) : b.Holds [] b' :=
  ⟨kind, accepted, by rw [messages, ite_self, List.append_nil]⟩

theorem refl (b : Broker) : b.Holds [] b := same rfl rfl rfl

theorem trans (h : b.Holds ms b') (h' : b'.Holds ms' b'') : b.Holds (ms ++ ms') b'' where
  kind := h'.kind.trans h.kind
  accepted := by rw [h'.accepted, h.accepted, List.length_append, Nat.add_assoc]
  messages := by
    have records : b'.records = b.records := by simp only [Broker.records, h.kind]
    rw [h'.messages, h.messages, records]
    cases b.records <;> simp

theorem accept (b : Broker) (m : Message) : b.Holds [m] (b.accept m) where
  kind := accept_kind b m
  accepted := by
    unfold Broker.accept
    split <;> rfl
  messages := by
    unfold Broker.accept Broker.records
    cases b.kind <;> simp

theorem turn (b : Broker) (switch : BrokerSwitch) : b.Holds [] (b.turn switch) := by
  cases switch <;> exact same rfl rfl rfl

end Holds
end Broker

namespace BrokerTraffic
variable {ω : Type}

def Event.fate? (e : Event ω) : Option (ω × Fate) :=
  match e.reaction with
  | .ended fate => e.deed.publish?.map (·, fate)
  | _ => none

def fates (es : List (Event ω)) : List (ω × Fate) := es.filterMap Event.fate?

def Event.accepted? (e : Event ω) : Option ω :=
  match e.reaction with
  | .ended (.answered .accepted) => e.deed.publish?
  | _ => none

/-- The publishes that were accepted, in the order in which they were answered. -/
def accepted (es : List (Event ω)) : List ω := es.filterMap Event.accepted?

theorem fates_cons (e : Event ω) (es : List (Event ω)) :
    fates (e :: es) = e.fate?.toList ++ fates es := by
  rw [fates, List.filterMap_cons]
  cases e.fate? <;> rfl

theorem accepted_cons (e : Event ω) (es : List (Event ω)) :
    accepted (e :: es) = e.accepted?.toList ++ accepted es := by
  rw [accepted, List.filterMap_cons]
  cases e.accepted? <;> rfl

theorem accepted?_eq_some_iff {e : Event ω} {id : ω} :
    e.accepted? = some id ↔ e.fate? = some (id, .answered .accepted) := by
  obtain ⟨deed, reaction⟩ := e
  cases reaction with
  | ended fate =>
    cases fate with
    | answered a => cases a <;> simp [Event.accepted?, Event.fate?]
    | dropped => simp [Event.accepted?, Event.fate?]
  | waits | nothing => simp [Event.accepted?, Event.fate?]

theorem mem_accepted_iff {es : List (Event ω)} {id : ω} :
    id ∈ accepted es ↔ (id, .answered .accepted) ∈ fates es := by
  simp only [accepted, fates, List.mem_filterMap, accepted?_eq_some_iff]

theorem fate_unique {es : List (Event ω)} (once : ((fates es).map Prod.fst).Nodup) {id : ω}
    {fate fate' : Fate} (h : (id, fate) ∈ fates es) (h' : (id, fate') ∈ fates es) : fate = fate' :=
  congrArg Prod.snd (List.inj_on_of_nodup_map once h h' rfl)

/-- Whether a deed is none of the publishes that are gone. -/
def Deed.spares (gone : ω → Bool) (deed : Deed ω) : Bool := !deed.publish?.any gone

/-- The traffic if some publishes had never been made. -/
def without (t : BrokerTraffic ω) (gone : ω → Bool) : BrokerTraffic ω :=
  { t with stage := fun id => if gone id then .ahead else t.stage id }

theorem new_without (records : Bool) (gone : ω → Bool) :
    (new records : BrokerTraffic ω).without gone = new records := by
  simp [new, without]

variable [DecidableEq ω] {letter : ω → Message} {records : Bool} {t t₁ t' : BrokerTraffic ω}
  {deed : Deed ω} {reaction : Reaction} {next : Reaction × BrokerTraffic ω} {id : ω} {fate : Fate}
  {gone : ω → Bool} {es : List (Event ω)}

/-! ## What one deed does -/

/-- A deed brings the broker the message of the publish that it lets in, if it lets one in. -/
theorem Acts.holds (h : t.Acts letter deed next) :
    t.broker.Holds ((Event.mk deed next.1).accepted?.toList.map letter) next.2.broker := by
  cases h with
  | answers own unfinished takes =>
    cases takes with
    | accepts =>
      simp only [Event.accepted?, own]
      exact .accept _ _
    | refuses e => exact .refl _
  | waits | drops | passes => exact .refl _
  | turns switch => exact .turn _ switch
  | closes => exact .same rfl rfl rfl

theorem Sound.enter (h : t.Sound letter) {stage : PublishStage} {b : Broker}
    (kind : b.kind = t.broker.kind)
    (brings : ∀ pending, stage = .waiting pending → pending.remainder = .deliver (letter id)) :
    (t.enter id stage b).Sound letter where
  inMemory := (Broker.isScripted_congr kind).trans h.inMemory
  brings other pending waiting := by
    by_cases same : other = id
    · subst same
      exact brings pending (by rwa [enter_stage] at waiting)
    · exact h.brings other pending (by rwa [enter_stage_of_ne t same] at waiting)

theorem Acts.sound (h : t.Acts letter deed next) (sound : t.Sound letter) :
    next.2.Sound letter := by
  have kind := h.holds.kind
  cases h with
  | answers own unfinished takes => exact sound.enter kind nofun
  | waits ahead brings =>
    refine sound.enter rfl fun pending same => ?_
    cases same
    exact brings
  | drops unfinished => exact sound.enter rfl nofun
  | turns | closes | passes =>
    exact ⟨(Broker.isScripted_congr kind).trans sound.inMemory, sound.brings⟩

theorem Acts.stays_finished (h : t.Acts letter deed next) (finished : t.stage id = .finished) :
    next.2.stage id = .finished := by
  cases h with
  | @answers _ own _ _ _ _ _ | @drops own _ =>
    by_cases same : id = own
    · rw [same, enter_stage]
    · rwa [enter_stage_of_ne t same]
  | @waits own _ ahead _ =>
    have other : id ≠ own := by
      rintro rfl
      simp [ahead] at finished
    rwa [enter_stage_of_ne t other]
  | turns | closes | passes => exact finished

theorem Acts.ends (h : t.Acts letter deed next)
    (fated : (Event.mk deed next.1).fate? = some (id, fate)) :
    t.stage id ≠ .finished ∧ next.2.stage id = .finished := by
  cases h with
  | answers own unfinished takes =>
    simp only [Event.fate?, own, Option.map_some, Option.some.injEq, Prod.mk.injEq] at fated
    obtain ⟨rfl, -⟩ := fated
    exact ⟨unfinished, enter_stage ..⟩
  | drops unfinished =>
    simp only [Event.fate?, Deed.publish?, Option.map_some, Option.some.injEq,
      Prod.mk.injEq] at fated
    obtain ⟨rfl, -⟩ := fated
    exact ⟨unfinished, enter_stage ..⟩
  | waits | turns | closes | passes => cases fated

theorem Acts.closed_iff (h : t.Acts letter deed next) :
    next.2.broker.closed = true ↔ t.broker.closed = true ∨ deed = .close := by
  cases h with
  | @answers deed _ _ _ own unfinished takes =>
    have other : deed ≠ .close := by
      rintro rfl
      cases own
    cases takes with
    | accepts => simp [Broker.accept_closed, other]
    | refuses e => simp [other]
  | turns switch => simp [Broker.turn_closed]
  | waits | drops | closes | passes => simp

theorem without_enter (kept : gone id = false) (stage : PublishStage) (b : Broker) :
    (t.without gone).enter id stage b = (t.enter id stage b).without gone := by
  simp only [enter, without, mk.injEq, true_and]
  funext other
  by_cases same : other = id
  · subst same
    simp [kept]
  · simp [same]

theorem enter_without (taken : gone id = true) (stage : PublishStage) :
    (t.enter id stage t.broker).without gone = t.without gone := by
  simp only [enter, without, mk.injEq, true_and]
  funext other
  by_cases same : other = id
  · subst same
    simp [taken]
  · simp [same]

theorem afterAnswer_without (kept : gone id = false) {answer : Answer × Broker}
    (h : t.afterAnswer id answer = (reaction, t₁)) :
    (t.without gone).afterAnswer id answer = (reaction, t₁.without gone) := by
  cases h
  exact congrArg _ (without_enter kept _ _)

theorem afterStart_without (kept : gone id = false) {start : Broker.Start × Broker}
    (h : t.afterStart id start = (reaction, t₁)) :
    (t.without gone).afterStart id start = (reaction, t₁.without gone) := by
  obtain ⟨start, b⟩ := start
  cases start with
  | done a => exact afterAnswer_without kept (show t.afterAnswer id (a, b) = _ from h)
  | waiting pending =>
    cases h
    exact congrArg _ (without_enter kept _ _)

/-- The deeds of the others can be done in the same way without the publishes that are gone. -/
theorem act?_without (spared : deed.spares gone = true)
    (act : t.act? letter deed = some (reaction, t₁)) :
    (t.without gone).act? letter deed = some (reaction, t₁.without gone) := by
  have kept {id : ω} (own : deed.publish? = some id) : gone id = false := by
    simpa [Deed.spares, own] using spared
  have stage {id : ω} (own : deed.publish? = some id) : (t.without gone).stage id = t.stage id := by
    simp [without, kept own]
  cases deed with
  | start id =>
    simp only [act?, stage rfl] at act ⊢
    split at act
    next =>
      simp only [Option.some.injEq] at act ⊢
      exact afterStart_without (kept rfl) act
    next => cases act
  | goOn id =>
    simp only [act?, stage rfl] at act ⊢
    split at act
    next pending =>
      simp only [Option.ite_none_right_eq_some, Option.some.injEq] at act ⊢
      exact ⟨act.1, afterAnswer_without (kept rfl) act.2⟩
    next => cases act
  | drop id =>
    simp only [act?, stage rfl] at act ⊢
    split at act
    next pending =>
      cases act
      exact congrArg some (congrArg _ (without_enter (kept rfl) _ _))
    next => cases act
  | turn | close | pass =>
    cases act
    rfl

/-- The deeds of a publish that is not accepted change nothing but its own stage. -/
theorem Acts.without (h : t.Acts letter deed next) (taken : deed.spares gone = false)
    (unaccepted : ∀ id, gone id = true → (Event.mk deed next.1).accepted? ≠ some id) :
    next.2.without gone = t.without gone := by
  cases h with
  | @answers _ own _ _ publish _ takes =>
    have taken : gone own = true := by simpa [Deed.spares, publish] using taken
    cases takes with
    | accepts => exact absurd publish (unaccepted own taken)
    | refuses e => exact enter_without taken _
  | waits | drops => exact enter_without (by simpa [Deed.spares, Deed.publish?] using taken) _
  | turns | closes | passes => simp [Deed.spares, Deed.publish?] at taken

/-! ## What a run does -/

theorem Run.sound (h : Run letter t es t') (sound : t.Sound letter) : t'.Sound letter := by
  induction h with
  | rest => exact sound
  | next act after ih => exact ih ((sound.acts act).sound sound)

theorem Run.holds (h : Run letter t es t') (sound : t.Sound letter) :
    t.broker.Holds ((accepted es).map letter) t'.broker := by
  induction h with
  | rest => exact .refl _
  | next act after ih =>
    have acts := sound.acts act
    rw [accepted_cons, List.map_append]
    exact acts.holds.trans (ih (acts.sound sound))

/-- A publish ends once, and only if it was not finished before. -/
theorem Run.nodup_fates (h : Run letter t es t') (sound : t.Sound letter) :
    ((fates es).map Prod.fst).Nodup ∧ ∀ id ∈ (fates es).map Prod.fst, t.stage id ≠ .finished := by
  induction h with
  | rest => exact ⟨List.nodup_nil, nofun⟩
  | @next t t₁ t' deed reaction es act after ih =>
    have acts := sound.acts act
    obtain ⟨once, unfinished⟩ := ih (acts.sound sound)
    -- what ends later is not finished after the deed, so it is not what ends with the deed
    have earlier : ∀ id ∈ (fates es).map Prod.fst, t.stage id ≠ .finished := fun id later finished =>
      unfinished id later (acts.stays_finished finished)
    rw [fates_cons]
    cases fated : (Event.mk deed reaction).fate? with
    | none => exact ⟨once, earlier⟩
    | some f =>
      obtain ⟨before, finished⟩ := acts.ends fated
      refine ⟨List.nodup_cons.mpr ⟨fun later => unfinished f.1 later finished, once⟩, ?_⟩
      exact List.forall_mem_cons.mpr ⟨before, earlier⟩

theorem Run.closed_iff (h : Run letter t es t') (sound : t.Sound letter) :
    t'.broker.closed = true ↔ t.broker.closed = true ∨ ∃ e ∈ es, e.deed = .close := by
  induction h with
  | rest => simp
  | next act after ih =>
    have acts := sound.acts act
    simp only [ih (acts.sound sound), acts.closed_iff, List.exists_mem_cons_iff, or_assoc]

/-- At a closed broker a publish is refused as soon as it starts. -/
theorem Run.refused (h : Run letter t es t') (sound : t.Sound letter)
    (closed : t.broker.closed = true) : ∀ e ∈ es, ∀ id, e.deed = .start id →
      e.reaction = .ended (.answered (.failed .notConnected)) := by
  induction h with
  | rest => exact nofun
  | @next t t₁ t' deed reaction es act after ih =>
    have acts := sound.acts act
    refine List.forall_mem_cons.mpr ⟨?_, ih (acts.sound sound) (acts.closed_iff.mpr (.inl closed))⟩
    rintro id rfl
    simp only [act?] at act
    split at act
    next =>
      rw [Broker.start_of_not_isConnected sound.inMemory
        (Broker.not_isConnected_of_closed closed)] at act
      cases act
      rfl
    next => cases act

/-- Publishes that were not accepted can be taken out of what happened. -/
theorem Run.without (h : Run letter t es t') (sound : t.Sound letter)
    (unaccepted : ∀ id, gone id = true → id ∉ accepted es) :
    Run letter (t.without gone) (es.filter fun e => e.deed.spares gone) (t'.without gone) := by
  induction h with
  | rest => exact .rest
  | next act after ih =>
    have acts := sound.acts act
    simp only [accepted_cons, List.mem_append, not_or, Option.mem_toList] at unaccepted
    have rest := ih (acts.sound sound) fun id taken => (unaccepted id taken).2
    rw [List.filter_cons]
    split
    next spared => exact .next (act?_without spared act) rest
    next taken =>
      -- the deed is left out, and without its publish the state is the same before and after it
      rw [Bool.not_eq_true] at taken
      rwa [acts.without taken fun id own => (unaccepted id own).1] at rest

/-- However many publishes go on at once at a new broker in memory, and however they wait and are
dropped while its switches are turned and it is closed: each ends once at most; the broker counts
those that were accepted; a recording one holds their messages in the order in which they were
answered, and one in loopback holds none; any publishes that failed or were dropped, or still wait,
can be taken out, and what happened to the others, in the same order and with the same answers,
leads to the same broker without them; and once it was closed it is not connected, and every publish
that starts is refused. -/
theorem Run.ledger_exact (h : Run letter (new records) es t) :
    ((fates es).map Prod.fst).Nodup ∧
    t.broker.accepted = (accepted es).length ∧
    t.broker.messages.toList = (if records then (accepted es).map letter else []) ∧
    (∀ gone : ω → Bool,
      (∀ id fate, gone id = true → (id, fate) ∈ fates es → fate ≠ .answered .accepted) →
      Run letter (new records) (es.filter fun e => e.deed.spares gone) (t.without gone)) ∧
    ∀ before after, es = before ++ after → (∃ e ∈ before, e.deed = .close) →
      t.broker.isConnected = false ∧
      ∀ e ∈ after, ∀ id, e.deed = .start id →
        e.reaction = .ended (.answered (.failed .notConnected)) ∧ id ∉ accepted es := by
  have sound := new_sound letter records
  have holds := h.holds sound
  obtain ⟨once, -⟩ := h.nodup_fates sound
  refine ⟨once, ?_, ?_, ?_, ?_⟩
  · rw [holds.accepted, List.length_map]
    exact Nat.zero_add _
  · rw [holds.messages]
    cases records <;> rfl
  · intro gone unaccepted
    have left := h.without sound fun id taken entered =>
      unaccepted id _ taken (mem_accepted_iff.mp entered) rfl
    rwa [new_without] at left
  · rintro before after rfl closing
    obtain ⟨m, first, last⟩ := h.split
    have closed := (first.closed_iff sound).mpr (.inr closing)
    have sound' := first.sound sound
    refine ⟨Broker.not_isConnected_of_closed ((last.closed_iff sound').mpr (.inl closed)), ?_⟩
    intro e later id start
    have refused := last.refused sound' closed e later id start
    refine ⟨refused, fun entered => ?_⟩
    have fated : (id, .answered (.failed .notConnected)) ∈ fates (before ++ after) :=
      List.mem_filterMap.mpr
        ⟨e, List.mem_append_right _ later, by simp [Event.fate?, refused, start, Deed.publish?]⟩
    cases fate_unique once fated (mem_accepted_iff.mp entered)

/-- Two publishes wait, and the later one is answered first, while a third is dropped. A fourth one
finds messages rejected. Then the broker is closed; the first publish is accepted all the same when
its wait is over, but a fifth is not, though the connection was switched on again. -/
theorem ledger_past_the_closing :
    ∃ (letter : Nat → Message) (es : List (Event Nat)) (t : BrokerTraffic Nat),
      Run letter (new true) es t ∧
      fates es = [(2, .answered .accepted), (3, .dropped),
        (4, .answered (.failed (.rejected "full"))), (5, .answered (.failed .notConnected)),
        (1, .answered .accepted)] ∧
      t.broker.accepted = 2 ∧ t.broker.messages.toList = [letter 2, letter 1] ∧
      t.broker.isConnected = false ∧
      Run letter (new true) (es.filter fun e => e.deed.spares (2 < ·)) (t.without (2 < ·)) := by
  let letter (n : Nat) : Message := ⟨"sensors.data", if n = 1 then "first" else "another"⟩
  let deeds : List (Deed Nat) := [.turn (.delay 20000000), .start 1, .turn (.delay 5000000),
    .start 2, .start 3, .pass 5000000, .goOn 2, .drop 3, .turn (.delay 0),
    .turn (.rejection (some "full")), .start 4, .turn (.rejection none), .close,
    .turn (.connection true), .start 5, .pass 15000000, .goOn 1]
  let expected : List (Nat × Fate) := [(2, .answered .accepted), (3, .dropped),
    (4, .answered (.failed (.rejected "full"))), (5, .answered (.failed .notConnected)),
    (1, .answered .accepted)]
  let test (played : List (Event Nat) × BrokerTraffic Nat) : Bool :=
    fates played.1 = expected ∧ accepted played.1 = [2, 1] ∧ played.1.any (·.deed = .close)
  obtain ⟨es, t, run, passed⟩ := exists_run letter (new true) deeds test (by decide)
  obtain ⟨fates_eq, accepted_eq, closing⟩ := of_decide_eq_true passed
  obtain ⟨once, count, messages, removable, closed⟩ := run.ledger_exact
  obtain ⟨e, listed, closing⟩ := List.any_eq_true.mp closing
  refine ⟨letter, es, t, run, fates_eq, ?_, ?_, ?_, ?_⟩
  · rw [count, accepted_eq]
    rfl
  · rw [messages, accepted_eq]
    rfl
  · exact (closed es [] (List.append_nil es).symm ⟨e, listed, of_decide_eq_true closing⟩).1
  · refine removable _ fun id fate taken fated => ?_
    rintro rfl
    have entered := mem_accepted_iff.mpr fated
    simp only [accepted_eq, List.mem_cons, List.not_mem_nil, or_false] at entered
    have later : 2 < id := of_decide_eq_true taken
    omega

end BrokerTraffic
end SensorFleet
