import SensorFleet.Json.Records
import SensorFleet.Proofs.Json.Numerals
import SensorFleet.Proofs.Json.Strings

/-!
Values inside lists and objects without blanks: whole numbers, strings, named values and lists. What
follows such a value is a comma or a closing bracket, so that its end is known.
-/
namespace SensorFleet.Json

/-- A text that goes on as it does behind a value in a list or an object. -/
inductive Ends : List Char → Prop
  | comma (rest : List Char) : Ends (',' :: rest)
  | list (rest : List Char) : Ends (']' :: rest)
  | object (rest : List Char) : Ends ('\x7d' :: rest)

theorem Ends.stops {rest : List Char} (ends : Ends rest) : Stops rest := by
  cases ends <;> exact stops_cons (by decide) _

/-- A decoder takes a value from its text wherever the text may stand. -/
def Reads {α : Type} (d : Decoder α) (cs : List Char) (v : α) : Prop :=
  ∀ rest, Ends rest → d (cs ++ rest) = .ok (v, rest)

theorem Reads.map {α β : Type} {d : Decoder α} {cs : List Char} {v : α} (reads : Reads d cs v)
    (f : α → β) : Reads (fun cs => (d cs).map fun (v, cs) => (f v, cs)) cs (f v) :=
  fun rest ends => congrArg (Except.map _) (reads rest ends)

/-! ### Whole numbers -/

theorem chars_nat (n : Nat) : (nat n).chars = Nat.toDigits 10 n := by
  change (toString n).toList = _
  rw [Nat.toString_eq_ofList_toDigits, String.toList_ofList]

theorem natBelow_reads {n bound : Nat} (expected : String) (below : n < bound)
    (fits : n < UInt64.size) : Reads (natBelow bound expected) (nat n).chars n := by
  intro rest ends
  have read := Numeral.unsigned_digits (Numeral.spells_toDigits fits) false ends.stops
  have whole : Numeral.continued false n rest = .ok (.natural n, rest) := by cases ends <;> rfl
  rw [whole] at read
  rw [chars_nat, natBelow, number_of_unsigned read]
  dsimp only
  rw [if_pos below]
  rfl

theorem word32_reads {n : Nat} (small : n < UInt32.size) : Reads word32 (nat n).chars n :=
  natBelow_reads "u32" small (Nat.lt_trans small (by decide))

theorem word64_reads {n : Nat} (small : n < UInt64.size) : Reads word64 (nat n).chars n :=
  natBelow_reads "u64" small small

theorem producer_reads (id : ProducerId) :
    Reads ProducerId.decoder (nat id.toNat).chars id := by
  have reads := (word32_reads id.toNat_lt).map UInt32.ofNat
  rwa [UInt32.ofNat_toNat] at reads

/-! ### Strings -/

theorem plainString_reads (s : String) : Reads plainString (string s).chars s := by
  intro rest _
  rw [chars, plainString, stringAs_quoted, String.ofList_toList]
  rfl

theorem variant_reads {α : Type} (names : List String) {ofName? : String → Option α} {s : String}
    {v : α} (known : ofName? s = some v) : Reads (variant names ofName?) (string s).chars v := by
  intro rest _
  have text : (string s).chars ++ rest = '"' :: (s.toList.flatMap escape ++ '"' :: rest) := by
    simp [chars, quoted]
  have quote (cs : List Char) : skipSpace ('"' :: cs) = '"' :: cs := rfl
  simp only [variant, text, quote, stringTail_quoted, String.ofList_toList, known, bind,
    Except.bind]
  rfl

/-! ### Lists -/

/-- What stands in front of an item or a member: a comma, but for the first one. -/
def opening (first : Bool) : List Char := if first then [] else [',']

def Opens (cs : List Char) : Prop := ∃ c cs', cs = c :: cs' ∧ 0x20 < c.toNat ∧ c ≠ ']'

def itemsFrom (first : Bool) : List Json → List Char
  | [] => []
  | v :: vs => opening first ++ (v.chars ++ itemsFrom false vs)

theorem itemChars_eq (vs : List Json) : itemChars vs = itemsFrom true vs := by
  have later (v : Json) (vs : List Json) : itemChars (v :: vs) = v.chars ++ itemsFrom false vs := by
    induction vs generalizing v with
    | nil => simp [itemChars, itemsFrom]
    | cons w vs ih => simp [itemChars, itemsFrom, opening, ih w]
  cases vs with
  | nil => rfl
  | cons v vs => simp [itemsFrom, opening, later]

theorem nextItem_item (first : Bool) {cs : List Char} (opens : Opens cs) (rest : List Char) :
    nextItem first (opening first ++ (cs ++ rest)) = .ok (true, cs ++ rest) := by
  obtain ⟨c, cs, rfl, visible, unclosed⟩ := opens
  have shown := skipSpace_of_visible visible (cs ++ rest)
  have comma (cs : List Char) : skipSpace (',' :: cs) = ',' :: cs := rfl
  cases first with
  | true =>
    simp only [opening, if_true, List.nil_append, List.cons_append, nextItem, shown]
    split
    next none => cases none
    next same => exact absurd (List.cons.inj same).1 unclosed
    next same => rw [same]
    next => rfl
  | false =>
    simp only [opening, Bool.false_eq_true, if_false, List.cons_append, List.nil_append, nextItem,
      comma, shown]
    split
    next none => cases none
    next same => exact absurd (List.cons.inj same).1 unclosed
    next => rfl

theorem itemsFrom_ends (vs : List Json) (rest : List Char) :
    Ends (itemsFrom false vs ++ ']' :: rest) := by
  cases vs with
  | nil => exact .list rest
  | cons v vs => exact .comma _

section Lists
variable {α : Type} {item : Decoder α} {write : α → Json} {vs : List α}

/-- Induction on the items, each of which leaves the text at the next one. -/
theorem items_written (reads : ∀ v ∈ vs, Reads item (write v).chars v)
    (opens : ∀ v ∈ vs, Opens (write v).chars) {n : Nat} (enough : vs.length < n) (first : Bool)
    (rest : List Char) :
    items item n first (itemsFrom first (vs.map write) ++ ']' :: rest) = .ok (vs, ']' :: rest) := by
  induction vs generalizing n first with
  | nil =>
    obtain ⟨n, rfl⟩ : ∃ m, n = m + 1 := ⟨n - 1, by simp at enough; omega⟩
    cases first <;> rfl
  | cons v vs ih =>
    obtain ⟨n, rfl⟩ : ∃ m, n = m + 1 := ⟨n - 1, by simp at enough; omega⟩
    have here := reads v List.mem_cons_self _ (itemsFrom_ends (vs.map write) rest)
    have later := ih (fun w hw => reads w (List.mem_cons_of_mem v hw))
      (fun w hw => opens w (List.mem_cons_of_mem v hw)) (by simpa using enough) false
    simp only [List.map_cons, itemsFrom, List.append_assoc, items,
      nextItem_item first (opens v List.mem_cons_self), bind, Except.bind, if_true, here, later]
    rfl

theorem length_le_itemsFrom (opens : ∀ v ∈ vs, Opens (write v).chars) (first : Bool) :
    vs.length ≤ (itemsFrom first (vs.map write)).length := by
  induction vs generalizing first with
  | nil => exact Nat.zero_le _
  | cons v vs ih =>
    obtain ⟨c, cs, text, _⟩ := opens v List.mem_cons_self
    have later := ih (fun w hw => opens w (List.mem_cons_of_mem v hw)) false
    simp only [List.map_cons, itemsFrom, text, List.length_append, List.length_cons]
    omega

theorem listOf_reads (reads : ∀ v ∈ vs, Reads item (write v).chars v)
    (opens : ∀ v ∈ vs, Opens (write v).chars) :
    Reads (listOf item) (array (vs.map write)).chars vs := by
  intro rest _
  have text : (array (vs.map write)).chars ++ rest =
      '[' :: (itemsFrom true (vs.map write) ++ ']' :: rest) := by
    simp [chars, itemChars_eq]
  have bracket (cs : List Char) : skipSpace ('[' :: cs) = '[' :: cs := rfl
  have close : endOf ']' (']' :: rest) = .ok ((), rest) := rfl
  have enough : vs.length < (itemsFrom true (vs.map write) ++ ']' :: rest).length + 1 := by
    have least := length_le_itemsFrom opens true
    simp only [List.length_append]
    omega
  simp only [listOf, text, bracket, items_written reads opens enough, close, bind, Except.bind]
  rfl

end Lists

end SensorFleet.Json
