import SensorFleet.Proofs.Json.Values

/-!
Records that are written as objects without blanks. Each known member in its turn fills its field,
so that an object is read as the record that its members make.
-/
namespace SensorFleet.Json

namespace RecordShape
variable {σ α : Type} {r : RecordShape σ α} {n : Nat} {s s' : σ} {f : FieldShape σ}
  {key cs rest : List Char}

theorem nextKey_quoted (first : Bool) (key cs : List Char) :
    nextKey first (opening first ++ (quoted key ++ cs)) =
      .ok (true, key.flatMap escape ++ '"' :: cs) := by
  have quote (rest : List Char) : skipSpace ('"' :: rest) = '"' :: rest := rfl
  have comma (rest : List Char) : skipSpace (',' :: rest) = ',' :: rest := rfl
  cases first with
  | true => simp [opening, quoted, nextKey, quote]
  | false => simp [opening, quoted, nextKey, quote, comma]

/-- A member whose field is still empty fills it. -/
theorem members_member (first : Bool)
    (found : (r.fields.find? fun f => f.name = String.ofList key) = some f)
    (empty : f.isFilled s = false) (filled : f.fill s cs = .ok (s', rest)) :
    r.members (n + 1) first s (opening first ++ (quoted key ++ ':' :: cs)) =
      r.members n false s' rest := by
  have colon : colon (':' :: cs) = .ok ((), cs) := rfl
  simp only [members, nextKey_quoted, bind, Except.bind, if_true, stringTail_quoted, found, empty,
    Bool.false_eq_true, if_false, colon, filled]

/-- The same for a field that is kept in an `Option`. -/
theorem members_keep {β : Type} {name : String} {d : Decoder β} {get : σ → Option β}
    {set : σ → β → σ} {v : β} (first : Bool)
    (found : (r.fields.find? fun f => f.name = String.ofList key) = some (keep name d get set))
    (empty : (get s).isSome = false) (read : d cs = .ok (v, rest)) :
    r.members (n + 1) first s (opening first ++ (quoted key ++ ':' :: cs)) =
      r.members n false (set s v) rest :=
  members_member first found empty (congrArg (Except.map _) read)

theorem members_end (n : Nat) (s : σ) (rest : List Char) :
    r.members (n + 1) false s ('\x7d' :: rest) = .ok (s, '\x7d' :: rest) := rfl

theorem decode_object {v : α}
    (read : r.members (cs.length + 1) true r.empty cs = .ok (s, '\x7d' :: rest))
    (complete : r.finish s = .ok v) : r.decode ('\x7b' :: cs) = .ok (v, rest) := by
  have brace : skipSpace ('\x7b' :: cs) = '\x7b' :: cs := rfl
  have close : endOf '\x7d' ('\x7d' :: rest) = .ok ((), rest) := rfl
  simp only [decode, brace, read, complete, close, bind, Except.bind]
  rfl

/-! ### All members of an object -/

/-- What the members of an object make of a draft, one after another. -/
inductive Fills (r : RecordShape σ α) : σ → List (String × Json) → σ → Prop
  | done (s : σ) : Fills r s [] s
  | member {s s' s'' : σ} {f : FieldShape σ} {key : String} {v : Json}
      {others : List (String × Json)} (found : (r.fields.find? fun f => f.name = key) = some f)
      (empty : f.isFilled s = false) (reads : Reads (f.fill s) v.chars s')
      (goes : Fills r s' others s'') : Fills r s ((key, v) :: others) s''

theorem Fills.keep {β : Type} {name : String} {d : Decoder β} {get : σ → Option β}
    {set : σ → β → σ} {x : β} {key : String} {v : Json} {others : List (String × Json)}
    (found : (r.fields.find? fun f => f.name = key) = some (keep name d get set))
    (empty : (get s).isSome = false) (reads : Reads d v.chars x)
    (goes : r.Fills (set s x) others s') : r.Fills s ((key, v) :: others) s' :=
  .member found empty (reads.map (set s)) goes

def membersFrom (first : Bool) : List (String × Json) → List Char
  | [] => []
  | (key, v) :: ms =>
    opening first ++ (quoted key.toList ++ ':' :: (v.chars ++ membersFrom false ms))

theorem memberChars_eq (ms : List (String × Json)) : memberChars ms = membersFrom true ms := by
  have later (key : String) (v : Json) (ms : List (String × Json)) : memberChars ((key, v) :: ms) =
      quoted key.toList ++ ':' :: (v.chars ++ membersFrom false ms) := by
    induction ms generalizing key v with
    | nil => simp [memberChars, membersFrom]
    | cons m ms ih => simp [memberChars, membersFrom, opening, ih m.1 m.2]
  cases ms with
  | nil => rfl
  | cons m ms => simp [membersFrom, opening, later m.1 m.2]

theorem membersFrom_ends (ms : List (String × Json)) (rest : List Char) :
    Ends (membersFrom false ms ++ '\x7d' :: rest) := by
  cases ms with
  | nil => exact .object rest
  | cons m ms => exact .comma _

theorem length_le_membersFrom (first : Bool) (ms : List (String × Json)) :
    ms.length ≤ (membersFrom first ms).length := by
  induction ms generalizing first with
  | nil => exact Nat.zero_le _
  | cons m ms ih =>
    have later := ih false
    simp only [membersFrom, List.length_append, List.length_cons]
    omega

theorem members_written {ms : List (String × Json)} (fills : r.Fills s ms s')
    (enough : ms.length < n) (first : Bool) (rest : List Char) :
    r.members n first s (membersFrom first ms ++ '\x7d' :: rest) = .ok (s', '\x7d' :: rest) := by
  induction fills generalizing n first with
  | done s =>
    obtain ⟨n, rfl⟩ : ∃ m, n = m + 1 := ⟨n - 1, by simp at enough; omega⟩
    rfl
  | @member s s₁ s₂ f key v others found empty reads _ ih =>
    obtain ⟨n, rfl⟩ : ∃ m, n = m + 1 := ⟨n - 1, by simp at enough; omega⟩
    have filled := reads _ (membersFrom_ends others rest)
    rw [membersFrom, List.append_assoc, List.append_assoc, List.cons_append, List.append_assoc,
      members_member first (by rwa [String.ofList_toList]) empty filled]
    exact ih (by simpa using enough) false

/-- An object is read as the record that its members make, whatever stands behind it. -/
theorem decode_written {ms : List (String × Json)} {v : α} (fills : r.Fills r.empty ms s)
    (complete : r.finish s = .ok v) (rest : List Char) :
    r.decode ((object ms).chars ++ rest) = .ok (v, rest) := by
  have text : (object ms).chars ++ rest = '\x7b' :: (membersFrom true ms ++ '\x7d' :: rest) := by
    simp [chars, memberChars_eq]
  have enough : ms.length < (membersFrom true ms ++ '\x7d' :: rest).length + 1 := by
    have least := length_le_membersFrom true ms
    simp only [List.length_append]
    omega
  rw [text]
  exact decode_object (members_written fills enough true rest) complete

end RecordShape
end SensorFleet.Json
