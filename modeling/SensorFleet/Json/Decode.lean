import SensorFleet.Json.Numeral
import SensorFleet.Json.Value
import SensorFleet.Text.Blank
import SensorFleet.Text.Shown
/-!
Decoding typed values straight from a JSON text, from left to right. Wrong content is reported as
soon as it is met, before a mistake further on.
-/
namespace SensorFleet.Json

def skipSpace (cs : List Char) : List Char :=
  cs.dropWhile fun c => c = ' ' || c = '\n' || c = '\t' || c = '\r'

/-- The rest of a fixed word. -/
def word (letters : List Char) : Decoder Unit := fun cs =>
  match letters, cs with
  | [], cs => .ok ((), cs)
  | _ :: _, [] => .error .unfinished
  | l :: ls, c :: cs => if l = c then word ls cs else .error .malformed

def hexValue? (c : Char) : Option Nat :=
  if c.isDigit then some (c.toNat - '0'.toNat)
  else if 'a' ≤ c && c ≤ 'f' then some (c.toNat - 'a'.toNat + 10)
  else if 'A' ≤ c && c ≤ 'F' then some (c.toNat - 'A'.toNat + 10)
  else none

/-- Four hexadecimal digits; a text of fewer than four bytes is unfinished whatever it holds. -/
def hexUnit (cs : List Char) : Except Fault Nat :=
  if byteLength (cs.take 4) < 4 then .error .unfinished
  else match cs with
    | a :: b :: c :: d :: _ =>
      match hexValue? a, hexValue? b, hexValue? c, hexValue? d with
      | some a, some b, some c, some d => .ok (((a * 16 + b) * 16 + c) * 16 + d)
      | _, _, _, _ => .error .malformed
    | _ => .error .malformed

/-- The character of an escape and how many characters of the text after the backslash it takes.
A character beyond the first 65536 is written as two units. -/
def escaped (cs : List Char) : Except Fault (Char × Nat) :=
  match cs with
  | [] => .error .unfinished
  | '"' :: _ => .ok ('"', 1)
  | '\\' :: _ => .ok ('\\', 1)
  | '/' :: _ => .ok ('/', 1)
  | 'b' :: _ => .ok ('\x08', 1)
  | 'f' :: _ => .ok ('\x0c', 1)
  | 'n' :: _ => .ok ('\n', 1)
  | 'r' :: _ => .ok ('\r', 1)
  | 't' :: _ => .ok ('\t', 1)
  | 'u' :: cs => do
    let high ← hexUnit cs
    if 0xdc00 ≤ high && high ≤ 0xdfff then throw .malformed
    if high < 0xd800 || 0xdbff < high then return (Char.ofNat high, 5)
    match cs.drop 4 with
    | [] => throw .unfinished
    | '\\' :: [] => throw .unfinished
    | '\\' :: 'u' :: cs =>
      let low ← hexUnit cs
      if low < 0xdc00 || 0xdfff < low then throw .malformed
      return (Char.ofNat ((high - 0xd800) * 0x400 + (low - 0xdc00) + 0x10000), 11)
    | _ => throw .malformed
  | _ => .error .malformed

/-- A string whose opening quote was taken already. -/
def stringTail (cs : List Char) : Except Fault (List Char × List Char) :=
  match cs with
  | [] => .error .unfinished
  | '"' :: rest => .ok ([], rest)
  | '\\' :: rest =>
    match escaped rest with
    | .error e => .error e
    | .ok (c, k) => (stringTail (rest.drop k)).map fun (s, rest) => (c :: s, rest)
  | c :: rest =>
    if c.toNat < 0x20 then .error .malformed
    else (stringTail rest).map fun (s, rest) => (c :: s, rest)
termination_by cs.length
decreasing_by all_goals simp only [List.length_drop, List.length_cons]; omega

/-- The length of an escape that is passed over; whether its units form a character is not asked. -/
def skippedEscape (cs : List Char) : Except Fault Nat :=
  match cs with
  | [] => .error .unfinished
  | 'u' :: cs => (hexUnit cs).map fun _ => 5
  | c :: _ => if c ∈ ['"', '\\', '/', 'b', 'f', 'n', 'r', 't'] then .ok 1 else .error .malformed

def skipStringTail (cs : List Char) : Except Fault (Unit × List Char) :=
  match cs with
  | [] => .error .unfinished
  | '"' :: rest => .ok ((), rest)
  | '\\' :: rest =>
    match skippedEscape rest with
    | .error e => .error e
    | .ok k => skipStringTail (rest.drop k)
  | c :: rest => if c.toNat < 0x20 then .error .malformed else skipStringTail rest
termination_by cs.length
decreasing_by all_goals simp only [List.length_drop, List.length_cons]; omega

/-- A number that is passed over; here one that ends too early counts as malformed. -/
def skipNumber (cs : List Char) : Except Fault (Unit × List Char) :=
  let ds := cs.takeWhile Char.isDigit
  let rest := cs.drop ds.length
  let power (cs : List Char) : Except Fault (Unit × List Char) :=
    let cs := match cs with
      | '+' :: cs | '-' :: cs => cs
      | cs => cs
    let ds := cs.takeWhile Char.isDigit
    if ds.isEmpty then .error .malformed else .ok ((), cs.drop ds.length)
  match ds with
  | [] => .error .malformed
  | '0' :: _ :: _ => .error .malformed
  | _ =>
    match rest with
    | '.' :: rest =>
      let ds := rest.takeWhile Char.isDigit
      if ds.isEmpty then .error .malformed
      else match rest.drop ds.length with
        | 'e' :: rest | 'E' :: rest => power rest
        | rest => .ok ((), rest)
    | 'e' :: rest | 'E' :: rest => power rest
    | rest => .ok ((), rest)

mutual

/-- Passes over a value of any kind. The first argument bounds the steps by the text's length. -/
def skipValue : Nat → Decoder Unit
  | 0, _ => .error .malformed
  | n + 1, cs =>
    match skipSpace cs with
    | [] => .error .unfinished
    | 'n' :: cs => word "ull".toList cs
    | 't' :: cs => word "rue".toList cs
    | 'f' :: cs => word "alse".toList cs
    | '-' :: cs => skipNumber cs
    | '"' :: cs => skipStringTail cs
    | '[' :: cs =>
      match skipSpace cs with
      | [] => .error .unfinished
      | ']' :: cs => .ok ((), cs)
      | cs => skipItems n cs
    | '\x7b' :: cs =>
      match skipSpace cs with
      | [] => .error .unfinished
      | '\x7d' :: cs => .ok ((), cs)
      | cs => skipMembers n cs
    | c :: cs => if c.isDigit then skipNumber (c :: cs) else .error .malformed

def skipItems : Nat → Decoder Unit
  | 0, _ => .error .malformed
  | n + 1, cs => do
    let (_, cs) ← skipValue n cs
    match skipSpace cs with
    | [] => .error .unfinished
    | ',' :: cs => skipItems n cs
    | ']' :: cs => .ok ((), cs)
    | _ => .error .malformed

def skipMembers : Nat → Decoder Unit
  | 0, _ => .error .malformed
  | n + 1, cs =>
    match skipSpace cs with
    | [] => .error .unfinished
    | '"' :: cs => do
      let (_, cs) ← skipStringTail cs
      match skipSpace cs with
      | [] => .error .unfinished
      | ':' :: cs =>
        let (_, cs) ← skipValue n cs
        match skipSpace cs with
        | [] => .error .unfinished
        | ',' :: cs => skipMembers n cs
        | '\x7d' :: cs => .ok ((), cs)
        | _ => .error .malformed
      | _ => .error .malformed
    | _ => .error .malformed

end

def skip : Decoder Unit := fun cs => skipValue (2 * cs.length + 2) cs

/-- How a message names the number that was found. -/
def Numeral.shown : Numeral → String
  | .natural n => "integer `" ++ toString n ++ "`"
  | .negative n => "integer `-" ++ toString n ++ "`"
  | .real x => "floating point `" ++ reals.text x ++ "`"

/-- Refuses the value at hand because another kind was expected. -/
def wrongKind {α : Type} (expected : String) : Decoder α := fun cs =>
  let found (what : String) : Except Fault (α × List Char) :=
    .error (.content ("invalid type: " ++ what ++ ", expected " ++ expected))
  match cs with
  | 'n' :: cs => do let _ ← word "ull".toList cs; found "null"
  | 't' :: cs => do let _ ← word "rue".toList cs; found "boolean `true`"
  | 'f' :: cs => do let _ ← word "alse".toList cs; found "boolean `false`"
  | '-' :: cs => do let (n, _) ← Numeral.unsigned true cs; found n.shown
  | '"' :: cs => do
    let (s, _) ← stringTail cs
    found ("string " ++ Shown.text (String.ofList s))
  | '[' :: _ => found "sequence"
  | '\x7b' :: _ => found "map"
  | c :: cs =>
    if c.isDigit then do let (n, _) ← Numeral.unsigned false (c :: cs); found n.shown
    else .error .malformed
  | [] => .error .unfinished

/-- A number, of which `accept` makes the value. -/
def number {α : Type} (expected : String) (accept : Numeral → Except Fault α) : Decoder α :=
  fun cs =>
    match skipSpace cs with
    | '-' :: cs => do
      let (n, cs) ← Numeral.unsigned true cs
      return (← accept n, cs)
    | c :: cs =>
      if c.isDigit then do
        let (n, cs) ← Numeral.unsigned false (c :: cs)
        return (← accept n, cs)
      else wrongKind expected (c :: cs)
    | [] => .error .unfinished

/-- A whole number below `bound`. -/
def natBelow (bound : Nat) (expected : String) : Decoder Nat :=
  number expected fun n =>
    match n with
    | .natural k =>
      if k < bound then .ok k
      else .error (.content ("invalid value: " ++ n.shown ++ ", expected " ++ expected))
    | .negative _ => .error (.content ("invalid value: " ++ n.shown ++ ", expected " ++ expected))
    | .real _ => .error (.content ("invalid type: " ++ n.shown ++ ", expected " ++ expected))

def word32 : Decoder Nat := natBelow UInt32.size "u32"

def word64 : Decoder Nat := natBelow UInt64.size "u64"

def binary64 : Decoder Binary64 := number "f64" fun n => .ok n.toBinary64

/-- A string, of which `accept` makes the value. -/
def stringAs {α : Type} (expected : String) (accept : String → Except Fault α) : Decoder α :=
  fun cs =>
    match skipSpace cs with
    | '"' :: cs => do
      let (s, cs) ← stringTail cs
      return (← accept (String.ofList s), cs)
    | [] => .error .unfinished
    | cs => wrongKind expected cs

def plainString : Decoder String := stringAs "a string" .ok

/-- Whether another item follows in a list, and the text at it. -/
def nextItem (first : Bool) : Decoder Bool := fun cs =>
  match skipSpace cs with
  | [] => .error .unfinished
  | ']' :: cs => .ok (false, ']' :: cs)
  | ',' :: cs =>
    if first then .ok (true, ',' :: cs)
    else match skipSpace cs with
      | [] => .error .unfinished
      | ']' :: _ => .error .malformed
      | cs => .ok (true, cs)
  | cs => if first then .ok (true, cs) else .error .malformed

def endOf (close : Char) : Decoder Unit := fun cs =>
  match skipSpace cs with
  | [] => .error .unfinished
  | c :: cs => if c = close then .ok ((), cs) else .error .malformed

def colon : Decoder Unit := endOf ':'

/-- The items of a list. The first argument bounds their number by the text's length. -/
def items {α : Type} (item : Decoder α) : Nat → Bool → Decoder (List α)
  | 0, _, _ => .error .malformed
  | n + 1, first, cs => do
    let (more, cs) ← nextItem first cs
    if more then
      let (v, cs) ← item cs
      let (vs, cs) ← items item n false cs
      return (v :: vs, cs)
    else return ([], cs)

def listOf {α : Type} (item : Decoder α) : Decoder (List α) := fun cs =>
  match skipSpace cs with
  | [] => .error .unfinished
  | '[' :: cs => do
    let (vs, cs) ← items item (cs.length + 1) true cs
    let (_, cs) ← endOf ']' cs
    return (vs, cs)
  | cs => wrongKind "a sequence" cs

/-- One of some named values: the name, or an object whose only key is the name and whose value is
null. -/
def variant {α : Type} (names : List String) (ofName? : String → Option α) : Decoder α := fun cs =>
  let accept (s : String) : Except Fault α :=
    match ofName? s with
    | some v => .ok v
    | none => .error (.content ("unknown variant `" ++ s ++ "`, expected one of " ++
        ", ".intercalate (names.map fun n => "`" ++ n ++ "`")))
  match skipSpace cs with
  | [] => .error .unfinished
  | '"' :: cs => do
    let (s, cs) ← stringTail cs
    return (← accept (String.ofList s), cs)
  | '\x7b' :: cs => do
    let (v, cs) ← stringAs "variant identifier" accept cs
    let (_, cs) ← colon cs
    match skipSpace cs with
    | [] => .error .unfinished
    | 'n' :: cs =>
      let (_, cs) ← word "ull".toList cs
      let (_, cs) ← endOf '\x7d' cs
      return (v, cs)
    | cs => wrongKind "unit" cs
  | _ => .error .malformed

/-- One field of a record under construction, which is a `σ`. -/
structure FieldShape (σ : Type) where
  name : String
  isFilled : σ → Bool
  fill : σ → Decoder σ
  isOptional : Bool := false

/-- A record: its name in messages, its fields in order, and how it is completed. -/
structure RecordShape (σ α : Type) where
  name : String
  fields : List (FieldShape σ)
  empty : σ
  complete : σ → Option α

namespace RecordShape
variable {σ α : Type}

/-- The value, or the first field that is missing. -/
def finish (r : RecordShape σ α) (s : σ) : Except Fault α :=
  match r.fields.find? fun f => !f.isOptional && !f.isFilled s with
  | some f => .error (.content ("missing field `" ++ f.name ++ "`"))
  | none => match r.complete s with
    | some v => .ok v
    | none => .error .malformed

/-- Whether another member follows in an object, and the text after the quote of its key. -/
def nextKey (first : Bool) : Decoder Bool := fun cs =>
  match skipSpace cs with
  | [] => .error .unfinished
  | '\x7d' :: cs => .ok (false, '\x7d' :: cs)
  | '"' :: cs => if first then .ok (true, cs) else .error .malformed
  | ',' :: cs =>
    if first then .error .malformed
    else match skipSpace cs with
      | [] => .error .unfinished
      | '"' :: cs => .ok (true, cs)
      | _ => .error .malformed
  | _ => .error .malformed

/-- The members of an object; unknown keys are passed over, known ones may come once. -/
def members (r : RecordShape σ α) : Nat → Bool → σ → Decoder σ
  | 0, _, _, _ => .error .malformed
  | n + 1, first, s, cs => do
    let (more, cs) ← nextKey first cs
    if more then
      let (key, cs) ← stringTail cs
      match r.fields.find? fun f => f.name = String.ofList key with
      | some f =>
        if f.isFilled s then .error (.content ("duplicate field `" ++ f.name ++ "`"))
        else
          let (_, cs) ← colon cs
          let (s, cs) ← f.fill s cs
          members r n false s cs
      | none =>
        let (_, cs) ← colon cs
        let (_, cs) ← skip cs
        members r n false s cs
    else return (s, cs)

/-- The fields from a list, in order; `done` of them were read already. -/
def positions (r : RecordShape σ α) : List (FieldShape σ) → Nat → σ → Decoder σ
  | [], _, s, cs => .ok (s, cs)
  | f :: fs, done, s, cs => do
    let (more, cs) ← nextItem (done = 0) cs
    if more then
      let (s, cs) ← f.fill s cs
      positions r fs (done + 1) s cs
    else if f.isOptional then positions r fs (done + 1) s cs
    else .error (.content ("invalid length " ++ toString done ++ ", expected struct " ++ r.name ++
      " with " ++ toString r.fields.length ++ " elements"))

/-- A record written as an object or as a list. -/
def decode (r : RecordShape σ α) : Decoder α := fun cs =>
  match skipSpace cs with
  | [] => .error .unfinished
  | '[' :: cs => do
    let (s, cs) ← r.positions r.fields 0 r.empty cs
    let v ← r.finish s
    let (_, cs) ← endOf ']' cs
    return (v, cs)
  | '\x7b' :: cs => do
    let (s, cs) ← r.members (cs.length + 1) true r.empty cs
    let v ← r.finish s
    let (_, cs) ← endOf '\x7d' cs
    return (v, cs)
  | cs => wrongKind ("struct " ++ r.name) cs

end RecordShape

/-- The value of a text that holds nothing else. -/
def decode {α : Type} (d : Decoder α) (text : String) : Except Fault α := do
  let (v, rest) ← d text.toList
  if (skipSpace rest).isEmpty then return v else throw .malformed

end SensorFleet.Json
