import Scribe.Toml.Lexeme

/-!
# Scalars

The values that are written as bare words: booleans, numbers, dates and times.

* `Scalar` — what such a word means;
* `underscoresFit` — where underscores may stand in a number;
* `Integer.ofText?`, `Decimal.ofText?`, `Moment.isWellFormed` — the three notations;
* `Scalar.ofText?` — the meaning of a word.
-/

namespace Scribe
namespace Toml

open Text

/-- The meaning of a bare word. An integer may be written in a form that is accepted and yet stands for
no number, which matters only where it is used. Of a number with a fraction or an exponent only its
size matters here: whether it exceeds the range of double precision. Dates and times are checked and not
kept. -/
inductive Scalar where
  | boolean (b : Bool)
  | integer (n : Option Int)
  | float (exceedsRange : Bool)
  | moment
deriving DecidableEq, Repr

/-! ## Digits -/

/-- The value of a digit in a base. -/
def digit? (base : Nat) (c : Char) : Option Nat :=
  (Lexeme.hexDigit? c).filter (· < base)

/-- Whether a character is a digit in a base. -/
def isDigit (base : Nat) (c : Char) : Bool := (digit? base c).isSome

/-- The digits of a word. There is at least one, and underscores do not count. -/
def digits? (base : Nat) (t : Text) : Option (List Nat) :=
  match (t.filter (· != '_')).mapM (digit? base) with
  | some [] => none
  | ds => ds

/-- The number that digits stand for. -/
def ofDigits (base : Nat) (digits : List Nat) : Nat :=
  digits.foldl (fun n d => base * n + d) 0

/-- A sign in front of a word, if there is one, and the rest of the word. -/
def splitSign : Text → Option Bool × Text
  | '+' :: rest => (some false, rest)
  | '-' :: rest => (some true, rest)
  | t => (none, t)

/-- A number with the sign in front of its word. -/
def withSign (sign : Option Bool) (n : Int) : Int :=
  if sign = some true then -n else n

/-- Whether every underscore of a word stands between two digits. -/
def underscoresFit (base : Nat) (t : Text) : Bool :=
  let groups := split '_' t
  groups.tail.all (fun g => g.head?.any (isDigit base))
    && groups.dropLast.all (fun g => g.getLast?.any (isDigit base))

/-! ## Integers -/

namespace Integer

/-- The base that two characters in front of a number announce. -/
def base? : Text → Option (Nat × Text)
  | '0' :: 'x' :: rest => some (16, rest)
  | '0' :: 'o' :: rest => some (8, rest)
  | '0' :: 'b' :: rest => some (2, rest)
  | _ => none

/-- Whether a word with an announced base has the form of an integer. It may lack digits. -/
def hasBasedForm (base : Nat) (digits : Text) : Bool :=
  digits.all (fun c => c == '_' || isDigit base c) && underscoresFit 16 digits

/-- Whether a word without an announced base has the form of an integer: it consists of decimal digits,
or its leading decimal digits are followed by an underscore. In the second case only its underscores
are looked at, and digits beside them may be hexadecimal. -/
def hasDecimalForm (t : Text) : Bool :=
  let (_, unsigned) := splitSign t
  if unsigned = ['0'] then true
  else if unsigned.isEmpty || unsigned.head? == some '0' then false
  else
    match unsigned.dropWhile (isDigit 10) with
    | [] => true
    | '_' :: rest =>
      !rest.any (fun c => c == '.' || c == 'e' || c == 'E' || c == ' ') && underscoresFit 16 t
    | _ => false

/-- The integer that a word stands for, if the word has the form of one. -/
def ofText? (t : Text) : Option (Option Int) :=
  match base? t with
  | some (base, rest) =>
    if hasBasedForm base rest then some ((digits? base rest).map fun ds => (ofDigits base ds : Int))
    else none
  | none =>
    let (sign, unsigned) := splitSign t
    if hasDecimalForm t then some ((digits? 10 unsigned).map fun ds => withSign sign (ofDigits 10 ds))
    else none

end Integer

/-! ## Decimal fractions -/

/-- The number `mantissa · 10 ^ exponent`. -/
structure Decimal where
  mantissa : Nat
  exponent : Int
deriving DecidableEq, Repr

namespace Decimal

/-- The least number that rounds to no finite number of double precision. -/
def rangeEnd : Nat := Nat.pow 2 1024 - Nat.pow 2 970

/-- Whether a number rounds to infinity in double precision. The number of digits decides unless it is
close to that of the end of the range. -/
def exceedsRange (d : Decimal) : Bool :=
  let magnitude := ((Nat.toDigits 10 d.mantissa).length : Int) + d.exponent
  if d.mantissa = 0 || magnitude < 300 then false
  else if magnitude > 320 then true
  else if 0 ≤ d.exponent then decide (rangeEnd ≤ d.mantissa * Nat.pow 10 d.exponent.toNat)
  else decide (rangeEnd * Nat.pow 10 (-d.exponent).toNat ≤ d.mantissa)

/-- The exponent in a word, after its mark, and what stands before the mark. -/
def splitExponent (t : Text) : Text × Option Text :=
  let isMark := fun c : Char => c == 'e' || c == 'E'
  match t.dropWhile (!isMark ·) with
  | [] => (t, none)
  | _ :: exponent => (t.takeWhile (!isMark ·), some exponent)

/-- The digits before the point. A zero in front of them stands alone. -/
def wholeDigits? (t : Text) : Option (List Nat) := do
  let ds ← digits? 10 t
  if t.head? = some '0' ∧ ds.length ≠ 1 then none else some ds

/-- The decimal fraction that a word stands for. It has a fraction, an exponent or both, and digits on
either side of its point. -/
def ofText? (t : Text) : Option Decimal := do
  let (_, unsigned) := splitSign t
  let (number, exponent) := splitExponent unsigned
  let exponentValue ← match exponent with
    | none => some 0
    | some e =>
      let (sign, ds) := splitSign e
      (digits? 10 ds).map fun ds => withSign sign (ofDigits 10 ds)
  if underscoresFit 10 t then
    match split '.' number, exponent with
    | [whole], some _ =>
      (wholeDigits? whole).map fun ds => ⟨ofDigits 10 ds, exponentValue⟩
    | [whole, fraction], _ => do
      let ds ← wholeDigits? whole
      let fs ← digits? 10 fraction
      some ⟨ofDigits 10 (ds ++ fs), exponentValue - fs.length⟩
    | _, _ => none
  else none

end Decimal

/-! ## Dates and times -/

namespace Moment

/-- A number of exactly `count` decimal digits at the start of a text, and the rest. -/
def number? (count : Nat) (t : Text) : Option (Nat × Text) := do
  let ds ← (t.take count).mapM (digit? 10)
  if ds.length = count then some (ofDigits 10 ds, t.drop count) else none

/-- The rest of a text after a character. -/
def skip? (c : Char) : Text → Option Text
  | [] => none
  | d :: rest => if c = d then some rest else none

/-- The number of days of a month. -/
def daysOfMonth (year month : Nat) : Nat :=
  if month = 2 then
    if year % 4 = 0 ∧ (year % 100 ≠ 0 ∨ year % 400 = 0) then 29 else 28
  else if month = 4 ∨ month = 6 ∨ month = 9 ∨ month = 11 then 30
  else 31

/-- What follows a date of the calendar. -/
def date? (t : Text) : Option Text := do
  let (year, t) ← number? 4 t
  let (month, t) ← number? 2 (← skip? '-' t)
  let (day, t) ← number? 2 (← skip? '-' t)
  if 1 ≤ month ∧ month ≤ 12 ∧ 1 ≤ day ∧ day ≤ daysOfMonth year month then some t else none

/-- What follows a fraction of a second; a point needs at least one digit after it. -/
def fraction? : Text → Option Text
  | '.' :: rest =>
    if (rest.takeWhile (isDigit 10)).isEmpty then none else some (rest.dropWhile (isDigit 10))
  | t => some t

/-- What follows the seconds of a time. They may be left out; a minute may have a leap second. -/
def seconds? : Text → Option Text
  | ':' :: rest => do
    let (second, t) ← number? 2 rest
    if second ≤ 60 then fraction? t else none
  | t => some t

/-- What follows an hour and a minute. -/
def clock? (t : Text) : Option Text := do
  let (hour, t) ← number? 2 t
  let (minute, t) ← number? 2 (← skip? ':' t)
  if hour ≤ 23 ∧ minute ≤ 59 then some t else none

/-- What follows a time of day. -/
def time? (t : Text) : Option Text := do seconds? (← clock? t)

/-- Whether a text is empty or a distance from universal time. -/
def isOffset : Text → Bool
  | [] => true
  | ['Z'] => true
  | ['z'] => true
  | '+' :: rest => clock? rest == some []
  | '-' :: rest => clock? rest == some []
  | _ => false

/-- Whether a word is a time, a date, or a date and a time with or without an offset. -/
def isWellFormed (t : Text) : Bool :=
  match date? t with
  | some [] => true
  | some (separator :: rest) =>
    (separator == 'T' || separator == 't' || separator == ' ')
      && (match time? rest with | some offset => isOffset offset | none => false)
  | none => time? t == some []

end Moment

/-! ## Words -/

namespace Scalar

/-- The words for infinity and for no number, with or without a sign. -/
def isSpecialFloat (t : Text) : Bool :=
  let (_, word) := splitSign t
  word == "inf".toList || word == "nan".toList

/-- The meaning of a bare word. -/
def ofText? (t : Text) : Option Scalar :=
  if t = "true".toList then some (boolean true)
  else if t = "false".toList then some (boolean false)
  else if isSpecialFloat t then some (float false)
  else
    match Integer.ofText? t, Decimal.ofText? t with
    | some n, _ => some (integer n)
    | none, some d => some (float d.exceedsRange)
    | none, none => if Moment.isWellFormed t then some moment else none

end Scalar

end Toml
end Scribe
