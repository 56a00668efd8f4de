import AskLedger.Calendar.Date
import AskLedger.Decimal.Reading
import AskLedger.Text.Find
import AskLedger.Text.Hex
import AskLedger.Toml.Value

/-!
# Numbers, truth values and dates in TOML

All values but texts, lists and tables are single words. The digits of a number may be grouped by
underscores, each of them between two digits. An integer is decimal, with a sign and without a zero
in front, or hexadecimal, octal or binary, without a sign. A floating point number has a point with
digits on both sides, an exponent or both; one too large to be held is refused unless its sign is
minus. A date and a time are divided by `T` or by a single space.

* `Toml.grouped?_digits`: what is left without the underscores are digits.
-/

namespace AskLedger.Toml

/-! ## Numbers -/

/-- Digits of a class without the underscores between them; none if one of these is not between two
digits or anything else is found. -/
def grouped? (isDigit : Char → Bool) : List Char → Option (List Char)
  | [] => none
  | [c] => if isDigit c then some [c] else none
  | c :: '_' :: rest => if isDigit c then (grouped? isDigit rest).map (c :: ·) else none
  | c :: d :: rest => if isDigit c then (grouped? isDigit (d :: rest)).map (c :: ·) else none

/-- A sign, plus if there is none, and what follows it. -/
def splitSign : List Char → Bool × List Char
  | '-' :: rest => (true, rest)
  | '+' :: rest => (false, rest)
  | s => (false, s)

/-- The value of decimal digits that do not start with a zero in front of others. -/
def whole? (s : List Char) : Option Nat :=
  match grouped? Char.isDigit s with
  | some ds =>
    if ds.head? = some '0' && ds.length != 1 then none else some (Layout.digitsValue ds)
  | none => none

/-- An integer that can be held. -/
def held? (n : Int) : Option Toml :=
  if leastInteger ≤ n ∧ n ≤ largestInteger then some (integer n) else none

/-- The value of digits in a base up to sixteen. -/
def inBase? (base : Nat) (s : List Char) : Option Nat :=
  (grouped? (fun c => (Text.hexValue? c).any (· < base)) s).map fun ds =>
    ds.foldl (fun n c => n * base + (Text.hexValue? c).getD 0) 0

/-- An integer. -/
def integer? : List Char → Option Toml
  | '0' :: 'x' :: ds => (inBase? 16 ds).bind fun n => held? n
  | '0' :: 'o' :: ds => (inBase? 8 ds).bind fun n => held? n
  | '0' :: 'b' :: ds => (inBase? 2 ds).bind fun n => held? n
  | s =>
    let (negative, ds) := splitSign s
    (whole? ds).bind fun n => held? (if negative then 0 - (n : Int) else n)

/-- Whether a character marks an exponent. -/
def isExponentMark (c : Char) : Bool := c == 'e' || c == 'E'

/-- Whether a word has the form of a floating point number. -/
def isFloat (s : List Char) : Bool :=
  let body := (splitSign s).2
  -- the exponent keeps its mark and the fraction its point, so that empty means absent
  let mantissa := body.takeWhile fun c => !isExponentMark c
  let exponent := body.dropWhile fun c => !isExponentMark c
  let fraction := mantissa.dropWhile (· != '.')
  (whole? (mantissa.takeWhile (· != '.'))).isSome
    && (fraction.isEmpty || (grouped? Char.isDigit (fraction.drop 1)).isSome)
    && (exponent.isEmpty || (grouped? Char.isDigit (splitSign (exponent.drop 1)).2).isSome)
    && !(fraction.isEmpty && exponent.isEmpty)

/-- A floating point number in digits. -/
def float? (s : List Char) : Option Toml :=
  if isFloat s then
    match Decimal.read? (Text.without '_' s) with
    -- digits that round to infinity are refused
    | some x => if x == 1.0 / 0.0 then none else some (float x)
    | none => none
  else none

/-- Truth values and the floating point numbers without digits. -/
def named? (s : List Char) : Option Toml :=
  match String.ofList s with
  | "true" => some (bool true)
  | "false" => some (bool false)
  | "inf" | "+inf" => some (float (1.0 / 0.0))
  | "-inf" => some (float (-1.0 / 0.0))
  | "nan" | "+nan" | "-nan" => some (float (0.0 / 0.0))
  | _ => none

/-! ## Dates and times -/

/-- The number of exactly so many digits in front, and what follows them. -/
def digits? (count : Nat) (s : List Char) : Option (Nat × List Char) :=
  let ds := s.take count
  if ds.length == count && ds.all Char.isDigit then some (Layout.digitsValue ds, s.drop count)
  else none

/-- What follows a date that exists. -/
def afterDate? (s : List Char) : Option (List Char) := do
  let (year, '-' :: s) ← digits? 4 s | none
  let (month, '-' :: s) ← digits? 2 s | none
  let (day, s) ← digits? 2 s
  (Date.ofCivil? year month day).map fun _ => s

/-- What follows an hour and a minute. -/
def afterHourMinute? (s : List Char) : Option (List Char) := do
  let (hour, ':' :: s) ← digits? 2 s | none
  let (minute, s) ← digits? 2 s
  if hour < 24 ∧ minute < 60 then some s else none

/-- What follows a fraction of a second, if there is one. -/
def afterFraction? : List Char → Option (List Char)
  | '.' :: c :: rest => if c.isDigit then some (rest.dropWhile Char.isDigit) else none
  | '.' :: [] => none
  | s => some s

/-- What follows a time of day to the second, which may be a leap second. -/
def afterTime? (s : List Char) : Option (List Char) := do
  let ':' :: s ← afterHourMinute? s | none
  let (second, s) ← digits? 2 s
  if second ≤ 60 then afterFraction? s else none

/-- Whether a text is the offset of a zone, or empty. -/
def isOffset : List Char → Bool
  | [] => true
  | ['Z'] => true
  | ['z'] => true
  | '+' :: s => afterHourMinute? s == some []
  | '-' :: s => afterHourMinute? s == some []
  | _ => false

/-- Whether a text is a date, a time, or a date with a time and possibly an offset. -/
def isDateTime (s : List Char) : Bool :=
  afterTime? s == some [] ||
    match afterDate? s with
    | some [] => true
    | some (mark :: rest) =>
      (mark == 'T' || mark == 't' || mark == ' ') && (afterTime? rest).any isOffset
    | none => false

/-! ## Words -/

/-- Whether a character may stand in such a word. -/
def isWordChar (c : Char) : Bool :=
  c.isAlphanum || c == '+' || c == '-' || c == '_' || c == '.' || c == ':'

/-- Divides a text behind the word it starts with. A word that is a date goes on behind a single
space if a digit follows. -/
def splitWord (s : List Char) : List Char × List Char :=
  let word := s.takeWhile isWordChar
  match s.dropWhile isWordChar with
  | ' ' :: c :: rest =>
    -- only behind a whole date may a space lead on to a time
    if c.isDigit && afterDate? word == some [] then
      (word ++ ' ' :: c :: rest.takeWhile isWordChar, rest.dropWhile isWordChar)
    else (word, ' ' :: c :: rest)
  | rest => (word, rest)

/-- The value that a word stands for. -/
def scalar? (word : List Char) : Option Toml :=
  (named? word).or <| (float? word).or <| (integer? word).or <|
    if isDateTime word then some dateTime else none

/-- A value that is a word, and what follows it. -/
def readScalar? (s : List Char) : Option (Toml × List Char) :=
  let (word, rest) := splitWord s
  (scalar? word).map fun v => (v, rest)

/-- What is left without the underscores are digits. -/
theorem grouped?_digits {isDigit : Char → Bool} {s ds : List Char}
    (h : grouped? isDigit s = some ds) : ∀ c ∈ ds, isDigit c = true := by
  fun_induction grouped? isDigit s generalizing ds with
  | case1 => simp at h
  | case2 c hc =>
    cases h
    simpa using hc
  | case3 => simp at h
  | case4 c rest hc ih =>
    obtain ⟨es, he, rfl⟩ := Option.map_eq_some_iff.1 h
    simpa [hc] using ih he
  | case5 => simp at h
  | case6 c d rest _ hc ih =>
    obtain ⟨es, he, rfl⟩ := Option.map_eq_some_iff.1 h
    simpa [hc] using ih he
  | case7 => simp at h

end AskLedger.Toml
