import WorkspaceIndex.Toml.Value
import WorkspaceIndex.Toml.Text
import WorkspaceIndex.Text.Numeral
/-!
# Numbers, truth values and dates

A value without quotes or brackets is one run of characters, and here it is decided which kind of
value that run writes. Integers have 64 bits with a sign. A larger one is an oversized number, and
so is a decimal number beyond the range of floating-point numbers.
-/

namespace WorkspaceIndex.Toml

open WorkspaceIndex.Text (digitsValue)

/-! ### Digits with separators -/

/-- The digits of a group, where an underscore may stand between two digits. -/
def grouped? (isDigit : Char → Bool) (s : List Char) : Option (List Char) :=
  let groups := s.splitOn '_'
  if groups.all fun group ↦ !group.isEmpty && group.all isDigit then some groups.flatten else none

/-- The digits of a whole number in decimal, which has no leading zero. -/
def whole? (s : List Char) : Option (List Char) := do
  let digits ← grouped? Char.isDigit s
  match digits with
  | '0' :: _ :: _ => none
  | _ => some digits

/-- A sign in front, as whether it is a minus, and what follows it. -/
def signed : List Char → Bool × List Char
  | '-' :: rest => (true, rest)
  | '+' :: rest => (false, rest)
  | s => (false, s)

/-! ### Integers -/

/-- The value of digits in a base up to sixteen. -/
def basedValue? (base : Nat) (s : List Char) : Option Int := do
  let digits ← grouped? (fun c ↦ (hexValue? c).any (· < base)) s
  let values ← digits.mapM hexValue?
  some (values.foldl (fun value digit ↦ base * value + digit) 0 : Nat)

/-- The integer that a run of characters writes, of any size. -/
def integer? : List Char → Option Int
  | '0' :: 'x' :: digits => basedValue? 16 digits
  | '0' :: 'o' :: digits => basedValue? 8 digits
  | '0' :: 'b' :: digits => basedValue? 2 digits
  | s => do
    let (negative, body) := signed s
    let digits ← whole? body
    let magnitude : Int := digitsValue digits
    some (if negative then -magnitude else magnitude)

/-- An integer as a value, which has 64 bits with a sign. -/
def Value.ofInt (value : Int) : Value :=
  if -9223372036854775808 ≤ value && value < 9223372036854775808 then .integer value
  else .oversized

/-! ### Floating-point numbers -/

/-- The part before the first character of a class, and the part after it if there is one. -/
def divide (p : Char → Bool) (s : List Char) : List Char × Option (List Char) :=
  match s.span (fun c ↦ !p c) with
  | (before, []) => (before, none)
  | (before, _ :: after) => (before, some after)

/-- The exponent written after the letter of a decimal number. -/
def exponent? : Option (List Char) → Option Int
  | none => some 0
  | some s => do
    let (negative, body) := signed s
    let digits ← grouped? Char.isDigit body
    let magnitude : Int := digitsValue digits
    some (if negative then -magnitude else magnitude)

/-- The digits written after the point of a decimal number. -/
def fraction? : Option (List Char) → Option (List Char)
  | none => some []
  | some s => grouped? Char.isDigit s

/-- The floating-point number that a run of characters writes. It has a point or an exponent, or is
one of the two words. Digits never write an infinite number. -/
def float? (s : List Char) : Option Value :=
  let (negative, body) := signed s
  if body = "inf".toList then some (.float (.infinite negative))
  else if body = "nan".toList then some (.float .notANumber)
  else do
    let (mantissa, exponentPart) := divide (fun c ↦ c = 'e' || c = 'E') body
    let (wholePart, fractionPart) := divide (· = '.') mantissa
    if exponentPart.isNone && fractionPart.isNone then none
    let whole ← whole? wholePart
    let fraction ← fraction? fractionPart
    let exponent ← exponent? exponentPart
    let digits := digitsValue (whole ++ fraction)
    match Binary64.ofDecimal negative digits (exponent - fraction.length) with
    | .infinite _ => some .oversized
    | value => some (.float value)

/-! ### Dates and times -/

/-- The value of exactly two digits up to a bound. -/
def twoDigits? (s : List Char) (bound : Nat) : Option Nat :=
  if s.length = 2 && s.all Char.isDigit && digitsValue s ≤ bound then some (digitsValue s) else none

/-- The number of days of a month. -/
def daysOf (year month : Nat) : Nat :=
  if month = 2 then
    if year % 4 = 0 && (year % 100 ≠ 0 || year % 400 = 0) then 29 else 28
  else if month = 4 || month = 6 || month = 9 || month = 11 then 30
  else 31

/-- The normal form of a date. -/
def date? (s : List Char) : Option (List Char) := do
  let [year, month, day] := s.splitOn '-' | none
  if year.length ≠ 4 || !year.all Char.isDigit then none
  let monthValue ← twoDigits? month 12
  let dayValue ← twoDigits? day (daysOf (digitsValue year) monthValue)
  if monthValue = 0 || dayValue = 0 then none
  some s

/-- The normal form of a fraction of a second: nine digits at most, without trailing zeros. -/
def secondFraction (digits : List Char) : List Char :=
  match ((digits.take 9).reverse.dropWhile (· = '0')).reverse with
  | [] => []
  | kept => '.' :: kept

/-- The normal form of a time of day. Seconds that are left out are zero, and seconds may be
sixty. -/
def time? (s : List Char) : Option (List Char) := do
  let (clock, fractionPart) := divide (· = '.') s
  match clock.splitOn ':' with
  | [hour, minute] =>
    let _ ← twoDigits? hour 23
    let _ ← twoDigits? minute 59
    if fractionPart.isSome then none else some (clock ++ ":00".toList)
  | [hour, minute, second] =>
    let _ ← twoDigits? hour 23
    let _ ← twoDigits? minute 59
    let _ ← twoDigits? second 60
    match fractionPart with
    | none => some clock
    | some digits =>
      if digits.isEmpty || !digits.all Char.isDigit then none
      else some (clock ++ secondFraction digits)
  | _ => none

/-- The normal form of an offset from universal time. -/
def offset? : List Char → Option (List Char)
  | ['Z'] | ['z'] => some ['Z']
  | sign :: clock => do
    if sign ≠ '+' && sign ≠ '-' then none
    let [hour, minute] := clock.splitOn ':' | none
    let hourValue ← twoDigits? hour 23
    let minuteValue ← twoDigits? minute 59
    some ((if hourValue = 0 && minuteValue = 0 then '+' else sign) :: clock)
  | [] => none

/-- The normal form of a time of day that may have an offset after it. -/
def offsetTime? (s : List Char) : Option (List Char) := do
  let (clock, offset) := s.span fun c ↦ c.isDigit || c = ':' || c = '.'
  let time ← time? clock
  if offset.isEmpty then some time
  else some (time ++ (← offset? offset))

/-- The normal form of a date, of a time of day, or of both. -/
def datetime? (s : List Char) : Option (List Char) :=
  match date? (s.take 10), s.drop 10 with
  | some date, [] => some date
  | some date, separator :: rest =>
    if separator = 'T' || separator = 't' || separator = ' ' then
      (offsetTime? rest).map fun time ↦ date ++ 'T' :: time
    else none
  | none, _ => time? s

/-! ### One run of characters -/

/-- The value that a run of characters writes. -/
def scalar? (s : List Char) : Option Value :=
  if s = "true".toList then some (.boolean true)
  else if s = "false".toList then some (.boolean false)
  else
    ((integer? s).map Value.ofInt).orElse fun _ ↦
    (float? s).orElse fun _ ↦
    (datetime? s).map fun text ↦ Value.datetime (String.ofList text)

/-- Whether a character may stand in such a run. -/
def isScalarChar (c : Char) : Bool :=
  c.isAlphanum || c = '+' || c = '-' || c = '_' || c = '.' || c = ':'

/-- The run at the front of a text, and the rest. A date and the time after it may have one space
between them. -/
def scalarRun (s : List Char) : List Char × List Char :=
  let (run, rest) := s.span isScalarChar
  match rest with
  | ' ' :: c :: after =>
    if (date? run).isSome && c.isDigit then
      let (time, rest) := (c :: after).span isScalarChar
      (run ++ ' ' :: time, rest)
    else (run, rest)
  | _ => (run, rest)

end WorkspaceIndex.Toml
