/-!
# Binary floating-point numbers and their shortest decimal form

A finite number is `mantissa * 2 ^ exponent` with a mantissa below `2 ^ 53` and an exponent of at
least `-1074`. `ofDecimal` rounds a decimal number to the nearest of them, a tie to the even
mantissa, and `text` writes the fewest digits that round back to the number, the nearest such
number where several have that length, always positionally and with a decimal point. All of it is
exact arithmetic on natural numbers; far exponents are decided before any power is formed.
-/

namespace WorkspaceIndex

/-- A floating-point number of 64 bits, or none. -/
inductive Binary64 where
  | finite (negative : Bool) (mantissa : Nat) (exponent : Int)
  | infinite (negative : Bool)
  | notANumber
  deriving DecidableEq, Repr, Inhabited

namespace Binary64

/-- The quotient of two numbers rounded to the nearest natural number, a tie to the even one. -/
def roundDiv (num den : Nat) : Nat :=
  let quotient := num / den
  let twice := 2 * (num % den)
  if den < twice || (twice == den && quotient % 2 == 1) then quotient + 1 else quotient

/-- A power of two. -/
def twoTo (n : Nat) : Nat := Nat.pow 2 n

/-- A power of ten. -/
def tenTo (n : Nat) : Nat := Nat.pow 10 n

/-- `value * base ^ exponent` as a fraction. -/
def scale (base value : Nat) (exponent : Int) : Nat × Nat :=
  (value * base.pow exponent.toNat, base.pow (-exponent).toNat)

/-- The number nearest to the fraction `num / den`, which is not zero. -/
def ofRatio (negative : Bool) (num den : Nat) : Binary64 :=
  let top : Int := (num.log2 : Int) - (den.log2 : Int)
  let start := max (top - 53) (-1074)
  let scaled (q : Int) : Nat × Nat := (num * twoTo (-q).toNat, den * twoTo q.toNat)
  let q := if twoTo 53 ≤ (scaled start).1 / (scaled start).2 then start + 1 else start
  let rounded := roundDiv (scaled q).1 (scaled q).2
  let (mantissa, exponent) := if rounded = twoTo 53 then (twoTo 52, q + 1) else (rounded, q)
  if 971 < exponent then .infinite negative else .finite negative mantissa exponent

/-- The number nearest to `digits * 10 ^ exponent`. -/
def ofDecimal (negative : Bool) (digits : Nat) (exponent : Int) : Binary64 :=
  let size : Int := (Nat.toDigits 10 digits).length + exponent
  if digits = 0 || size < -330 then .finite negative 0 (-1074)
  else if 310 < size then .infinite negative
  else
    let (num, den) := scale 10 digits exponent
    ofRatio negative num den

/-! ### The shortest decimal form -/

/-- Whether `c * 10 ^ k ≤ x * 2 ^ s`. -/
def decimalLe (c : Nat) (k : Int) (x : Nat) (s : Int) : Bool :=
  c * tenTo k.toNat * twoTo (-s).toNat ≤ x * twoTo s.toNat * tenTo (-k).toNat

/-- Whether `x * 2 ^ s ≤ c * 10 ^ k`. -/
def binaryLe (x : Nat) (s : Int) (c : Nat) (k : Int) : Bool :=
  x * twoTo s.toNat * tenTo (-k).toNat ≤ c * tenTo k.toNat * twoTo (-s).toNat

/-- The numbers that round to `mantissa * 2 ^ exponent`, in quarters of its last place: from
`low` to `high`, the ends among them when the mantissa is even. -/
structure Neighbourhood where
  low : Nat
  centre : Nat
  high : Nat
  exponent : Int
  closed : Bool

/-- The neighbourhood of a number. Below a power of two the next number is half as far. -/
def neighbourhood (mantissa : Nat) (exponent : Int) : Neighbourhood where
  low := if mantissa = twoTo 52 && -1074 < exponent then 4 * mantissa - 1 else 4 * mantissa - 2
  centre := 4 * mantissa
  high := 4 * mantissa + 2
  exponent := exponent - 2
  closed := mantissa % 2 = 0

/-- Whether the decimal number `c * 10 ^ k` rounds to the centre. -/
def Neighbourhood.contains (n : Neighbourhood) (c : Nat) (k : Int) : Bool :=
  if n.closed then binaryLe n.low n.exponent c k && decimalLe c k n.high n.exponent
  else !decimalLe c k n.low n.exponent && !binaryLe n.high n.exponent c k

/-- The largest multiple of `10 ^ k` up to the centre, as a number of such steps. -/
def Neighbourhood.steps (n : Neighbourhood) (k : Int) : Nat :=
  n.centre * twoTo n.exponent.toNat * tenTo (-k).toNat / (tenTo k.toNat * twoTo (-n.exponent).toNat)

/-- The decimal exponent just above the centre: `10 ^ (e - 1) ≤ centre < 10 ^ e`. -/
def Neighbourhood.magnitude (n : Neighbourhood) : Int :=
  (Nat.toDigits 10 (n.steps (-400))).length - 400

/-- The decimal number on the grid of `10 ^ k` that rounds to the centre, if one of the two next
to the centre does; the nearer one if both do. -/
def Neighbourhood.onGrid? (n : Neighbourhood) (k : Int) : Option Nat :=
  let c := n.steps k
  match n.contains c k, n.contains (c + 1) k with
  | true, true => some (if decimalLe (2 * c + 1) k (2 * n.centre) n.exponent then c + 1 else c)
  | true, false => some c
  | false, true => some (c + 1)
  | false, false => none

/-- Digits and decimal exponent of the shortest decimal number that rounds to the centre. On the
coarsest grid this can be the next power of ten, which has a zero too many. -/
def Neighbourhood.shortest (n : Neighbourhood) : Nat × Int :=
  let grids := (List.range 17).map fun (i : Nat) ↦ n.magnitude - (i + 1 : Int)
  let (c, k) := (grids.findSome? fun k ↦ (n.onGrid? k).map fun c ↦ (c, k)).getD (0, 0)
  if c = 10 then (1, k + 1) else (c, k)

/-- `digits * 10 ^ exponent` written positionally, with at least one digit on either side of the
point. -/
def positional (digits : Nat) (exponent : Int) : String :=
  let written := Nat.toDigits 10 digits
  if 0 ≤ exponent then
    String.ofList (written ++ List.replicate exponent.toNat '0' ++ ['.', '0'])
  else
    let places := (-exponent).toNat
    let padded := List.replicate (places + 1 - written.length) '0' ++ written
    let whole := padded.take (padded.length - places)
    String.ofList (whole ++ '.' :: padded.drop (padded.length - places))

/-- The written form of a number. The sign of a zero is kept. -/
def text : Binary64 → String
  | .finite negative mantissa exponent =>
    let magnitude :=
      if mantissa = 0 then "0.0"
      else
        let (digits, k) := (neighbourhood mantissa exponent).shortest
        positional digits k
    if negative then "-" ++ magnitude else magnitude
  | .infinite negative => if negative then "-inf" else "inf"
  | .notANumber => "NaN"

end Binary64

end WorkspaceIndex
