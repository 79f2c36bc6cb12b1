import MetricLayer.Number.Binary

/-!
# Shortest decimal text

The shortest decimal that reads back as a given number, and its written form: positional for
decimal exponents from -4 to 15, with an exponent of at least two digits outside that range.
-/
namespace MetricLayer.Binary

/-- A positive decimal `digits · 10 ^ exponent`. -/
structure Decimal where
  digits : Nat
  exponent : Int
  deriving DecidableEq, Repr

/-- The position of the first digit: `10 ^ (k - 1) ≤ |x| < 10 ^ k`, for a positive finite
magnitude. -/
def decimalScale (x : Binary) : Int :=
  let (n, d) := x.ratio
  (digitCount (n * Nat.pow 10 400 / d) : Int) - 400

/-- Division of naturals after scaling by `10 ^ (-e)`: quotient, remainder and divisor. -/
def overPower (n d : Nat) (e : Int) : Nat × Nat × Nat :=
  let (n, d) := match e with
    | .ofNat k => (n, d * Nat.pow 10 k)
    | .negSucc k => (n * Nat.pow 10 (k + 1), d)
  (n / d, n % d, d)

/-- Whether a decimal reads back as the magnitude of `x`. -/
def readsBack (x : Binary) (c : Decimal) : Bool :=
  (ofDecimal false c.digits c.exponent).magnitude == x.magnitude

/-- The nearest decimal on the grid of `10 ^ e` that reads back as the magnitude of `x`. -/
def onGrid? (x : Binary) (e : Int) : Option Decimal :=
  let (n, d) := x.ratio
  let (q, r, d) := overPower n d e
  let low : Decimal := ⟨q, e⟩
  let high : Decimal := ⟨q + 1, e⟩
  match readsBack x low, readsBack x high with
  | true, true =>
    some (if 2 * r < d || (2 * r == d && q % 2 == 0) then low else high)
  | true, false => some low
  | false, true => some high
  | false, false => none

/-- The first grid, from `count` digits on, with a decimal that reads back. -/
def firstGrid (x : Binary) (k : Int) : Nat → Nat → Decimal
  | _, 0 => ⟨x.ratio.1, 0⟩
  | count, fuel + 1 =>
    match onGrid? x (k - count) with
    | some c => c
    | none => firstGrid x k (count + 1) fuel

/-- The shortest decimal that reads back as a positive finite magnitude. -/
def shortest (x : Binary) : Decimal :=
  firstGrid x x.decimalScale 1 17

/-- The digits of a decimal without trailing zeros, and the place of the point before which
they stand: the value is `0.d₁d₂… · 10 ^ place`. -/
def Decimal.normal (c : Decimal) : List Char × Int :=
  let ds := Nat.toDigits 10 c.digits
  ((ds.reverse.dropWhile (· == '0')).reverse, ds.length + c.exponent)

/-- The text of an exponent: a sign and at least two digits. -/
def exponentText (e : Int) : String :=
  let ds := String.ofList (Nat.toDigits 10 e.natAbs)
  (if e < 0 then "-" else "+") ++ (if ds.length < 2 then "0" ++ ds else ds)

/-- The written form of a decimal given by its digits and the place of its point. -/
def writeDecimal (ds : List Char) (place : Int) : String :=
  if -4 < place && place ≤ 16 then
    if place ≤ 0 then
      "0." ++ String.ofList (List.replicate place.natAbs '0' ++ ds)
    else
      let whole := place.toNat
      let tail := ds.drop whole
      String.ofList (ds.take whole ++ List.replicate (whole - ds.length) '0') ++ "." ++
        (if tail.isEmpty then "0" else String.ofList tail)
  else
    let mantissa := match ds with
      | [] => "0"
      | [d] => String.ofList [d]
      | d :: rest => String.ofList (d :: '.' :: rest)
    mantissa ++ "e" ++ exponentText (place - 1)

/-- The written form of a number: the fewest digits that read back. -/
def text (x : Binary) : String :=
  if x.isNaN then "nan"
  else
    let sign := if x.isNegative then "-" else ""
    if !x.isFinite then sign ++ "inf"
    else if x.isZero then sign ++ "0.0"
    else
      let (ds, place) := x.shortest.normal
      sign ++ writeDecimal ds place

end MetricLayer.Binary
