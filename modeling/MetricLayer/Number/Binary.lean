/-!
# Binary floating-point numbers

A number in the 64-bit binary format is kept as its bit pattern, so that equality is decidable
and every operation is exact arithmetic on natural numbers. A finite pattern stands for
`± m · 2 ^ e`; a ratio is rounded to the nearest pattern, ties going to the even one.
-/
namespace MetricLayer

/-- A 64-bit binary floating-point number, by its bit pattern. -/
structure Binary where
  bits : UInt64
  deriving DecidableEq, Repr, Inhabited

namespace Binary

/-- The largest pattern of a non-negative number, that of infinity. -/
def infinityBits : Nat := 0x7ff0000000000000

def nan : Binary := ⟨0x7ff8000000000000⟩

/-- Infinity, negative if asked. -/
def infinity (negative : Bool) : Binary :=
  if negative then ⟨0xfff0000000000000⟩ else ⟨0x7ff0000000000000⟩

/-- The number with the given sign and magnitude pattern. -/
def ofMagnitude (negative : Bool) (pattern : Nat) : Binary :=
  ⟨UInt64.ofNat (if negative then 0x8000000000000000 + pattern else pattern)⟩

def isNegative (x : Binary) : Bool := 0x8000000000000000 ≤ x.bits.toNat

/-- The pattern without its sign. -/
def magnitude (x : Binary) : Nat := x.bits.toNat % 0x8000000000000000

def isNaN (x : Binary) : Bool := infinityBits < x.magnitude

def isFinite (x : Binary) : Bool := x.magnitude < infinityBits

def isZero (x : Binary) : Bool := x.magnitude == 0

/-- The exponent `e` of a finite number `± m · 2 ^ e`. -/
def exponent (x : Binary) : Int :=
  let field := x.magnitude / 0x10000000000000
  (if field == 0 then 1 else field : Nat) - 1075

/-- The significand `m` of a finite number `± m · 2 ^ e`. -/
def significand (x : Binary) : Nat :=
  let fraction := x.magnitude % 0x10000000000000
  if x.magnitude / 0x10000000000000 == 0 then fraction else fraction + 0x10000000000000

/-- Numerator and denominator of a finite magnitude. -/
def ratio (x : Binary) : Nat × Nat :=
  match x.exponent with
  | .ofNat e => (x.significand * Nat.pow 2 e, 1)
  | .negSucc e => (x.significand, Nat.pow 2 (e + 1))

/-- A quotient rounded to the nearest integer, ties to the even one. -/
def roundHalfEven (num den : Nat) : Nat :=
  let q := num / den
  let twice := 2 * (num % den)
  if twice > den || (twice == den && q % 2 == 1) then q + 1 else q

/-- A quotient of naturals scaled by `2 ^ (-e)`, as numerator and denominator. -/
def scaled (num den : Nat) (e : Int) : Nat × Nat :=
  match e with
  | .ofNat k => (num, den * Nat.pow 2 k)
  | .negSucc k => (num * Nat.pow 2 (k + 1), den)

/-- The number nearest to `num / den`, for a positive denominator. -/
def ofRatio (negative : Bool) (num den : Nat) : Binary :=
  if num == 0 then ofMagnitude negative 0
  else
    let guess : Int := (num.log2 : Int) - den.log2 - 53
    let (n, d) := scaled num den guess
    let e := max (if n / d ≥ Nat.pow 2 53 then guess + 1 else guess) (-1074)
    let (n, d) := scaled num den e
    let pattern := (e + 1074).toNat * Nat.pow 2 52 + roundHalfEven n d
    if pattern ≥ infinityBits then infinity negative else ofMagnitude negative pattern

/-- The number of decimal digits of a natural number, zero for zero. -/
def digitCount (n : Nat) : Nat :=
  if n == 0 then 0 else (Nat.toDigits 10 n).length

/-- The number nearest to `m · 10 ^ e`. -/
def ofDecimal (negative : Bool) (m : Nat) (e : Int) : Binary :=
  if m == 0 then ofMagnitude negative 0
  else if digitCount m + e > 310 then infinity negative
  else if digitCount m + e < -330 then ofMagnitude negative 0
  else
    match e with
    | .ofNat k => ofRatio negative (m * Nat.pow 10 k) 1
    | .negSucc k => ofRatio negative m (Nat.pow 10 (k + 1))

/-- The number nearest to an integer. -/
def ofInt (i : Int) : Binary :=
  ofRatio (i < 0) i.natAbs 1

/-- The integer a number is equal to, if there is one. -/
def toInt? (x : Binary) : Option Int :=
  if x.isFinite then
    let (n, d) := x.ratio
    if n % d == 0 then some (if x.isNegative then -(n / d : Nat) else (n / d : Nat)) else none
  else none

/-- The least integer that is not below a finite number; zero for the others. -/
def ceil (x : Binary) : Int :=
  if x.isFinite then
    let (n, d) := x.ratio
    if x.isNegative then -(n / d : Nat) else ((n + d - 1) / d : Nat)
  else 0

/-- Equality of numbers: zeros are equal, and a NaN equals nothing. -/
def equals (x y : Binary) : Bool :=
  !x.isNaN && !y.isNaN && (x == y || (x.isZero && y.isZero))

end Binary
end MetricLayer
