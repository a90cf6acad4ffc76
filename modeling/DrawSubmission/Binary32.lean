set_option autoImplicit false

/-!
# Numbers with 32 bits and their decimals

A stored value stands for every number that rounds to it. Of the decimals among these, the ones on
the coarsest power-of-ten grid have the fewest digits, and on that grid only the two neighbours of
the value have to be looked at. The nearer one is taken, and of two equally near ones the larger.
-/
namespace DrawSubmission

structure Decimal where
  significand : Nat
  exponent : Int
deriving DecidableEq

structure RoundingInterval where
  low : Rat
  value : Rat
  high : Rat
  /-- Whether the bounds themselves round to the value. -/
  closed : Bool

namespace RoundingInterval

def holds (interval : RoundingInterval) (x : Rat) : Bool :=
  if interval.closed then interval.low ≤ x && x ≤ interval.high
  else interval.low < x && x < interval.high

/-- The multiple of `10 ^ exponent` nearest to the value, if it rounds to the value. -/
def onGrid? (interval : RoundingInterval) (exponent : Int) : Option Decimal :=
  let step : Rat := 10 ^ exponent
  let below := (interval.value / step).floor.toNat
  let down : Rat := below * step
  let up : Rat := (below + 1 : Nat) * step
  match interval.holds down, interval.holds up with
  | true, true =>
    if interval.value - down < up - interval.value then some ⟨below, exponent⟩
    else some ⟨below + 1, exponent⟩
  | true, false => some ⟨below, exponent⟩
  | false, true => some ⟨below + 1, exponent⟩
  | false, false => none

/-- The first grid, from the coarsest on, that holds a number rounding to the value. -/
def shortest? (interval : RoundingInterval) (grids : List Int) : Option Decimal :=
  grids.findSome? interval.onGrid?

end RoundingInterval

/-- Where positional writing ends; outside these bounds a number is written with an exponent. -/
structure DecimalStyle where
  /-- The least exponent of the leading digit that is written positionally. -/
  least : Int
  /-- The greatest exponent of the leading digit that is written positionally. -/
  greatest : Int
deriving DecidableEq

namespace Decimal

private def zeros (count : Nat) : String := String.ofList (List.replicate count '0')

def positional (digits : List Char) (whole : Int) : String :=
  if whole ≤ 0 then "0." ++ zeros (-whole).toNat ++ String.ofList digits
  else if digits.length ≤ whole.toNat then
    String.ofList digits ++ zeros (whole.toNat - digits.length) ++ ".0"
  else
    String.ofList (digits.take whole.toNat) ++ "." ++ String.ofList (digits.drop whole.toNat)

def scientific (digits : List Char) (leading : Int) : String :=
  let fraction := digits.drop 1
  String.ofList (digits.take 1)
    ++ (if fraction.isEmpty then "" else "." ++ String.ofList fraction)
    ++ "e" ++ toString leading

def write (style : DecimalStyle) (d : Decimal) : String :=
  let digits := Nat.toDigits 10 d.significand
  let leading := d.exponent + digits.length - 1
  if style.least ≤ leading ∧ leading ≤ style.greatest then positional digits (leading + 1)
  else scientific digits leading

end Decimal

namespace LittleEndian

/-- The low `count` bytes of `value`. -/
def encode : Nat → Nat → List UInt8
  | 0, _ => []
  | count + 1, value => .ofNat (value % 256) :: encode count (value / 256)

def decode : List UInt8 → Nat
  | [] => 0
  | byte :: rest => byte.toNat + 256 * decode rest

end LittleEndian

structure Binary32 where
  bits : UInt32
deriving DecidableEq, Inhabited

namespace Binary32

def zero : Binary32 := ⟨0⟩
def one : Binary32 := ⟨0x3f800000⟩

def isNegative (x : Binary32) : Bool := 0x80000000 ≤ x.bits

/-- The bits without the sign; for numbers they grow with the absolute value. -/
def magnitude (x : Binary32) : Nat := x.bits.toNat % 0x80000000

def hiddenBit : Nat := 0x800000

def exponentField (x : Binary32) : Nat := x.magnitude / hiddenBit

def fraction (x : Binary32) : Nat := x.magnitude % hiddenBit

def isNaN (x : Binary32) : Bool := 0x7f800000 < x.magnitude

def isInfinite (x : Binary32) : Bool := x.magnitude == 0x7f800000

def rank (x : Binary32) : Int := if x.isNegative then -x.magnitude else x.magnitude

/-- Strictly less; nothing is less or greater than what is not a number. -/
def lt (x y : Binary32) : Bool := !x.isNaN && !y.isNaN && x.rank < y.rank

def roundHalfEven (numerator denominator : Nat) : Nat :=
  let quotient := numerator / denominator
  let twice := 2 * (numerator % denominator)
  if twice < denominator then quotient
  else if denominator < twice then quotient + 1
  else quotient + quotient % 2

/-- A proper fraction rounded to nearest, for quotients from `2 ^ -126` up to one. -/
def ofFraction (numerator denominator : Nat) : Binary32 :=
  if numerator = 0 then zero
  else
    let guess := 23 + denominator.log2 - numerator.log2
    let shift := if numerator <<< guess < denominator * hiddenBit then guess + 1 else guess
    let significand := roundHalfEven (numerator <<< shift) denominator
    ⟨.ofNat ((149 - shift) * hiddenBit + significand)⟩

def scaled (x : Binary32) : Nat × Int :=
  if x.exponentField = 0 then (x.fraction, -149)
  else (x.fraction + hiddenBit, x.exponentField - 150)

/-- The numbers that round to the absolute value. Below a power of two they lie half as far. -/
def interval (x : Binary32) : RoundingInterval :=
  let significand := x.scaled.1
  let ulp : Rat := 2 ^ x.scaled.2
  let value : Rat := significand * ulp
  let below := if x.fraction = 0 ∧ 1 < x.exponentField then ulp / 4 else ulp / 2
  ⟨value - below, value, value + ulp / 2, significand % 2 == 0⟩

/-- Every power of ten that can be the last place of a shortest decimal, the largest first. -/
def grids : List Int := (List.range 85).map fun (place : Nat) => 38 - (place : Int)

/-- Positional from a ten-thousandth up to, and not including, ten to the sixteenth. -/
def style : DecimalStyle := ⟨-4, 15⟩

def text (x : Binary32) : String :=
  if x.isNaN then "NaN"
  else
    let sign := if x.isNegative then "-" else ""
    if x.isInfinite then sign ++ "inf"
    else if x.magnitude = 0 then sign ++ "0.0"
    else sign ++ ((x.interval.shortest? grids).map (Decimal.write style)).getD ""

def toBytes (x : Binary32) : List UInt8 := LittleEndian.encode 4 x.bits.toNat

def ofBytes (bytes : List UInt8) : Binary32 := ⟨.ofNat (LittleEndian.decode bytes)⟩

end Binary32

end DrawSubmission
