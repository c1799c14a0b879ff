import BundleLens.Number.Binary64

/-! Doubles as decimal text: the fewest digits that read back, without an exponent. -/
namespace BundleLens.Number.Binary64

/-- The numbers that round to a given double, as fractions over one denominator. The ends belong to
it when `closed`. -/
structure Interval where
  low : Nat
  value : Nat
  high : Nat
  den : Nat
  closed : Bool

/-- The interval of a finite double with a positive significand. Below a power of two the next
double is only half as far away. -/
def Interval.of (mantissa : Nat) (exponent : Int) : Interval :=
  let below := if mantissa = Nat.pow 2 52 ∧ -1074 < exponent then 1 else 2
  let shift := exponent - 2
  let up := Nat.pow 2 shift.toNat
  ⟨(4 * mantissa - below) * up, 4 * mantissa * up, (4 * mantissa + 2) * up,
    Nat.pow 2 (-shift).toNat, mantissa % 2 = 0⟩

def Interval.holds (i : Interval) (digits : Nat) (place : Int) : Bool :=
  let num := digits * Nat.pow 10 place.toNat * i.den
  let scale := Nat.pow 10 (-place).toNat
  if i.closed then i.low * scale ≤ num && num ≤ i.high * scale
  else i.low * scale < num && num < i.high * scale

/-- The multiple of `10 ^ place` that rounds to the double and is nearest to it, if there is one.
Only the two neighbours of the value can be; of two that are equally near, the larger counts. -/
def Interval.hit? (i : Interval) (place : Int) : Option Nat :=
  let num := i.value * Nat.pow 10 (-place).toNat
  let den := i.den * Nat.pow 10 place.toNat
  let under := num / den
  match under != 0 && i.holds under place, i.holds (under + 1) place with
  | true, true => some (if 2 * (num % den) < den then under else under + 1)
  | true, false => some under
  | false, true => some (under + 1)
  | false, false => none

def Interval.search (i : Interval) : Nat → Int → Nat × Int
  | 0, place => (i.value / i.den, place)
  | steps + 1, place =>
    match i.hit? place with
    | some digits => (digits, place)
    | none => i.search steps (place - 1)

/-- The shortest decimal `digits * 10 ^ place` that rounds to the double `mantissa * 2 ^ exponent`,
and of those the nearest. -/
def shortest (mantissa : Nat) (exponent : Int) : Nat × Int :=
  let bits := (mantissa.log2 : Int) + 1 + exponent
  (Interval.of mantissa exponent).search 24 (bits * 30103 / 100000 + 1)

def positional (digits : Nat) (place : Int) : String :=
  let text := (toString digits).toList
  if 0 ≤ place then String.ofList (text ++ List.replicate place.toNat '0')
  else
    let places := (-place).toNat
    let padded := List.replicate (places + 1 - text.length) '0' ++ text
    let whole := padded.length - places
    String.ofList (padded.take whole ++ '.' :: padded.drop whole)

/-- A double as text: the fewest digits that read back, in positional notation. -/
def text : Binary64 → String
  | .nan => "NaN"
  | .infinite negative => if negative then "-inf" else "inf"
  | .finite negative mantissa exponent _ =>
    let sign := if negative then "-" else ""
    if mantissa = 0 then sign ++ "0"
    else
      let (digits, place) := shortest mantissa exponent
      sign ++ positional digits place

end BundleLens.Number.Binary64
