import BundleLens.Number.Digits

/-! Double-precision numbers as exact values, and rounding to them. -/
namespace BundleLens.Number

/-- The significands and exponents that double precision can hold, one pair for each value. -/
abbrev Binary64.Fits (mantissa : Nat) (exponent : Int) : Prop :=
  mantissa < Nat.pow 2 53 ∧ -1074 ≤ exponent ∧ exponent ≤ 971 ∧
    (Nat.pow 2 52 ≤ mantissa ∨ exponent = -1074)

/-- A double-precision number. A finite one is `mantissa * 2 ^ exponent` with its sign. -/
inductive Binary64 where
  | nan
  | infinite (negative : Bool)
  | finite (negative : Bool) (mantissa : Nat) (exponent : Int)
      (fits : Binary64.Fits mantissa exponent)
  deriving DecidableEq

namespace Binary64

def zero : Binary64 := .finite false 0 (-1074) (by decide)

/-- A quotient rounded to the nearest integer; a half goes to the even neighbour. -/
def roundQuotient (num den : Nat) : Nat :=
  let q := num / den
  let r := num % den
  if 2 * r < den then q else if den < 2 * r then q + 1 else q + q % 2

def scale (num den : Nat) (exponent : Int) : Nat × Nat :=
  if 0 ≤ exponent then (num, den * Nat.pow 2 exponent.toNat)
  else (num * Nat.pow 2 (-exponent).toNat, den)

/-- The exponent at which a positive fraction has a significand of 53 bits, or the least one. -/
def exponentOf (num den : Nat) : Int :=
  let guess := max (-1074) ((num.log2 : Int) - den.log2 - 53)
  let (n, d) := scale num den guess
  if n / d < Nat.pow 2 53 then guess else guess + 1

/-- The double nearest to a fraction; a tie goes to the even significand and a fraction that is too
large becomes infinite. -/
def ofFraction (negative : Bool) (num den : Nat) : Binary64 :=
  let exponent := if num = 0 then -1074 else exponentOf num den
  let (n, d) := scale num den exponent
  let rounded := roundQuotient n d
  let (mantissa, exponent) :=
    if rounded = Nat.pow 2 53 then (Nat.pow 2 52, exponent + 1) else (rounded, exponent)
  if fits : Fits mantissa exponent then .finite negative mantissa exponent fits
  else .infinite negative

/-- The double nearest to `digits * 10 ^ exponent`. Exponents far outside the range of doubles are
settled without computing the power. -/
def ofScientific (negative : Bool) (digits : Nat) (exponent : Int) : Binary64 :=
  if digits = 0 ∨ digits.log2 + 1101 < -3 * exponent then
    .finite negative 0 (-1074) (by decide)
  else if 310 < exponent then .infinite negative
  else if 0 ≤ exponent then ofFraction negative (digits * Nat.pow 10 exponent.toNat) 1
  else ofFraction negative digits (Nat.pow 10 (-exponent).toNat)

def ofNat (n : Nat) : Binary64 := ofFraction false n 1

/-- The value as a natural number, if it is one. Negative zero counts as zero. -/
def toNat? : Binary64 → Option Nat
  | .finite negative mantissa exponent _ =>
    if negative && mantissa != 0 then none
    else if 0 ≤ exponent then some (mantissa * Nat.pow 2 exponent.toNat)
    else
      let den := Nat.pow 2 (-exponent).toNat
      if mantissa % den = 0 then some (mantissa / den) else none
  | _ => none

def readExponent? : List Char → Option Int
  | '+' :: r => (readDecimal? r).map Int.ofNat
  | '-' :: r => (readDecimal? r).map fun n => -(n : Int)
  | r => (readDecimal? r).map Int.ofNat

/-- A decimal numeral without sign: digits with at most one point, at least one digit, and an
optional exponent. -/
def readMagnitude? (negative : Bool) (text : List Char) : Option Binary64 :=
  let whole := text.takeWhile Char.isDigit
  let rest := text.drop whole.length
  let (part, rest) := match rest with
    | '.' :: r => (r.takeWhile Char.isDigit, r.dropWhile Char.isDigit)
    | r => ([], r)
  if whole.isEmpty && part.isEmpty then none
  else
    let digits := ofDigits 10 (whole ++ part)
    match rest with
    | [] => some (ofScientific negative digits (-(part.length : Int)))
    | e :: r =>
      if e = 'e' ∨ e = 'E' then
        (readExponent? r).map fun x => ofScientific negative digits (x - part.length)
      else none

/-- The double nearest to a decimal numeral. The words for infinity and for a number that is none
are known too, in any case. -/
def ofText? (text : String) : Option Binary64 :=
  let (negative, body) := match text.toList with
    | '-' :: r => (true, r)
    | '+' :: r => (false, r)
    | r => (false, r)
  let word := String.ofList (body.map Char.toLower)
  if word = "nan" then some .nan
  else if word = "inf" ∨ word = "infinity" then some (.infinite negative)
  else readMagnitude? negative body

end Binary64

end BundleLens.Number
