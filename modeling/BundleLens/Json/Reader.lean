import BundleLens.Json.Value
import BundleLens.Number.Digits

namespace BundleLens.Json

open Number

def skipBlank (cs : List Char) : List Char :=
  cs.dropWhile fun c => c == ' ' || c == '\t' || c == '\n' || c == '\r'

def plainEscape? : Char → Option Char
  | '\x22' => some '\x22'
  | '\\' => some '\\'
  | '/' => some '/'
  | 'b' => some '\x08'
  | 'f' => some '\x0c'
  | 'n' => some '\n'
  | 'r' => some '\r'
  | 't' => some '\t'
  | _ => none

/-- A string after its opening quote: its text and the rest. The text so far is given in reverse,
with the first half of a surrogate pair that waits for the second; `whole` says that no other
surrogate was left alone. -/
def readString? (text : List Char) (half : Option Nat) (whole : Bool) :
    List Char → Option (Option String × List Char)
  | [] => none
  | '\\' :: 'u' :: a :: b :: c :: d :: r =>
    if [a, b, c, d].all (isDigitIn 16) then
      let unit := ofDigits 16 [a, b, c, d]
      if unit < 0xd800 ∨ 0xdfff < unit then
        readString? (Char.ofNat unit :: text) none (whole && half.isNone) r
      else if unit < 0xdc00 then readString? text (some unit) (whole && half.isNone) r
      else match half with
        | some high =>
          let c := Char.ofNat (0x10000 + (high - 0xd800) * 0x400 + (unit - 0xdc00))
          readString? (c :: text) none whole r
        | none => readString? text none false r
    else none
  | '\\' :: e :: r =>
    match plainEscape? e with
    | some c => readString? (c :: text) none (whole && half.isNone) r
    | none => none
  | c :: r =>
    if c == '\x22' then
      some (if whole && half.isNone then some (String.ofList text.reverse) else none, r)
    else if c.toNat < 0x20 || c == '\\' then none
    else readString? (c :: text) none (whole && half.isNone) r

def readDigits? (cs : List Char) : Option (List Char × List Char) :=
  let digits := cs.takeWhile Char.isDigit
  if digits.isEmpty then none else some (digits, cs.dropWhile Char.isDigit)

/-- The whole part of a number: a zero alone, or digits without a zero at the front. -/
def readWhole? : List Char → Option (List Char × List Char)
  | '0' :: r => some (['0'], r)
  | cs => readDigits? cs

def readFraction? : List Char → Option (List Char × List Char)
  | '.' :: r => (readDigits? r).map fun (digits, rest) => ('.' :: digits, rest)
  | cs => some ([], cs)

def readExponent? : List Char → Option (List Char × List Char)
  | e :: r =>
    if e == 'e' || e == 'E' then
      match r with
      | '+' :: r => (readDigits? r).map fun (digits, rest) => (e :: '+' :: digits, rest)
      | '-' :: r => (readDigits? r).map fun (digits, rest) => (e :: '-' :: digits, rest)
      | r => (readDigits? r).map fun (digits, rest) => (e :: digits, rest)
    else some ([], e :: r)
  | [] => some ([], [])

def readNumber? (cs : List Char) : Option (List Char × List Char) := do
  let (sign, cs) := match cs with
    | '-' :: r => (['-'], r)
    | r => ([], r)
  let (whole, cs) ← readWhole? cs
  let (part, cs) ← readFraction? cs
  let (exponent, cs) ← readExponent? cs
  return (sign ++ whole ++ part ++ exponent, cs)

mutual

/-- A value at the front of the text and the rest. The number bounds the nesting. -/
def readValue? : Nat → List Char → Option (Value × List Char)
  | 0, _ => none
  | depth + 1, cs =>
    match skipBlank cs with
    | 'n' :: 'u' :: 'l' :: 'l' :: r => some (.null, r)
    | 't' :: 'r' :: 'u' :: 'e' :: r => some (.bool true, r)
    | 'f' :: 'a' :: 'l' :: 's' :: 'e' :: r => some (.bool false, r)
    | '\x22' :: r => (readString? [] none true r).map fun (text, rest) => (.string text, rest)
    | '[' :: r =>
      match skipBlank r with
      | ']' :: rest => some (.array [], rest)
      | r => (readItems? depth [] r).map fun (items, rest) => (.array items, rest)
    | '\x7b' :: r =>
      match skipBlank r with
      | '\x7d' :: rest => some (.object [], rest)
      | r => (readFields? depth [] r).map fun (fields, rest) => (.object fields, rest)
    | cs => (readNumber? cs).map fun (literal, rest) => (.number (String.ofList literal), rest)

/-- The items of an array up to its end, after those given in reverse. -/
def readItems? : Nat → List Value → List Char → Option (List Value × List Char)
  | 0, _, _ => none
  | depth + 1, items, cs => do
    let (item, cs) ← readValue? depth cs
    match skipBlank cs with
    | ',' :: r => readItems? depth (item :: items) r
    | ']' :: r => return ((item :: items).reverse, r)
    | _ => none

def readFields? : Nat → List (Option String × Value) → List Char →
    Option (List (Option String × Value) × List Char)
  | 0, _, _ => none
  | depth + 1, fields, cs => do
    let (name, cs) ← match skipBlank cs with
      | '\x22' :: r => readString? [] none true r
      | _ => none
    let (value, cs) ← match skipBlank cs with
      | ':' :: r => readValue? depth r
      | _ => none
    match skipBlank cs with
    | ',' :: r => readFields? depth ((name, value) :: fields) r
    | '\x7d' :: r => return (((name, value) :: fields).reverse, r)
    | _ => none

end

def Value.ofString? (text : String) : Option Value := do
  let cs := text.toList
  let (value, rest) ← readValue? (cs.length + 1) cs
  if (skipBlank rest).isEmpty then some value else none

end BundleLens.Json
