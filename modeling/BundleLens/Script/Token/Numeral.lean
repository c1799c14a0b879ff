import BundleLens.Script.Token.Word
import BundleLens.Number.Binary64

namespace BundleLens.Script.Numeral

open Number

/-- The value of a numeric literal. The value of a big integer is never asked for. -/
inductive Value where
  | double (value : Binary64)
  | big

/-- Digits of a base with single underscores between them: the digits, the characters taken and the
rest. A misplaced underscore is an error. -/
def run? (base : Nat) (cs : List Char) : Option (List Char × Nat × List Char) :=
  let raw := cs.takeWhile fun c => c == '_' || isDigitIn base c
  let doubled := (raw.zip (raw.drop 1)).any fun pair => pair.1 == '_' && pair.2 == '_'
  if raw.head? = some '_' ∨ raw.getLast? = some '_' ∨ doubled then none
  else some (raw.filter (· != '_'), raw.length, cs.drop raw.length)

def decimalTail? (whole : List Char) (taken : Nat) (fraction : Bool) (cs : List Char) :
    Option (Lexeme Value) := do
  let (part, partTaken, cs) ← match fraction, cs with
    | true, '.' :: r => do
      let (digits, n, rest) ← run? 10 r
      pure (digits, n + 1, rest)
    | _, cs => pure ([], 0, cs)
  let taken := taken + partTaken
  let digits := ofDigits 10 (whole ++ part)
  let exponent (sign : Int) (lead : Nat) (r : List Char) : Option (Lexeme Value) := do
    let (power, n, rest) ← run? 10 r
    if power.isEmpty then none
    else
      let value := Binary64.ofScientific false digits (sign * ofDigits 10 power - part.length)
      pure ⟨.double value, taken + lead + n, rest⟩
  match cs with
  | e :: r =>
    if e == 'e' || e == 'E' then
      match r with
      | '+' :: r => exponent 1 2 r
      | '-' :: r => exponent (-1) 2 r
      | r => exponent 1 1 r
    else pure ⟨.double (.ofScientific false digits (-(part.length : Int))), taken, cs⟩
  | [] => pure ⟨.double (.ofScientific false digits (-(part.length : Int))), taken, []⟩

def based? (base : Nat) (cs : List Char) : Option (Lexeme Value) := do
  let (digits, n, rest) ← run? base cs
  if digits.isEmpty then none
  else match rest with
    | 'n' :: rest => pure ⟨.big, n + 3, rest⟩
    | rest => pure ⟨.double (.ofNat (ofDigits base digits)), n + 2, rest⟩

/-- A numeric literal in any spelling, without regard to what follows. A leading zero makes the
literal octal if all its digits are. -/
def scan? : List Char → Option (Lexeme Value)
  | '0' :: 'x' :: r | '0' :: 'X' :: r => based? 16 r
  | '0' :: 'o' :: r | '0' :: 'O' :: r => based? 8 r
  | '0' :: 'b' :: r | '0' :: 'B' :: r => based? 2 r
  | cs =>
    let plain := cs.takeWhile Char.isDigit
    match plain with
    | '0' :: _ :: _ =>
      let rest := cs.drop plain.length
      if plain.all (isDigitIn 8) then
        some ⟨.double (.ofNat (ofDigits 8 plain)), plain.length, rest⟩
      else decimalTail? plain plain.length true rest
    | ['0'] => match cs.drop 1 with
      | 'n' :: rest => some ⟨.big, 2, rest⟩
      | rest => decimalTail? plain 1 true rest
    | _ => do
      let (whole, n, rest) ← run? 10 cs
      match rest with
      | 'n' :: after => if n = 0 then none else pure ⟨.big, n + 1, after⟩
      | rest => decimalTail? whole n true rest

/-- A numeric literal; neither a digit nor a name may follow it at once. -/
def read? (cs : List Char) : Option (Lexeme Value) := do
  let numeral ← scan? cs
  match numeral.rest with
  | c :: _ => if c.isDigit || c == '\\' || isWordStart c then none else pure numeral
  | [] => pure numeral

end BundleLens.Script.Numeral
