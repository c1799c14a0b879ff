import BundleLens.Script.Token.Word

/-! String literals, template chunks and regular expressions: where they end and what they say. -/
namespace BundleLens.Script.Quoted

open Number

/-- The body of a string up to its closing quote, in reverse, and the rest. A line may only end
inside it after a backslash. -/
def splitString? (quote : Char) : List Char → List Char → Option (List Char × List Char)
  | _, [] => none
  | taken, '\\' :: '\r' :: '\n' :: r => splitString? quote ('\n' :: '\r' :: '\\' :: taken) r
  | taken, '\\' :: c :: r => splitString? quote (c :: '\\' :: taken) r
  | taken, c :: r =>
    if c == quote then some (taken, r)
    else if c == '\n' || c == '\r' then none
    else splitString? quote (c :: taken) r

/-- A template chunk up to the closing mark or the next substitution, in reverse. The flag says that
the template ends there. -/
def splitTemplate? : List Char → List Char → Option (List Char × Bool × List Char)
  | _, [] => none
  | taken, '\\' :: c :: r => splitTemplate? (c :: '\\' :: taken) r
  | taken, '$' :: '\x7b' :: r => some (taken, false, r)
  | taken, c :: r => if c == '\x60' then some (taken, true, r) else splitTemplate? (c :: taken) r

/-- The body of a regular expression up to the slash that ends it, in reverse. A slash inside a
character class does not. -/
def splitRegExp? : Bool → List Char → List Char → Option (List Char × List Char)
  | _, _, [] => none
  | inClass, taken, '\\' :: c :: r =>
    if isLineEnd c then none else splitRegExp? inClass (c :: '\\' :: taken) r
  | inClass, taken, c :: r =>
    if isLineEnd c then none
    else if c == '/' && !inClass then some (taken, r)
    else if c == '[' then splitRegExp? true (c :: taken) r
    else if c == ']' then splitRegExp? false (c :: taken) r
    else splitRegExp? inClass (c :: taken) r

/-- The text that stands for half of a surrogate pair that lacks the other half. -/
def loneSurrogate (unit : Nat) : List Char := '\\' :: 'u' :: Nat.toDigits 16 unit

def codePoint? (n : Nat) : Option (List Char) :=
  if n.isValidChar then some [Char.ofNat n]
  else if n < 0xe000 then some (loneSurrogate n)
  else none

def hexUnit? : List Char → Option (Nat × List Char)
  | a :: b :: c :: d :: r =>
    if [a, b, c, d].all (isDigitIn 16) then some (ofDigits 16 [a, b, c, d], r) else none
  | _ => none

/-- An escape of a UTF-16 unit, after its `u`. Two units that form a pair are one character. -/
def unitEscape? (cs : List Char) : Option (List Char × List Char) := do
  let (unit, rest) ← hexUnit? cs
  let single : Option (List Char × List Char) := (codePoint? unit).map (·, rest)
  if 0xd800 ≤ unit ∧ unit < 0xdc00 then
    match rest with
    | '\\' :: 'u' :: r =>
      match hexUnit? r with
      | some (low, rest) =>
        if 0xdc00 ≤ low ∧ low < 0xe000 then
          (codePoint? (0x10000 + (unit - 0xd800) * 0x400 + (low - 0xdc00))).map (·, rest)
        else single
      | none => single
    | _ => single
  else single

def octalEscape (cs : List Char) : List Char × List Char :=
  let width := if cs.head?.any (· ≤ '3') then 3 else 2
  let digits := (cs.take width).takeWhile (isDigitIn 8)
  ([Char.ofNat (ofDigits 8 digits)], cs.drop digits.length)

/-- What an escape denotes, after its backslash. Octal escapes are known only where `octal` is set,
which templates do not. -/
def escape? (octal : Bool) : List Char → Option (List Char × List Char)
  | [] => none
  | '\r' :: '\n' :: r => some ([], r)
  | 'x' :: a :: b :: r =>
    if isDigitIn 16 a && isDigitIn 16 b then some ([Char.ofNat (ofDigits 16 [a, b])], r) else none
  | 'x' :: _ => none
  | 'u' :: '\x7b' :: r =>
    let hex := r.takeWhile (isDigitIn 16)
    match r.dropWhile (isDigitIn 16) with
    | '\x7d' :: rest => if hex.isEmpty then none else (codePoint? (ofDigits 16 hex)).map (·, rest)
    | _ => none
  | 'u' :: r => unitEscape? r
  | c :: r =>
    if isLineEnd c then some ([], r)
    else if c.isDigit then
      if c == '0' && !(r.head?.any Char.isDigit) then some (['\x00'], r)
      else if !octal then none
      else if isDigitIn 8 c then some (octalEscape (c :: r))
      else some ([c], r)
    else
      let plain := match c with
        | 'n' => '\n'
        | 't' => '\t'
        | 'r' => '\r'
        | 'b' => '\x08'
        | 'v' => '\x0b'
        | 'f' => '\x0c'
        | c => c
      some ([plain], r)

/-- The text after an escape without meaning, after its backslash: reading goes on behind the digits
that were understood. -/
def skipFaulty : List Char → List Char
  | 'x' :: r | 'u' :: '\x7b' :: r | 'u' :: r => r.dropWhile (isDigitIn 16)
  | r => r

/-- The text of a literal's body, and whether all its escapes have a meaning. Every line end inside
it counts as a line feed. -/
def cook (octal : Bool) : Nat → List Char → Bool → List Char → List Char × Bool
  | 0, text, valid, _ => (text.reverse, valid)
  | _, text, valid, [] => (text.reverse, valid)
  | steps + 1, text, valid, '\\' :: r =>
    match escape? octal r with
    | some (cs, rest) => cook octal steps (cs.reverse ++ text) valid rest
    | none => cook octal steps text false (skipFaulty r)
  | steps + 1, text, valid, '\r' :: '\n' :: r => cook octal steps ('\n' :: text) valid r
  | steps + 1, text, valid, c :: r =>
    cook octal steps ((if c == '\r' then '\n' else c) :: text) valid r

def readString? (quote : Char) (cs : List Char) : Option (Lexeme (String × Bool)) := do
  let (taken, rest) ← splitString? quote [] cs
  let raw := taken.reverse
  let (text, valid) := cook true raw.length [] true raw
  return ⟨(String.ofList text, valid), byteCount raw + 2, rest⟩

/-- The template chunk after its opening mark or closing brace: its text, if its escapes are valid,
and whether it is the last. -/
def readTemplate? (cs : List Char) : Option (Lexeme (Option String × Bool)) := do
  let (taken, last, rest) ← splitTemplate? [] cs
  let raw := taken.reverse
  let (text, valid) := cook false raw.length [] true raw
  let cooked := if valid then some (String.ofList text) else none
  return ⟨(cooked, last), byteCount raw + (if last then 2 else 3), rest⟩

def flagFaults : List Char → List Char → Nat
  | _, [] => 0
  | seen, f :: r =>
    if "dgimsuvy".toList.contains f && !seen.contains f then flagFaults (f :: seen) r
    else flagFaults seen r + 1

/-- The regular expression after its opening slash: the number of faulty flags. The pattern itself
is not examined. -/
def readRegExp? (cs : List Char) : Option (Lexeme Nat) := do
  let (taken, rest) ← splitRegExp? false [] cs
  let flags := rest.takeWhile fun c => c.isAlphanum || c == '$' || c == '_'
  return ⟨flagFaults [] flags, byteCount taken + flags.length + 2, rest.drop flags.length⟩

end BundleLens.Script.Quoted
