import BundleLens.Script.Token.Trivia
import BundleLens.Number.Digits

namespace BundleLens.Script

open Number Text

def isWordStart (c : Char) : Bool := c == '$' || c == '_' || isIdStart c

def isWordPart (c : Char) : Bool :=
  c == '$' || isIdContinue c || c.toNat == 0x200c || c.toNat == 0x200d

def scalar? (n : Nat) : Option Char :=
  if n.isValidChar then some (Char.ofNat n) else none

namespace Word

/-- Where a scan stands: outside escapes, after a backslash, after its `u`, or within braces. -/
inductive Place where
  | plain | slash | unit | braces

/-- The longest stretch of name characters and escapes, as written and in reverse. -/
def extent : Place → List Char → List Char → List Char × List Char
  | _, taken, [] => (taken, [])
  | .plain, taken, c :: r =>
    if c == '\\' then extent .slash (c :: taken) r
    else if isWordPart c then extent .plain (c :: taken) r
    else (taken, c :: r)
  | .slash, taken, c :: r => if c == 'u' then extent .unit (c :: taken) r else (taken, c :: r)
  | .unit, taken, c :: r =>
    if c == '\x7b' then extent .braces (c :: taken) r
    else if isWordPart c then extent .plain (c :: taken) r
    else (taken, c :: r)
  | .braces, taken, c :: r =>
    if c == '\x7d' then extent .plain (c :: taken) r
    else if isDigitIn 16 c then extent .braces (c :: taken) r
    else (taken, c :: r)

def decode? : Nat → List Char → Option (List Char)
  | 0, cs => if cs.isEmpty then some [] else none
  | _, [] => some []
  | steps + 1, '\\' :: 'u' :: '\x7b' :: r =>
    let hex := r.takeWhile (isDigitIn 16)
    match r.dropWhile (isDigitIn 16) with
    | '\x7d' :: rest =>
      if hex.isEmpty then none
      else do return (← scalar? (ofDigits 16 hex)) :: (← decode? steps rest)
    | _ => none
  | steps + 1, '\\' :: 'u' :: a :: b :: c :: d :: rest =>
    if [a, b, c, d].all (isDigitIn 16) then do
      return (← scalar? (ofDigits 16 [a, b, c, d])) :: (← decode? steps rest)
    else none
  | _, '\\' :: _ => none
  | steps + 1, c :: rest => (decode? steps rest).map (c :: ·)

def isName : List Char → Bool
  | [] => false
  | c :: r => isWordStart c && r.all isWordPart

def read? (cs : List Char) : Option (Lexeme (String × Bool)) :=
  let (taken, rest) := extent .plain [] cs
  let raw := taken.reverse
  let escaped := raw.contains '\\'
  match if escaped then decode? raw.length raw else some raw with
  | some name =>
    if isName name then some ⟨(String.ofList name, escaped), byteCount raw, rest⟩ else none
  | none => none

end Word

def startsWord : List Char → Bool
  | [] => false
  | c :: _ => c == '\\' || isWordStart c

end BundleLens.Script
