import BundleLens.Text.Identifier

namespace BundleLens.Script

def byteCount (cs : List Char) : Nat := cs.foldl (fun n c => n + c.utf8Size) 0

/-- What was read from the front of the input, the bytes it took and the input after it. -/
structure Lexeme (α : Type) where
  value : α
  size : Nat
  rest : List Char

def isLineEnd (c : Char) : Bool :=
  c == '\n' || c == '\r' || c.toNat == 0x2028 || c.toNat == 0x2029

/-- White space within a line. The byte order mark, the next-line control and the zero-width space
count as white space too. -/
def isBlank (c : Char) : Bool :=
  c == ' ' || c == '\t' || c.toNat == 0xb || c.toNat == 0xc ||
  (0x80 ≤ c.toNat &&
    (c.toNat == 0x85 || c.toNat == 0xa0 || c.toNat == 0x1680 ||
     (0x2000 ≤ c.toNat && c.toNat ≤ 0x200b) || c.toNat == 0x202f || c.toNat == 0x205f ||
     c.toNat == 0x3000 || c.toNat == 0xfeff))

/-- The input after some trivia: whether a line ended in it, and whether a comment was left open at
the end of the input. -/
structure Trivia where
  offset : Nat
  rest : List Char
  newline : Bool
  unclosed : Bool

inductive Trivia.Mode where
  | blank | line | block

/-- Skips white space and comments. `<!--` opens a line comment anywhere, `-->` only where no token
stands before it on its line; `newline` says whether that holds at the start. -/
def Trivia.skip : Trivia.Mode → Bool → Nat → List Char → Trivia
  | .block, newline, offset, [] => ⟨offset, [], newline, true⟩
  | _, newline, offset, [] => ⟨offset, [], newline, false⟩
  | .line, newline, offset, c :: r =>
    if isLineEnd c then skip .blank true (offset + c.utf8Size) r
    else skip .line newline (offset + c.utf8Size) r
  | .block, newline, offset, c :: r =>
    match c, r with
    | '*', '/' :: r => skip .blank newline (offset + 2) r
    | c, r => skip .block (newline || isLineEnd c) (offset + c.utf8Size) r
  | .blank, newline, offset, c :: r =>
    if isBlank c then skip .blank newline (offset + c.utf8Size) r
    else if isLineEnd c then skip .blank true (offset + c.utf8Size) r
    else match c, r with
      | '/', '/' :: r => skip .line newline (offset + 2) r
      | '/', '*' :: r => skip .block newline (offset + 2) r
      | '<', '!' :: '-' :: '-' :: r => skip .line newline (offset + 4) r
      | '-', '-' :: '>' :: r =>
        if newline then skip .line newline (offset + 3) r
        else ⟨offset, '-' :: '-' :: '>' :: r, newline, false⟩
      | c, r => ⟨offset, c :: r, newline, false⟩

end BundleLens.Script
