import BundleLens.Script.SyntaxError
import BundleLens.Script.Token.Numeral
import BundleLens.Script.Token.Quoted

/-! The tokens of a script. A slash is read as an operator and a closing brace as itself; where the
grammar expects a regular expression or the rest of a template, the token is read anew. -/
namespace BundleLens.Script

open Number (Binary64)

inductive Token.Kind where
  | word (text : String) (escaped : Bool)
  | privateName (name : String)
  | mark (text : String)
  | number (value : Binary64)
  | bigInteger
  | string (value : String)
  /-- A template chunk with its text, if its escapes are valid; the last chunk ends the template. -/
  | template (text : Option String) (last : Bool)
  | regExp
  | ending
  deriving DecidableEq

/-- A token, where it stands, and the input from its first character on and after it. -/
structure Token where
  kind : Token.Kind
  start : Nat
  stop : Nat
  /-- Whether a line ended between the token before and this one. -/
  newline : Bool
  /-- How many faults were passed over in reading it and the trivia before it. -/
  warnings : Nat
  source : List Char
  rest : List Char

namespace Token

def marks : List (List String) :=
  [[">>>="],
   ["...", "===", "!==", "**=", "<<=", ">>=", ">>>", "&&=", "||=", "??="],
   ["=>", "==", "!=", "<=", ">=", "&&", "||", "??", "?.", "++", "--", "+=", "-=", "*=", "/=", "%=",
    "&=", "|=", "^=", "<<", ">>", "**"],
   ["\x7b", "\x7d", "(", ")", "[", "]", ";", ",", "<", ">", "+", "-", "*", "/", "%", "&", "|", "^",
    "!", "~", "?", ":", "=", ".", "@"]]

/-- The longest mark at the front. `?.` before a digit is a question mark and a fraction. -/
def readMark? (cs : List Char) : Option String :=
  let widths := [4, 3, 2, 1]
  let candidates := (widths.zip marks).map fun (width, group) => (String.ofList (cs.take width), group)
  (candidates.find? fun (text, group) =>
    group.contains text && !(text == "?." && (cs[2]?).any Char.isDigit)).map (·.1)

def scan (offset : Nat) : List Char → Except SyntaxError (Lexeme (Kind × Nat))
  | [] => .ok ⟨(.ending, 0), 0, []⟩
  | c :: r =>
    if startsWord (c :: r) then
      match Word.read? (c :: r) with
      | some ⟨(text, escaped), size, rest⟩ => .ok ⟨(.word text escaped, 0), size, rest⟩
      | none => .error (.malformedName offset)
    else if c.isDigit || (c == '.' && r.head?.any Char.isDigit) then
      match Numeral.read? (c :: r) with
      | some ⟨.double value, size, rest⟩ => .ok ⟨(.number value, 0), size, rest⟩
      | some ⟨.big, size, rest⟩ => .ok ⟨(.bigInteger, 0), size, rest⟩
      | none => .error (.malformedNumber offset)
    else if c == '\x22' || c == '\x27' then
      match Quoted.readString? c r with
      | some ⟨(text, valid), size, rest⟩ => .ok ⟨(.string text, if valid then 0 else 1), size, rest⟩
      | none => .error (.unclosedText offset)
    else if c == '\x60' then
      match Quoted.readTemplate? r with
      | some ⟨(text, last), size, rest⟩ => .ok ⟨(.template text last, 0), size, rest⟩
      | none => .error (.unclosedText offset)
    else if c == '#' then
      match startsWord r, Word.read? r with
      | true, some ⟨(text, _), size, rest⟩ => .ok ⟨(.privateName text, 0), size + 1, rest⟩
      | _, _ => .error (.unexpectedCharacter offset)
    else
      match readMark? (c :: r) with
      | some text => .ok ⟨(.mark text, 0), text.length, (c :: r).drop text.length⟩
      | none => .error (.unexpectedCharacter offset)

/-- The next token. `lineStart` says that no token stands before it on its line. -/
def next (lineStart : Bool) (offset : Nat) (cs : List Char) : Except SyntaxError Token := do
  let trivia := Trivia.skip .blank lineStart offset cs
  let ⟨(kind, warnings), size, rest⟩ ← scan trivia.offset trivia.rest
  return {
    kind, rest
    start := trivia.offset
    stop := trivia.offset + size
    newline := trivia.newline
    warnings := warnings + if trivia.unclosed then 1 else 0
    source := trivia.rest }

def first : List Char → Except SyntaxError Token
  | '#' :: '!' :: r =>
    let trivia := Trivia.skip .line true 2 r
    next true trivia.offset trivia.rest
  | cs => next true 0 cs

def after (t : Token) : Except SyntaxError Token := next false t.stop t.rest

/-- A slash read anew as the start of a regular expression. -/
def asRegExp (t : Token) : Except SyntaxError Token :=
  match Quoted.readRegExp? (t.source.drop 1) with
  | some ⟨faults, size, rest⟩ =>
    .ok { t with kind := .regExp, stop := t.start + size, rest, warnings := faults }
  | none => .error (.unclosedText t.start)

/-- A closing brace read anew as the end of a substitution, with the template chunk after it. -/
def asTemplate (t : Token) : Except SyntaxError Token :=
  match Quoted.readTemplate? (t.source.drop 1) with
  | some ⟨(text, last), size, rest⟩ =>
    .ok { t with kind := .template text last, stop := t.start + size, rest, warnings := 0 }
  | none => .error (.unclosedText t.start)

def isMark (t : Token) (text : String) : Bool :=
  match t.kind with
  | .mark m => m == text
  | _ => false

def isWord (t : Token) (text : String) : Bool :=
  match t.kind with
  | .word w _ => w == text
  | _ => false

def isPlainWord (t : Token) (text : String) : Bool :=
  match t.kind with
  | .word w escaped => w == text && !escaped
  | _ => false

def reserved : List String :=
  ["break", "case", "catch", "class", "const", "continue", "debugger", "default", "delete", "do",
   "else", "enum", "export", "extends", "false", "finally", "for", "function", "if", "import", "in",
   "instanceof", "new", "null", "return", "super", "switch", "this", "throw", "true", "try", "typeof",
   "var", "void", "while", "with"]

def name? (t : Token) : Option String :=
  match t.kind with
  | .word w _ => if reserved.contains w then none else some w
  | _ => none

end Token

end BundleLens.Script
