import BundleLens.Json.Value

namespace BundleLens.Json

/-- A character as it is written in a string. Only quotes, backslashes and the controls of ASCII have
escapes. -/
def escapeChar (c : Char) : List Char :=
  if c == '\x22' then ['\\', '\x22']
  else if c == '\\' then ['\\', '\\']
  else if c == '\x08' then ['\\', 'b']
  else if c == '\x0c' then ['\\', 'f']
  else if c == '\n' then ['\\', 'n']
  else if c == '\r' then ['\\', 'r']
  else if c == '\t' then ['\\', 't']
  else if c.toNat < 0x20 then
    ['\\', 'u', '0', '0', Nat.digitChar (c.toNat / 16), Nat.digitChar (c.toNat % 16)]
  else [c]

def writeString (text : String) : List Char :=
  '\x22' :: (text.toList.flatMap escapeChar ++ ['\x22'])

/-- The text of a string value. Text that is lacking is shown by the replacement character. -/
def writeText (text : Option String) : List Char := writeString (text.getD "\ufffd")

def newLine (level : Nat) : List Char := '\n' :: List.replicate (2 * level) ' '

mutual

def writePretty (level : Nat) : Value → List Char
  | .null => "null".toList
  | .bool true => "true".toList
  | .bool false => "false".toList
  | .number literal => literal.toList
  | .string text => writeText text
  | .array [] => ['[', ']']
  | .array (item :: items) =>
    '[' :: (newLine (level + 1) ++ writePretty (level + 1) item ++ writeItems (level + 1) items ++
      newLine level ++ [']'])
  | .object [] => ['\x7b', '\x7d']
  | .object ((name, value) :: fields) =>
    '\x7b' :: (newLine (level + 1) ++ writeText name ++ [':', ' '] ++
      writePretty (level + 1) value ++ writeFields (level + 1) fields ++ newLine level ++ ['\x7d'])

def writeItems (level : Nat) : List Value → List Char
  | [] => []
  | item :: items => ',' :: (newLine level ++ writePretty level item ++ writeItems level items)

def writeFields (level : Nat) : List (Option String × Value) → List Char
  | [] => []
  | (name, value) :: fields =>
    ',' :: (newLine level ++ writeText name ++ [':', ' '] ++ writePretty level value ++
      writeFields level fields)

end

def Value.pretty (value : Value) : String := String.ofList (writePretty 0 value)

end BundleLens.Json
