import BundleLens.Text.Visible

/-! Text in double quotes, on one line and with nothing hidden in it. -/
namespace BundleLens.Text

/-- A character as it is written between quotes. Quotes, backslashes and the common controls have
escapes of their own; other hidden characters are written by their code point. -/
def quoteChar (c : Char) : List Char :=
  if c == '\x22' then ['\\', '\x22']
  else if c == '\\' then ['\\', '\\']
  else if c == '\t' then ['\\', 't']
  else if c == '\r' then ['\\', 'r']
  else if c == '\n' then ['\\', 'n']
  else if c == '\x00' then ['\\', '0']
  else if isHidden c then '\\' :: 'u' :: '\x7b' :: (Nat.toDigits 16 c.toNat ++ ['\x7d'])
  else [c]

def quote (text : String) : String :=
  String.ofList ('\x22' :: (text.toList.flatMap quoteChar ++ ['\x22']))

end BundleLens.Text
