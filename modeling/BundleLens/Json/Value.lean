namespace BundleLens.Json

/-- A JSON value. Numbers are kept as they are written, and objects keep order and repetitions. A
string that names half of a surrogate pair has no text. -/
inductive Value where
  | null
  | bool (value : Bool)
  | number (literal : String)
  | string (text : Option String)
  | array (items : List Value)
  | object (fields : List (Option String × Value))
  deriving Inhabited

namespace Value

def ofNat (n : Nat) : Value := .number (toString n)

def ofText (text : String) : Value := .string (some text)

def ofFields (fields : List (String × Value)) : Value :=
  .object (fields.map fun (name, value) => (some name, value))

def ofOption {α : Type} (encode : α → Value) : Option α → Value
  | some a => encode a
  | none => .null

end Value

end BundleLens.Json
