import BundleLens.Number.Shortest
import BundleLens.Text.Quoted
import BundleLens.Text.Word

namespace BundleLens

open Number (Binary64)

inductive ModuleId where
  | number (n : UInt64)
  | name (text : String)
  deriving DecidableEq, Inhabited

namespace ModuleId

/-- The id that a number denotes, if it is a natural number up to `2 ^ 64`. The bound itself is
counted as the largest id. -/
def ofNumber? (value : Binary64) : Option ModuleId :=
  match value.toNat? with
  | some n => if n ≤ UInt64.size then some (.number (.ofNat (min n (UInt64.size - 1)))) else none
  | none => none

/-- The id of a table key. A key that is the plain decimal form of a 64-bit number is that number. -/
def ofKey (key : String) : ModuleId :=
  match Number.readDecimal? key.toList with
  | some n => if n < UInt64.size ∧ toString n = key then .number (.ofNat n) else .name key
  | none => .name key

/-- The id of a numeric table key. A number that is no id counts as the name it is written as. -/
def ofNumericKey (value : Binary64) : ModuleId := (ofNumber? value).getD (.name value.text)

/-- The id that a user means by a text: white space around it does not count. -/
def ofText (text : String) : ModuleId :=
  let trimmed := (text.toList.dropWhile Text.isWhiteSpace).reverse.dropWhile Text.isWhiteSpace
  ofKey (String.ofList trimmed.reverse)

def display : ModuleId → String
  | .number n => toString n
  | .name text => Text.quote text

def describe : ModuleId → String
  | .number n => s!"Number({n})"
  | .name text => s!"Name({Text.quote text})"

end ModuleId

end BundleLens
