import BundleLens.Json.Value
import BundleLens.Number.Digits

namespace BundleLens.Json.Value

/-- The natural number that a value is, if it is written in digits alone and below a bound. -/
def natBelow? (bound : Nat) : Value → Option Nat
  | .number literal => (Number.readDecimal? literal.toList).filter (· < bound)
  | _ => none

def text? : Value → Option String
  | .string text => text
  | _ => none

def bool? : Value → Option Bool
  | .bool b => some b
  | _ => none

def list? {α : Type} (decode : Value → Option α) : Value → Option (List α)
  | .array items => items.mapM decode
  | _ => none

def nullable? {α : Type} (decode : Value → Option α) : Value → Option (Option α)
  | .null => some none
  | value => (decode value).map some

/-- One of several names: a string, or an object with the name as its only field and null in it. -/
def choice? {α : Type} (ofName? : String → Option α) : Value → Option α
  | .string (some name) => ofName? name
  | .object [(some name, .null)] => ofName? name
  | _ => none

/-- The value of a field. Null takes the place of one that is absent and may be. -/
def field? (fields : List (String × Value)) (name : String) (optional : Bool) : Option Value :=
  match fields.filter fun field => field.1 == name with
  | [] => if optional then some .null else none
  | [(_, value)] => some value
  | _ => none

/-- The fields of a record in the order of its description, which names them and tells which may be
absent. An object has them in any order, each at most once, and others beside them; an array has
exactly them. -/
def record? (description : List (String × Bool)) : Value → Option (List Value)
  | .array items => if items.length = description.length then some items else none
  | .object fields => do
    let named ← fields.mapM fun (name, value) => name.map (·, value)
    description.mapM fun (name, optional) => field? named name optional
  | _ => none

end BundleLens.Json.Value
