import BundleLens.Proofs.Bundle.ClassicGrammar
import BundleLens.Proofs.ModuleId

/-! What a bootstrap function passes to the call that it ends with, as a value of the running
script. An assignment has the number on its right as its value, whatever stood in its target, for
one operator only. -/
namespace BundleLens.Bundle.Classic
open Script Number

inductive Value where
  | undefined
  | null
  | boolean (b : Bool)
  | number (n : Binary64)
  | bigInt (n : Int)
  | string (text : String)
  | symbol (identity : Nat)
  | object (identity : Nat)
  deriving DecidableEq

namespace Value

def isTrue : Value → Bool
  | undefined | null => false
  | boolean b => b
  | number .nan => false
  | number (.infinite _) => true
  | number (.finite _ mantissa _ _) => mantissa != 0
  | bigInt n => n != 0
  | string text => text != ""
  | symbol _ | object _ => true

def isMissing : Value → Bool
  | undefined | null => true
  | _ => false

end Value

/-- What an operator computes from an earlier value and a number; `none` is an exception. -/
abbrev Computation := AssignOp → Value → Binary64 → Option Value

/-- The value of an assignment of a number to a target that holds `old`. The logical operators keep
the old value or take the number; the others compute, and a big integer cannot be computed with a
number. -/
def assigned (compute : Computation) (op : AssignOp) (old : Value) (number : Binary64) :
    Option Value :=
  match op with
  | .plain => some (.number number)
  | .or => some (if old.isTrue then old else .number number)
  | .and => some (if old.isTrue then .number number else old)
  | .coalesce => some (if old.isMissing then .number number else old)
  | _ =>
    match old with
    | .bigInt _ => none
    | _ => compute op old number

def passedValue (compute : Computation) (old : Value) (number : Binary64) :
    Option AssignOp → Option Value
  | none => some (.number number)
  | some op => assigned compute op old number

variable {compute : Computation} {number : Binary64}

private theorem assigned_always_iff {op : AssignOp} :
    (∀ old, assigned compute op old number = some (.number number)) ↔ op = .plain := by
  constructor
  · intro always
    -- no other operator gives the number for both: `and` keeps the first, `or` the second
    have zero := always (.bigInt 0)
    have one := always (.bigInt 1)
    cases op with
    | plain => rfl
    | and => cases zero
    | _ => cases one
  · rintro rfl old
    rfl

private theorem passedValue_always_iff {op : Option AssignOp} :
    (∀ old, passedValue compute old number op = some (.number number)) ↔
      op = none ∨ op = some .plain := by
  cases op with
  | none => simp [passedValue]
  | some op => simpa [passedValue] using assigned_always_iff

/-- A number that detection takes from the bootstrap function is in the first argument of the call
that the function ends with. That argument has it as its value, whatever stood in the target of an
assignment before, if it is the literal or a plain assignment, and only then. The largest id is left
out, since a number that is too large by one counts as it. -/
theorem entry_passed_iff {call : Call} {o : Options} {found : Detection} {n : UInt64}
    (accepted : (detect call o).outcome = .ok found) (resolved : found.entrySource = .resolved)
    (entry : found.entry = some (.number n)) (small : n.toNat + 1 < UInt64.size) :
    ∃ body first rest value op, Enclosed (FunctionOf body) call.callee ∧
      Requires (first :: rest) body ∧ PassesNumber value op first ∧
      value.toNat? = some n.toNat ∧
      ∀ compute : Computation,
        (∀ old, passedValue compute old value op = some (.number value)) ↔
          op = none ∨ op = some .plain := by
  obtain ⟨-, body, callee, -, choice, -⟩ := detect_ok_iff.mp accepted
  rw [resolved, entry] at choice
  obtain _ | ⟨-, named⟩ := choice
  obtain ⟨first, rest, value, op, requires, passes, id⟩ := named
  exact ⟨body, first, rest, value, op, callee, requires, passes,
    ModuleId.toNat?_of_ofNumber? id small, fun _ => passedValue_always_iff⟩

/-- A plain assignment of 1 passes the 1 that is its entry. -/
theorem entry_passed_iff_plain :
    let s : Span := default
    let passed : Argument :=
      .item (.assign s .plain (.member s (.identifier s "r") "s") (.number s (.ofNat 1)))
    let body : List Stmt := [.returning s (some (.call s (.identifier s "r") [passed]))]
    ∃ found,
      (detect ⟨s, .function s body, [.item (.array s [])]⟩ {}).outcome = .ok found ∧
      found.entrySource = .resolved ∧ found.entry = some (.number 1) ∧
      ∃ body' first rest value op, Enclosed (FunctionOf body') (.function s body) ∧
        Requires (first :: rest) body' ∧ PassesNumber value op first ∧ value.toNat? = some 1 ∧
        ∀ compute : Computation,
          (∀ old, passedValue compute old value op = some (.number value)) ↔
            op = none ∨ op = some .plain := by
  intro s passed body
  obtain ⟨found, accepted, resolved, entry⟩ :
      ∃ found, (detect ⟨s, .function s body, [.item (.array s [])]⟩ {}).outcome = .ok found ∧
        found.entrySource = .resolved ∧ found.entry = some (.number 1) :=
    exists_ok (by decide +kernel)
  exact ⟨found, accepted, resolved, entry, entry_passed_iff accepted resolved entry (by decide)⟩

/-- An assignment of 1 that keeps a false value has 1 as its entry too, although it passes no number
when its target holds nothing yet. -/
theorem kept_value_not_passed :
    let s : Span := default
    let passed : Argument :=
      .item (.assign s .and (.member s (.identifier s "r") "s") (.number s (.ofNat 1)))
    let body : List Stmt := [.returning s (some (.call s (.identifier s "r") [passed]))]
    (∃ found, (detect ⟨s, .function s body, [.item (.array s [])]⟩ {}).outcome = .ok found ∧
      found.entrySource = .resolved ∧ found.entry = some (.number 1)) ∧
    Requires [passed] body ∧ PassesNumber (.ofNat 1) (some .and) passed ∧
      ∀ compute, passedValue compute .undefined (.ofNat 1) (some .and) = some .undefined := by
  intro s passed body
  have requires : Requires [passed] body := .returning [] s (.plain (.call s _))
  have passes : PassesNumber (.ofNat 1) (some .and) passed :=
    .assign s .and _ (.plain (.number s))
  exact ⟨exists_ok (by decide +kernel), requires, passes, fun _ => rfl⟩

end BundleLens.Bundle.Classic
