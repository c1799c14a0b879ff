import BundleLens.Proofs.Bundle.ChunkGrammar

/-! Where the slots of a chunk are in the array that its script builds. Detection counts the elements
of a literal, and one that spreads may give any number of values, so the slots after it move. -/
namespace BundleLens.Bundle.Chunk
open Script

/-- A value of a running script. Those that are no arrays are told apart by a number. -/
inductive Datum where
  | array (values : List (Option Datum))
  | other (identity : Nat)

def Datum.at? : Datum → Nat → Option Datum
  | array values, i => values[i]?.join
  | other _, _ => none

private theorem Datum.at?_array (values : List (Option Datum)) (i : Nat) :
    (array values).at? i = values[i]?.join := rfl

/-- One run of a script: the value of each expression that is no array literal, and what a value
gives when it is spread. -/
structure Run where
  value : Expr → Datum
  items : Datum → List Datum

namespace Run

mutual

def evaluate (run : Run) : Expr → Datum
  | .paren _ inner => run.evaluate inner
  | .array _ elements => .array (run.build elements)
  | e => run.value e

def build (run : Run) : List Element → List (Option Datum)
  | [] => []
  | .hole _ :: r => none :: run.build r
  | .item e :: r => some (run.evaluate e) :: run.build r
  | .spread _ e :: r => (run.items (run.evaluate e)).map some ++ run.build r

end

def width (run : Run) (element : Element) : Nat := (run.build [element]).length

/-- A run in which every value spreads into three, which are neither arrays nor any other value. -/
def crowded : Run := ⟨fun _ => .other 0, fun _ => List.replicate 3 (.other 1)⟩

end Run

inductive IsSpread : Element → Prop
  | spread (span : Span) (value : Expr) : IsSpread (.spread span value)

inductive ElementsOf (elements : List Element) : Expr → Prop
  | array (span : Span) : ElementsOf elements (.array span elements)

inductive NestedIn (literal : Expr) : Element → Prop
  | nested (outer inner : Span) :
      NestedIn literal (.item (.array outer [.item (.array inner [.item literal])]))

variable {run : Run} {e slot argument literal : Expr} {ids entry : Element}
  {elements rest : List Element}

private theorem enclosed_slotsOf_iff {table : Element} : Enclosed (SlotsOf table entry) e ↔
    ∃ ids, Enclosed (ElementsOf [ids, table, entry]) e := by
  have bare (ids : Element) : Enclosed (ElementsOf [ids, table, entry]) e ↔
      ElementsOf [ids, table, entry] e.bare := Enclosed.iff_bare nofun
  simp only [bare]
  rw [Enclosed.iff_bare nofun]
  generalize e.bare = bare
  constructor
  · rintro ⟨span, ids⟩
    exact ⟨ids, .array span⟩
  · rintro ⟨ids, ⟨span⟩⟩
    exact .array span ids

private theorem entryOf_iff {id : ModuleId} : EntryOf id entry ↔
    ∃ literal, NestedIn literal entry ∧ LiteralOf id (.item literal) := by
  constructor
  · rintro ⟨outer, inner, literal⟩
    cases literal with
    | number span h => exact ⟨_, .nested outer inner, .number span h⟩
    | string span text => exact ⟨_, .nested outer inner, .string span text⟩
    | template span text chunks => exact ⟨_, .nested outer inner, .template span text chunks⟩
  · rintro ⟨literal, ⟨outer, inner⟩, id⟩
    exact .nested outer inner id

namespace Run

@[simp] theorem evaluate_paren (span : Span) (e : Expr) :
    run.evaluate (.paren span e) = run.evaluate e := rfl

@[simp] theorem evaluate_array (span : Span) (elements : List Element) :
    run.evaluate (.array span elements) = .array (run.build elements) := rfl

@[simp] theorem build_nil : run.build [] = [] := rfl

@[simp] theorem build_hole (span : Span) :
    run.build (.hole span :: rest) = none :: run.build rest := rfl

@[simp] theorem build_item (e : Expr) :
    run.build (.item e :: rest) = some (run.evaluate e) :: run.build rest := rfl

@[simp] theorem build_spread (span : Span) (e : Expr) :
    run.build (.spread span e :: rest) =
      (run.items (run.evaluate e)).map some ++ run.build rest := rfl

private theorem build_cons (element : Element) :
    run.build (element :: rest) = run.build [element] ++ run.build rest := by
  cases element <;> simp

private theorem evaluate_elements (h : Enclosed (ElementsOf elements) e) :
    run.evaluate e = .array (run.build elements) := by
  induction h with
  | plain h =>
    cases h
    rfl
  | paren span _ ih => rw [evaluate_paren, ih]

private theorem at?_elements (h : Enclosed (ElementsOf (ids :: rest)) argument) (i : Nat) :
    (run.evaluate argument).at? (run.width ids + i) = (run.build rest)[i]?.join := by
  unfold width
  rw [evaluate_elements h, build_cons, Datum.at?_array,
    List.getElem?_append_right (Nat.le_add_right ..), Nat.add_sub_cancel_left]

private theorem width_of_not_isSpread (h : ¬ IsSpread ids) : run.width ids = 1 := by
  unfold width
  cases ids with
  | hole span => rfl
  | item e => rfl
  | spread span value => exact (h (.spread span value)).elim

/-- The value of a literal that is alone in two arrays. -/
private theorem at?_nested (h : NestedIn literal entry) :
    ∃ e, entry = .item e ∧
      ((run.evaluate e).at? 0).bind (·.at? 0) = some (run.evaluate literal) := by
  obtain ⟨outer, inner⟩ := h
  exact ⟨_, rfl, rfl⟩

/-- Where something spreads into three, the next two positions are taken. -/
private theorem crowded_at? (spread : IsSpread ids)
    (h : Enclosed (ElementsOf (ids :: rest)) argument) {i : Nat} (near : i < 3) :
    (crowded.evaluate argument).at? i = some (.other 1) := by
  obtain ⟨span, value⟩ := spread
  have items : crowded.items (crowded.evaluate value) = List.replicate 3 (.other 1) := rfl
  rw [evaluate_elements h, build_spread, items, Datum.at?_array]
  match i, near with
  | 0, _ | 1, _ | 2, _ => rfl

private theorem crowded_table {table : Table} (h : Enclosed (TableOf table) e) :
    crowded.evaluate e ≠ .other 1 := by
  induction h with
  | plain h =>
    cases h with
    | array span elements =>
      rw [evaluate_array]
      nofun
    | object span properties =>
      change Datum.other 0 ≠ .other 1
      nofun
  | paren span _ ih => rwa [evaluate_paren]

end Run

section
variable (h : Enclosed (ElementsOf [ids, .item slot, entry]) argument)
include h

private theorem at?_slot :
    (run.evaluate argument).at? (run.width ids) = some (run.evaluate slot) := by
  have next := run.at?_elements h 0
  rw [Nat.add_zero] at next
  rw [next]
  rfl

private theorem at?_literal (nested : NestedIn literal entry) :
    (((run.evaluate argument).at? (run.width ids + 1)).bind (·.at? 0)).bind (·.at? 0) =
      some (run.evaluate literal) := by
  obtain ⟨e, rfl, inside⟩ := run.at?_nested nested
  have next : (run.evaluate argument).at? (run.width ids + 1) = some (run.evaluate e) := by
    rw [run.at?_elements h]
    rfl
  rwa [next]

private theorem at?_slot_iff {table : Table} (isTable : Enclosed (TableOf table) slot) :
    (∀ run : Run, (run.evaluate argument).at? 1 = some (run.evaluate slot)) ↔ ¬ IsSpread ids := by
  constructor
  · intro always spread
    have taken := (Run.crowded_at? spread h (by decide)).symm.trans (always .crowded)
    exact Run.crowded_table isTable (Option.some.inj taken).symm
  · intro fixed run
    rw [← run.width_of_not_isSpread fixed]
    exact at?_slot h

private theorem at?_literal_iff (nested : NestedIn literal entry) :
    (∀ run : Run, (((run.evaluate argument).at? 2).bind (·.at? 0)).bind (·.at? 0) =
      some (run.evaluate literal)) ↔ ¬ IsSpread ids := by
  constructor
  · intro always spread
    have found := always .crowded
    rw [Run.crowded_at? spread h (by decide)] at found
    nomatch found
  · intro fixed run
    have position : run.width ids + 1 = 2 := by rw [run.width_of_not_isSpread fixed]
    rw [← position]
    exact at?_literal h nested

end

variable {call : Call} {o : Options} {found : Detection}

/-- Of the three elements of an accepted chunk, the second is an item that is the module table, and
the third is one if it names the entry. At run time they come after all that the first element
gives, so they are at the positions 1 and 2 in every run exactly if the first element does not
spread. Detection does not look at the first element: the same chunk is found with any other. -/
theorem slot_positions (accepted : (detect call o).outcome = .ok found) :
    ∃ argument ids slot entry, call.arguments = [.item argument] ∧
      Enclosed (ElementsOf [ids, .item slot, entry]) argument ∧
      Enclosed (TableOf found.table) slot ∧
      (∀ run : Run, (run.evaluate argument).at? (run.width ids) = some (run.evaluate slot)) ∧
      ((∀ run : Run, (run.evaluate argument).at? 1 = some (run.evaluate slot)) ↔ ¬ IsSpread ids) ∧
      (found.entrySource = .resolved → ∃ id literal, found.entry = some id ∧
        LiteralOf id (.item literal) ∧ NestedIn literal entry ∧
        (∀ run : Run, (((run.evaluate argument).at? (run.width ids + 1)).bind (·.at? 0)).bind
          (·.at? 0) = some (run.evaluate literal)) ∧
        ((∀ run : Run, (((run.evaluate argument).at? 2).bind (·.at? 0)).bind (·.at? 0) =
          some (run.evaluate literal)) ↔ ¬ IsSpread ids)) ∧
      ∀ other argument', Enclosed (ElementsOf [other, .item slot, entry]) argument' →
        (detect { call with arguments := [.item argument'] } o).outcome = .ok found := by
  obtain ⟨format, entry, chunk, choice⟩ := detect_ok_iff.mp accepted
  obtain ⟨argument, slot, passed, slots, isTable⟩ := chunk.slots
  obtain ⟨ids, elements⟩ := enclosed_slotsOf_iff.mp slots
  refine ⟨argument, ids, slot, entry, passed, elements, isTable, fun _ => at?_slot elements,
    at?_slot_iff elements isTable, fun resolved => ?_, fun other argument' elements' => ?_⟩
  · rw [resolved] at choice
    generalize named : found.entry = id at choice
    obtain _ | ⟨-, names⟩ := choice
    obtain ⟨literal, nested, denotes⟩ := entryOf_iff.mp names
    exact ⟨_, literal, rfl, denotes, nested, fun _ => at?_literal elements nested,
      at?_literal_iff elements nested⟩
  · refine detect_ok_iff.mpr ⟨format, entry, ⟨chunk.callee, ?_⟩, choice⟩
    exact ⟨argument', slot, rfl, enclosed_slotsOf_iff.mpr ⟨other, elements'⟩, isTable⟩

/-- A chunk whose first element is a hole. -/
theorem slot_positions_hole :
    let s : Span := default
    let table : Expr := .array s [.item (.this s)]
    let entry : Element := .item (.array s [.item (.array s [.item (.number s .zero)])])
    let argument : Expr := .array s [.hole s, .item table, entry]
    let call : Call := ⟨s, .identifier s "f", [.item argument]⟩
    ∃ found, (detect call ⟨none, none, "f"⟩).outcome = .ok found ∧ found.entrySource = .resolved ∧
      ∃ argument ids slot entry, call.arguments = [.item argument] ∧
        Enclosed (ElementsOf [ids, .item slot, entry]) argument ∧
        Enclosed (TableOf found.table) slot ∧
        ((∀ run : Run, (run.evaluate argument).at? 1 = some (run.evaluate slot)) ↔
          ¬ IsSpread ids) := by
  intro s table entry argument call
  obtain ⟨found, accepted, resolved⟩ : ∃ found,
      (detect call ⟨none, none, "f"⟩).outcome = .ok found ∧ found.entrySource = .resolved :=
    exists_ok (by decide +kernel)
  obtain ⟨argument, ids, slot, entry, passed, elements, isTable, -, positioned, -⟩ :=
    slot_positions accepted
  exact ⟨found, accepted, resolved, argument, ids, slot, entry, passed, elements, isTable,
    positioned⟩

/-- A chunk whose first element spreads is accepted. In a run in which that gives three values, the
position of the table holds one of them. -/
theorem spread_chunk_accepted :
    let s : Span := default
    let table : Expr := .array s [.item (.this s)]
    let entry : Element := .item (.array s [.item (.array s [.item (.number s .zero)])])
    let argument : Expr := .array s [.spread s (.identifier s "ids"), .item table, entry]
    let call : Call := ⟨s, .identifier s "f", [.item argument]⟩
    (∃ found, (detect call ⟨none, none, "f"⟩).outcome = .ok found ∧
      found.entrySource = .resolved ∧ found.entry = some (.number 0)) ∧
    (Run.crowded.evaluate argument).at? 1 = some (.other 1) ∧
    Run.crowded.evaluate table ≠ .other 1 := by
  intro s table entry argument call
  refine ⟨exists_ok (by decide +kernel), ?_, ?_⟩
  · exact Run.crowded_at? (.spread s _) (.plain (.array s)) (by decide)
  · exact Run.crowded_table (.plain (.array s _))

end BundleLens.Bundle.Chunk
