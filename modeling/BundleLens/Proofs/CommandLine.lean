import BundleLens.CommandLine
import BundleLens.Proofs.Outcome
import Mathlib.Tactic.SplitIfs

/-! An entry in front of other arguments. They are taken in as they are without it, unless there is
another entry among them. -/
namespace BundleLens.CommandLine

namespace Progress

def withEntry (p : Progress) (id : ModuleId) : Progress := { p with entry := some id }

/-- How a step goes that has nothing to do with the entry: there was none before it, and beside one it
does the same. -/
structure Passes (step : Progress → Except Stop Progress) (p p' : Progress) : Prop where
  before : p.entry = none
  beside : ∀ id, step (p.withEntry id) = .ok (p'.withEntry id)

/-- Whenever no entry is stored after a step, the step has had nothing to do with it. -/
def LeavesEntry (step : Progress → Except Stop Progress) : Prop :=
  ∀ p p', step p = .ok p' → p'.entry = none → Passes step p p'

variable {f g : Progress → Except Stop Progress}

private theorem LeavesEntry.bind (hf : LeavesEntry f) (hg : LeavesEntry g) :
    LeavesEntry fun p => f p >>= g := by
  intro p p' h after
  obtain ⟨q, hq, h⟩ := bind_eq_ok_iff.mp h
  obtain ⟨between, later⟩ := hg q p' h after
  obtain ⟨before, earlier⟩ := hf p q hq between
  refine ⟨before, fun id => ?_⟩
  rw [earlier id, ok_bind, later id]

private theorem LeavesEntry.ite (c : Progress → Bool) (same : ∀ p id, c (p.withEntry id) = c p)
    (hf : LeavesEntry f) (hg : LeavesEntry g) : LeavesEntry fun p => if c p then f p else g p := by
  intro p p' h after
  cases chosen : c p with
  | true =>
    obtain ⟨before, beside⟩ := hf p p' (by simpa [chosen] using h) after
    exact ⟨before, fun id => by simpa [same, chosen] using beside id⟩
  | false =>
    obtain ⟨before, beside⟩ := hg p p' (by simpa [chosen] using h) after
    exact ⟨before, fun id => by simpa [same, chosen] using beside id⟩

private theorem leavesEntry_error (stop : Stop) : LeavesEntry fun _ => .error stop := by
  intro p p' h
  cases h

private theorem leavesEntry_ok {change : Progress → Progress}
    (kept : ∀ p, (change p).entry = p.entry)
    (same : ∀ p id, change (p.withEntry id) = (change p).withEntry id) :
    LeavesEntry fun p => .ok (change p) := by
  intro p p' h after
  cases h
  exact ⟨kept p ▸ after, fun id => congrArg Except.ok (same p id)⟩

private theorem leavesEntry_none : LeavesEntry .ok :=
  @leavesEntry_ok id (fun _ => rfl) fun _ _ => rfl

/-- An argument other than the entry that may be given once. -/
private theorem leavesEntry_once {given : Progress → Bool}
    (same : ∀ p id, given (p.withEntry id) = given p) (hg : LeavesEntry g) :
    LeavesEntry fun p => if given p then .error .repeated else g p :=
  (leavesEntry_error _).ite given same hg

private theorem leavesEntry_store (argument : Valued) (text : String) :
    LeavesEntry fun p => p.store argument text := by
  cases argument with
  | entry =>
    -- there is an entry after this step, which is the only one to store any
    intro p p' h after
    simp only [store] at h
    split_ifs at h
    cases h
    cases after
  | format =>
    unfold store
    refine leavesEntry_once (fun _ _ => rfl) ?_
    cases format? text with
    | none => exact leavesEntry_error _
    | some format => exact leavesEntry_ok (fun _ => rfl) fun _ _ => rfl
  | chunkGlobal =>
    exact leavesEntry_once (fun _ _ => rfl) (leavesEntry_ok (fun _ => rfl) fun _ _ => rfl)
  | output =>
    unfold store
    refine leavesEntry_once (fun _ _ => rfl) ?_
    cases text.isEmpty with
    | false => exact leavesEntry_ok (fun _ => rfl) fun _ _ => rfl
    | true => exact leavesEntry_error _

private theorem leavesEntry_settle : LeavesEntry settle := by
  intro p p' h after
  unfold settle at h
  cases pending : p.pending with
  | nothing =>
    rw [pending] at h
    cases h
    exact ⟨after, fun id => by simp [settle, withEntry, pending]⟩
  | value argument text =>
    rw [pending] at h
    cases text with
    | none => cases h
    | some text =>
      obtain ⟨before, beside⟩ := leavesEntry_store argument text _ p' h after
      refine ⟨before, fun id => ?_⟩
      rw [← beside id]
      simp [settle, withEntry, pending]
  | inputs texts =>
    rw [pending] at h
    dsimp only at h
    split_ifs at h with blank
    cases h
    exact ⟨after, fun id => by simp [settle, withEntry, pending, blank]⟩

private theorem leavesEntry_raise (flag : Flag) : LeavesEntry fun p => p.raise flag := by
  refine leavesEntry_settle.bind ?_
  cases flag with
  | json | verbose | quiet =>
    exact leavesEntry_once (fun _ _ => rfl) (leavesEntry_ok (fun _ => rfl) fun _ _ => rfl)
  | help | version => exact leavesEntry_error _

private theorem leavesEntry_assign (argument : Valued) (attached : Option String) :
    LeavesEntry fun p => p.assign argument attached := by
  refine leavesEntry_settle.bind ?_
  cases attached with
  | some text => exact leavesEntry_store argument text
  | none => exact leavesEntry_ok (fun _ => rfl) fun _ _ => rfl

private theorem leavesEntry_long (text : String) : LeavesEntry fun p => p.long text := by
  unfold long
  dsimp only
  split
  · exact leavesEntry_error _
  · exact leavesEntry_assign _ _
  · exact leavesEntry_raise _
  · exact leavesEntry_error _

private theorem leavesEntry_short (letters : List Char) : LeavesEntry fun p => p.short letters := by
  induction letters with
  | nil => exact leavesEntry_none
  | cons c r ih =>
    unfold short
    split
    · exact leavesEntry_error _
    · exact (leavesEntry_raise _).bind ih
    · split
      · exact leavesEntry_assign _ _
      · exact leavesEntry_assign _ _
      · exact leavesEntry_assign _ _

private theorem leavesEntry_input (text : String) : LeavesEntry fun p => p.input text := by
  intro p p' h after
  simp only [input] at h
  cases pending : p.pending with
  | inputs texts =>
    rw [pending] at h
    cases h
    exact ⟨after, fun id => by simp [input, withEntry, pending]⟩
  | nothing | value =>
    rw [pending] at h
    obtain ⟨q, hq, h⟩ := bind_eq_ok_iff.mp h
    cases h
    obtain ⟨before, beside⟩ := leavesEntry_settle p q hq after
    refine ⟨before, fun id => ?_⟩
    have same : (p.withEntry id).pending = p.pending := rfl
    simp only [input, same, pending, beside id]
    rfl

private theorem leavesEntry_take (text : String) : LeavesEntry fun p => p.take text := by
  refine LeavesEntry.ite inputsOnly (fun _ _ => rfl) (leavesEntry_input text) ?_
  split
  · exact leavesEntry_ok (fun _ => rfl) fun _ _ => rfl
  · exact leavesEntry_long _
  · exact leavesEntry_short _
  · intro p p' h after
    dsimp only at h
    split at h
    · rename_i argument pending
      cases h
      exact ⟨after, fun id => by simp [withEntry, pending]⟩
    · rename_i other
      obtain ⟨before, beside⟩ := leavesEntry_input text p p' h after
      refine ⟨before, fun id => ?_⟩
      split
      · rename_i argument pending
        exact absurd pending (other argument)
      · exact beside id

/-- Arguments that hold no entry are taken in as they are after one. -/
private theorem leavesEntry_foldlM (arguments : List String) :
    LeavesEntry fun p => arguments.foldlM take p := by
  induction arguments with
  | nil => exact leavesEntry_none
  | cons text r ih => exact (leavesEntry_take text).bind ih

private theorem take_dashes {p : Progress} (more : p.inputsOnly = false) {name : List Char}
    (filled : name ≠ []) :
    p.take (String.ofList ('-' :: '-' :: name)) = p.long (String.ofList name) := by
  obtain ⟨c, r, rfl⟩ := List.exists_cons_of_ne_nil filled
  simp only [take, more, String.toList_ofList, Bool.false_eq_true, if_false]

private theorem long_attached {p : Progress} {name : String} {argument : Valued}
    (known : Name.ofLong? name = some (.valued argument)) (plain : '=' ∉ name.toList)
    (value : List Char) :
    p.long (String.ofList (name.toList ++ '=' :: value)) =
      p.assign argument (some (String.ofList value)) := by
  have front : (name.toList ++ '=' :: value).takeWhile (· != '=') = name.toList := by
    rw [List.takeWhile_append_of_pos]
    · simp
    · intro c hc
      simpa using ne_of_mem_of_not_mem hc plain
  simp only [long, String.toList_ofList, front, List.drop_left, String.ofList_toList, known]

private theorem take_entry (text : String) :
    take {} ("--entry=" ++ text) = .ok (withEntry {} (.ofText text)) := by
  have spelled : "--entry=" ++ text =
      String.ofList ('-' :: '-' :: ("entry".toList ++ '=' :: text.toList)) := by
    simp [← String.toList_inj]
  rw [spelled, take_dashes rfl (by simp), long_attached rfl (by decide), String.ofList_toList]
  rfl

end Progress

/-- An entry in front of arguments that hold none gives their configuration with that entry. -/
theorem parse_entry {arguments : List String} {chunkGlobal : Option String} {config : Config}
    (h : parse arguments chunkGlobal = .ok config) (unset : config.entry = none) (text : String) :
    parse (("--entry=" ++ text) :: arguments) chunkGlobal =
      .ok { config with entry := some (.ofText text) } := by
  unfold parse at h ⊢
  obtain ⟨p, hp, h⟩ := bind_eq_ok_iff.mp h
  obtain ⟨q, hq, h⟩ := bind_eq_ok_iff.mp h
  by_cases empty : q.inputs.isEmpty
  · rw [if_pos empty] at h
    cases h
  rw [if_neg empty] at h
  cases h
  obtain ⟨between, settled⟩ := Progress.leavesEntry_settle p q hq unset
  obtain ⟨-, taken⟩ := Progress.leavesEntry_foldlM arguments {} p hp between
  rw [List.foldlM_cons, Progress.take_entry, ok_bind, taken, ok_bind, settled, ok_bind]
  exact if_neg empty

end BundleLens.CommandLine
