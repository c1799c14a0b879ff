import BundleLens.Proofs.Bundle.Wrapping

/-! Parentheses that hide the entry of a bundle. All others are transparent. -/
namespace BundleLens.Bundle
open Script

variable {e e' : Expr}

namespace Classic

def wrapsFirst : List Argument → Bool
  | .item (.paren ..) :: _ => true
  | _ => false

def wrapsRequired (body : List Stmt) : Bool :=
  match body.getLast? with
  | some (.returning _ (some e)) => (finalCall? e).any wrapsFirst
  | _ => false

private theorem idOfFirst?_hidden (passed : List Argument) : passed.head?.bind idOfArgument? =
    if wrapsFirst passed then none else passed.head?.bind idOfArgument? := by
  unfold wrapsFirst
  split <;> rfl

private theorem idOfCall?_hidden (called : Option (List Argument)) :
    (called.bind fun passed => passed.head?.bind idOfArgument?) =
      if called.any wrapsFirst then none
      else called.bind fun passed => passed.head?.bind idOfArgument? := by
  cases called with
  | none => rfl
  | some passed => exact idOfFirst?_hidden passed

private theorem idOfFirst?_wrapped {passed passed' : List Argument}
    (h : FirstWrapping RequiredParts passed passed') : passed'.head?.bind idOfArgument? =
      if wrapsFirst passed' then none else passed.head?.bind idOfArgument? := by
  cases h with
  | same => exact idOfFirst?_hidden passed
  | first r he =>
    cases he with
    | same => exact idOfFirst?_hidden _
    | inside hr =>
      obtain ⟨span, op, target, hv⟩ := hr
      simp only [List.head?_cons, Option.bind_some, idOfArgument?, Parenthesized.bare hv]
      rfl
    | around | under => rfl

private theorem finalCall?_wrapped (h : Wrapping ReturnedParts e e') :
    finalCall? e' = finalCall? e ∨ ∃ passed passed', FirstWrapping RequiredParts passed passed' ∧
      finalCall? e = some passed ∧ finalCall? e' = some passed' := by
  unfold finalCall?
  obtain hb | ⟨_, _, h, hf, hf'⟩ := h.bare
  · exact .inl (by rw [hb])
  rw [hf, hf']
  cases h with
  | call h =>
    obtain ⟨span, callee, hp⟩ := h
    exact .inr ⟨_, _, hp, rfl, rfl⟩
  | sequence span items hl =>
    simp only [Expr.bare, List.getLast?_append, List.getLast?_singleton, Option.some_or,
      Option.map_some]
    obtain hb | ⟨_, _, ⟨_, _, hp⟩, hg, hg'⟩ := hl.bare
    · exact .inl (by rw [hb])
    · rw [hg, hg']
      exact .inr ⟨_, _, hp, rfl, rfl⟩

private theorem namedId?_hidden (body : List Stmt) :
    namedId? body = if wrapsRequired body then none else namedId? body := by
  unfold namedId? wrapsRequired
  rcases body.getLast? with _ | ⟨_ | ⟨_, _ | e⟩ | _⟩
  case some.returning.some => exact idOfCall?_hidden (finalCall? e)
  all_goals rfl

private theorem namedId?_wrapped (inner : Span) (stmts : List Stmt)
    (h : Wrapping ReturnedParts e e') :
    namedId? (stmts ++ [.returning inner (some e')]) =
      if wrapsRequired (stmts ++ [.returning inner (some e')]) then none
      else namedId? (stmts ++ [.returning inner (some e)]) := by
  simp only [namedId?, wrapsRequired, List.getLast?_append, List.getLast?_singleton,
    Option.some_or]
  obtain hc | ⟨passed, passed', hp, hc, hc'⟩ := finalCall?_wrapped h
  · rw [hc]
    exact idOfCall?_hidden (finalCall? e)
  · rw [hc, hc']
    exact idOfFirst?_wrapped hp

end Classic

namespace Chunk

def isParen : Element → Bool
  | .item (.paren ..) => true
  | _ => false

def wrapsEntry (entry : Element) : Bool :=
  isParen entry || (only? entry).any fun inner => isParen inner || (only? inner).any isParen

private theorem namedId?_hidden (entry : Element) :
    namedId? entry = if wrapsEntry entry then none else namedId? entry := by
  have unread {element : Element} (h : isParen element = true) :
      only? element = none ∧ idOfLiteral? element = none := by
    unfold isParen at h
    split at h
    · exact ⟨rfl, rfl⟩
    · cases h
  split
  · rename_i h
    rw [namedId?_eq]
    unfold entryLiteral?
    simp only [wrapsEntry, Bool.or_eq_true, Option.any_eq_true] at h
    obtain h | ⟨inner, hi, h | ⟨literal, hl, h⟩⟩ := h
    · rw [(unread h).1]
      rfl
    · rw [hi, Option.bind_some, (unread h).1]
      rfl
    · rw [hi, Option.bind_some, hl, Option.bind_some, (unread h).2]
  · rfl

/-- A wrapped element is the same, in parentheses or changed further inside. -/
private theorem wrapped_cases {parts : Expr → Expr → Prop} {element element' : Element}
    (h : ElementWrapping parts element element') : element' = element ∨ isParen element' = true ∨
      ∃ f f', parts f f' ∧ element = .item f ∧ element' = .item f' := by
  cases h with
  | same => exact .inl rfl
  | item h =>
    cases h with
    | same => exact .inl rfl
    | inside h => exact .inr (.inr ⟨_, _, h, rfl, rfl⟩)
    | around | under => exact .inr (.inl rfl)

private theorem namedId?_wrapped {entry entry' : Element}
    (h : ElementWrapping EntryParts entry entry') :
    namedId? entry' = if wrapsEntry entry' then none else namedId? entry := by
  cases hw : wrapsEntry entry' with
  | true =>
    rw [namedId?_hidden, hw]
    rfl
  | false =>
    simp only [Bool.false_eq_true, if_false]
    obtain rfl | hp | ⟨_, _, ⟨span, hi⟩, rfl, rfl⟩ := wrapped_cases h
    · rfl
    · simp [wrapsEntry, hp] at hw
    obtain rfl | hp | ⟨_, _, ⟨inner, hl⟩, rfl, rfl⟩ := wrapped_cases hi
    · rfl
    · simp [wrapsEntry, only?, hp] at hw
    obtain rfl | hp | ⟨_, _, h, _⟩ := wrapped_cases hl
    · rfl
    · simp [wrapsEntry, only?, hp] at hw
    · exact h.elim

private theorem slots?_wrapped (call wrapped : Call)
    (h : FirstWrapping ChunkParts call.arguments wrapped.arguments) :
    (slots? call = none ∧ slots? wrapped = none) ∨ ∃ table table' entry entry',
      slots? call = some (table, entry) ∧ slots? wrapped = some (table', entry') ∧
        ElementWrapping NoParts table table' ∧ ElementWrapping EntryParts entry entry' := by
  have same (slots : Option (Element × Element)) : (slots = none ∧ slots = none) ∨
      ∃ table table' entry entry', slots = some (table, entry) ∧ slots = some (table', entry') ∧
        ElementWrapping NoParts table table' ∧
          ElementWrapping EntryParts entry entry' := by
    rcases slots with _ | ⟨table, entry⟩
    · exact .inl ⟨rfl, rfl⟩
    · exact .inr ⟨table, table, entry, entry, rfl, rfl, .same table, .same entry⟩
  unfold slots?
  generalize call.arguments = passed, wrapped.arguments = passed' at h
  cases h with
  | same => exact same _
  | first r he =>
    cases r with
    | cons => exact .inl ⟨rfl, rfl⟩
    | nil =>
      obtain hb | ⟨_, _, ⟨_, _, ht, hn⟩, hf, hf'⟩ := he.bare
      · simp only [hb]
        exact same _
      · simp only [hf, hf', Expr.bare]
        exact .inr ⟨_, _, _, _, rfl, rfl, ht, hn⟩

end Chunk

/-- Whether parentheses hide the entry that a call names. -/
def Call.hidesEntry (call : Call) : Bool :=
  match call.callee.bare with
  | .function _ body => Classic.wrapsRequired body
  | _ => (Chunk.slots? call).any fun slots => Chunk.wrapsEntry slots.2

private theorem Call.hidesEntry_of_not_function {call : Call}
    (hf : isFunction call.callee = false) :
    call.hidesEntry = (Chunk.slots? call).any fun slots => Chunk.wrapsEntry slots.2 := by
  unfold isFunction at hf
  unfold hidesEntry
  cases h : call.callee.bare with
  | function span body =>
    rw [h] at hf
    cases hf
  | _ => rfl

def Shape.unnamed (s : Shape) : Shape := { s with named := none }

namespace Classic

private theorem body_wrapped (h : Wrapping CalleeParts e e') (hf : isFunction e = true) :
    ∃ span body body', e.bare = .function span body ∧ e'.bare = .function span body' ∧
      namedId? body' = if wrapsRequired body' then none else namedId? body := by
  unfold isFunction at hf
  obtain hb | ⟨_, _, h, hg, hg'⟩ := h.bare
  · split at hf
    · rename_i span body he
      exact ⟨span, body, body, he, hb.trans he, namedId?_hidden body⟩
    · cases hf
  · rw [hg] at hf
    cases h with
    | function span inner stmts h =>
      exact ⟨span, _, _, hg, hg', namedId?_wrapped inner stmts h⟩
    | member | index => cases hf

private theorem shape_not_function (call wrapped : Call)
    (h : Wrapping CalleeParts call.callee wrapped.callee) (hf : isFunction call.callee = false) :
    ∃ failure, shape call = .error failure ∧ shape wrapped = .error failure := by
  unfold isFunction at hf
  unfold shape
  obtain hb | ⟨_, _, h, hg, hg'⟩ := h.bare
  · rw [hb]
    cases hc : call.callee.bare with
    | function span body =>
      rw [hc] at hf
      cases hf
    | _ => exact ⟨_, rfl, rfl⟩
  · rw [hg] at hf
    rw [hg, hg']
    cases h with
    | function => cases hf
    | member | index => exact ⟨_, rfl, rfl⟩

private theorem shape_wrapped {call wrapped : Call} (h : call.Wrapped wrapped) :
    shape wrapped =
      if wrapped.hidesEntry then (shape call).map Shape.unnamed else shape call := by
  obtain ⟨span, hf, hc, hp⟩ | ⟨span, hf, hc, hp⟩ := h
  · obtain ⟨_, body, body', hb, hb', hn⟩ := body_wrapped hc hf
    unfold shape Call.hidesEntry Call.firstArgument?
    simp only [hb, hb', hp.table, hn]
    split
    · split <;> rfl
    · split <;> rfl
  · rename_i callee callee' passed passed'
    obtain ⟨failure, hs, hs'⟩ := shape_not_function ⟨span, callee, passed⟩ ⟨span, callee', passed'⟩
      hc hf
    rw [hs, hs']
    split <;> rfl

end Classic

namespace Chunk

private theorem shape_wrapped {loader : String} {call wrapped : Call} (h : call.Wrapped wrapped) :
    shape loader wrapped =
      if wrapped.hidesEntry then (shape loader call).map Shape.unnamed else shape loader call := by
  obtain ⟨span, hf, hc, _⟩ | ⟨span, hf, hc, hp⟩ := h
  · unfold shape
    simp only [hf, hc.isFunction, if_true]
    split <;> rfl
  rename_i callee callee' passed passed'
  have hf' : isFunction callee' = false := hc.isFunction.trans hf
  rw [Call.hidesEntry_of_not_function hf']
  unfold shape
  simp only [hf, hf', hc.isLoaderCallee, Bool.false_eq_true, if_false]
  by_cases hl : isLoaderCallee loader callee.bare = true
  case neg =>
    simp only [hl, Bool.false_eq_true, if_false]
    split <;> rfl
  simp only [hl, if_true]
  obtain ⟨hs, hs'⟩ | ⟨table, table', entry, entry', hs, hs', ht, hn⟩ :=
    slots?_wrapped ⟨span, callee, passed⟩ ⟨span, callee', passed'⟩ hp
  · simp only [hs, hs', Option.any_none, Bool.false_eq_true, if_false]
  · simp only [hs, hs', Option.any_some, ht.table, namedId?_wrapped hn]
    cases wrapsEntry entry' <;> cases table.expr?.bind Table.ofExpr? <;> rfl

end Chunk

/-- Parentheses change the shape of a bundle only by hiding its entry. -/
theorem shapeAs_wrapped {call wrapped : Call} (h : call.Wrapped wrapped) (format : BundleFormat)
    (loader : String) : shapeAs format loader wrapped =
      if wrapped.hidesEntry then (shapeAs format loader call).map Shape.unnamed
      else shapeAs format loader call := by
  cases format with
  | classic => exact Classic.shape_wrapped h
  | chunk => exact Chunk.shape_wrapped h

private theorem inferredFormat_wrapped {call wrapped : Call} (h : call.Wrapped wrapped) :
    wrapped.inferredFormat = call.inferredFormat := by
  unfold Call.inferredFormat
  obtain ⟨span, _, hc, _⟩ | ⟨span, _, hc, _⟩ := h
  · rw [hc.isFunction]
  · rw [hc.isFunction]

def IsResolved (result : Except Failure Detection) : Prop :=
  ∃ found, result = .ok found ∧ found.entrySource = .resolved

private theorem Shape.settle_unnamed_iff (s : Shape) (format : BundleFormat) (o : Options) :
    s.unnamed.settle format o = s.settle format o ↔ ¬ IsResolved (s.settle format o) := by
  obtain ⟨table, named⟩ := s
  unfold settle unnamed IsResolved Detection.withEntry
  rcases o with ⟨_, _ | id, _⟩ <;> cases named <;> cases format <;> simp

private theorem detect_value_eq_iff (call wrapped : Call) (o : Options) :
    (detect wrapped o).value = (detect call o).value ↔
      (detect wrapped o).value.1 = (detect call o).value.1 := by
  constructor
  · exact congrArg Prod.fst
  · intro h
    refine Prod.ext h ?_
    rw [detect_options, detect_options, h]

private theorem Call.Wrapped.detect_iff {call wrapped : Call} (h : call.Wrapped wrapped)
    (o : Options) :
    (detect wrapped o).value = (detect call o).value ↔
      ¬ (wrapped.hidesEntry = true ∧ IsResolved (detect call o).value.1) := by
  rw [detect_value_eq_iff, detect_result, detect_result, inferredFormat_wrapped h,
    detectAs_outcome, detectAs_outcome, shapeAs_wrapped h]
  cases hidden : wrapped.hidesEntry with
  | false => simp
  | true =>
    cases shapeAs (o.format.getD call.inferredFormat) o.chunkGlobal call with
    | error failure => simp [IsResolved, Except.map]
    | ok s => simpa [Except.map] using s.settle_unnamed_iff _ o

namespace Classic

private theorem wrapsFirst_unplaced (passed : List Argument) :
    wrapsFirst (passed.map Argument.unplaced) = wrapsFirst passed := by
  rcases passed with _ | ⟨_ | e, r⟩
  case cons.item => cases e <;> rfl
  all_goals rfl

private theorem wrapsRequired_unplaced (body : List Stmt) :
    wrapsRequired (body.map Stmt.unplaced) = wrapsRequired body := by
  unfold wrapsRequired
  rw [List.getLast?_map]
  rcases body.getLast? with _ | ⟨_ | ⟨span, _ | e⟩ | _⟩
  case some.returning.some =>
    simp only [Option.map_some, Stmt.unplaced_returning, finalCall?_unplaced]
    cases finalCall? e with
    | none => rfl
    | some passed => exact wrapsFirst_unplaced passed
  all_goals rfl

end Classic

namespace Chunk

private theorem isParen_unplaced (element : Element) :
    isParen element.unplaced = isParen element := by
  rcases element with _ | _ | e
  case item => cases e <;> rfl
  all_goals rfl

private theorem wrapsEntry_unplaced (entry : Element) :
    wrapsEntry entry.unplaced = wrapsEntry entry := by
  unfold wrapsEntry
  simp only [only?_unplaced, isParen_unplaced, Option.any_map]

end Chunk

private theorem Call.hidesEntry_unplaced (call : Call) :
    call.unplaced.hidesEntry = call.hidesEntry := by
  have callee : call.unplaced.callee.bare = call.callee.bare.unplaced := call.callee.unplaced_bare
  unfold hidesEntry
  rw [callee, Chunk.slots?_unplaced]
  have slots : ((Chunk.slots? call).map (Prod.map Element.unplaced Element.unplaced)).any
      (fun slots => Chunk.wrapsEntry slots.2) =
        (Chunk.slots? call).any fun slots => Chunk.wrapsEntry slots.2 := by
    cases Chunk.slots? call with
    | none => rfl
    | some slots => exact Chunk.wrapsEntry_unplaced slots.2
  cases call.callee.bare with
  | function span body =>
    simp only [Expr.unplaced_function]
    exact Classic.wrapsRequired_unplaced body
  | _ => exact slots

private theorem isResolved_unplaced (result : Except Failure Detection) :
    IsResolved (result.map Detection.unplaced) ↔ IsResolved result := by
  cases result with
  | error failure => simp [IsResolved, Except.map]
  | ok found => simp [IsResolved, Except.map, Detection.unplaced]

/-- Parentheses around inspected expressions change nothing, whatever the options, unless they hide
the entry that the bundle names: in a bootstrap function those around what the require call passes,
in a chunk those around the entry slot, the array in it or the literal in that. -/
theorem detect_wrapped_iff {call wrapped : Call} (h : call.unplaced.Wrapped wrapped.unplaced)
    (o : Options) : detectUnplaced wrapped o = detectUnplaced call o ↔
      ¬ (wrapped.hidesEntry = true ∧ IsResolved (detect call o).value.1) := by
  have unplaced := h.detect_iff o
  rw [wrapped.hidesEntry_unplaced, detect_unplaced, detect_unplaced] at unplaced
  rw [unplaced]
  exact not_congr (and_congr_right fun _ => isResolved_unplaced _)

/-- Parentheses around a loader, its argument and the table in that keep the entry. -/
theorem detect_wrapped_iff_loader :
    let s : Span := default
    let entry : Element := .item (.array s [.item (.array s [.item (.string s "a")])])
    let call : Call := ⟨s, .identifier s "f",
      [.item (.array s [.item (.this s), .item (.array s []), entry])]⟩
    let wrapped : Call := ⟨s, .paren s (.identifier s "f"),
      [.item (.paren s (.array s [.item (.this s), .item (.paren s (.array s [])), entry]))]⟩
    call.unplaced.Wrapped wrapped.unplaced ∧
      detectUnplaced wrapped ⟨none, none, "f"⟩ = detectUnplaced call ⟨none, none, "f"⟩ ∧
        (detectUnplaced call ⟨none, none, "f"⟩).2.entry = some (.name "a") := by
  intro s entry call wrapped
  have h : call.unplaced.Wrapped wrapped.unplaced :=
    .chunk _ rfl (.around _ (.same _)) (.first _ (.around _ (.inside
      (.array _ _ (.item (.around _ (.same _))) (.same _)))))
  refine ⟨h, (detect_wrapped_iff h _).mpr ?_, rfl⟩
  rintro ⟨hidden, _⟩
  cases hidden

/-- Parentheses in the entry slot of a chunk and around what a require call passes lose the entry,
the latter the whole bundle. -/
theorem detect_wrapped_hidden :
    let s : Span := default
    let chunk (inner : Expr) : Call := ⟨s, .identifier s "f",
      [.item (.array s [.item (.this s), .item (.array s []), .item (.array s [.item inner])])]⟩
    let named : Expr := .array s [.item (.string s "a")]
    let classic (passed : Expr) : Call := ⟨s, .function s
      [.returning s (some (.call s (.identifier s "r") [.item passed]))], [.item (.array s [])]⟩
    let required : Expr := .number s .zero
    let o : Options := ⟨none, none, "f"⟩
    ((chunk named).unplaced.Wrapped (chunk (.paren s named)).unplaced ∧
      (detect (chunk named) o).value.2.entry = some (.name "a") ∧
      (detect (chunk (.paren s named)) o).value.2.entry = none) ∧
    (classic required).unplaced.Wrapped (classic (.paren s required)).unplaced ∧
      (detect (classic required) o).value.2.entry = some (.number 0) ∧
      (detect (classic (.paren s required)) o).value.1.isOk = false := by
  intro s chunk named classic required o
  refine ⟨⟨?_, rfl, rfl⟩, ?_, by decide +kernel +revert, rfl⟩
  · exact .chunk _ rfl (.same _) (.first _ (.inside (.array _ _ (.same _) (.item (.inside
      (.array _ (.item (.around _ (.same _)))))))))
  · exact .classic _ rfl (.inside (.function _ _ [] (.inside (.call (.call _ _
      (.first _ (.around _ (.same _)))))))) (.same _)

end BundleLens.Bundle
