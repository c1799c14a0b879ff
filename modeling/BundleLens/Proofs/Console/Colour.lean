import BundleLens.Proofs.Console.Quiet
import BundleLens.Proofs.DisplayedId
import BundleLens.Proofs.Json.Controls
import BundleLens.Proofs.Report.Json
import Mathlib.Data.List.Forall2

/-! Colours on the console. They add the sequences that switch styles and nothing else: what is left of a
text without those is what is shown when there are no colours. -/
namespace BundleLens.Console

def isParameter (c : Char) : Bool := c.isDigit || c == ';'

/-- What follows the sequence that switches styles at the front of a text, if one is there: an escape, a
bracket, parameters and an m. -/
def afterSwitch? : List Char → Option (List Char)
  | '\x1b' :: '[' :: r =>
    match r.dropWhile isParameter with
    | 'm' :: rest => some rest
    | _ => none
  | _ => none

private theorem length_afterSwitch? {text rest : List Char} (h : afterSwitch? text = some rest) :
    rest.length < text.length := by
  unfold afterSwitch? at h
  repeat' split at h
  all_goals cases h
  rename_i r _ dropped
  have shorter := (List.dropWhile_sublist isParameter (l := r)).length_le
  rw [dropped] at shorter
  simp only [List.length_cons] at shorter ⊢
  omega

def unstyled : List Char → List Char
  | [] => []
  | c :: r =>
    match _found : afterSwitch? (c :: r) with
    | some rest => unstyled rest
    | none => c :: unstyled r
termination_by text => text.length
decreasing_by
  · exact length_afterSwitch? _found
  · exact Nat.lt_succ_self _

variable {text rest on : List Char}

/-- Sequences are removed whatever their parameters are. One that is broken off stays. -/
example : unstyled "\x1b[1;31mno\x1b[m end\x1b[3".toList = "no end\x1b[3".toList := by cbv

private theorem unstyled_switch (h : afterSwitch? text = some rest) :
    unstyled text = unstyled rest := by
  cases text with
  | nil => cases h
  | cons c r =>
    rw [unstyled]
    split
    · rename_i found
      rw [h] at found
      cases found
      rfl
    · rename_i found
      rw [h] at found
      cases found

private theorem unstyled_cons {c : Char} (h : afterSwitch? (c :: text) = none) :
    unstyled (c :: text) = c :: unstyled text := by
  rw [unstyled]
  split
  · rename_i found
    rw [h] at found
    cases found
  · rfl

private theorem afterSwitch?_cons_of_ne {c : Char} (h : c ≠ '\x1b') :
    afterSwitch? (c :: text) = none := by
  unfold afterSwitch?
  split
  · rename_i same
    exact absurd (List.cons.inj same).1 h
  · rfl

/-- Where no escape stands, there is nothing to remove. -/
theorem unstyled_append (h : '\x1b' ∉ text) : unstyled (text ++ rest) = text ++ unstyled rest := by
  induction text with
  | nil => rfl
  | cons c text ih =>
    have first : c ≠ '\x1b' := Ne.symm (List.ne_of_not_mem_cons h)
    have others : '\x1b' ∉ text := List.not_mem_of_not_mem_cons h
    rw [List.cons_append, unstyled_cons (afterSwitch?_cons_of_ne first), ih others]
    rfl

private theorem afterSwitch?_on (style : Style) (rest : List Char) :
    afterSwitch? (style.on ++ rest) = some rest := by
  cases style <;> rfl

private theorem afterSwitch?_reset (rest : List Char) :
    afterSwitch? (reset ++ rest) = some rest := rfl

private theorem restore_of_no_escape (h : '\x1b' ∉ text) : restore on text = text := by
  induction text using Console.restore.induct with
  | case1 r ih => exact absurd List.mem_cons_self h
  | case2 c r other ih =>
    rw [restore]
    · rw [ih (List.not_mem_of_not_mem_cons h)]
    · exact other
  | case3 => rfl

def NoEscape (words : String) : Prop := '\x1b' ∉ words.toList

instance decidableNoEscape (words : String) : Decidable (NoEscape words) :=
  inferInstanceAs (Decidable ('\x1b' ∉ words.toList))

theorem NoEscape.append {words more : String} (first : NoEscape words) (second : NoEscape more) :
    NoEscape (words ++ more) := by
  unfold NoEscape
  rw [String.toList_append, List.mem_append, not_or]
  exact ⟨first, second⟩

private theorem noEscape_of_visible {words : String}
    (visible : ∀ c ∈ words.toList, Text.isHidden c = false) : NoEscape words := by
  intro escape
  have hidden : Text.isHidden '\x1b' = true := by decide
  rw [visible _ escape] at hidden
  cases hidden

private theorem noEscape_display (id : ModuleId) : NoEscape id.display :=
  noEscape_of_visible id.isHidden_of_mem_display

theorem noEscape_toString (n : Nat) : NoEscape (toString n) := by
  intro escape
  have digit : '\x1b'.isDigit = true := Number.isDigit_of_mem_toString escape
  exact absurd digit (by decide)

private theorem noEscape_padRight {words : String} (h : NoEscape words) (width : Nat) :
    NoEscape (padRight width words) := by
  refine h.append fun escape => ?_
  rw [String.toList_ofList] at escape
  exact absurd (List.eq_of_mem_replicate escape) (by decide)

private theorem noEscape_of_tidy {words : String} (h : Json.Tidy words.toList) :
    NoEscape words := by
  intro escape
  exact absurd (h _ escape) (by decide)

/-- A text shows words if they are what is left of it, whatever follows it. -/
def Shows (text words : String) : Prop :=
  ∀ rest, unstyled (text.toList ++ rest) = words.toList ++ unstyled rest

private theorem NoEscape.shows {words : String} (h : NoEscape words) : Shows words words :=
  fun _ => unstyled_append h

private theorem Shows.append {text words other more : String} (first : Shows text words)
    (second : Shows other more) : Shows (text ++ other) (words ++ more) := by
  intro rest
  rw [String.toList_append, String.toList_append, List.append_assoc, List.append_assoc, first, second]

theorem shows_paint (style : Style) {words : String} (h : NoEscape words) :
    Shows (paint true style words) (paint false style words) := by
  intro rest
  unfold paint
  rw [if_pos rfl, if_neg (by decide), String.toList_ofList, restore_of_no_escape h,
    List.append_assoc, List.append_assoc, unstyled_switch (afterSwitch?_on style _),
    unstyled_append h, unstyled_switch (afterSwitch?_reset rest)]

private theorem shows_unlines {lines others : List String} (h : List.Forall₂ Shows lines others) :
    Shows (unlines lines) (unlines others) := by
  induction h with
  | nil => exact fun _ => rfl
  | cons first _ ih =>
    unfold unlines at ih ⊢
    rw [List.map_cons, List.map_cons, String.join_cons, String.join_cons]
    have lineEnd : NoEscape "\n" := by decide
    exact (first.append lineEnd.shows).append ih

private theorem forall₂_map {α : Type} {shown plain : α → String} {xs : List α}
    (each : ∀ x ∈ xs, Shows (shown x) (plain x)) :
    List.Forall₂ Shows (xs.map shown) (xs.map plain) := by
  rw [List.forall₂_map_left_iff, List.forall₂_map_right_iff]
  exact List.forall₂_same.mpr each

def coloured (c : Console) : Console := { c with colour := true }

def uncoloured (c : Console) : Console := { c with colour := false }

private theorem shows_entryText (c : Console) (entry : Option ModuleId)
    (source : Option EntrySource) :
    Shows (c.coloured.entryText entry source) (c.uncoloured.entryText entry source) := by
  cases entry with
  | none => exact shows_paint .faint (by decide)
  | some id =>
    have shown := noEscape_display id
    have remark : NoEscape " (given)" := by decide
    rcases source with _ | _ | _ | _
    · exact shows_paint .good shown
    · exact shows_paint .given (shown.append remark)
    · exact shows_paint .good shown
    · exact shows_paint .good shown

private theorem shows_moduleLine (c : Console) (m : ModuleSummary) :
    Shows (c.coloured.moduleLine m) (c.uncoloured.moduleLine m) := by
  have indent : NoEscape "        " := by decide
  have blank : NoEscape " " := by decide
  have mark : Shows (if m.isEntry then paint true .mark "*" else " ")
      (if m.isEntry then paint false .mark "*" else " ") := by
    split
    · exact shows_paint .mark (by decide)
    · exact blank.shows
  have id : NoEscape (padRight 12 m.id.display) := noEscape_padRight (noEscape_display m.id) 12
  have dots : NoEscape ".." := by decide
  have extent : NoEscape (toString m.start ++ ".." ++ toString m.stop) :=
    ((noEscape_toString m.start.toNat).append dots).append (noEscape_toString m.stop.toNat)
  exact ((((indent.shows.append mark).append blank.shows).append id.shows).append blank.shows).append
    (shows_paint .faint extent)

/-- The texts that a report holds as they were found are without escapes. -/
structure Unescaped (r : Report) : Prop where
  source : NoEscape r.source
  errors : ∀ error ∈ r.errors, NoEscape error

private theorem shows_reportLines (c : Console) {r : Report} (plain : Unescaped r) :
    List.Forall₂ Shows (c.coloured.reportLines r) (c.uncoloured.reportLines r) := by
  have empty : NoEscape "" := by decide
  have blank : NoEscape " " := by decide
  have rule : Shows (paint true .heading "===") (paint false .heading "===") :=
    shows_paint .heading (by decide)
  have title := (rule.append blank.shows).append (shows_paint .name plain.source)
  unfold reportLines
  split
  · have formatName : NoEscape ((r.format.map BundleFormat.name).getD "unknown") := by
      rcases r.format with _ | _ | _ <;> decide
    have format : NoEscape "    |-- Format:  " := by decide
    have entry : NoEscape "    |-- Entry:   " := by decide
    have modules : NoEscape "    +-- Modules: " := by decide
    have count := noEscape_toString r.moduleCount.toNat
    refine List.rel_append (.cons empty.shows (.cons title (.cons (format.append formatName).shows
      (.cons (entry.shows.append (shows_entryText c r.entry r.entrySource))
        (.cons (modules.append count).shows .nil))))) ?_
    change List.Forall₂ Shows (if c.verbose then _ else _) (if c.verbose then _ else _)
    split
    · exact forall₂_map fun m _ => shows_moduleLine c m
    · exact .nil
  · have lead : NoEscape "    +-- " := by decide
    exact .cons empty.shows (.cons title (forall₂_map fun error listed =>
      lead.shows.append (shows_paint .error (plain.errors error listed))))

private theorem shows_report (c : Console) {r : Report} (plain : Unescaped r) :
    Shows (c.coloured.report r) (c.uncoloured.report r) := by
  unfold report
  change Shows (if c.json || (c.quiet && r.isOk) then _ else _)
    (if c.json || (c.quiet && r.isOk) then _ else _)
  split
  · exact fun _ => rfl
  · exact shows_unlines (shows_reportLines c plain)

private theorem shows_reports (c : Console) {rs : List Report} (plain : ∀ r ∈ rs, Unescaped r) :
    Shows (c.coloured.reports rs) (c.uncoloured.reports rs) := by
  induction rs with
  | nil => exact fun _ => rfl
  | cons r rs ih =>
    obtain ⟨first, others⟩ := List.forall_mem_cons.mp plain
    rw [reports_cons, reports_cons]
    exact (shows_report c first).append (ih others)

private theorem shows_summaryLines (c : Console) (rs : List Report) (total : UInt64) :
    List.Forall₂ Shows (c.coloured.summaryLines rs total) (c.uncoloured.summaryLines rs total) := by
  have empty : NoEscape "" := by decide
  have rule : Shows (paint true .heading "=== Summary ===") (paint false .heading "=== Summary ===") :=
    shows_paint .heading (by decide)
  have inputs : NoEscape "  Inputs:   " := by decide
  have modules : NoEscape "  Modules:  " := by decide
  have lead : NoEscape "  " := by decide
  have failed : NoEscape "Failed inputs: " := by decide
  have verdict : Shows
      (if failures rs = 0 then paint true .good "All inputs recognized."
        else paint true .alarm ("Failed inputs: " ++ toString (failures rs)))
      (if failures rs = 0 then paint false .good "All inputs recognized."
        else paint false .alarm ("Failed inputs: " ++ toString (failures rs))) := by
    split
    · exact shows_paint .good (by decide)
    · exact shows_paint .alarm (failed.append (noEscape_toString _))
  exact .cons empty.shows (.cons rule
    (.cons (inputs.append (noEscape_toString rs.length)).shows
    (.cons (modules.append (noEscape_toString total.toNat)).shows
    (.cons (lead.shows.append verdict) (.cons empty.shows .nil)))))

private theorem noEscape_prettyList (rs : List Report) : NoEscape (Report.prettyList rs) :=
  noEscape_of_tidy (Json.Value.array_plain Report.toJson_plain rs).tidy_pretty

/-- The total does not depend on colours, and so neither does whether there is a summary. -/
private theorem shows_summary? (c : Console) (rs : List Report) :
    Option.Rel Shows (c.coloured.summary? rs) (c.uncoloured.summary? rs) := by
  unfold summary?
  change Option.Rel Shows (if c.json then _ else if c.quiet && failures rs == 0 then _ else _)
    (if c.json then _ else if c.quiet && failures rs == 0 then _ else _)
  split
  · have lineEnd : NoEscape "\n" := by decide
    exact .some ((noEscape_prettyList rs).append lineEnd).shows
  split
  · exact .some fun _ => rfl
  cases totalModules? rs with
  | none => exact .none
  | some total => exact .some (shows_unlines (shows_summaryLines c rs total))

private theorem Shows.getD {text words : Option String} (h : Option.Rel Shows text words) :
    Shows (text.getD "") (words.getD "") := by
  cases h with
  | some shown => exact shown
  | none => exact fun _ => rfl

private theorem isSome_eq_of_rel {α β : Type} {related : α → β → Prop} {x : Option α} {y : Option β}
    (h : Option.Rel related x y) : x.isSome = y.isSome := by
  cases h <;> rfl

/-- Colours add sequences that switch styles and nothing else. Unless such sequences come from the
sources and errors of reports themselves, all that is shown with colours is, without them, what is
shown when there are no colours: with the same blanks before, between and behind the words, on any
console. With colours and without, the program stops before the summary alike. -/
theorem colours_add_styles_only (c : Console) {rs : List Report} (plain : ∀ r ∈ rs, Unescaped r) :
    unstyled (c.coloured.reports rs ++ c.coloured.summary rs).toList =
        (c.uncoloured.reports rs ++ c.uncoloured.summary rs).toList ∧
      (c.coloured.summary? rs).isSome = (c.uncoloured.summary? rs).isSome := by
  have summaries := shows_summary? c rs
  have shown := ((shows_reports c plain).append (Shows.getD summaries)) []
  rw [List.append_nil, unstyled, List.append_nil] at shown
  exact ⟨shown, isSome_eq_of_rel summaries⟩

/-- A bundle whose entry is named like a sequence that switches styles off, and a failure. -/
theorem colours_add_styles_only_named :
    let console : Console := { verbose := true }
    let id := ModuleId.name "\x1b[0m"
    let modules := [⟨.number 5, false, 0, 9⟩, ⟨id, true, 12, 30⟩]
    let bundle : Report := ⟨"a.js", some .chunk, some id, some .override, 2, modules, []⟩
    let failure : Report := ⟨"b.js", none, none, none, 0, [], ["first", "second"]⟩
    let reports := [bundle, failure]
    (∀ r ∈ reports, Unescaped r) ∧
      unstyled (console.coloured.reports reports ++ console.coloured.summary reports).toList =
        (unlines ["", "=== a.js", "    |-- Format:  webpack-jsonp",
          "    |-- Entry:   \x22\\u\x7b1b\x7d[0m\x22 (given)", "    +-- Modules: 2",
          "          5            0..9", "        * \x22\\u\x7b1b\x7d[0m\x22  12..30",
          "", "=== b.js", "    +-- first", "    +-- second",
          "", "=== Summary ===", "  Inputs:   2", "  Modules:  2", "  Failed inputs: 1", ""]).toList ∧
      console.coloured.reports reports ≠ console.uncoloured.reports reports := by
  intro console id modules bundle failure reports
  have plain : ∀ r ∈ reports, Unescaped r :=
    List.forall_mem_cons.mpr ⟨⟨by decide, by decide⟩, List.forall_mem_singleton.mpr
      ⟨by decide, by decide⟩⟩
  refine ⟨plain, ?_, by decide +kernel⟩
  rw [(colours_add_styles_only console plain).1]
  exact congrArg String.toList (by decide +kernel)

end BundleLens.Console
