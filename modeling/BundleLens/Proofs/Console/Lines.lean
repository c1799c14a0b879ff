import BundleLens.Console
import BundleLens.Proofs.Text.Quoted

/-! Lines on the console. Lines without a break in them are the lines that a reader of the text
sees, and styles add no break. -/
namespace BundleLens.Console
open Text

variable {text more on : List Char}

theorem unlines_append (lines others : List String) :
    unlines (lines ++ others) = unlines lines ++ unlines others := by
  unfold unlines
  rw [List.map_append, String.join_append]

theorem toList_unlines_cons (line : String) (lines : List String) :
    (unlines (line :: lines)).toList = line.toList ++ '\n' :: (unlines lines).toList := by
  unfold unlines
  rw [List.map_cons, String.join_cons, String.toList_append, String.toList_append, List.append_assoc]
  rfl

def OneLine (text : List Char) : Prop := ∀ ch ∈ text, isLineBreak ch = false

-- over the members of the text, not over all characters there are
instance decidableOneLine (text : List Char) : Decidable (OneLine text) :=
  List.decidableBAll (fun ch => isLineBreak ch = false) text

theorem OneLine.append (first : OneLine text) (second : OneLine more) : OneLine (text ++ more) :=
  List.forall_mem_append.mpr ⟨first, second⟩

theorem oneLine_of_visible (visible : ∀ ch ∈ text, isHidden ch = false) : OneLine text := by
  intro ch h
  refine Bool.eq_false_iff.mpr fun breaks => ?_
  have hidden := isHidden_of_isLineBreak breaks
  rw [visible ch h] at hidden
  cases hidden

theorem splitOnP_unlines {lines : List String} (whole : ∀ line ∈ lines, OneLine line.toList) :
    (unlines lines).toList.splitOnP isLineBreak = lines.map String.toList ++ [[]] := by
  induction lines with
  | nil => rfl
  | cons line lines ih =>
    obtain ⟨first, rest⟩ := List.forall_mem_cons.mp whole
    rw [toList_unlines_cons, List.splitOnP_append_cons_of_forall_mem first _ rfl, ih rest]
    rfl

private theorem oneLine_reset : OneLine reset := by decide

private theorem oneLine_on (style : Style) : OneLine style.on := by cases style <;> decide

private theorem OneLine.restore (switch : OneLine on) (h : OneLine text) :
    OneLine (restore on text) := by
  induction text using Console.restore.induct with
  | case1 r ih =>
    have rest : OneLine r := fun ch hc => h ch (by simp [hc])
    rw [Console.restore]
    exact (oneLine_reset.append switch).append (ih rest)
  | case2 c r other ih =>
    obtain ⟨first, rest⟩ := List.forall_mem_cons.mp h
    rw [Console.restore]
    · exact List.forall_mem_cons.mpr ⟨first, ih rest⟩
    · exact other
  | case3 => exact h

theorem OneLine.paint {words : String} (h : OneLine words.toList) (colour : Bool) (style : Style) :
    OneLine (paint colour style words).toList := by
  unfold Console.paint
  split
  · rw [String.toList_ofList]
    exact ((oneLine_on style).append ((oneLine_on style).restore h)).append oneLine_reset
  · exact h

private theorem sublist_restore (on text : List Char) : text.Sublist (restore on text) := by
  induction text using Console.restore.induct with
  | case1 r ih =>
    rw [Console.restore, List.append_assoc]
    exact (List.Sublist.refl reset).append (ih.trans (List.sublist_append_right on _))
  | case2 c r other ih =>
    rw [Console.restore]
    · exact ih.cons_cons c
    · exact other
  | case3 => exact List.Sublist.refl []

/-- A style adds to a text and takes nothing from it. -/
theorem sublist_paint (colour : Bool) (style : Style) (words : String) :
    words.toList.Sublist (paint colour style words).toList := by
  unfold Console.paint
  split
  · rw [String.toList_ofList]
    exact ((sublist_restore style.on words.toList).trans (List.sublist_append_right _ _)).trans
      (List.sublist_append_left _ _)
  · exact List.Sublist.refl _

end BundleLens.Console
