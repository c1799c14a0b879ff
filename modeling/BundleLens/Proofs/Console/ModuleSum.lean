import BundleLens.Console
import Mathlib

/-! The total in a summary: checked on the way, it is the exact sum or there is none. -/
namespace BundleLens.Console

variable {rs : List Report}

/-- The number of modules in all reports, however large it is. -/
def moduleSum (rs : List Report) : Nat := (rs.map fun r => r.moduleCount.toNat).sum

private theorem moduleSum_cons (r : Report) (rs : List Report) :
    moduleSum (r :: rs) = r.moduleCount.toNat + moduleSum rs := by
  unfold moduleSum
  rw [List.map_cons, List.sum_cons]

private theorem moduleSum_append (rs more : List Report) :
    moduleSum (rs ++ more) = moduleSum rs + moduleSum more := by
  unfold moduleSum
  rw [List.map_append, List.sum_append]

private theorem addModules?_eq_some_iff {m n total : UInt64} :
    addModules? m n = some total ↔ total.toNat = m.toNat + n.toNat := by
  unfold addModules?
  split
  · rename_i fits
    have exact_sum : (m + n).toNat = m.toNat + n.toNat := by
      rw [UInt64.toNat_add]
      exact Nat.mod_eq_of_lt fits
    rw [Option.some_inj, ← UInt64.toNat_inj, exact_sum]
    exact eq_comm
  · rename_i large
    have bounded : total.toNat < UInt64.size := total.toNat_lt
    simp only [reduceCtorEq, false_iff]
    omega

private theorem foldlM_addModules?_eq_some_iff {rs : List Report} {start total : UInt64} :
    rs.foldlM (fun n r => addModules? n r.moduleCount) start = some total ↔
      total.toNat = start.toNat + moduleSum rs := by
  induction rs generalizing start with
  | nil =>
    rw [List.foldlM_nil]
    exact Option.some_inj.trans (eq_comm.trans UInt64.toNat_inj.symm)
  | cons r rs ih =>
    rw [List.foldlM_cons, moduleSum_cons]
    constructor
    · intro added
      obtain ⟨next, first, rest⟩ := Option.bind_eq_some_iff.mp added
      rw [ih.mp rest, addModules?_eq_some_iff.mp first, Nat.add_assoc]
    · intro sum
      have bounded : total.toNat < UInt64.size := total.toNat_lt
      -- no sum on the way is larger than the last one
      have fits : start.toNat + r.moduleCount.toNat < UInt64.size := by omega
      have first : addModules? start r.moduleCount = some (start + r.moduleCount) := if_pos fits
      refine Option.bind_eq_some_iff.mpr ⟨_, first, ih.mpr ?_⟩
      rw [addModules?_eq_some_iff.mp first, sum, Nat.add_assoc]

theorem totalModules?_eq_some_iff {total : UInt64} :
    totalModules? rs = some total ↔ total.toNat = moduleSum rs := by
  unfold totalModules?
  rw [foldlM_addModules?_eq_some_iff]
  exact iff_of_eq (congrArg (total.toNat = ·) (Nat.zero_add _))

theorem exists_totalModules?_iff :
    (∃ total, totalModules? rs = some total) ↔ moduleSum rs < UInt64.size := by
  constructor
  · rintro ⟨total, counted⟩
    rw [← totalModules?_eq_some_iff.mp counted]
    exact total.toNat_lt
  · intro fits
    exact ⟨.ofNat (moduleSum rs), totalModules?_eq_some_iff.mpr (UInt64.toNat_ofNat_of_lt fits)⟩

theorem totalModules?_eq_none_iff : totalModules? rs = none ↔ UInt64.size ≤ moduleSum rs := by
  rw [← Nat.not_lt, ← exists_totalModules?_iff, Option.eq_none_iff_forall_ne_some, not_exists]

theorem size_le_moduleSum_of_stopped {c : Console} (stopped : c.summary? rs = none) :
    UInt64.size ≤ moduleSum rs := by
  unfold summary? at stopped
  split at stopped
  · cases stopped
  split at stopped
  · cases stopped
  · exact totalModules?_eq_none_iff.mp (Option.map_eq_none_iff.mp stopped)

/-- No addition on the way to the total exceeds 64 bits. -/
def SumsFit (rs : List Report) : Prop :=
  ∀ front r back before, rs = front ++ r :: back → totalModules? front = some before →
    ∃ after, addModules? before r.moduleCount = some after

theorem sumsFit_iff : SumsFit rs ↔ moduleSum rs < UInt64.size := by
  constructor
  · intro fit
    induction rs using List.reverseRecOn with
    | nil => exact Nat.zero_lt_of_lt (UInt64.toNat_lt 0)
    | append_singleton front r ih =>
      have front_lt : moduleSum front < UInt64.size := ih fun before r' after n split counted =>
        fit before r' (after ++ [r]) n (by rw [split, List.append_assoc]; rfl) counted
      obtain ⟨before, counted⟩ := exists_totalModules?_iff.mpr front_lt
      obtain ⟨after, added⟩ := fit front r [] before rfl counted
      have last : after.toNat = moduleSum (front ++ [r]) := by
        rw [addModules?_eq_some_iff.mp added, totalModules?_eq_some_iff.mp counted, moduleSum_append]
        rfl
      rw [← last]
      exact after.toNat_lt
  · rintro small front r back before rfl counted
    have sum := totalModules?_eq_some_iff.mp counted
    rw [moduleSum_append, moduleSum_cons] at small
    exact ⟨_, if_pos (by omega)⟩

end BundleLens.Console
