import BundleLens.Proofs.Bundle.EntryKey
import BundleLens.Proofs.Report

/-! Keys that occur more than once. Positions of an array give different ids. The properties of an
object are listed one by one, though a property whose key comes again replaces the one before it, so
their ids differ only if their keys do. -/
namespace BundleLens.Bundle
open Script ModuleId

namespace Table

def propertyId? : Property → Option ModuleId
  | .entry _ key _ => idOfKey? key
  | .spread .. => none

/-- No two properties of an object stand under one id. -/
def NoRepeatedKey : Table → Prop
  | array .. => True
  | object _ properties => properties.Pairwise fun p q => propertyId? p ≠ propertyId? q

private theorem elementModules_ids {position : Nat} {elements : List Element}
    {modules : List Module} (h : elementModules position elements = .ok modules)
    (fits : position + elements.length ≤ UInt64.size) :
    (modules.map (·.id)).Nodup ∧ ∀ m ∈ modules,
      ∃ n, position ≤ n ∧ n < UInt64.size ∧ m.id = .number (.ofNat n) := by
  induction elements generalizing position modules with
  | nil =>
    cases h
    exact ⟨List.nodup_nil, nofun⟩
  | cons element r ih =>
    rw [List.length_cons] at fits
    have next : position + 1 + r.length ≤ UInt64.size := by omega
    cases element with
    | hole span =>
      obtain ⟨distinct, later⟩ := ih h next
      refine ⟨distinct, fun m hm => ?_⟩
      obtain ⟨n, hn, hs, hi⟩ := later m hm
      exact ⟨n, by omega, hs, hi⟩
    | spread span value => cases h
    | item factory =>
      obtain ⟨rest, hr, hm⟩ := bind_eq_ok_iff.mp h
      cases hm
      obtain ⟨distinct, later⟩ := ih hr next
      constructor
      · rw [List.map_cons, List.nodup_cons]
        refine ⟨fun hmem => ?_, distinct⟩
        -- Later positions are greater, and none is so great that its number wraps.
        obtain ⟨m, hm, same⟩ := List.mem_map.mp hmem
        obtain ⟨n, hn, hs, hi⟩ := later m hm
        rw [hi, number.injEq] at same
        have := congrArg UInt64.toNat same
        rw [UInt64.toNat_ofNat_of_lt' hs, UInt64.toNat_ofNat_of_lt' (by omega)] at this
        omega
      · intro m hm
        obtain rfl | hm := List.mem_cons.mp hm
        · exact ⟨position, by omega, by omega, rfl⟩
        · obtain ⟨n, hn, hs, hi⟩ := later m hm
          exact ⟨n, by omega, hs, hi⟩

theorem propertyModules_ids {properties : List Property} {modules : List Module}
    (h : propertyModules properties = .ok modules) :
    properties.map propertyId? = modules.map fun m => some m.id := by
  induction properties generalizing modules with
  | nil =>
    cases h
    rfl
  | cons property r ih =>
    cases property with
    | spread span value => cases h
    | entry span key factory =>
      unfold propertyModules at h
      cases hi : idOfKey? key with
      | none => simp [hi] at h
      | some id =>
        rw [hi] at h
        obtain ⟨rest, hr, hm⟩ := bind_eq_ok_iff.mp h
        cases hm
        rw [List.map_cons, List.map_cons, ih hr]
        exact congrArg (· :: _) hi

/-- The ids of the modules of a table differ exactly if no key is repeated. -/
theorem modules_nodup_iff {table : Table} {modules : List Module} (h : table.modules = .ok modules)
    (fits : table.size ≤ UInt64.size) : (modules.map (·.id)).Nodup ↔ table.NoRepeatedKey := by
  cases table with
  | array span elements =>
    have fits : 0 + elements.length ≤ UInt64.size := by rw [Nat.zero_add]; exact fits
    exact iff_of_true (elementModules_ids h fits).1 trivial
  | object span properties =>
    have ids : (modules.map (·.id)).map some = properties.map propertyId? := by
      rw [propertyModules_ids h, List.map_map]
      rfl
    rw [← List.nodup_map_iff (Option.some_injective _), ids]
    exact List.pairwise_map

end Table

/-- The ids in a report differ exactly if no key of the table is repeated, and then at most one module
is marked. In an object as many modules are marked as properties stand under the entry. Keys that
denote properties repeat each other exactly if they denote the same one. -/
theorem ids_distinct_iff_no_repeated_key {o : Options} {name source : String} {report : Report}
    {found : Detection} (unpacked : (unpackSource o name source).outcome = .ok report)
    (detected : (detectSource o name source).outcome = .ok found)
    (fits : found.table.size ≤ UInt64.size) :
    ((report.modules.map (·.id)).Nodup ↔ found.table.NoRepeatedKey) ∧
    (found.table.NoRepeatedKey → report.modules.countP (·.isEntry) ≤ 1) ∧
    (∀ span properties, found.table = .object span properties →
      report.modules.countP (·.isEntry) =
        (properties.map Table.propertyId?).count report.entry) ∧
    ∀ key other text text', denotedKey? key = some text → denotedKey? other = some text' →
      (Table.idOfKey? key = Table.idOfKey? other ↔ text = text') := by
  obtain ⟨-, call, -, tells⟩ := unpackSource_tellsBundle unpacked
  obtain ⟨modules, hm, hr⟩ := unpackSource_ok_of_detected detected unpacked
  obtain ⟨listed, hl, ids⟩ := Report.ofModules_ids name hm
  rw [← hr] at ids
  have distinct_iff : (report.modules.map (·.id)).Nodup ↔ found.table.NoRepeatedKey := by
    rw [ids]
    exact Table.modules_nodup_iff hl fits
  refine ⟨distinct_iff, fun unrepeated => ?_, fun span properties object => ?_,
    fun key other text text' hk ho => ?_⟩
  · have distinct := (distinct_iff.mpr unrepeated).map (Option.some_injective _)
    rw [List.map_map] at distinct
    rw [tells.countP_isEntry]
    exact List.nodup_iff_count_le_one.mp distinct report.entry
  · rw [object] at hl
    rw [tells.countP_isEntry, Table.propertyModules_ids hl]
    have same := congrArg (List.map some) ids
    rw [List.map_map, List.map_map] at same
    exact congrArg (List.count report.entry) same
  · rw [idOfKey?_of_denotedKey? hk, idOfKey?_of_denotedKey? ho, Option.some_inj]
    exact ⟨fun same => ofKey_injective same, fun same => by rw [same]⟩

/-- A table with a text and a number for keys, which differ. -/
theorem ids_distinct_iff_no_repeated_key_pair :
    ∃ report found, (unpackSource ⟨none, none, "f"⟩ "a.js" "f([0,{a:0,5:0},[['a']]])").outcome =
        .ok report ∧
      (detectSource ⟨none, none, "f"⟩ "a.js" "f([0,{a:0,5:0},[['a']]])").outcome = .ok found ∧
      found.table.size ≤ UInt64.size ∧
      ((report.modules.map (·.id)).Nodup ↔ found.table.NoRepeatedKey) := by
  obtain ⟨report, unpacked, -⟩ : ∃ report,
      (unpackSource ⟨none, none, "f"⟩ "a.js" "f([0,{a:0,5:0},[['a']]])").outcome = .ok report ∧
        report.errors = [] := exists_ok (by decide +kernel)
  obtain ⟨found, detected, fits⟩ : ∃ found,
      (detectSource ⟨none, none, "f"⟩ "a.js" "f([0,{a:0,5:0},[['a']]])").outcome = .ok found ∧
        found.table.size ≤ UInt64.size := exists_ok (by decide +kernel)
  exact ⟨report, found, unpacked, detected, fits,
    (ids_distinct_iff_no_repeated_key unpacked detected fits).1⟩

/-- A repeated key gives two modules of one id, and both are marked as the entry. So does a number
beside the text of its digits. -/
theorem repeated_key_marks_two_modules :
    (∃ report, (unpackSource ⟨none, none, "f"⟩ "a.js" "f([0,{a:1,a:2},[['a']]])").outcome =
        .ok report ∧ report.modules.map (fun m => (m.id, m.isEntry)) =
          [(.name "a", true), (.name "a", true)]) ∧
    ∃ report, (unpackSource ⟨none, none, "f"⟩ "a.js" "f([0,\x7b5:1,'5':2\x7d,[[5]]])").outcome =
        .ok report ∧ report.modules.map (fun m => (m.id, m.isEntry)) =
          [(.number 5, true), (.number 5, true)] :=
  ⟨exists_ok (by decide +kernel), exists_ok (by decide +kernel)⟩

end BundleLens.Bundle
