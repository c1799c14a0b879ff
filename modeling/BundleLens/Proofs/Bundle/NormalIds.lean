import BundleLens.Proofs.Bundle.KeyIdentity
import BundleLens.Proofs.Bundle.RepeatedKeys
import BundleLens.Proofs.Bundle.TableListing
import BundleLens.Proofs.KeyText

/-! Normal forms of ids. An id is normal if it is the one that its own text has as a key. All ids in a
table are, whichever of the four ways they are made in: a position, a text key, a number that is an
id, a number that is none and counts as what is printed of it. -/
namespace BundleLens

namespace ModuleId

/-- The id that its text without quotes has as a key. -/
def IsNormal (id : ModuleId) : Prop := ofKey id.rawText = id

private theorem ofKey_isNormal (key : String) :
    (ofKey key).IsNormal := congrArg ofKey (rawText_ofKey key)

private theorem number_isNormal (n : UInt64) : (number n).IsNormal := ofKey_toString_uint64 n

private theorem name_isNormal_iff {text : String} : (name text).IsNormal ↔ ¬ IsDecimal text := by
  unfold IsNormal
  rw [ofKey_eq_name_iff]
  exact and_iff_right rfl

end ModuleId

namespace Bundle
open Script ModuleId

namespace Table

private theorem elementModules_isNormal {elements : List Element} {position : Nat}
    {modules : List Module}
    (h : elementModules position elements = .ok modules) : ∀ m ∈ modules, m.id.IsNormal := by
  rw [elementModules_eq] at h
  split at h
  · cases h
  · cases h
    intro m hm
    obtain ⟨placed, -, made⟩ := List.mem_filterMap.mp hm
    obtain ⟨factory, -, rfl⟩ := Option.map_eq_some_iff.mp made
    exact number_isNormal _

private theorem idOfKey?_isNormal {key : Key} {id : ModuleId} (h : idOfKey? key = some id) :
    id.IsNormal := by
  rw [idOfKey?_eq] at h
  obtain ⟨text, -, rfl⟩ := Option.map_eq_some_iff.mp h
  exact ofKey_isNormal text

private theorem propertyModules_isNormal {properties : List Property} {modules : List Module}
    (h : propertyModules properties = .ok modules) : ∀ m ∈ modules, m.id.IsNormal := by
  intro m hm
  have listed : some m.id ∈ properties.map propertyId? := by
    rw [propertyModules_ids h]
    exact List.mem_map_of_mem hm
  obtain ⟨property, -, made⟩ := List.mem_map.mp listed
  cases property with
  | spread span value => cases made
  | entry span key factory => exact idOfKey?_isNormal made

private theorem modules_isNormal {table : Table} {modules : List Module}
    (h : table.modules = .ok modules) :
    ∀ m ∈ modules, m.id.IsNormal := by
  cases table with
  | array span elements => exact elementModules_isNormal h
  | object span properties => exact propertyModules_isNormal h

end Table

private theorem Detection.modules_isNormal {found : Detection} {modules : List Module}
    (h : found.modules = .ok modules) : ∀ m ∈ modules, m.id.IsNormal := by
  obtain ⟨listed, hl, rfl⟩ := modules_ok h
  intro m hm
  obtain ⟨unmarked, member, rfl⟩ := List.mem_map.mp hm
  exact Table.modules_isNormal hl unmarked member

end Bundle

open BundleLens.Bundle ModuleId

theorem unpackSource_isNormal {o : Options} {name source : String} {report : Report}
    (h : (unpackSource o name source).outcome = .ok report) : ∀ m ∈ report.modules, m.id.IsNormal := by
  obtain ⟨call, found, modules, -, -, listed, rfl⟩ := unpackSource_ok h
  intro m hm
  obtain ⟨module, member, rfl⟩ := List.mem_map.mp hm
  exact Detection.modules_isNormal listed module member

/-- The modules that a bundle lists have ids in normal form, so a name among them is never the
decimal form of a 64-bit number. Such a name marks no module if it is the entry, and so does a run
in which it is given as the entry. -/
theorem listed_ids_normal :
    (∀ (found : Detection) modules, found.modules = .ok modules → ∀ m ∈ modules,
      ofKey m.id.rawText = m.id ∧ ∀ text, IsDecimal text → m.id ≠ .name text ∧
        (found.entry = some (.name text) → m.isEntry = false)) ∧
    ∀ (o : Options) name source report text,
      (unpackSource { o with entry := some (.name text) } name source).outcome = .ok report →
        IsDecimal text → ∀ m ∈ report.modules, m.isEntry = false := by
  have apart {id : ModuleId} {text : String} (normal : id.IsNormal) (decimal : IsDecimal text) :
      id ≠ .name text := fun same => name_isNormal_iff.mp (same ▸ normal) decimal
  constructor
  · intro found modules listed m hm
    have normal := Detection.modules_isNormal listed m hm
    refine ⟨normal, fun text decimal => ⟨apart normal decimal, fun entry => ?_⟩⟩
    obtain ⟨unmarked, -, rfl⟩ := Detection.modules_ok listed
    obtain ⟨plain, -, rfl⟩ := List.mem_map.mp hm
    exact decide_eq_false fun same =>
      apart normal decimal (Option.some.inj (same.symm.trans entry))
  · intro o name source report text unpacked decimal m hm
    obtain ⟨-, call, -, tells⟩ := unpackSource_tellsBundle unpacked
    rw [Bool.eq_false_iff, Ne, tells.isEntry_iff m hm, tells.entry_of_override _ rfl, Option.some_inj]
    exact (apart (unpackSource_isNormal unpacked m hm) decimal).symm

/-- A table with a number that is no id, one that is too large, and a text that is an id; the name of
that text is given as the entry. -/
theorem listed_ids_normal_printed :
    let s : Script.Span := default
    let half : Number.Binary64 := .finite false (2 ^ 52) (-53) (by decide)
    let large : Number.Binary64 := .finite false (2 ^ 52) 13 (by decide)
    let found : Detection := ⟨.chunk, some (.name "5"), .override, .object s
      [.entry s (.number half) (.this s), .entry s (.number large) (.this s),
        .entry s (.string "5") (.this s)]⟩
    (∃ modules, found.modules = .ok modules ∧
      modules.map (·.id) = [.name "0.5", .name "36893488147419103000", .number 5] ∧
      ∀ m ∈ modules, ofKey m.id.rawText = m.id ∧ m.isEntry = false) ∧
    ∃ report, (unpackSource ⟨none, some (.name "5"), "f"⟩ "a.js" "f([0,{5:0},[[5]]])").outcome =
        .ok report ∧ report.modules.map (·.id) = [.number 5] ∧
      ∀ m ∈ report.modules, m.isEntry = false := by
  intro s half large found
  have decimal : IsDecimal "5" := ⟨5, by decide, rfl⟩
  obtain ⟨modules, listed, ids⟩ : ∃ modules, found.modules = .ok modules ∧
      modules.map (·.id) = [.name "0.5", .name "36893488147419103000", .number 5] :=
    exists_ok (by decide +kernel)
  obtain ⟨report, unpacked, numbered⟩ : ∃ report,
      (unpackSource ⟨none, some (.name "5"), "f"⟩ "a.js" "f([0,{5:0},[[5]]])").outcome = .ok report ∧
        report.modules.map (·.id) = [.number 5] := exists_ok (by decide +kernel)
  refine ⟨⟨modules, listed, ids, fun m hm => ?_⟩, report, unpacked, numbered, fun m hm => ?_⟩
  · obtain ⟨normal, apart⟩ := listed_ids_normal.1 found modules listed m hm
    exact ⟨normal, (apart "5" decimal).2 rfl⟩
  · exact listed_ids_normal.2 ⟨none, none, "f"⟩ _ _ report "5" unpacked decimal m hm

end BundleLens
