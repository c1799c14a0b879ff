import BundleLens.Proofs.Bundle.FormatChoice
import BundleLens.Proofs.ModuleId
import Mathlib

/-! Entries of chunks by property keys. Two spellings of one key name the same property of an
object, so an entry should be found under any spelling. That holds but for text literals which are
decimal forms: they stay names in the entry slot and become numbers in the table. -/
namespace BundleLens.Bundle
open Script Number ModuleId

/-- The property key that a number denotes, as far as doubles count one by one. -/
def countedKey? (value : Binary64) : Option String :=
  (value.toNat?.filter fun n => n < 2 ^ 53).map toString

def denotedKey? : Key → Option String
  | .identifier text | .string text => some text
  | .number value => countedKey? value
  | .unsupported => none

namespace Table

def elementKeys (position : Nat) : List Element → List (Option String)
  | [] => []
  | .hole _ :: r => elementKeys (position + 1) r
  | _ :: r => some (toString position) :: elementKeys (position + 1) r

def propertyKey? : Property → Option String
  | .entry _ key _ => denotedKey? key
  | .spread .. => none

def keys : Table → List (Option String)
  | array _ elements => elementKeys 0 elements
  | object _ properties => properties.map propertyKey?

end Table

private theorem ofNumber?_of_countedKey? {value : Binary64} {key : String}
    (h : countedKey? value = some key) : ofNumber? value = some (ofKey key) := by
  obtain ⟨n, hn, rfl⟩ := Option.map_eq_some_iff.mp h
  obtain ⟨hv, hn⟩ := Option.filter_eq_some_iff.mp hn
  have small : n < 2 ^ 53 := of_decide_eq_true hn
  exact ofNumber?_of_toNat? hv (small.trans (by decide))

theorem idOfKey?_of_denotedKey? {key : Key} {text : String} (h : denotedKey? key = some text) :
    Table.idOfKey? key = some (ofKey text) := by
  cases key with
  | identifier name | string value =>
    cases h
    rfl
  | number value =>
    unfold Table.idOfKey? ofNumericKey
    dsimp only
    rw [ofNumber?_of_countedKey? h]
    rfl
  | unsupported => cases h

def Keyed (key : Option String) (m : Module) : Prop := ∀ text, key = some text → m.id = ofKey text

private theorem elementModules_keyed {position : Nat} {elements : List Element}
    {modules : List Module} (h : Table.elementModules position elements = .ok modules)
    (fits : position + elements.length ≤ UInt64.size) :
    List.Forall₂ Keyed (Table.elementKeys position elements) modules := by
  induction elements generalizing position modules with
  | nil =>
    cases h
    exact .nil
  | cons element r ih =>
    rw [List.length_cons] at fits
    cases element with
    | hole span => exact ih h (by omega)
    | spread span value => cases h
    | item factory =>
      obtain ⟨rest, hr, hm⟩ := bind_eq_ok_iff.mp h
      cases hm
      refine .cons ?_ (ih hr (by omega))
      rintro text ⟨⟩
      exact (ofKey_toString (by omega)).symm

private theorem propertyModules_keyed {properties : List Property} {modules : List Module}
    (h : Table.propertyModules properties = .ok modules) :
    List.Forall₂ Keyed (properties.map Table.propertyKey?) modules := by
  induction properties generalizing modules with
  | nil =>
    cases h
    exact .nil
  | cons property r ih =>
    cases property with
    | spread span value => cases h
    | entry span key factory =>
      unfold Table.propertyModules at h
      cases hi : Table.idOfKey? key with
      | none => simp [hi] at h
      | some id =>
        rw [hi] at h
        obtain ⟨rest, hr, hm⟩ := bind_eq_ok_iff.mp h
        cases hm
        refine .cons (fun text ht => ?_) (ih hr)
        exact Option.some.inj (hi.symm.trans (idOfKey?_of_denotedKey? ht))

/-- Modules stand in a table in the order of its keys, and their ids are those of the keys. -/
theorem modules_keyed {table : Table} {modules : List Module} (h : table.modules = .ok modules)
    (fits : table.size ≤ UInt64.size) : List.Forall₂ Keyed table.keys modules := by
  cases table with
  | array span elements => exact elementModules_keyed h (by rw [Nat.zero_add]; exact fits)
  | object span properties => exact propertyModules_keyed h

def textOfLiteral? : Element → Option String
  | .item (.string _ value) => some value
  | .item (.template _ (some text :: _) []) => some text
  | _ => none

def keyOfLiteral? : Element → Option String
  | .item (.number _ value) => countedKey? value
  | literal => textOfLiteral? literal

/-- A text literal that is a decimal form, which a table holds as a number. -/
def IsDecimalText (literal : Element) : Prop :=
  ∃ text, textOfLiteral? literal = some text ∧ IsDecimal text

private theorem idOfLiteral?_of_text {literal : Element} {text : String}
    (h : textOfLiteral? literal = some text) : Chunk.idOfLiteral? literal = some (.name text) := by
  unfold textOfLiteral? at h
  split at h
  · cases h
    rfl
  · cases h
    rfl
  · cases h

private theorem idOfLiteral?_eq_ofKey_iff {literal : Element} {key : String} (text : String)
    (h : keyOfLiteral? literal = some key) :
    Chunk.idOfLiteral? literal = some (ofKey text) ↔ text = key ∧ ¬ IsDecimalText literal := by
  unfold keyOfLiteral? at h
  split at h
  · rename_i span value
    have named : Chunk.idOfLiteral? (.item (.number span value)) = some (ofKey key) :=
      ofNumber?_of_countedKey? h
    have counted : ¬ IsDecimalText (.item (.number span value)) := by
      rintro ⟨_, ht, _⟩
      cases ht
    rw [named, Option.some.injEq]
    exact ⟨fun he => ⟨(ofKey_injective he).symm, counted⟩, fun he => by rw [he.1]⟩
  · have decimal : IsDecimalText literal ↔ IsDecimal key := by
      unfold IsDecimalText
      simp [h]
    rw [idOfLiteral?_of_text h, Option.some.injEq, eq_comm, ofKey_eq_name_iff, decimal]
    exact ⟨fun ⟨he, hd⟩ => ⟨he, he ▸ hd⟩, fun ⟨he, hd⟩ => ⟨he, he ▸ hd⟩⟩

/-- In a report on a chunk without a given entry, a module is marked exactly if its key denotes the
same property as the literal in the entry slot, unless that literal is a text which is a decimal
form: then no module is marked. No array in memory has more than `2 ^ 64` elements. -/
theorem entry_flag_iff_same_key {o : Options} {name source : String} {report : Report} {call : Call}
    {tableSlot entry literal : Element} {table : Table} {key : String}
    (noOverride : o.entry = none) (unpacked : (unpackSource o name source).outcome = .ok report)
    (isChunk : report.format = some .chunk) (located : (locateCall name source).outcome = .ok call)
    (slots : Chunk.slots? call = some (tableSlot, entry))
    (isTable : tableSlot.expr?.bind Table.ofExpr? = some table) (fits : table.size ≤ UInt64.size)
    (nested : Chunk.entryLiteral? entry = some literal) (denotes : keyOfLiteral? literal = some key) :
    List.Forall₂ (fun tableKey (m : ModuleSummary) => ∀ text, tableKey = some text →
      (m.isEntry = true ↔ text = key ∧ ¬ IsDecimalText literal)) table.keys report.modules := by
  obtain ⟨call', found, modules, hc, hd, hm, rfl⟩ := unpackSource_ok unpacked
  rw [located, Except.ok.injEq] at hc
  subst hc
  obtain ⟨listed, hl, rfl⟩ := Detection.modules_ok hm
  rw [detect_result] at hd
  obtain ⟨s, hs, rfl⟩ := detectAs_ok hd
  have chunk : o.format.getD call.inferredFormat = .chunk := by
    simpa [Report.ofModules] using isChunk
  rw [chunk] at hs
  obtain ⟨_, _, tableSlot', entry', hs', ht, hn⟩ := Chunk.shape_ok hs
  rw [slots, Option.some.injEq, Prod.mk.injEq] at hs'
  obtain ⟨rfl, rfl⟩ := hs'
  rw [isTable, Option.some.injEq] at ht
  rw [Detection.withEntry_table, ← ht] at hl
  unfold Report.ofModules
  rw [List.map_map, List.forall₂_map_right_iff]
  refine (modules_keyed hl fits).imp fun tableKey m keyed text ht => ?_
  have marked : (o.entry.or s.named = some m.id) ↔ text = key ∧ ¬ IsDecimalText literal := by
    rw [noOverride, Option.none_or, hn, Chunk.namedId?_eq, nested, Option.bind_some, keyed text ht]
    exact idOfLiteral?_eq_ofKey_iff text denotes
  simpa [ModuleSummary.ofModule] using marked

/-- A text entry finds its module among those of an object. -/
theorem entry_flag_iff_same_key_name :
    ∃ call tableSlot entry literal table report,
      (locateCall "a.js" "f([0,{a:0,5:0},[['a']]])").outcome = .ok call ∧
      Chunk.slots? call = some (tableSlot, entry) ∧
      tableSlot.expr?.bind Table.ofExpr? = some table ∧ Chunk.entryLiteral? entry = some literal ∧
      keyOfLiteral? literal = some "a" ∧
      (unpackSource ⟨none, none, "f"⟩ "a.js" "f([0,{a:0,5:0},[['a']]])").outcome = .ok report ∧
      List.Forall₂ (fun tableKey (m : ModuleSummary) => ∀ text, tableKey = some text →
        (m.isEntry = true ↔ text = "a" ∧ ¬ IsDecimalText literal)) table.keys report.modules := by
  obtain ⟨call, located, slots, hs, table, ht, literal, hn, hk, fits⟩ :
      ∃ call, (locateCall "a.js" "f([0,{a:0,5:0},[['a']]])").outcome = .ok call ∧
        ∃ slots ∈ Chunk.slots? call, ∃ table ∈ slots.1.expr?.bind Table.ofExpr?,
          ∃ literal ∈ Chunk.entryLiteral? slots.2, keyOfLiteral? literal = some "a" ∧
            table.size ≤ UInt64.size := exists_ok (by decide +kernel)
  obtain ⟨report, unpacked, chunk⟩ :
      ∃ report, (unpackSource ⟨none, none, "f"⟩ "a.js" "f([0,{a:0,5:0},[['a']]])").outcome =
        .ok report ∧ report.format = some .chunk := exists_ok (by decide +kernel)
  exact ⟨call, slots.1, slots.2, literal, table, report, located, hs, ht, hn, hk, unpacked,
    entry_flag_iff_same_key rfl unpacked chunk located hs ht fits hn hk⟩

/-- A text entry that is a decimal form finds no module, although the table has its key. -/
theorem decimal_text_entry_flags_nothing :
    ∃ call, (locateCall "a.js" "f([0,{5:0},[['5']]])").outcome = .ok call ∧
      (∃ slots ∈ Chunk.slots? call, ∃ table ∈ slots.1.expr?.bind Table.ofExpr?,
        ∃ literal ∈ Chunk.entryLiteral? slots.2,
          keyOfLiteral? literal = some "5" ∧ table.keys = [some "5"]) ∧
      ∃ report, (unpackSource ⟨none, none, "f"⟩ "a.js" "f([0,{5:0},[['5']]])").outcome = .ok report ∧
        report.modules.map (fun m => (m.id, m.isEntry)) = [(.number 5, false)] := by
  obtain ⟨call, located, keys⟩ :
      ∃ call, (locateCall "a.js" "f([0,{5:0},[['5']]])").outcome = .ok call ∧
        ∃ slots ∈ Chunk.slots? call, ∃ table ∈ slots.1.expr?.bind Table.ofExpr?,
          ∃ literal ∈ Chunk.entryLiteral? slots.2,
            keyOfLiteral? literal = some "5" ∧ table.keys = [some "5"] :=
    exists_ok (by decide +kernel)
  exact ⟨call, located, keys, exists_ok (by decide +kernel)⟩

end BundleLens.Bundle
