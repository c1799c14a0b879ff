import BundleLens.Proofs.Bundle.Shape
import Mathlib.Data.List.Forall2

/-! Listing a table. The first member that is refused ends the listing with what is wrong with it.
If none is, there is one module for each element that is no hole, or for each property, in the order
of the table. -/
namespace BundleLens.Bundle
open Script

inductive ElementRefused : Element → String → Prop
  | spread (span : Span) (value : Expr) :
      ElementRefused (.spread span value) s!"spread element at offset {span.start}"

inductive PropertyRefused : Property → String → Prop
  | spread (span : Span) (value : Expr) :
      PropertyRefused (.spread span value) "spread property in module table"
  | key (span : Span) (value : Expr) :
      PropertyRefused (.entry span .unsupported value) s!"unsupported key at offset {span.start}"

section
variable {α : Type} (refused : α → String → Prop)

/-- The first of some members that is refused is refused with a text. -/
def FirstRefused (members : List α) (text : String) : Prop :=
  ∃ before member after, members = before ++ member :: after ∧
    (∀ m ∈ before, ∀ other, ¬ refused m other) ∧ refused member text

variable {refused} {fault? : α → Option TableFault}
  (agree : ∀ m text, (∃ fault ∈ fault? m, fault.message = text) ↔ refused m text)
include agree

private theorem fault?_eq_none_iff {m : α} : fault? m = none ↔ ∀ text, ¬ refused m text := by
  rw [Option.eq_none_iff_forall_not_mem]
  constructor
  · intro none text h
    obtain ⟨fault, found, -⟩ := (agree m text).mpr h
    exact none fault found
  · intro h fault found
    exact h fault.message ((agree m _).mp ⟨fault, found, rfl⟩)

private theorem firstRefused_iff {members : List α} {text : String} :
    (∃ fault ∈ members.findSome? fault?, fault.message = text) ↔
      FirstRefused refused members text := by
  unfold FirstRefused
  simp only [Option.mem_def, List.findSome?_eq_some_iff, ← agree, fault?_eq_none_iff agree]
  constructor
  · rintro ⟨fault, ⟨before, member, after, split, found, clear⟩, message⟩
    exact ⟨before, member, after, split, by simpa using clear, fault, found, message⟩
  · rintro ⟨before, member, after, split, clear, fault, found, message⟩
    exact ⟨fault, ⟨before, member, after, split, found, by simpa using clear⟩, message⟩

end

namespace Table

def elementFault? : Element → Option TableFault
  | .spread span _ => some (.spreadElement span.start)
  | _ => none

def propertyFault? : Property → Option TableFault
  | .spread .. => some .spreadProperty
  | .entry span .unsupported _ => some (.unsupportedKey span.start)
  | .entry .. => none

def elementModule? (placed : Element × Nat) : Option Module :=
  placed.1.expr?.map fun factory => ⟨.number (.ofNat placed.2), factory, false⟩

def propertyModule? : Property → Option Module
  | .entry _ key factory => (idOfKey? key).map fun id => ⟨id, factory, false⟩
  | .spread .. => none

private theorem elementFault?_agrees (element : Element) (text : String) :
    (∃ fault ∈ elementFault? element, fault.message = text) ↔ ElementRefused element text := by
  constructor
  · rintro ⟨fault, found, rfl⟩
    cases element with
    | spread span value =>
      cases found
      exact .spread span value
    | _ => nomatch found
  · rintro ⟨span, value⟩
    exact ⟨_, rfl, rfl⟩

private theorem propertyFault?_agrees (property : Property) (text : String) :
    (∃ fault ∈ propertyFault? property, fault.message = text) ↔ PropertyRefused property text := by
  constructor
  · rintro ⟨fault, found, rfl⟩
    cases property with
    | spread span value =>
      cases found
      exact .spread span value
    | entry span key value =>
      cases key with
      | unsupported =>
        cases found
        exact .key span value
      | _ => nomatch found
  · rintro (⟨span, value⟩ | ⟨span, value⟩)
    · exact ⟨_, rfl, rfl⟩
    · exact ⟨_, rfl, rfl⟩

/-- Elements are listed one by one up to the first that is wrong. -/
theorem elementModules_eq (position : Nat) (elements : List Element) :
    elementModules position elements =
      match elements.findSome? elementFault? with
      | some fault => .error fault
      | none => .ok ((elements.zipIdx position).filterMap elementModule?) := by
  induction elements generalizing position with
  | nil => rfl
  | cons element r ih =>
    cases element with
    | hole span => exact ih (position + 1)
    | spread span value => rfl
    | item factory =>
      unfold elementModules
      rw [ih]
      change _ = match r.findSome? elementFault? with
        | some fault => _
        | none => _
      cases r.findSome? elementFault? <;> rfl

private theorem propertyModules_eq (properties : List Property) :
    propertyModules properties =
      match properties.findSome? propertyFault? with
      | some fault => .error fault
      | none => .ok (properties.filterMap propertyModule?) := by
  induction properties with
  | nil => rfl
  | cons property r ih =>
    cases property with
    | spread span value => rfl
    | entry span key factory =>
      cases key with
      | unsupported => rfl
      | _ =>
        unfold propertyModules
        rw [ih]
        change _ = match r.findSome? propertyFault? with
          | some fault => _
          | none => _
        cases r.findSome? propertyFault? <;> rfl

/-- The first module has a number for its id, the second a greater one. -/
def NumberedBefore (m n : Module) : Prop :=
  ∃ i j : UInt64, m.id = .number i ∧ n.id = .number j ∧ i < j

def isHole : Element → Bool
  | .hole _ => true
  | _ => false

variable {elements : List Element} {properties : List Property}

private theorem findSome?_elementFault?_eq_none_iff :
    elements.findSome? elementFault? = none ↔ ∀ span value, .spread span value ∉ elements := by
  rw [List.findSome?_eq_none_iff]
  constructor
  · intro sound span value member
    nomatch sound _ member
  · intro sound element member
    cases element with
    | spread span value => exact (sound span value member).elim
    | _ => rfl

private theorem findSome?_propertyFault?_eq_none_iff :
    properties.findSome? propertyFault? = none ↔
      ∀ span value, .spread span value ∉ properties ∧ .entry span .unsupported value ∉ properties := by
  rw [List.findSome?_eq_none_iff]
  constructor
  · intro sound span value
    exact ⟨fun member => (nomatch sound _ member), fun member => (nomatch sound _ member)⟩
  · intro sound property member
    cases property with
    | spread span value => exact ((sound span value).1 member).elim
    | entry span key value =>
      cases key with
      | unsupported => exact ((sound span value).2 member).elim
      | _ => rfl

/-- Positions increase along an array, and none is so great that its number wraps. -/
theorem elementModules_increasing (fits : elements.length ≤ UInt64.size) :
    (elements.zipIdx.filterMap elementModule?).Pairwise NumberedBefore := by
  have positions : elements.zipIdx.Pairwise fun a b => a.2 < b.2 := by
    apply List.pairwise_map.mp
    rw [List.zipIdx_map_snd]
    exact List.pairwise_lt_range'
  have bounded : elements.zipIdx.Pairwise fun a b => a.2 < b.2 ∧ b.2 < UInt64.size := by
    refine positions.imp_of_mem fun {a b} _ hb less => ⟨less, ?_⟩
    have := List.snd_lt_of_mem_zipIdx hb
    omega
  refine bounded.filterMap _ fun a b ⟨less, small⟩ m hm n hn => ?_
  obtain ⟨_, _, rfl⟩ := Option.map_eq_some_iff.mp hm
  obtain ⟨_, _, rfl⟩ := Option.map_eq_some_iff.mp hn
  refine ⟨_, _, rfl, rfl, ?_⟩
  rw [UInt64.lt_iff_toNat_lt, UInt64.toNat_ofNat_of_lt' (Nat.lt_trans less small),
    UInt64.toNat_ofNat_of_lt' small]
  exact less

private theorem length_elementModules (sound : ∀ span value, .spread span value ∉ elements)
    (position : Nat) :
    ((elements.zipIdx position).filterMap elementModule?).length + elements.countP isHole =
      elements.length := by
  induction elements generalizing position with
  | nil => rfl
  | cons element r ih =>
    have rest := ih (fun span value member => sound span value (List.mem_cons_of_mem _ member))
      (position + 1)
    rw [List.zipIdx_cons, List.filterMap_cons, List.countP_cons, List.length_cons, ← rest]
    cases element with
    | hole span => simp [elementModule?, Element.expr?, isHole, Nat.add_assoc]
    | spread span value => exact (sound span value List.mem_cons_self).elim
    | item factory => simp [elementModule?, Element.expr?, isHole, Nat.add_right_comm]

/-- Each property that is not refused makes the module of its key and value. -/
theorem propertyModules_made (sound : properties.findSome? propertyFault? = none) :
    List.Forall₂ (fun property (m : Module) => ∃ span key,
      property = .entry span key m.factory ∧ idOfKey? key = some m.id)
        properties (properties.filterMap propertyModule?) := by
  rw [List.findSome?_eq_none_iff] at sound
  induction properties with
  | nil => exact .nil
  | cons property r ih =>
    have rest := ih fun p member => sound p (List.mem_cons_of_mem _ member)
    have first := sound property List.mem_cons_self
    cases property with
    | spread span value => nomatch first
    | entry span key value =>
      cases key with
      | unsupported => nomatch first
      | _ => exact .cons ⟨span, _, rfl, rfl⟩ rest

end Table

namespace Detection
variable {d : Detection} {modules : List Module} {elements : List Element}
  {properties : List Property} {span : Span}

private theorem modules_error_iff {fault : TableFault} :
    d.modules = .error fault ↔ d.table.modules = .error fault := by
  unfold modules
  cases d.table.modules <;> simp

private theorem array_error_iff (table : d.table = .array span elements) {fault : TableFault} :
    d.modules = .error fault ↔ fault ∈ elements.findSome? Table.elementFault? := by
  rw [modules_error_iff, table, Table.modules, Table.elementModules_eq]
  cases elements.findSome? Table.elementFault? <;> simp [eq_comm]

private theorem object_error_iff (table : d.table = .object span properties) {fault : TableFault} :
    d.modules = .error fault ↔ fault ∈ properties.findSome? Table.propertyFault? := by
  rw [modules_error_iff, table, Table.modules, Table.propertyModules_eq]
  cases properties.findSome? Table.propertyFault? <;> simp [eq_comm]

theorem array_listed (table : d.table = .array span elements) (listed : d.modules = .ok modules) :
    elements.findSome? Table.elementFault? = none ∧
      modules = (elements.zipIdx.filterMap Table.elementModule?).map fun m =>
        { m with isEntry := d.entry = some m.id } := by
  obtain ⟨unmarked, h, rfl⟩ := modules_ok listed
  rw [table, Table.modules, Table.elementModules_eq] at h
  split at h
  · cases h
  · rename_i sound
    cases h
    exact ⟨sound, rfl⟩

theorem object_listed (table : d.table = .object span properties)
    (listed : d.modules = .ok modules) :
    properties.findSome? Table.propertyFault? = none ∧
      modules = (properties.filterMap Table.propertyModule?).map fun m =>
        { m with isEntry := d.entry = some m.id } := by
  obtain ⟨unmarked, h, rfl⟩ := modules_ok listed
  rw [table, Table.modules, Table.propertyModules_eq] at h
  split at h
  · cases h
  · rename_i sound
    cases h
    exact ⟨sound, rfl⟩

private theorem array_ok_iff (table : d.table = .array span elements) :
    (∃ modules, d.modules = .ok modules) ↔ ∀ span value, .spread span value ∉ elements := by
  rw [← Table.findSome?_elementFault?_eq_none_iff]
  constructor
  · rintro ⟨modules, listed⟩
    exact (array_listed table listed).1
  · intro sound
    cases h : d.modules with
    | ok modules => exact ⟨modules, rfl⟩
    | error fault =>
      rw [array_error_iff table, sound] at h
      nomatch h

private theorem object_ok_iff (table : d.table = .object span properties) :
    (∃ modules, d.modules = .ok modules) ↔
      ∀ span value, .spread span value ∉ properties ∧ .entry span .unsupported value ∉ properties := by
  rw [← Table.findSome?_propertyFault?_eq_none_iff]
  constructor
  · rintro ⟨modules, listed⟩
    exact (object_listed table listed).1
  · intro sound
    cases h : d.modules with
    | ok modules => exact ⟨modules, rfl⟩
    | error fault =>
      rw [object_error_iff table, sound] at h
      nomatch h

end Detection

/-- Listing the modules of a bundle is all or nothing. An array is refused for its first element that
spreads, an object for its first property that spreads or has a key of another kind, and the words
are those for that member. Otherwise the modules of an array are its elements but holes, with their
positions as ids, and those of an object are its properties, with the ids of their keys. -/
theorem modules_listed_or_refused (d : Detection) :
    (∀ span elements, d.table = .array span elements →
      (∀ text, (∃ fault, d.modules = .error fault ∧ fault.message = text) ↔
        FirstRefused ElementRefused elements text) ∧
      ((∃ modules, d.modules = .ok modules) ↔ ∀ span value, .spread span value ∉ elements) ∧
      ∀ modules, d.modules = .ok modules →
        modules.map (fun m => (m.id, m.factory)) =
          elements.zipIdx.filterMap (fun (element, position) =>
            element.expr?.map fun factory => (.number (.ofNat position), factory)) ∧
        modules.length + elements.countP Table.isHole = elements.length ∧
        (elements.length ≤ UInt64.size → modules.Pairwise Table.NumberedBefore)) ∧
    ∀ span properties, d.table = .object span properties →
      (∀ text, (∃ fault, d.modules = .error fault ∧ fault.message = text) ↔
        FirstRefused PropertyRefused properties text) ∧
      ((∃ modules, d.modules = .ok modules) ↔ ∀ span value,
        .spread span value ∉ properties ∧ .entry span .unsupported value ∉ properties) ∧
      ∀ modules, d.modules = .ok modules →
        List.Forall₂ (fun property (m : Module) => ∃ span key,
          property = .entry span key m.factory ∧ Table.idOfKey? key = some m.id)
            properties modules := by
  constructor
  · intro span elements table
    refine ⟨fun text => ?_, Detection.array_ok_iff table, fun modules listed => ?_⟩
    · simp only [Detection.array_error_iff table]
      exact firstRefused_iff Table.elementFault?_agrees
    · obtain ⟨sound, rfl⟩ := Detection.array_listed table listed
      rw [Table.findSome?_elementFault?_eq_none_iff] at sound
      refine ⟨?_, ?_, fun fits => ?_⟩
      · rw [List.map_map, List.map_filterMap]
        refine congrFun (congrArg _ (funext fun placed => ?_)) _
        exact Option.map_map ..
      · rw [List.length_map]
        exact Table.length_elementModules sound 0
      · exact List.pairwise_map.mpr (Table.elementModules_increasing fits)
  · intro span properties table
    refine ⟨fun text => ?_, Detection.object_ok_iff table, fun modules listed => ?_⟩
    · simp only [Detection.object_error_iff table]
      exact firstRefused_iff Table.propertyFault?_agrees
    · obtain ⟨sound, rfl⟩ := Detection.object_listed table listed
      rw [List.forall₂_map_right_iff]
      exact Table.propertyModules_made sound

/-- An array with a hole between two modules. -/
theorem modules_listed_or_refused_hole :
    let s : Span := default
    let elements : List Element := [.item (.this s), .hole s, .item (.this s)]
    ∃ modules, (Detection.mk .chunk none .unresolved (.array s elements)).modules = .ok modules ∧
      modules.length + elements.countP Table.isHole = 3 ∧
      modules.Pairwise Table.NumberedBefore := by
  intro s elements
  let d : Detection := ⟨.chunk, none, .unresolved, .array s elements⟩
  obtain ⟨modules, listed⟩ : ∃ modules, d.modules = .ok modules := ⟨_, rfl⟩
  have facts := ((modules_listed_or_refused d).1 s elements rfl).2.2 modules listed
  exact ⟨modules, listed, facts.2.1, facts.2.2 (by decide)⟩

end BundleLens.Bundle
