import BundleLens.Proofs.Json.RoundTrip
import BundleLens.Report.Json

/-! Reports read back from JSON. Each part of a report is told by its own decoder what it was. -/
namespace BundleLens
open Json (Value)

namespace Json.Value

variable {α β γ : Type}

theorem natBelow?_ofNat {n bound : Nat} (h : n < bound) : (ofNat n).natBelow? bound = some n := by
  unfold ofNat natBelow?
  dsimp only
  rw [Number.readDecimal?_toString, Option.filter_some, if_pos (decide_eq_true h)]

theorem text?_ofText (text : String) : (ofText text).text? = some text := rfl

theorem nullable?_ofOption {encode : α → Value} {decode : Value → Option α}
    (back : ∀ a, decode (encode a) = some a) (nothing : decode .null = none) (a : Option α) :
    (ofOption encode a).nullable? decode = some a := by
  cases a with
  | none => rfl
  | some a =>
    have present : encode a ≠ .null := by
      intro h
      have := back a
      rw [h, nothing] at this
      cases this
    unfold ofOption nullable?
    split
    · contradiction
    · rw [back, Option.map_some]

private theorem mapM_map_eq_some {f : β → Option γ} {g : α → β} {h : α → γ} {xs : List α}
    (each : ∀ x ∈ xs, f (g x) = some (h x)) : (xs.map g).mapM f = some (xs.map h) := by
  induction xs with
  | nil => rfl
  | cons x xs ih =>
    rw [List.map_cons, List.mapM_cons, each x List.mem_cons_self,
      ih fun y hy => each y (List.mem_cons_of_mem _ hy)]
    rfl

theorem list?_array {encode : α → Value} {decode : Value → Option α}
    (back : ∀ a, decode (encode a) = some a) (as : List α) :
    (array (as.map encode)).list? decode = some as := by
  have read : (as.map encode).mapM decode = some (as.map id) := mapM_map_eq_some fun a _ => back a
  rwa [List.map_id] at read

private theorem field?_of_mem {fields : List (String × Value)} (distinct : (fields.map (·.1)).Nodup)
    {field : String × Value} (mem : field ∈ fields) (optional : Bool) :
    field? fields field.1 optional = some field.2 := by
  have only : (fields.filter fun other => other.1 == field.1) = [field] := by
    induction fields with
    | nil => cases mem
    | cons first fields ih =>
      obtain ⟨fresh, distinct⟩ := List.nodup_cons.mp distinct
      have unused {other : String × Value} (hm : other ∈ fields) : other.1 ≠ first.1 := by
        intro same
        exact fresh (List.mem_map.mpr ⟨other, hm, same⟩)
      rw [List.filter_cons]
      obtain rfl | later := List.mem_cons.mp mem
      · have absent : (fields.filter fun other => other.1 == field.1) = [] :=
          List.filter_eq_nil_iff.mpr fun other hm same => unused hm (beq_iff_eq.mp same)
        rw [absent, if_pos (beq_self_eq_true _)]
      · rw [if_neg fun same => unused later (beq_iff_eq.mp same).symm, ih distinct later]
  unfold field?
  rw [only]

private theorem mapM_field? {fields part : List (String × Value)}
    (distinct : (fields.map (·.1)).Nodup)
    (within : ∀ field ∈ part, field ∈ fields) {description : List (String × Bool)}
    (names : description.map (·.1) = part.map (·.1)) :
    description.mapM (fun (name, optional) => field? fields name optional) =
      some (part.map (·.2)) := by
  induction description generalizing part with
  | nil =>
    rw [List.map_nil, eq_comm, List.map_eq_nil_iff] at names
    subst part
    rfl
  | cons d description ih =>
    cases part with
    | nil => cases names
    | cons field part =>
      rw [List.map_cons, List.map_cons, List.cons.injEq] at names
      obtain ⟨first, others⟩ := List.forall_mem_cons.mp within
      have found := field?_of_mem distinct first d.2
      rw [← names.1] at found
      rw [List.mapM_cons, ih others names.2]
      dsimp only
      rw [found]
      rfl

theorem record?_ofFields {description : List (String × Bool)} {fields : List (String × Value)}
    (names : description.map (·.1) = fields.map (·.1))
    (distinct : (description.map (·.1)).Nodup) :
    (ofFields fields).record? description = some (fields.map (·.2)) := by
  have named : (fields.map fun field => (some field.1, field.2)).mapM
      (fun field => field.1.map (·, field.2)) = some (fields.map id) :=
    mapM_map_eq_some fun _ _ => rfl
  refine Eq.trans (congrArg (Option.bind · _) named) ?_
  rw [List.map_id, Option.bind_some]
  exact mapM_field? (names ▸ distinct) (fun _ h => h) names

end Json.Value

private theorem ModuleId.ofJson?_toJson (id : ModuleId) : ofJson? id.toJson = some id := by
  cases id with
  | number n =>
    have read : (Value.ofNat n.toNat).natBelow? UInt64.size = some n.toNat :=
      Value.natBelow?_ofNat n.toNat_lt
    change ((Value.ofNat n.toNat).natBelow? UInt64.size).map _ = _
    rw [read, Option.map_some, UInt64.ofNat_toNat]
  | name text => rfl

private theorem BundleFormat.ofJson?_toJson (format : BundleFormat) :
    ofJson? format.toJson = some format := by
  cases format <;> rfl

private theorem EntrySource.ofJson?_toJson (source : EntrySource) :
    ofJson? source.toJson = some source := by
  cases source <;> rfl

private theorem ModuleSummary.ofJson?_toJson (m : ModuleSummary) : ofJson? m.toJson = some m := by
  have start : (Value.ofNat m.start.toNat).natBelow? UInt32.size = some m.start.toNat :=
    Value.natBelow?_ofNat m.start.toNat_lt
  have stop : (Value.ofNat m.stop.toNat).natBelow? UInt32.size = some m.stop.toNat :=
    Value.natBelow?_ofNat m.stop.toNat_lt
  unfold ofJson? toJson
  rw [Value.record?_ofFields]
  · simp only [List.map_cons, List.map_nil, Option.bind_eq_bind, Option.bind_some,
      ModuleId.ofJson?_toJson, Value.bool?, start, stop, UInt32.ofNat_toNat]
    rfl
  · rfl
  · decide

namespace Report

private theorem ofJson?_toJson (r : Report) : ofJson? r.toJson = some r := by
  have moduleCount : (Value.ofNat r.moduleCount.toNat).natBelow? UInt64.size =
      some r.moduleCount.toNat := Value.natBelow?_ofNat r.moduleCount.toNat_lt
  have format := Value.nullable?_ofOption BundleFormat.ofJson?_toJson rfl r.format
  have entry := Value.nullable?_ofOption ModuleId.ofJson?_toJson rfl r.entry
  have entrySource := Value.nullable?_ofOption EntrySource.ofJson?_toJson rfl r.entrySource
  have modules := Value.list?_array ModuleSummary.ofJson?_toJson r.modules
  have errors := Value.list?_array Value.text?_ofText r.errors
  unfold ofJson? toJson
  rw [Value.record?_ofFields]
  · simp only [List.map_cons, List.map_nil, Option.bind_eq_bind, Option.bind_some, format, entry,
      entrySource, Value.text?_ofText, moduleCount, modules, errors, UInt64.ofNat_toNat]
    rfl
  · rfl
  · decide

end Report

/-! What is written is plain, so it reads back as a value first. -/

private theorem ModuleId.toJson_plain (id : ModuleId) : id.toJson.Plain := by
  cases id with
  | number n => exact .ofNat _
  | name text => exact .ofText text

private theorem BundleFormat.toJson_plain (format : BundleFormat) :
    format.toJson.Plain := .ofText format.name

private theorem EntrySource.toJson_plain (source : EntrySource) :
    source.toJson.Plain := .ofText source.name

theorem Json.Value.ofOption_plain {α : Type} {encode : α → Value} (each : ∀ a, (encode a).Plain)
    (a : Option α) : (ofOption encode a).Plain := by
  cases a with
  | none => exact .null
  | some a => exact each a

theorem Json.Value.array_plain {α : Type} {encode : α → Value} (each : ∀ a, (encode a).Plain)
    (as : List α) : (array (as.map encode)).Plain := by
  refine .array fun v hv => ?_
  obtain ⟨a, -, rfl⟩ := List.mem_map.mp hv
  exact each a

private theorem ModuleSummary.toJson_plain (m : ModuleSummary) : m.toJson.Plain := by
  refine .ofFields ?_
  simp only [List.forall_mem_cons]
  exact ⟨m.id.toJson_plain, .bool _, .ofNat _, .ofNat _, List.forall_mem_nil _⟩

namespace Report

theorem toJson_plain (r : Report) : r.toJson.Plain := by
  refine .ofFields ?_
  simp only [List.forall_mem_cons]
  exact ⟨.ofText _, Value.ofOption_plain BundleFormat.toJson_plain _,
    Value.ofOption_plain ModuleId.toJson_plain _, Value.ofOption_plain EntrySource.toJson_plain _,
    .ofNat _, Value.array_plain ModuleSummary.toJson_plain _, Value.array_plain .ofText _,
    List.forall_mem_nil _⟩

theorem listOfString?_prettyList (reports : List Report) :
    listOfString? (prettyList reports) = some reports := by
  unfold listOfString? prettyList
  rw [Value.ofString?_pretty (Value.array_plain toJson_plain reports), Option.bind_some,
    Value.list?_array ofJson?_toJson]

end Report

theorem ModuleId.ofJsonText?_jsonText (id : ModuleId) : ofJsonText? id.jsonText = some id := by
  unfold ofJsonText? jsonText
  rw [Value.ofString?_pretty id.toJson_plain, Option.bind_some, ofJson?_toJson]

end BundleLens
