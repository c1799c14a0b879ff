import BundleLens.Proofs.Bundle.CallChoice
import BundleLens.Proofs.Bundle.ChunkGrammar
import BundleLens.Proofs.Bundle.ClassicGrammar
import BundleLens.Proofs.Bundle.TableListing
import BundleLens.Proofs.Script.Placement
import BundleLens.Proofs.Unpack

/-! Where the modules of a report stand. What detection takes from a script is inside it: the call in
a statement, the table in the call, the factories in the table. So if the tree keeps the order of the
source, the extents in the report are those of the factories, one after the other in the table. -/
namespace BundleLens.Bundle
open Script
open Script.Node (Inside IsPart Placed)

section
variable {e e' : Expr} {form : Expr → Prop} {call : Call} {stmt : Stmt} {program : Program}

private theorem Layer.isPart (h : Layer e e') : IsPart (.expr e) (.expr e') := by
  cases h <;> exact List.mem_cons_self

private theorem ConsistsOf.inside (h : ConsistsOf stmt call) :
    Inside (.expr call.toExpr) (.stmt stmt) := by
  obtain ⟨span, e, rfl, layers⟩ := h
  have inner : Inside (.expr call.toExpr) (.expr e) := layers.lift Node.expr fun _ _ => Layer.isPart
  exact inner.trans (Node.inside_part List.mem_cons_self)

private theorem Enclosed.exists_inside (h : Enclosed form e) :
    ∃ e', form e' ∧ Inside (.expr e') (.expr e) := by
  induction h with
  | @plain e h => exact ⟨e, h, .refl⟩
  | paren span _ ih =>
    obtain ⟨e', h, deep⟩ := ih
    exact ⟨e', h, deep.trans (Node.inside_part List.mem_cons_self)⟩

/-- The call that a script is searched for is inside the script. -/
theorem inside_of_findCall (h : (findCall program).value = some call) (span : Span) :
    Inside (.expr call.toExpr) (.script span program.body) := by
  obtain ⟨before, stmt, after, body, consists, -⟩ := findCall_eq_some_iff.mp h
  have part : Node.stmt stmt ∈ (Node.script span program.body).parts := by
    apply List.mem_map_of_mem
    rw [body]
    exact List.mem_append_right before List.mem_cons_self
  exact consists.inside.trans (Node.inside_part part)

private theorem inside_of_argument (h : .item e ∈ call.arguments) :
    Inside (.expr e) (.expr call.toExpr) := by
  have part : Node.argument (.item e) ∈ (Node.expr call.toExpr).parts :=
    List.mem_cons_of_mem _ (List.mem_map_of_mem h)
  exact Node.inside_argument.trans (Node.inside_part part)

end

namespace Table

def toExpr : Table → Expr
  | array span elements => .array span elements
  | object span properties => .object span properties

/-- A table holds a factory under an id: as the element at a position, or under a key. -/
inductive Holds : Table → ModuleId → Expr → Prop
  | element (span : Span) {elements : List Element} {position : Nat} {factory : Expr} :
      elements[position]? = some (.item factory) →
        Holds (.array span elements) (.number (.ofNat position)) factory
  | property (span : Span) {properties : List Property} {place : Span} {key : Key} {id : ModuleId}
      {factory : Expr} : .entry place key factory ∈ properties → idOfKey? key = some id →
        Holds (.object span properties) id factory

variable {table : Table} {e factory : Expr} {id : ModuleId} {m : Module}

private theorem span_toExpr (table : Table) : (Node.expr table.toExpr).span = table.span := by
  cases table <;> rfl

private theorem inside_of_enclosed (h : Enclosed (TableOf table) e) :
    Inside (.expr table.toExpr) (.expr e) := by
  obtain ⟨e', literal, deep⟩ := h.exists_inside
  cases literal <;> exact deep

private theorem Holds.inside (h : table.Holds id factory) :
    Inside (.expr factory) (.expr table.toExpr) := by
  cases h with
  | element span at? =>
    have part := List.mem_map_of_mem (f := Node.element) (List.mem_of_getElem? at?)
    exact Node.inside_element.trans (Node.inside_part part)
  | property span member _ =>
    have part := List.mem_map_of_mem (f := Node.property) member
    exact Node.inside_property.trans (Node.inside_part part)

private theorem elementModule?_eq_some {placed : Element × Nat}
    (h : elementModule? placed = some m) :
    placed.1 = .item m.factory ∧ m.id = .number (.ofNat placed.2) := by
  obtain ⟨element, position⟩ := placed
  cases element with
  | item factory =>
    cases h
    exact ⟨rfl, rfl⟩
  | _ => cases h

private theorem propertyModule?_eq_some {property : Property}
    (h : propertyModule? property = some m) :
    ∃ place key, property = .entry place key m.factory ∧ idOfKey? key = some m.id := by
  cases property with
  | entry place key factory =>
    obtain ⟨id, made, rfl⟩ := Option.map_eq_some_iff.mp h
    exact ⟨place, key, rfl, made⟩
  | spread => cases h

private theorem elementModules_before {span : Span} {elements : List Element}
    (h : Placed (.expr (.array span elements))) :
    (elements.zipIdx.filterMap elementModule?).Pairwise
      fun m n => m.factory.span.Before n.factory.span := by
  have apart := List.pairwise_map.mp h.parts_apart
  rw [← List.zipIdx_map_fst 0 elements, List.pairwise_map] at apart
  refine apart.filterMap _ fun a b before m hm n hn => ?_
  obtain ⟨ha, -⟩ := elementModule?_eq_some hm
  obtain ⟨hb, -⟩ := elementModule?_eq_some hn
  rw [ha, hb] at before
  exact before _ _ Node.inside_element Node.inside_element

private theorem propertyModules_before {span : Span} {properties : List Property}
    (h : Placed (.expr (.object span properties))) :
    (properties.filterMap propertyModule?).Pairwise
      fun m n => m.factory.span.Before n.factory.span := by
  have apart := List.pairwise_map.mp h.parts_apart
  refine apart.filterMap _ fun a b before m hm n hn => ?_
  obtain ⟨_, _, rfl, -⟩ := propertyModule?_eq_some hm
  obtain ⟨_, _, rfl, -⟩ := propertyModule?_eq_some hn
  exact before _ _ Node.inside_property Node.inside_property

end Table

namespace Detection
variable {d : Detection} {modules : List Module}

private theorem holds_of_listed (listed : d.modules = .ok modules) {m : Module} (h : m ∈ modules) :
    d.table.Holds m.id m.factory := by
  cases table : d.table with
  | array span elements =>
    obtain ⟨-, rfl⟩ := array_listed table listed
    obtain ⟨unmarked, member, rfl⟩ := List.mem_map.mp h
    obtain ⟨⟨element, position⟩, placed, made⟩ := List.mem_filterMap.mp member
    obtain ⟨rfl, id⟩ := Table.elementModule?_eq_some made
    rw [List.mk_mem_zipIdx_iff_getElem?] at placed
    dsimp only
    rw [id]
    exact .element span placed
  | object span properties =>
    obtain ⟨-, rfl⟩ := object_listed table listed
    obtain ⟨unmarked, member, rfl⟩ := List.mem_map.mp h
    obtain ⟨property, member, made⟩ := List.mem_filterMap.mp member
    obtain ⟨place, key, rfl, id⟩ := Table.propertyModule?_eq_some made
    exact .property span member id

private theorem listed_of_holds (listed : d.modules = .ok modules) {id : ModuleId} {factory : Expr}
    (h : d.table.Holds id factory) : ∃ m ∈ modules, m.id = id ∧ m.factory = factory := by
  generalize table : d.table = t at h
  cases h with
  | @element span elements position _ at? =>
    obtain ⟨-, rfl⟩ := array_listed table listed
    have placed : (.item factory, position) ∈ elements.zipIdx :=
      List.mk_mem_zipIdx_iff_getElem?.mpr at?
    have made : Table.elementModule? (.item factory, position) =
      some ⟨.number (.ofNat position), factory, false⟩ := rfl
    exact ⟨_, List.mem_map_of_mem (List.mem_filterMap.mpr ⟨_, placed, made⟩), rfl, rfl⟩
  | @property span properties place key _ _ member known =>
    obtain ⟨-, rfl⟩ := object_listed table listed
    have made : Table.propertyModule? (.entry place key factory) = some ⟨id, factory, false⟩ := by
      rw [Table.propertyModule?, known, Option.map_some]
    exact ⟨_, List.mem_map_of_mem (List.mem_filterMap.mpr ⟨_, member, made⟩), rfl, rfl⟩

private theorem holds_iff (listed : d.modules = .ok modules) {id : ModuleId} {factory : Expr} :
    d.table.Holds id factory ↔ ∃ m ∈ modules, m.id = id ∧ m.factory = factory := by
  refine ⟨listed_of_holds listed, ?_⟩
  rintro ⟨m, member, rfl, rfl⟩
  exact holds_of_listed listed member

private theorem factory_within (placed : Placed (.expr d.table.toExpr))
    (listed : d.modules = .ok modules) {m : Module} (h : m ∈ modules) :
    m.factory.span.start ≤ m.factory.span.stop ∧ m.factory.span.Within d.table.span := by
  obtain ⟨factory, within⟩ := placed.inside (holds_of_listed listed h).inside
  rw [Table.span_toExpr] at within
  exact ⟨factory.ordered, within⟩

private theorem modules_before (placed : Placed (.expr d.table.toExpr))
    (listed : d.modules = .ok modules) :
    modules.Pairwise fun m n => m.factory.span.Before n.factory.span := by
  cases table : d.table with
  | array span elements =>
    rw [table] at placed
    obtain ⟨-, rfl⟩ := array_listed table listed
    exact List.pairwise_map.mpr (Table.elementModules_before placed)
  | object span properties =>
    rw [table] at placed
    obtain ⟨-, rfl⟩ := object_listed table listed
    exact List.pairwise_map.mpr (Table.propertyModules_before placed)

end Detection

section
variable {call : Call} {loader : String} {s : Shape} {format : BundleFormat} {o : Options}
  {found : Detection}

private theorem Classic.shape_inside (h : shape call = .ok s) :
    Inside (.expr s.table.toExpr) (.expr call.toExpr) := by
  obtain ⟨_, -, passes, -⟩ := shape_ok_iff.mp h
  generalize passed : call.arguments = arguments at passes
  obtain ⟨rest, literal⟩ := passes
  refine (Table.inside_of_enclosed literal).trans (inside_of_argument ?_)
  rw [passed]
  exact List.mem_cons_self

private theorem Chunk.shape_inside (h : shape loader call = .ok s) :
    Inside (.expr s.table.toExpr) (.expr call.toExpr) := by
  obtain ⟨entry, ⟨-, argument, slot, passed, slots, literal⟩, -⟩ := shape_ok_iff.mp h
  obtain ⟨e, slots, deep⟩ := slots.exists_inside
  obtain ⟨span, ids⟩ := slots
  have part : Node.element (.item slot) ∈
      (Node.expr (.array span [ids, .item slot, entry])).parts := by
    apply List.mem_map_of_mem
    simp
  have outer : Inside (.expr argument) (.expr call.toExpr) := inside_of_argument (by simp [passed])
  have inner := Node.inside_element.trans (Node.inside_part part)
  exact ((Table.inside_of_enclosed literal).trans inner).trans (deep.trans outer)

private theorem inside_of_detected (h : (detect call o).value.1 = .ok found) :
    Inside (.expr found.table.toExpr) (.expr call.toExpr) := by
  rw [detect_result] at h
  obtain ⟨s, shaped, rfl⟩ := detectAs_ok h
  rw [Detection.withEntry_table]
  generalize o.format.getD call.inferredFormat = format at shaped
  cases format with
  | classic => exact Classic.shape_inside shaped
  | chunk => exact Chunk.shape_inside shaped

end

end BundleLens.Bundle

namespace BundleLens
open BundleLens.Bundle BundleLens.Script
open BundleLens.Script.Node (Placed)

def ModuleSummary.span (m : ModuleSummary) : Span := ⟨m.start.toNat, m.stop.toNat⟩

private theorem ModuleSummary.ofModule_span {m : Module}
    (ordered : m.factory.span.start ≤ m.factory.span.stop)
    (fits : m.factory.span.stop < UInt32.size) : (ofModule m).span = m.factory.span := by
  unfold ofModule span
  dsimp only
  rw [UInt32.toNat_ofNat_of_lt' fits, UInt32.toNat_ofNat_of_lt' (Nat.lt_of_le_of_lt ordered fits)]

/-- Every place in a script is a 32-bit number. -/
theorem utf8ByteSize_lt_of_ofSource {source : String} {program : Program}
    (parsed : Program.ofSource source = .ok program) : source.utf8ByteSize < UInt32.size := by
  unfold Program.ofSource at parsed
  by_cases fits : source.utf8ByteSize < UInt32.size
  · exact fits
  · rw [if_neg fits] at parsed
    cases parsed

variable {o : Options} {name source : String} {program : Program} {report : Report}

/-- If the tree of a source keeps the order of the source, the extents in the report on it are those
of the factories that the table of its bundle holds, each with the id under which it is held. They
stand in the table one after the other, and the table stands in the call that was chosen. -/
theorem reported_spans_locate_factories (parsed : Program.ofSource source = .ok program)
    (placed : Placed (.script ⟨0, source.utf8ByteSize⟩ program.body))
    (unpacked : (unpackSource o name source).outcome = .ok report) :
    ∃ call found modules, (locateCall name source).outcome = .ok call ∧
      (detect call o).value.1 = .ok found ∧ found.modules = .ok modules ∧
      found.table.span.Within call.span ∧
      (∀ id factory, found.table.Holds id factory ↔
        ∃ m ∈ modules, m.id = id ∧ m.factory = factory) ∧
      List.Forall₂ (fun (s : ModuleSummary) (m : Module) => s.id = m.id ∧ s.span = m.factory.span)
        report.modules modules ∧
      (∀ s ∈ report.modules, s.start ≤ s.stop ∧ s.span.Within found.table.span) ∧
      report.modules.Pairwise fun s t => s.start ≤ t.start ∧ s.stop ≤ t.start := by
  obtain ⟨call, found, modules, located, detected, listed, rfl⟩ := unpackSource_ok unpacked
  obtain ⟨_, parsed', chosen⟩ := locateCall_ok_iff.mp located
  obtain rfl := Except.ok.inj (parsed.symm.trans parsed')
  have fits := utf8ByteSize_lt_of_ofSource parsed
  obtain ⟨call_placed, call_within⟩ := placed.inside (inside_of_findCall chosen _)
  obtain ⟨table_placed, table_within⟩ := call_placed.inside (inside_of_detected detected)
  rw [Table.span_toExpr] at table_within
  have factory_within (m : Module) (member : m ∈ modules) :=
    Detection.factory_within table_placed listed member
  have told (m : Module) (member : m ∈ modules) :
      (ModuleSummary.ofModule m).span = m.factory.span := by
    obtain ⟨ordered, within⟩ := factory_within m member
    have last : m.factory.span.stop ≤ source.utf8ByteSize :=
      (within.trans (table_within.trans call_within)).2
    exact ModuleSummary.ofModule_span ordered (Nat.lt_of_le_of_lt last fits)
  refine ⟨call, found, modules, located, detected, listed, table_within,
    fun id factory => Detection.holds_iff listed, ?_, ?_, ?_⟩
  · rw [Report.ofModules, List.forall₂_map_left_iff, List.forall₂_same]
    exact fun m member => ⟨rfl, told m member⟩
  · intro s listed_s
    obtain ⟨m, member, rfl⟩ := List.mem_map.mp listed_s
    obtain ⟨ordered, within⟩ := factory_within m member
    rw [← told m member] at ordered within
    exact ⟨ordered, within⟩
  · refine List.pairwise_map.mpr ?_
    refine (Detection.modules_before table_placed listed).imp_of_mem fun {m n} hm hn before => ?_
    have ordered := (factory_within m hm).1
    rw [← told m hm] at ordered before
    rw [← told n hn] at before
    exact ⟨Nat.le_trans ordered before, before⟩

/-- A chunk with a hole between its modules, its table in parentheses. -/
theorem reported_spans_locate_factories_hole :
    ∃ program report, Program.ofSource "!f([0,([1,,2]),[[0]]])" = .ok program ∧
      Placed (.script ⟨0, "!f([0,([1,,2]),[[0]]])".utf8ByteSize⟩ program.body) ∧
      (unpackSource ⟨none, none, "f"⟩ "a.js" "!f([0,([1,,2]),[[0]]])").outcome = .ok report ∧
      report.modules.map ModuleSummary.span = [⟨8, 9⟩, ⟨11, 12⟩] ∧
      report.modules.Pairwise fun s t => s.start ≤ t.start ∧ s.stop ≤ t.start := by
  obtain ⟨program, parsed, tree⟩ : ∃ program,
      Program.ofSource "!f([0,([1,,2]),[[0]]])" = .ok program ∧
        (Node.script ⟨0, "!f([0,([1,,2]),[[0]]])".utf8ByteSize⟩ program.body).isPlaced 12 = true :=
    exists_ok (by decide +kernel)
  obtain ⟨report, unpacked, spans⟩ : ∃ report,
      (unpackSource ⟨none, none, "f"⟩ "a.js" "!f([0,([1,,2]),[[0]]])").outcome = .ok report ∧
        report.modules.map ModuleSummary.span = [⟨8, 9⟩, ⟨11, 12⟩] := exists_ok (by decide +kernel)
  have placed := Node.placed_of_isPlaced tree
  obtain ⟨_, _, _, -, -, -, -, -, -, -, before⟩ :=
    reported_spans_locate_factories parsed placed unpacked
  exact ⟨program, report, parsed, placed, unpacked, spans, before⟩

end BundleLens
