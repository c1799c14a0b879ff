import BundleLens.Script.Syntax
import Mathlib.Logic.Relation

/-! Where the parts of a script stand in its source. In a tree that keeps the order of the source,
what is anywhere inside a part stands within it, and what is inside an earlier part ends before
anything inside a later one starts. -/
namespace BundleLens.Script
open Relation (ReflTransGen)

namespace Span

def Within (inner outer : Span) : Prop := outer.start ≤ inner.start ∧ inner.stop ≤ outer.stop

def Before (earlier later : Span) : Prop := earlier.stop ≤ later.start

instance : DecidableRel Within := fun _ _ => instDecidableAnd

instance : DecidableRel Before := fun earlier later => Nat.decLe earlier.stop later.start

private theorem Within.refl (span : Span) : span.Within span := ⟨Nat.le_refl _, Nat.le_refl _⟩

theorem Within.trans {a b c : Span} (h : a.Within b) (h' : b.Within c) : a.Within c :=
  ⟨Nat.le_trans h'.1 h.1, Nat.le_trans h.2 h'.2⟩

/-- Stretches within others stand in the order of these. -/
theorem Before.within {a b earlier later : Span} (h : earlier.Before later)
    (ha : a.Within earlier) (hb : b.Within later) : a.Before b :=
  Nat.le_trans ha.2 (Nat.le_trans h hb.1)

end Span

def Element.span : Element → Span
  | .hole span | .spread span _ => span
  | .item e => e.span

def Argument.span : Argument → Span
  | .spread span _ => span
  | .item e => e.span

def Property.span : Property → Span
  | .entry span _ _ | .spread span _ => span

def Stmt.span : Stmt → Span
  | .expression span _ | .returning span _ | .other span => span

inductive Node where
  | script (span : Span) (body : List Stmt)
  | stmt (s : Stmt)
  | expr (e : Expr)
  | element (x : Element)
  | argument (x : Argument)
  | property (x : Property)

def Expr.parts : Expr → List Node
  | .template _ _ substitutions => substitutions.map .expr
  | .array _ elements => elements.map .element
  | .object _ properties => properties.map .property
  | .function _ body => body.map .stmt
  | .logical _ _ left right => [.expr left, .expr right]
  | .assign _ _ target value => [.expr target, .expr value]
  | .index _ base key => [.expr base, .expr key]
  | .call _ callee passed => .expr callee :: passed.map .argument
  | .sequence _ items => items.map .expr
  | .unary _ _ inner | .member _ inner _ | .privateMember _ inner _ | .paren _ inner => [.expr inner]
  | .identifier .. | .this _ | .number .. | .string .. | .other _ => []

namespace Node

def span : Node → Span
  | script span _ => span
  | stmt s => s.span
  | expr e => e.span
  | element x => x.span
  | argument x => x.span
  | property x => x.span

def parts : Node → List Node
  | script _ body => body.map stmt
  | stmt (.expression _ e) | stmt (.returning _ (some e)) => [expr e]
  | stmt _ => []
  | expr e => e.parts
  | element (.spread _ e) | element (.item e) => [expr e]
  | element (.hole _) => []
  | argument (.spread _ e) | argument (.item e) => [expr e]
  | property (.entry _ _ e) | property (.spread _ e) => [expr e]

def IsPart (part whole : Node) : Prop := part ∈ whole.parts

/-- A node is another, or a part of it at any depth. -/
def Inside : Node → Node → Prop := ReflTransGen IsPart

/-- A node keeps the order of the source: no extent ends before it starts, each part lies in the
whole, and one part ends before the next one starts. -/
inductive Placed : Node → Prop
  | intro {node : Node} : node.span.start ≤ node.span.stop →
      (∀ part ∈ node.parts, part.span.Within node.span) →
      node.parts.Pairwise (fun earlier later => earlier.span.Before later.span) →
      (∀ part ∈ node.parts, Placed part) → Placed node

def isPlaced : Nat → Node → Bool
  | 0, _ => false
  | depth + 1, node =>
    decide (node.span.start ≤ node.span.stop) &&
    node.parts.all (fun part => decide (part.span.Within node.span)) &&
    decide (node.parts.Pairwise fun earlier later => earlier.span.Before later.span) &&
    node.parts.all (isPlaced depth)

theorem placed_of_isPlaced {depth : Nat} {node : Node} (h : node.isPlaced depth = true) :
    Placed node := by
  induction depth generalizing node with
  | zero => cases h
  | succ depth ih =>
    simp only [isPlaced, Bool.and_eq_true, List.all_eq_true, decide_eq_true_eq] at h
    obtain ⟨⟨⟨ordered, within⟩, apart⟩, placed⟩ := h
    exact .intro ordered within apart fun part hp => ih (placed part hp)

variable {inner outer node : Node} {e : Expr}

theorem inside_part (h : inner ∈ outer.parts) : Inside inner outer := .single h

theorem inside_element : Inside (expr e) (element (.item e)) := inside_part List.mem_cons_self

theorem inside_argument : Inside (expr e) (argument (.item e)) := inside_part List.mem_cons_self

theorem inside_property {place : Span} {key : Key} :
    Inside (expr e) (property (.entry place key e)) := inside_part List.mem_cons_self

theorem Inside.trans {other : Node} (h : Inside inner outer) (h' : Inside outer other) :
    Inside inner other := ReflTransGen.trans h h'

namespace Placed

theorem ordered (h : Placed node) : node.span.start ≤ node.span.stop := by
  cases h
  assumption

/-- What is inside a node keeps the order of the source as well, and lies in the node. -/
theorem inside (h : Placed outer) (deep : Inside inner outer) :
    Placed inner ∧ inner.span.Within outer.span := by
  induction deep with
  | refl => exact ⟨h, .refl _⟩
  | tail _ part ih =>
    obtain ⟨_, within, _, placed⟩ := h
    obtain ⟨hp, lies⟩ := ih (placed _ part)
    exact ⟨hp, lies.trans (within _ part)⟩

/-- The order of the parts carries over to whatever is inside of them. -/
theorem parts_apart (h : Placed node) :
    node.parts.Pairwise fun earlier later => ∀ a b, Inside a earlier → Inside b later →
      a.span.Before b.span := by
  obtain ⟨_, _, apart, placed⟩ := h
  refine apart.imp_of_mem fun {earlier later} he hl before a b ha hb => ?_
  exact before.within ((placed earlier he).inside ha).2 ((placed later hl).inside hb).2

end Placed

end Node

end BundleLens.Script
