import Rulebook.Registry.Basic
import Rulebook.Template.Basic

/-!
# Resolved templates

* `Found`: what is found for some nodes, and `Found.add` for the next one.
* `Template.resolve`: all nodes of a template, looked up in a registry.
* `ResolvedTemplate.links`, `ResolvedTemplate.failures`: the references with their targets, and
  those without one.
* `ResolvedTemplate.render`: the text with every directive replaced by what it stands for.
-/

namespace Rulebook

namespace Template

/-- What is found for some nodes: a target for each of them, if it is a reference that has one, and
the references that were not found, with the spans of their directives. -/
structure Found where
  targets : List (Option Entry)
  failures : List (Spanned ResolveError)

/-- What is found with one more node. -/
def Found.add (registry : Registry) (found : Found) (n : Spanned Node) : Found :=
  match n.value with
  | .ref r =>
    match registry.resolve r.target with
    | .ok entry => { found with targets := found.targets ++ [some entry] }
    | .error e => ⟨found.targets ++ [none], found.failures ++ [⟨e, n.span⟩]⟩
  | _ => { found with targets := found.targets ++ [none] }

/-- The text that a node with a target stands for: a formula as it is written, and for a reference
its display text, else the name of its target, else the directive itself. -/
def Node.render (target : Option Entry) : Node → String
  | literal text => text
  | dice d => d.formula.text
  | ref r =>
    match r.display, target with
    | some display, _ => display
    | none, some entry => entry.displayName
    | none, none => r.raw

end Template

/-- A template whose references were looked up. There is one target for each node, in the same order,
and none for a node that is no reference or was not found. -/
structure ResolvedTemplate extends Template where
  targets : List (Option Entry)
  failures : List (Spanned ResolveError)

/-- The template with every reference looked up. A reference without a target stays in it. -/
def Template.resolve (t : Template) (registry : Registry) : ResolvedTemplate :=
  let found := t.nodes.foldl (Found.add registry) ⟨[], []⟩
  ⟨t, found.targets, found.failures⟩

namespace ResolvedTemplate

/-- Every reference with its target, if it was found. -/
def links (t : ResolvedTemplate) : List (Template.RefDirective × Option Entry) :=
  (t.nodes.zip t.targets).filterMap fun (n, target) => n.value.ref?.map (·, target)

/-- Whether every reference was found. -/
def isFullyResolved (t : ResolvedTemplate) : Bool := t.failures.isEmpty

/-- The formulas of the template, in order. -/
def formulas (t : ResolvedTemplate) : List Formula := t.toTemplate.formulas

/-- The text with every directive replaced by what it stands for. -/
def render (t : ResolvedTemplate) : String :=
  String.join ((t.nodes.zip t.targets).map fun (n, target) => n.value.render target)

end ResolvedTemplate

end Rulebook
