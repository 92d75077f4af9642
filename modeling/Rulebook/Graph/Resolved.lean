import Rulebook.Entry.Check
import Rulebook.Sorting
import Rulebook.Template.Resolved

/-!
# Resolved entries

Resolving an entry looks its references up, parses its formulas and templates, and checks its
structural rules. What fails becomes a diagnostic; nothing stops the rest.

* `ResolvedProgression`: a progression with parsed formulas, and `at?` for the dice of a key.
* `ReferenceField.lookup`, `DiceField.formula`, `TemplateField.resolve`: what a field stands for.
* `ResolvedEntry`: an entry with everything that its fields stand for.
* `Entry.resolve`: the resolved entry of an entry.
-/

namespace Rulebook

open Std

/-- A progression with its formulas parsed. -/
structure ResolvedProgression where
  basis : Basis
  steps : List (UInt32 × Formula)
  deriving DecidableEq, Repr

/-- The dice for a key: those of the last step before the first step above the key. -/
def ResolvedProgression.at? (p : ResolvedProgression) (key : UInt32) : Option Formula :=
  (p.steps.takeWhile (·.1 ≤ key)).getLast?.map (·.2)

/-- The progression with its formulas parsed. A step whose formula is malformed is left out. -/
def Progression.resolve (p : Progression) : ResolvedProgression :=
  ⟨p.basis, p.steps.filterMap fun s => (Formula.parse s.dice).toOption.map (s.key, ·)⟩

/-- The kind of problem that an unresolved reference is. -/
def ResolveError.kind : ResolveError → DiagnosticKind
  | notFound _ => .danglingReference
  | wrongCollection .. => .wrongCollection

namespace ReferenceField

/-- The entry that the field points at. -/
def lookup (registry : Registry) (f : ReferenceField) : Except ResolveError Entry :=
  registry.resolveInto f.expected f.target

/-- What is wrong with the field. -/
def finding? (registry : Registry) (f : ReferenceField) : Option Finding :=
  match f.lookup registry with
  | .ok _ => none
  | .error e => some ⟨f.path, .error, e.kind, e.message⟩

end ReferenceField

namespace DiceField

/-- The formula of the field. -/
def formula (f : DiceField) : Except ParseError Formula := Formula.parse f.source

/-- What is wrong with the field. -/
def finding? (f : DiceField) : Option Finding :=
  match f.formula with
  | .ok _ => none
  | .error e => some ⟨f.path, .error, .parse, s!"invalid dice '{f.source}': {e.message}"⟩

end DiceField

namespace TemplateField

/-- The template of the field. -/
def template (f : TemplateField) : Except ParseError Template := Template.parse f.source

/-- The template of the field with its references looked up. -/
def resolve (registry : Registry) (f : TemplateField) : Except ParseError ResolvedTemplate :=
  (·.resolve registry) <$> f.template

/-- Whether the template is parsed, or the entry can do without it. -/
def isUsable (f : TemplateField) : Bool := f.template.toBool || !f.required

/-- What is wrong with the field: the template is malformed, or its references are not found. -/
def findings (registry : Registry) (severity : Severity) (f : TemplateField) : List Finding :=
  match f.resolve registry with
  | .error e => [⟨f.path, .error, .parse, s!"{e.message} (offsets into the normalized text)"⟩]
  | .ok t => t.failures.map fun ⟨e, span⟩ => ⟨f.path, severity, e.kind,
      s!"{e.message} (directive at normalized offset {span.start}..{span.stop})"⟩

end TemplateField

/-- The values of fields by their paths, where they have one. -/
def byPath {α β : Type} (fields : List α) (path : α → String) (value? : α → Option β) :
    ExtTreeMap String β :=
  .ofList (fields.filterMap fun f => (value? f).map (path f, ·))

/-- An entry with its references looked up and its formulas and templates parsed. -/
structure ResolvedEntry where
  collection : Collection
  entry : Entry
  /-- Whether the entry is fit for use: its rules hold, its references are found, and its formulas
  and required templates are parsed. -/
  valid : Bool
  diagnostics : List Diagnostic
  /-- The targets of the reference fields, or nothing for one that was not found. -/
  references : ExtTreeMap String (Option Entry)
  templates : ExtTreeMap String ResolvedTemplate
  dice : ExtTreeMap String Formula
  progressions : ExtTreeMap String ResolvedProgression

namespace Entry

variable (e : Entry) (c : Collection) (registry : Registry) (config : BuildConfig)

/-- Everything that is wrong with an entry. -/
def findings : List Finding :=
  e.structuralFindings c config ++
  e.referenceFields.filterMap (·.finding? registry) ++
  e.diceFields.filterMap (·.finding?) ++
  e.templateFields.flatMap (·.findings registry config.templateReferenceSeverity)

/-- Whether an entry is fit for use. -/
def isValid : Bool :=
  (e.structuralFindings c config).all (·.severity ≠ .error) &&
  e.referenceFields.all (fun f => (f.lookup registry).toBool) &&
  e.diceFields.all (fun f => f.formula.toBool) &&
  e.templateFields.all (·.isUsable)

/-- The resolved entry of an entry in a collection. -/
def resolve : ResolvedEntry where
  collection := c
  entry := e
  valid := e.isValid c registry config
  diagnostics := sorted ((e.findings c registry config).map (·.at c e.id))
  references := byPath e.referenceFields (·.path) fun f => some (f.lookup registry).toOption
  templates := byPath e.templateFields (·.path) fun f => (f.resolve registry).toOption
  dice := byPath e.diceFields (·.path) fun f => f.formula.toOption
  progressions := byPath e.progressions (·.1) fun (_, p) => some p.resolve

end Entry

namespace ResolvedEntry

variable (e : ResolvedEntry)

/-- The id of the entry. -/
def id : String := e.entry.id

/-- The reference that the entry is found under. -/
def ref : Reference := ⟨e.collection, e.id⟩

/-- The target of a reference field, if it was found. -/
def reference? (path : String) : Option Entry := (e.references.get? path).join

/-- The rendered text of a template field. -/
def rendered? (path : String) : Option String := (e.templates.get? path).map (·.render)

end ResolvedEntry

end Rulebook
