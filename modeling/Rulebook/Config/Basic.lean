import Rulebook.Diagnostic.Basic

/-!
# Configuration of a build

* `BuildConfig`: the options of building a content graph, with their defaults.
-/

namespace Rulebook

/-- The options of building a content graph. -/
structure BuildConfig where
  /-- Whether entries may be resolved side by side. Here they are resolved one by one. -/
  parallel : Bool := true
  /-- How bad a reference in a template is whose target is missing. -/
  templateReferenceSeverity : Severity := .warning
  /-- Whether to warn about an attack without a saving throw that says what a save does. -/
  effectOnSaveWarnings : Bool := true
  deriving DecidableEq, Repr

end Rulebook
