import Rulebook.Entry.Basic
import Rulebook.Entry.Variants

/-!
# Entries from data

Unknown fields are ignored. Errors in the fields that are there come before the first field that
is missing.

* `Reference.decode`, `Progression.decode`, `Spell.decode`, `Record.decode`: whole entries and
  their parts.
-/

namespace Rulebook

/-- A reference. -/
def Reference.decode : Decoder Reference := fun dialect d => do
  let f ← Fields.ofDatum "struct Reference" ["collection", "id"] dialect d
  let collection ← f.read? "collection" decodeVariant
  let id ← f.read? "id" decodeText
  f.finish {
    collection := ← f.need "collection" collection
    id := ← f.need "id" id }

/-- A casting time. -/
def CastingTime.decode : Decoder CastingTime := fun dialect d => do
  let f ← Fields.ofDatum "struct CastingTime" ["amount", "unit", "condition"] dialect d
  let amount ← f.read? "amount" decodeWord32
  let unit ← f.read? "unit" decodeVariant
  let condition ← f.readD "condition" (decodeOption decodeText) none
  f.finish {
    amount := ← f.need "amount" amount
    unit := ← f.need "unit" unit
    condition }

/-- A range. -/
def SpellRange.decode : Decoder SpellRange := fun dialect d => do
  let t : Tagged RangeKind ← Tagged.ofDatum "internally tagged enum SpellRange" dialect d
  match t.variant with
  | .caster => t.bare caster
  | .touch => t.bare touch
  | .sight => t.bare sight
  | .unlimited => t.bare unlimited
  | .ranged =>
    let f ← t.fields "struct variant SpellRange::Ranged" ["feet"]
    let feet ← f.read? "feet" decodeWord32
    f.finishTagged (ranged (← f.need "feet" feet))
  | .area =>
    let f ← t.fields "struct variant SpellRange::Area" ["shape", "feet"]
    let shape ← f.read? "shape" decodeTaggedVariant
    let feet ← f.read? "feet" decodeWord32
    f.finishTagged (area (← f.need "shape" shape) (← f.need "feet" feet))

/-- Components. -/
def Components.decode : Decoder Components := fun dialect d => do
  let f ← Fields.ofDatum "struct Components" ["verbal", "somatic", "material"] dialect d
  let verbal ← f.readD "verbal" decodeBool false
  let somatic ← f.readD "somatic" decodeBool false
  let material ← f.readD "material" (decodeOption decodeText) none
  f.finish { verbal, somatic, material }

/-- A duration. -/
def Duration.decode : Decoder Duration := fun dialect d => do
  let t : Tagged DurationKind ← Tagged.ofDatum "internally tagged enum Duration" dialect d
  match t.variant with
  | .instantaneous => t.bare instantaneous
  | .untilDispelled => t.bare untilDispelled
  | .special => t.bare special
  | .timed =>
    let f ← t.fields "struct variant Duration::Timed" ["amount", "unit", "concentration"]
    let amount ← f.read? "amount" decodeWord32
    let unit ← f.read? "unit" decodeTaggedVariant
    let concentration ← f.readD "concentration" decodeBool false
    f.finishTagged (timed (← f.need "amount" amount) (← f.need "unit" unit) concentration)

/-- Damage. -/
def Damage.decode : Decoder Damage := fun dialect d => do
  let f ← Fields.ofDatum "struct Damage" ["dice", "damageType"] dialect d
  let dice ← f.read? "dice" decodeText
  let damageType ← f.read? "damageType" Reference.decode
  f.finish {
    dice := ← f.need "dice" dice
    damageType := ← f.need "damageType" damageType }

/-- An attack. -/
def Attack.decode : Decoder Attack := fun dialect d => do
  let f ← Fields.ofDatum "struct Attack" ["kind", "save", "effectOnSave", "damage"] dialect d
  let kind ← f.read? "kind" decodeVariant
  let save ← f.readD "save" (decodeOption Reference.decode) none
  let effectOnSave ← f.readD "effectOnSave" (decodeOption decodeVariant) none
  let damage ← f.readD "damage" (decodeList Damage.decode) []
  f.finish {
    kind := ← f.need "kind" kind
    save, effectOnSave, damage }

/-- A row of a progression. -/
def ProgressionStep.decode : Decoder ProgressionStep := fun dialect d => do
  let f ← Fields.ofDatum "struct ProgressionStep" ["at", "dice"] dialect d
  let key ← f.read? "at" decodeWord32
  let dice ← f.read? "dice" decodeText
  f.finish {
    key := ← f.need "at" key
    dice := ← f.need "dice" dice }

/-- A progression. -/
def Progression.decode : Decoder Progression := fun dialect d => do
  let f ← Fields.ofDatum "struct Progression" ["basis", "steps"] dialect d
  let basis ← f.read? "basis" decodeVariant
  let steps ← f.read? "steps" (decodeList ProgressionStep.decode)
  f.finish {
    basis := ← f.need "basis" basis
    steps := ← f.need "steps" steps }

/-- The names of the fields of a spell. -/
def Spell.fieldNames : List String :=
  ["id", "name", "level", "school", "castingTimes", "range", "components", "durations", "ritual",
    "attack", "damageProgression", "healingProgression", "conditions", "desc", "higherLevels"]

/-- A spell. -/
def Spell.decode : Decoder Spell := fun dialect d => do
  let f ← Fields.ofDatum "struct Spell" fieldNames dialect d
  let id ← f.read? "id" decodeText
  let name ← f.read? "name" decodeText
  let level ← f.read? "level" decodeWord8
  let school ← f.read? "school" Reference.decode
  let castingTimes ← f.read? "castingTimes" (decodeList CastingTime.decode)
  let range ← f.read? "range" SpellRange.decode
  let components ← f.readD "components" Components.decode {}
  let durations ← f.read? "durations" (decodeList Duration.decode)
  let ritual ← f.readD "ritual" decodeBool false
  let attack ← f.readD "attack" (decodeOption Attack.decode) none
  let damageProgression ← f.readD "damageProgression" (decodeOption Progression.decode) none
  let healingProgression ← f.readD "healingProgression" (decodeOption Progression.decode) none
  let conditions ← f.readD "conditions" (decodeList Reference.decode) []
  let desc ← f.read? "desc" decodeText
  let higherLevels ← f.readD "higherLevels" (decodeOption decodeText) none
  f.finish {
    id := ← f.need "id" id
    name := ← f.need "name" name
    level := ← f.need "level" level
    school := ← f.need "school" school
    castingTimes := ← f.need "castingTimes" castingTimes
    range := ← f.need "range" range
    components
    durations := ← f.need "durations" durations
    ritual, attack, damageProgression, healingProgression, conditions
    desc := ← f.need "desc" desc
    higherLevels }

/-- A record. -/
def Record.decode : Decoder Record := fun dialect d => do
  let f ← Fields.ofDatum "struct Record" ["id", "name", "desc", "links"] dialect d
  let id ← f.read? "id" decodeText
  let name ← f.readD "name" (decodeOption decodeText) none
  let desc ← f.readD "desc" (decodeOption decodeText) none
  let links ← f.readD "links" (decodeMap Reference.decode) []
  f.finish {
    id := ← f.need "id" id
    name, desc
    links := Std.ExtTreeMap.ofList links }

end Rulebook
