import Rulebook.Entry.Basic
import Rulebook.Entry.Variants

/-!
# Entries as data

The data that an entry is written as. All fields are there, in the order of the type; one without
a value is null.

* `Reference.encode`, `Progression.encode`, `Spell.encode`, `Record.encode`: whole entries and
  their parts.
-/

namespace Rulebook

variable {α : Type}

/-- One of some named alternatives. -/
def encodeVariant [Variants α] (a : α) : Datum := .text (Variants.name a)

/-- A number of 32 bits. -/
def encodeWord32 (n : UInt32) : Datum := .int n.toNat

/-- A value that may be null. -/
def encodeOption (encode : α → Datum) : Option α → Datum
  | none => .null
  | some a => encode a

/-- A list. -/
def encodeList (encode : α → Datum) (l : List α) : Datum := .list (l.map encode)

/-- A reference as data. -/
def Reference.encode (r : Reference) : Datum :=
  .map [("collection", encodeVariant r.collection), ("id", .text r.id)]

/-- A casting time as data. -/
def CastingTime.encode (t : CastingTime) : Datum :=
  .map [("amount", encodeWord32 t.amount), ("unit", encodeVariant t.unit),
    ("condition", encodeOption .text t.condition)]

/-- A tagged structure as data: the alternative and its fields. -/
def encodeTagged [Variants α] (kind : α) (fields : List (String × Datum)) : Datum :=
  .map ((Tagged.tag, encodeVariant kind) :: fields)

/-- A range as data. -/
def SpellRange.encode : SpellRange → Datum
  | caster => encodeTagged RangeKind.caster []
  | touch => encodeTagged RangeKind.touch []
  | sight => encodeTagged RangeKind.sight []
  | unlimited => encodeTagged RangeKind.unlimited []
  | ranged feet => encodeTagged RangeKind.ranged [("feet", encodeWord32 feet)]
  | area shape feet =>
    encodeTagged RangeKind.area [("shape", encodeVariant shape), ("feet", encodeWord32 feet)]

/-- Components as data. -/
def Components.encode (c : Components) : Datum :=
  .map [("verbal", .bool c.verbal), ("somatic", .bool c.somatic),
    ("material", encodeOption .text c.material)]

/-- A duration as data. -/
def Duration.encode : Duration → Datum
  | instantaneous => encodeTagged DurationKind.instantaneous []
  | timed amount unit concentration => encodeTagged DurationKind.timed
      [("amount", encodeWord32 amount), ("unit", encodeVariant unit),
        ("concentration", .bool concentration)]
  | untilDispelled => encodeTagged DurationKind.untilDispelled []
  | special => encodeTagged DurationKind.special []

/-- Damage as data. -/
def Damage.encode (d : Damage) : Datum :=
  .map [("dice", .text d.dice), ("damageType", d.damageType.encode)]

/-- An attack as data. -/
def Attack.encode (a : Attack) : Datum :=
  .map [("kind", encodeVariant a.kind), ("save", encodeOption Reference.encode a.save),
    ("effectOnSave", encodeOption encodeVariant a.effectOnSave),
    ("damage", encodeList Damage.encode a.damage)]

/-- A row of a progression as data. -/
def ProgressionStep.encode (s : ProgressionStep) : Datum :=
  .map [("at", encodeWord32 s.key), ("dice", .text s.dice)]

/-- A progression as data. -/
def Progression.encode (p : Progression) : Datum :=
  .map [("basis", encodeVariant p.basis), ("steps", encodeList ProgressionStep.encode p.steps)]

/-- A spell as data. -/
def Spell.encode (s : Spell) : Datum :=
  .map [("id", .text s.id), ("name", .text s.name), ("level", .int s.level.toNat),
    ("school", s.school.encode), ("castingTimes", encodeList CastingTime.encode s.castingTimes),
    ("range", s.range.encode), ("components", s.components.encode),
    ("durations", encodeList Duration.encode s.durations), ("ritual", .bool s.ritual),
    ("attack", encodeOption Attack.encode s.attack),
    ("damageProgression", encodeOption Progression.encode s.damageProgression),
    ("healingProgression", encodeOption Progression.encode s.healingProgression),
    ("conditions", encodeList Reference.encode s.conditions), ("desc", .text s.desc),
    ("higherLevels", encodeOption .text s.higherLevels)]

/-- A record as data. -/
def Record.encode (r : Record) : Datum :=
  .map [("id", .text r.id), ("name", encodeOption .text r.name),
    ("desc", encodeOption .text r.desc),
    ("links", .map (r.links.toList.map fun (name, target) => (name, target.encode)))]

end Rulebook
