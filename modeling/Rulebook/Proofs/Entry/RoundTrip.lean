import Rulebook.Entry.Decode
import Rulebook.Entry.Document
import Rulebook.Entry.Encode
import Rulebook.Proofs.Ascending
import Rulebook.Proofs.Outcome

/-!
# Entries written and read again

Every value is read back from the data that it is written as. The proof follows the types: a
decoder and an encoder that belong together stay together in lists, in values that may be null, in
maps and in structures with a field for each part.

* `Datum.Plain`: data that a JSON text can hold.
* `RoundTrips`: a decoder that gives back what an encoder has written. `RoundTrips.reloadsFrom`: the
  answer to whatever a reader gave is loaded again then.
* `list_roundTrips`, `option_roundTrips`, `map_back`: the shapes.
* `Fields.read?_here`, `Tagged.ofDatum_encodeTagged`: the fields of a structure.
* `reference_roundTrips`, …, `spell_roundTrips`, `record_roundTrips`: the types, part by part.
* `content_reloads`: **what an entry is written as is read as the entry**, and whatever was loaded
  is loaded again from the answer.
-/

namespace Rulebook

variable {α β : Type}

/-- **Data that a JSON text can hold**: integers have 64 bits, the fields of a map have different
names, and there are no dates and no tables. -/
inductive Datum.Plain : Datum → Prop
  | null : Plain null
  | bool (b : Bool) : Plain (bool b)
  | int {n : Int} (h : Int64.minValue.toInt ≤ n ∧ n < UInt64.size) : Plain (int n)
  | text (s : String) : Plain (text s)
  | list {items : List Datum} (h : ∀ d ∈ items, Plain d) : Plain (list items)
  | map {fields : List (String × Datum)} (names : (fields.map (·.1)).Nodup)
      (values : ∀ field ∈ fields, Plain field.2) : Plain (map fields)

/-- **A decoder gives back what an encoder has written**, in every dialect. -/
structure RoundTrips (decode : Decoder α) (encode : α → Datum) : Prop where
  back : ∀ dialect a, decode dialect (encode a) = .ok a
  plain : ∀ a, (encode a).Plain

/-- Whatever a reader gives, its answer is accepted too, and answered by itself. -/
def ReloadsFrom {σ ε : Type} (decode : Decoder α) (encode : α → Datum) (read : σ → Except ε α) : Prop :=
  ∀ source answer, encode <$> read source = .ok answer → encode <$> decode .json answer = .ok answer

/-- **Where decoding undoes encoding, it does not matter how a value was read.** -/
theorem RoundTrips.reloadsFrom {σ ε : Type} {decode : Decoder α} {encode : α → Datum}
    (h : RoundTrips decode encode) (read : σ → Except ε α) : ReloadsFrom decode encode read := by
  intro source answer hread
  obtain ⟨a, -, rfl⟩ := map_eq_ok hread
  rw [h.back, Except.map_ok]

/-- **Whatever is loaded is loaded again from the answer.** -/
structure Reloads (decode : Decoder α) (encode : α → Datum) : Prop where
  /-- What a value is written as is read as that value, -/
  back : ∀ a, decode .json (encode a) = .ok a
  /-- and a JSON text can hold it. -/
  plain : ∀ a, (encode a).Plain
  /-- If data is accepted, the answer is loaded again, -/
  data : ReloadsFrom decode encode (decode .json)
  /-- and so it is if a document is accepted. -/
  document : ReloadsFrom decode encode (decodeDocument decode)

theorem RoundTrips.reloads {decode : Decoder α} {encode : α → Datum}
    (h : RoundTrips decode encode) : Reloads decode encode :=
  ⟨h.back .json, h.plain, h.reloadsFrom _, h.reloadsFrom _⟩

/-! ## Simple shapes -/

theorem text_roundTrips : RoundTrips decodeText .text where
  back _ _ := rfl
  plain := .text

theorem bool_roundTrips : RoundTrips decodeBool .bool where
  back _ _ := rfl
  plain := .bool

theorem decodeNat_back {n limit : Nat} (h : n < limit) (expected : String) (dialect : Dialect) :
    decodeNat limit expected dialect (.int n) = .ok n := by
  rw [decodeNat, if_pos ⟨Int.natCast_nonneg n, Int.ofNat_lt.2 h⟩, Int.toNat_natCast]

theorem nat_plain {n : Nat} (h : n < UInt64.size) : (Datum.int n).Plain :=
  .int ⟨Int.le_trans (by decide) (Int.natCast_nonneg n), Int.ofNat_lt.2 h⟩

theorem word8_roundTrips : RoundTrips decodeWord8 fun n => .int n.toNat where
  back dialect n := by
    unfold decodeWord8
    rw [decodeNat_back n.toNat_lt, Except.map_ok, UInt8.ofNat_toNat]
  plain n := nat_plain (Nat.lt_trans n.toNat_lt (by decide))

theorem word32_roundTrips : RoundTrips decodeWord32 encodeWord32 where
  back dialect n := by
    unfold decodeWord32 encodeWord32
    rw [decodeNat_back n.toNat_lt, Except.map_ok, UInt32.ofNat_toNat]
  plain n := nat_plain (Nat.lt_trans n.toNat_lt (by decide))

theorem variant_roundTrips [Variants α] : RoundTrips (decodeVariant (α := α)) encodeVariant where
  back dialect a := by simp [decodeVariant, encodeVariant]
  plain _ := .text _

theorem taggedVariant_roundTrips [Variants α] :
    RoundTrips (decodeTaggedVariant (α := α)) encodeVariant where
  back dialect a := by simp [decodeTaggedVariant, encodeVariant]
  plain _ := .text _

/-- All values of a list are read back if each one is. -/
theorem mapM_back {write : α → β} {read : β → Except DecodeError α}
    (h : ∀ a, read (write a) = .ok a) (l : List α) : (l.map write).mapM read = .ok l := by
  have hback : read ∘ write = pure := funext h
  rw [List.mapM_map, hback, List.mapM_pure, List.map_id']
  rfl

section

variable {decode : Decoder α} {encode : α → Datum}

theorem list_roundTrips (h : RoundTrips decode encode) :
    RoundTrips (decodeList decode) (encodeList encode) where
  back dialect := mapM_back (h.back dialect)
  plain _ := .list (List.forall_mem_map.2 fun a _ => h.plain a)

/-- **A value that may be null** is read back if no other value is written as null. -/
theorem option_roundTrips (h : RoundTrips decode encode) (hnull : ∀ a, encode a ≠ .null) :
    RoundTrips (decodeOption decode) (encodeOption encode) where
  back dialect a? := by
    cases a? with
    | none => rfl
    | some a =>
      have hsome : decodeOption decode dialect (encode a) = some <$> decode dialect (encode a) := by
        unfold decodeOption
        split
        · exact absurd ‹_› (hnull a)
        · rfl
      exact hsome.trans (by rw [h.back, Except.map_ok])
  plain a? := by
    cases a? with
    | none => exact .null
    | some a => exact h.plain a

theorem map_back (h : RoundTrips decode encode) (dialect : Dialect) (l : List (String × α)) :
    decodeMap decode dialect (.map (l.map fun (name, a) => (name, encode a))) = .ok l := by
  have hfield (field : String × α) :
      (field.1, ·) <$> decode dialect (encode field.2) = .ok field := by
    rw [h.back, Except.map_ok]
  exact mapM_back hfield l

theorem map_plain (h : RoundTrips decode encode) {l : List (String × α)}
    (hnames : (l.map (·.1)).Nodup) :
    (Datum.map (l.map fun (name, a) => (name, encode a))).Plain := by
  refine .map ?_ (List.forall_mem_map.2 fun field _ => h.plain field.2)
  rw [List.map_map]
  exact hnames

end

/-- **A text that may be null.** -/
theorem note_roundTrips : RoundTrips (decodeOption decodeText) (encodeOption .text) :=
  option_roundTrips text_roundTrips nofun

/-! ## Structures -/

theorem ok_bind {ε : Type} (a : α) (f : α → Except ε β) : (Except.ok a >>= f) = f a := by
  -- by `rfl` the kernel would be left to run the steps behind it, limits of integers and all
  simp only [bind, Except.bind]

namespace Fields

variable {title name other : String} {names : List String} {d : Datum}
  {present : List (String × Datum)} {listed : Option Nat} {dialect : Dialect}

@[simp] theorem ofDatum_map : ofDatum title names dialect (.map present) =
    .ok ⟨title, names, present, none, dialect⟩ := rfl

@[simp] theorem read?_here (decode : Decoder α) :
    read? ⟨title, names, (name, d) :: present, listed, dialect⟩ name decode =
      some <$> decode dialect d := by
  simp [read?]

@[simp] theorem read?_behind (h : name ≠ other) (decode : Decoder α) :
    read? ⟨title, names, (other, d) :: present, listed, dialect⟩ name decode =
      read? ⟨title, names, present, listed, dialect⟩ name decode := by
  simp [read?, List.lookup_cons, beq_eq_false_iff_ne.2 h]

@[simp] theorem need_some (f : Fields) (a : α) : f.need name (some a) = .ok a := rfl

@[simp] theorem finish_map (a : α) : finish ⟨title, names, present, none, dialect⟩ a = .ok a := by
  cases dialect <;> rfl

@[simp] theorem finishTagged_map (a : α) :
    finishTagged ⟨title, names, present, none, dialect⟩ a = .ok a := rfl

end Fields

namespace Tagged

variable [Variants α] {fields : List (String × Datum)} {kind : α} {dialect : Dialect}
  {title : String}

/-- **The alternative and the fields of a tagged structure** are found again. -/
theorem ofDatum_encodeTagged (h : tag ∉ fields.map (·.1)) :
    ofDatum title dialect (encodeTagged kind fields) = .ok ⟨kind, .map fields, dialect⟩ := by
  have hlookup : ((tag, encodeVariant kind) :: fields).lookup tag = some (encodeVariant kind) :=
    List.lookup_cons_self
  have hread : readTag (encodeVariant kind) = .ok kind := Variants.ofName_name kind
  have hfilter : ((tag, encodeVariant kind) :: fields).filter (·.1 ≠ tag) = fields := by
    rw [List.filter_cons_of_neg (by simp)]
    refine List.filter_eq_self.2 fun field hfield => decide_eq_true fun heq => ?_
    exact h (heq ▸ List.mem_map_of_mem hfield)
  simp only [ofDatum, encodeTagged, Datum.items?, Datum.fields?, hlookup, hfilter, hread,
    Except.map_ok]

theorem encodeTagged_plain (names : (tag :: fields.map (·.1)).Nodup)
    (values : ∀ field ∈ fields, field.2.Plain) : (encodeTagged kind fields).Plain :=
  .map names (List.forall_mem_cons.2 ⟨.text _, values⟩)

omit [Variants α] in
@[simp] theorem bare_map (b : β) : bare ⟨kind, .map fields, dialect⟩ b = .ok b := rfl

omit [Variants α] in
@[simp] theorem fields_map {names : List String} :
    Tagged.fields ⟨kind, .map fields, dialect⟩ title names =
      .ok ⟨title, names, fields, none, dialect⟩ := rfl

end Tagged

/-! ## Parts of entries -/

theorem reference_roundTrips : RoundTrips Reference.decode Reference.encode where
  back dialect r := by
    simp [Reference.decode, Reference.encode, ok_bind, variant_roundTrips.back,
      text_roundTrips.back]
  plain r := by
    refine .map (by decide : ["collection", "id"].Nodup) ?_
    simp [variant_roundTrips.plain, text_roundTrips.plain]

theorem castingTime_roundTrips : RoundTrips CastingTime.decode CastingTime.encode where
  back dialect t := by
    simp [CastingTime.decode, CastingTime.encode, ok_bind, Fields.readD, word32_roundTrips.back,
      variant_roundTrips.back, note_roundTrips.back]
  plain t := by
    refine .map (by decide : ["amount", "unit", "condition"].Nodup) ?_
    simp [word32_roundTrips.plain, variant_roundTrips.plain, note_roundTrips.plain]

theorem range_roundTrips : RoundTrips SpellRange.decode SpellRange.encode where
  back dialect r := by
    cases r <;> simp [SpellRange.decode, SpellRange.encode, ok_bind, Tagged.ofDatum_encodeTagged,
      Tagged.tag, word32_roundTrips.back, taggedVariant_roundTrips.back]
  plain r := by
    cases r with
    | ranged feet =>
      refine Tagged.encodeTagged_plain (by decide : ["kind", "feet"].Nodup) ?_
      simp [word32_roundTrips.plain]
    | area shape feet =>
      refine Tagged.encodeTagged_plain (by decide : ["kind", "shape", "feet"].Nodup) ?_
      simp [variant_roundTrips.plain, word32_roundTrips.plain]
    | _ => exact Tagged.encodeTagged_plain (by decide : ["kind"].Nodup) (List.forall_mem_nil _)

theorem components_roundTrips : RoundTrips Components.decode Components.encode where
  back dialect c := by
    simp [Components.decode, Components.encode, ok_bind, Fields.readD, bool_roundTrips.back,
      note_roundTrips.back]
  plain c := by
    refine .map (by decide : ["verbal", "somatic", "material"].Nodup) ?_
    simp [bool_roundTrips.plain, note_roundTrips.plain]

theorem duration_roundTrips : RoundTrips Duration.decode Duration.encode where
  back dialect d := by
    cases d <;> simp [Duration.decode, Duration.encode, ok_bind, Fields.readD,
      Tagged.ofDatum_encodeTagged, Tagged.tag, word32_roundTrips.back,
      taggedVariant_roundTrips.back, bool_roundTrips.back]
  plain d := by
    cases d with
    | timed amount unit concentration =>
      refine Tagged.encodeTagged_plain
        (by decide : ["kind", "amount", "unit", "concentration"].Nodup) ?_
      simp [word32_roundTrips.plain, variant_roundTrips.plain, bool_roundTrips.plain]
    | _ => exact Tagged.encodeTagged_plain (by decide : ["kind"].Nodup) (List.forall_mem_nil _)

theorem damage_roundTrips : RoundTrips Damage.decode Damage.encode where
  back dialect d := by
    simp [Damage.decode, Damage.encode, ok_bind, text_roundTrips.back, reference_roundTrips.back]
  plain d := by
    refine .map (by decide : ["dice", "damageType"].Nodup) ?_
    simp [text_roundTrips.plain, reference_roundTrips.plain]

theorem attack_roundTrips : RoundTrips Attack.decode Attack.encode := by
  have hsave := option_roundTrips reference_roundTrips nofun
  have heffect := option_roundTrips (variant_roundTrips (α := EffectOnSave)) nofun
  have hdamage := list_roundTrips damage_roundTrips
  constructor
  · intro dialect a
    simp [Attack.decode, Attack.encode, ok_bind, Fields.readD, variant_roundTrips.back,
      hsave.back, heffect.back, hdamage.back]
  · intro a
    refine .map (by decide : ["kind", "save", "effectOnSave", "damage"].Nodup) ?_
    simp [variant_roundTrips.plain, hsave.plain, heffect.plain, hdamage.plain]

theorem step_roundTrips : RoundTrips ProgressionStep.decode ProgressionStep.encode where
  back dialect s := by
    simp [ProgressionStep.decode, ProgressionStep.encode, ok_bind, word32_roundTrips.back,
      text_roundTrips.back]
  plain s := by
    refine .map (by decide : ["at", "dice"].Nodup) ?_
    simp [word32_roundTrips.plain, text_roundTrips.plain]

/-! ## Whole entries -/

theorem progression_roundTrips : RoundTrips Progression.decode Progression.encode where
  back dialect p := by
    simp [Progression.decode, Progression.encode, ok_bind, variant_roundTrips.back,
      (list_roundTrips step_roundTrips).back]
  plain p := by
    refine .map (by decide : ["basis", "steps"].Nodup) ?_
    simp [variant_roundTrips.plain, (list_roundTrips step_roundTrips).plain]

theorem spell_roundTrips : RoundTrips Spell.decode Spell.encode := by
  have htimes := list_roundTrips castingTime_roundTrips
  have hdurations := list_roundTrips duration_roundTrips
  have hattack := option_roundTrips attack_roundTrips nofun
  have hprogression := option_roundTrips progression_roundTrips nofun
  have hconditions := list_roundTrips reference_roundTrips
  constructor
  · intro dialect s
    simp [Spell.decode, Spell.encode, ok_bind, Fields.readD, text_roundTrips.back,
      word8_roundTrips.back, reference_roundTrips.back, htimes.back, range_roundTrips.back,
      components_roundTrips.back, hdurations.back, bool_roundTrips.back, hattack.back,
      hprogression.back, hconditions.back, note_roundTrips.back]
  · intro s
    refine .map (by decide : Spell.fieldNames.Nodup) ?_
    simp [text_roundTrips.plain, word8_roundTrips.plain, reference_roundTrips.plain, htimes.plain,
      range_roundTrips.plain, components_roundTrips.plain, hdurations.plain, bool_roundTrips.plain,
      hattack.plain, hprogression.plain, hconditions.plain, note_roundTrips.plain]

theorem record_roundTrips : RoundTrips Record.decode Record.encode where
  back dialect r := by
    have hlinks : Std.ExtTreeMap.ofList r.links.toList = r.links :=
      Std.ExtTreeMap.ext_toList (.of_eq (toList_ofList Std.ExtTreeMap.ordered_keys_toList))
    simp [Record.decode, Record.encode, ok_bind, Fields.readD, text_roundTrips.back,
      note_roundTrips.back, map_back reference_roundTrips, hlinks]
  plain r := by
    have hlinks := map_plain reference_roundTrips (l := r.links.toList)
      (nodup_of_ascends (List.pairwise_map.2 Std.ExtTreeMap.ordered_keys_toList))
    refine .map (by decide : ["id", "name", "desc", "links"].Nodup) ?_
    simp [text_roundTrips.plain, note_roundTrips.plain, hlinks]

/-- **What an entry is written as is read as the entry**, for spells, records, references and
progressions. Whatever was loaded from data or from a document is loaded again from the answer, with
the same answer. -/
theorem content_reloads :
    Reloads Spell.decode Spell.encode ∧ Reloads Record.decode Record.encode ∧
    Reloads Reference.decode Reference.encode ∧ Reloads Progression.decode Progression.encode :=
  ⟨spell_roundTrips.reloads, record_roundTrips.reloads, reference_roundTrips.reloads,
    progression_roundTrips.reloads⟩

/-- A document that leaves out what a record can do without. -/
def mendDocument : String :=
  "id = \"mend\"\n[links.school]\ncollection = \"magicSchools\"\nid = \"abjuration\""

/-- The record of the document. -/
def mend : Record where
  id := "mend"
  links := .ofList [("school", Reference.mk .magicSchools "abjuration")]

/-- The document is read, and what is answered for it is read as the same record, with the same
answer. -/
theorem content_reloads_mend :
    decodeDocument Record.decode mendDocument = .ok mend ∧
    Record.decode .json mend.encode = .ok mend ∧
    Record.encode <$> Record.decode .json mend.encode = .ok mend.encode := by
  have hread : decodeDocument Record.decode mendDocument = .ok mend :=
    toOption_eq_some_iff.1 (by decide +kernel)
  have hreloads := content_reloads.2.1
  exact ⟨hread, hreloads.back mend, hreloads.document mendDocument _ (by rw [hread]; rfl)⟩

end Rulebook
