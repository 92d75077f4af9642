import Rulebook.Proofs.Entry.Content
import Rulebook.Proofs.Entry.Rules
import Rulebook.Proofs.Entry.WellFormed

/-!
# Broken rules on a spell

Each structural rule on a spell, and on each element of a list in it, is reported at a path of its
own: exactly if it is broken, and once.

* `Rule`, `Rule.path`: the rules and where they report. `ofPath?_path`: **a rule can be told from its
  path.**
* `Spell.Breaks`: which rules a spell breaks, said without the checks that find it.
* `ReportedAt`: what is found at a path. `reportedAt_iff`: **the broken rules are what is found.**
* `findings_report`: that, with each rule reported once; and a table of dice without findings ascends
  from its base.
-/

namespace Rulebook

/-- A table of dice that a spell can have. -/
inductive DiceTable where
  | damage
  | healing
  deriving DecidableEq, Repr

/-- The field of a table of dice. -/
def DiceTable.field : DiceTable → String
  | damage => "damageProgression"
  | healing => "healingProgression"

/-- The progression of a spell in one of its tables. -/
def Spell.table? (s : Spell) : DiceTable → Option Progression
  | .damage => s.damageProgression
  | .healing => s.healingProgression

/-- **A structural rule on a spell**, or on an element of one of its lists. The rule on the key of a
step is about its base for the first step, and about the step before it for the others. -/
inductive Rule where
  | level
  | castingTimes
  | castingAmount (i : Nat)
  | durations
  | durationAmount (i : Nat)
  | effectOnSave
  | save
  | table (t : DiceTable)
  | key (t : DiceTable) (i : Nat)
  deriving DecidableEq, Repr

/-- Where a rule reports. -/
def Rule.path : Rule → String
  | level => "level"
  | castingTimes => "castingTimes"
  | castingAmount i => s!"castingTimes[{i}].amount"
  | durations => "durations"
  | durationAmount i => s!"durations[{i}].amount"
  | effectOnSave => "attack.effectOnSave"
  | save => "attack.save"
  | table t => t.field
  | key t i => s!"{t.field}.steps[{i}].at"

/-- **A rule that a spell breaks**, and how bad that is. All broken rules are errors, but for the one
on an attack that needs no save and says what one does. -/
inductive Spell.Breaks (s : Spell) (config : BuildConfig) : Rule → Severity → Prop where
  | level (above : 9 < s.level) : Breaks s config .level .error
  | castingTimes (missing : s.castingTimes = []) : Breaks s config .castingTimes .error
  | castingAmount {i : Nat} {t : CastingTime} (time : s.castingTimes[i]? = some t)
      (zero : t.amount = 0) : Breaks s config (.castingAmount i) .error
  | durations (missing : s.durations = []) : Breaks s config .durations .error
  | durationAmount {i : Nat} {unit : TimeUnit} {concentration : Bool}
      (zero : s.durations[i]? = some (.timed 0 unit concentration)) :
      Breaks s config (.durationAmount i) .error
  | noEffect {a : Attack} (attack : s.attack = some a) (saves : a.kind = .savingThrow)
      (missing : a.effectOnSave = none) : Breaks s config .effectOnSave .error
  | idleEffect {a : Attack} (attack : s.attack = some a) (hits : a.kind ≠ .savingThrow)
      (given : a.effectOnSave ≠ none) (warns : config.effectOnSaveWarnings = true) :
      Breaks s config .effectOnSave .warning
  | noSave {a : Attack} (attack : s.attack = some a) (saves : a.kind = .savingThrow)
      (missing : a.save = none) : Breaks s config .save .error
  | empty {t : DiceTable} {p : Progression} (table : s.table? t = some p) (missing : p.steps = []) :
      Breaks s config (.table t) .error
  | base {t : DiceTable} {p : Progression} {first : ProgressionStep} (table : s.table? t = some p)
      (step : p.steps[0]? = some first) (above : p.baseKey s.level < first.key) :
      Breaks s config (.key t 0) .error
  | ascent {t : DiceTable} {p : Progression} {i : Nat} {before step : ProgressionStep}
      (table : s.table? t = some p) (first : p.steps[i]? = some before)
      (second : p.steps[i + 1]? = some step) (notAbove : step.key ≤ before.key) :
      Breaks s config (.key t (i + 1)) .error

/-! ## The rule at a path -/

/-- The number in a path, 0 if there is none. -/
def numberIn (path : String) : Nat := Nat.ofDigitChars 10 (path.toList.filter Char.isDigit) 0

theorem numberIn_number (before after : String) (hbefore : before.toList.filter Char.isDigit = [])
    (hafter : after.toList.filter Char.isDigit = []) (n : Nat) :
    numberIn (before ++ toString n ++ after) = n := by
  have hdigits : (Nat.toDigits 10 n).filter Char.isDigit = Nat.toDigits 10 n :=
    List.filter_eq_self.2 fun c hc => Nat.isDigit_of_mem_toDigits (by omega) (by omega) hc
  unfold numberIn
  simp only [String.toList_append, List.filter_append, hbefore, hafter, toList_toString, hdigits,
    List.nil_append, List.append_nil]
  exact Nat.ofDigitChars_ten_toDigits

/-- The rule of a shape, with the number that is in its path. -/
def Rule.ofShape? (i : Nat) (form : String) : Option Rule :=
  if form = "level" then some .level
  else if form = "castingTimes" then some .castingTimes
  else if form = "castingTimes[].amount" then some (.castingAmount i)
  else if form = "durations" then some .durations
  else if form = "durations[].amount" then some (.durationAmount i)
  else if form = "attack.effectOnSave" then some .effectOnSave
  else if form = "attack.save" then some .save
  else if form = "damageProgression" then some (.table .damage)
  else if form = "damageProgression.steps[].at" then some (.key .damage i)
  else if form = "healingProgression" then some (.table .healing)
  else if form = "healingProgression.steps[].at" then some (.key .healing i)
  else none

/-- The rule that reports at a path. -/
def Rule.ofPath? (path : String) : Option Rule := ofShape? (numberIn path) (shape path)

theorem Rule.ofPath?_number (before after : String)
    (hbefore : before.toList.filter Char.isDigit = [])
    (hafter : after.toList.filter Char.isDigit = []) (i : Nat) :
    ofPath? (before ++ toString i ++ after) = ofShape? i (shape (before ++ after)) := by
  rw [ofPath?, numberIn_number before after hbefore hafter, shape_number]

/-- **A rule can be told from its path.** -/
theorem Rule.ofPath?_path (rule : Rule) : ofPath? rule.path = some rule := by
  cases rule with
  | level => rfl
  | castingTimes => rfl
  | castingAmount i => exact ofPath?_number "castingTimes[" "].amount" rfl rfl i
  | durations => rfl
  | durationAmount i => exact ofPath?_number "durations[" "].amount" rfl rfl i
  | effectOnSave => rfl
  | save => rfl
  | table t => cases t <;> rfl
  | key t i =>
    cases t with
    | damage => exact ofPath?_number "damageProgression.steps[" "].at" rfl rfl i
    | healing => exact ofPath?_number "healingProgression.steps[" "].at" rfl rfl i

/-- Different rules report at different paths. -/
theorem Rule.path_injective : Function.Injective Rule.path := by
  intro rule rule' h
  have htold := congrArg ofPath? h
  rw [ofPath?_path, ofPath?_path] at htold
  exact Option.some.inj htold

/-! ## What is found at a path -/

/-- Whether something is found at a path, and how bad it is. -/
def ReportedAt (findings : List Finding) (path : String) (severity : Severity) : Prop :=
  ∃ f ∈ findings, f.field = path ∧ f.severity = severity

section

variable {s : Spell} {config : BuildConfig} {findings findings' : List Finding} {path : String}
  {severity : Severity}

theorem reportedAt_append : ReportedAt (findings ++ findings') path severity ↔
    ReportedAt findings path severity ∨ ReportedAt findings' path severity := by
  simp only [ReportedAt, List.mem_append, or_and_right, exists_or]

theorem reportedAt_findIf {broken : Bool} {finding : Finding} :
    ReportedAt (findIf broken finding) path severity ↔
      broken = true ∧ finding.field = path ∧ finding.severity = severity := by
  cases broken <;> simp [ReportedAt, findIf]

theorem reportedAt_findEach {α : Type} {l : List α} {finding? : Nat → α → Option Finding} :
    ReportedAt (findEach l finding?) path severity ↔
      ∃ i a, l[i]? = some a ∧ ∃ f ∈ finding? i a, f.field = path ∧ f.severity = severity := by
  constructor
  · rintro ⟨f, hf, hreported⟩
    obtain ⟨⟨a, i⟩, ha, hf⟩ := List.mem_filterMap.1 hf
    exact ⟨i, a, List.mk_mem_zipIdx_iff_getElem?.1 ha, f, hf, hreported⟩
  · rintro ⟨i, a, ha, f, hf, hreported⟩
    exact ⟨f, List.mem_filterMap.2 ⟨(a, i), List.mk_mem_zipIdx_iff_getElem?.2 ha, hf⟩, hreported⟩

theorem reportedAt_level : ReportedAt s.levelFindings path severity ↔
    severity = .error ∧ 9 < s.level ∧ path = Rule.level.path := by
  unfold Spell.levelFindings
  rw [reportedAt_findIf, decide_eq_true_eq]
  constructor
  · rintro ⟨h, rfl, rfl⟩
    exact ⟨rfl, h, rfl⟩
  · rintro ⟨rfl, h, rfl⟩
    exact ⟨h, rfl, rfl⟩

theorem reportedAt_castingTimes : ReportedAt s.castingTimeFindings path severity ↔
    severity = .error ∧ (s.castingTimes = [] ∧ path = Rule.castingTimes.path ∨
      ∃ (i : Nat) (t : CastingTime), s.castingTimes[i]? = some t ∧ t.amount = 0 ∧
        path = (Rule.castingAmount i).path) := by
  unfold Spell.castingTimeFindings
  rw [reportedAt_append, reportedAt_findIf, reportedAt_findEach, List.isEmpty_iff]
  constructor
  · rintro (⟨h, rfl, rfl⟩ | ⟨i, t, ht, f, hf, rfl, rfl⟩)
    · exact ⟨rfl, .inl ⟨h, rfl⟩⟩
    · obtain ⟨hzero, hf⟩ := Option.ite_none_right_eq_some.1 hf
      cases hf
      exact ⟨rfl, .inr ⟨i, t, ht, hzero, rfl⟩⟩
  · rintro ⟨rfl, ⟨h, rfl⟩ | ⟨i, t, ht, hzero, rfl⟩⟩
    · exact .inl ⟨h, rfl, rfl⟩
    · exact .inr ⟨i, t, ht, _, if_pos hzero, rfl, rfl⟩

theorem reportedAt_durations : ReportedAt s.durationFindings path severity ↔
    severity = .error ∧ (s.durations = [] ∧ path = Rule.durations.path ∨
      ∃ (i : Nat) (unit : TimeUnit) (concentration : Bool),
        s.durations[i]? = some (.timed 0 unit concentration) ∧
          path = (Rule.durationAmount i).path) := by
  unfold Spell.durationFindings
  rw [reportedAt_append, reportedAt_findIf, reportedAt_findEach, List.isEmpty_iff]
  constructor
  · rintro (⟨h, rfl, rfl⟩ | ⟨i, d, hd, f, hf, rfl, rfl⟩)
    · exact ⟨rfl, .inl ⟨h, rfl⟩⟩
    · cases d with
      | timed amount unit concentration =>
        obtain ⟨hzero, hf⟩ := Option.ite_none_right_eq_some.1 hf
        cases hf
        subst hzero
        exact ⟨rfl, .inr ⟨i, unit, concentration, hd, rfl⟩⟩
      | instantaneous => cases hf
      | untilDispelled => cases hf
      | special => cases hf
  · rintro ⟨rfl, ⟨h, rfl⟩ | ⟨i, unit, concentration, hd, rfl⟩⟩
    · exact .inl ⟨h, rfl, rfl⟩
    · exact .inr ⟨i, _, hd, _, if_pos rfl, rfl, rfl⟩

theorem reportedAt_attack : ReportedAt (s.attackFindings config) path severity ↔
    ∃ a, s.attack = some a ∧
      (a.kind = .savingThrow ∧ severity = .error ∧
          (a.effectOnSave = none ∧ path = Rule.effectOnSave.path ∨
            a.save = none ∧ path = Rule.save.path) ∨
        a.kind ≠ .savingThrow ∧ severity = .warning ∧ a.effectOnSave ≠ none ∧
          config.effectOnSaveWarnings = true ∧ path = Rule.effectOnSave.path) := by
  unfold Spell.attackFindings
  cases s.attack with
  | none => simp [ReportedAt]
  | some a =>
    simp only [Option.some.injEq, exists_eq_left']
    by_cases hkind : a.kind.isSavingThrow = true
    · have hsaves : a.kind = .savingThrow := isSavingThrow_iff.1 hkind
      rw [if_pos hkind, reportedAt_append, reportedAt_findIf, reportedAt_findIf, Option.isNone_iff_eq_none,
        Option.isNone_iff_eq_none]
      constructor
      · rintro (⟨h, rfl, rfl⟩ | ⟨h, rfl, rfl⟩)
        · exact .inl ⟨hsaves, rfl, .inl ⟨h, rfl⟩⟩
        · exact .inl ⟨hsaves, rfl, .inr ⟨h, rfl⟩⟩
      · rintro (⟨-, rfl, ⟨h, rfl⟩ | ⟨h, rfl⟩⟩ | ⟨hhits, -⟩)
        · exact .inl ⟨h, rfl, rfl⟩
        · exact .inr ⟨h, rfl, rfl⟩
        · exact absurd hsaves hhits
    · have hhits : a.kind ≠ .savingThrow := mt isSavingThrow_iff.2 hkind
      rw [if_neg hkind, reportedAt_findIf, Bool.and_eq_true, Option.isSome_iff_ne_none]
      constructor
      · rintro ⟨⟨hgiven, hwarns⟩, rfl, rfl⟩
        exact .inr ⟨hhits, rfl, hgiven, hwarns, rfl⟩
      · rintro (⟨hsaves, -⟩ | ⟨-, rfl, hgiven, hwarns, rfl⟩)
        · exact absurd hsaves hhits
        · exact ⟨⟨hgiven, hwarns⟩, rfl, rfl⟩

/-- The rules on a table of dice, in a field: it has a step, the first one is at its base or below it,
and each other one is above the step before it. -/
theorem reportedAt_progression {p : Progression} {field : String} {level : UInt8} :
    ReportedAt (p.findings field level) path severity ↔
      severity = .error ∧ (p.steps = [] ∧ path = field ∨
        (∃ first, p.steps[0]? = some first ∧ p.baseKey level < first.key ∧
          path = field ++ ".steps[0].at") ∨
        ∃ i before step, p.steps[i]? = some before ∧ p.steps[i + 1]? = some step ∧
          step.key ≤ before.key ∧ path = s!"{field}.steps[{i + 1}].at") := by
  obtain ⟨basis, _ | ⟨first, rest⟩⟩ := p
  · constructor
    · rintro ⟨f, hf, rfl, rfl⟩
      cases List.mem_singleton.1 hf
      exact ⟨rfl, .inl ⟨rfl, rfl⟩⟩
    · rintro ⟨rfl, ⟨-, rfl⟩ | ⟨first, hfirst, -⟩ | ⟨i, before, step, hbefore, -⟩⟩
      · exact ⟨_, List.mem_cons_self, rfl, rfl⟩
      · cases hfirst
      · cases hbefore
  · simp only [Progression.findings]
    rw [reportedAt_append, reportedAt_findIf, reportedAt_findEach, decide_eq_true_eq]
    constructor
    · rintro (⟨h, rfl, rfl⟩ | ⟨i, ⟨before, step⟩, hpair, f, hf, rfl, rfl⟩)
      · exact ⟨rfl, .inr (.inl ⟨first, rfl, h, rfl⟩)⟩
      · obtain ⟨hbefore, hstep⟩ := List.getElem?_zip_eq_some.1 hpair
        obtain ⟨hle, hf⟩ := Option.ite_none_right_eq_some.1 hf
        cases hf
        exact ⟨rfl, .inr (.inr ⟨i, before, step, hbefore, hstep, hle, rfl⟩)⟩
    · rintro ⟨rfl, ⟨hnil, -⟩ | ⟨_, ⟨⟩, h, rfl⟩ | ⟨i, before, step, hbefore, hstep, hle, rfl⟩⟩
      · cases hnil
      · exact .inl ⟨h, rfl, rfl⟩
      · exact .inr ⟨i, (before, step), List.getElem?_zip_eq_some.2 ⟨hbefore, hstep⟩, _, if_pos hle, rfl,
          rfl⟩

theorem mem_progressions_iff_table {q : String × Progression} :
    q ∈ s.progressions ↔ ∃ t, t.field = q.1 ∧ s.table? t = some q.2 := by
  obtain ⟨field, p⟩ := q
  rw [mem_progressions_iff]
  constructor
  · rintro (⟨rfl, hp⟩ | ⟨rfl, hp⟩)
    · exact ⟨.damage, rfl, hp⟩
    · exact ⟨.healing, rfl, hp⟩
  · rintro ⟨_ | _, rfl, hp⟩
    · exact .inl ⟨rfl, hp⟩
    · exact .inr ⟨rfl, hp⟩

theorem reportedAt_progressions :
    ReportedAt (s.progressions.flatMap fun (field, p) => p.findings field s.level) path severity ↔
      ∃ t p, s.table? t = some p ∧ ReportedAt (p.findings t.field s.level) path severity := by
  constructor
  · rintro ⟨f, hf, hreported⟩
    obtain ⟨⟨field, p⟩, hq, hf⟩ := List.mem_flatMap.1 hf
    obtain ⟨t, rfl, hp⟩ := mem_progressions_iff_table.1 hq
    exact ⟨t, p, hp, f, hf, hreported⟩
  · rintro ⟨t, p, hp, f, hf, hreported⟩
    have hq : (t.field, p) ∈ s.progressions := mem_progressions_iff_table.2 ⟨t, rfl, hp⟩
    exact ⟨f, List.mem_flatMap.2 ⟨_, hq, hf⟩, hreported⟩

/-- **The broken rules are what is found**, each at its path. -/
theorem reportedAt_iff : ReportedAt (s.findings config) path severity ↔
    ∃ rule : Rule, rule.path = path ∧ s.Breaks config rule severity := by
  unfold Spell.findings
  rw [reportedAt_append, reportedAt_append, reportedAt_append, reportedAt_append, reportedAt_level,
    reportedAt_castingTimes, reportedAt_durations, reportedAt_attack, reportedAt_progressions]
  constructor
  · rintro ((((⟨rfl, h, rfl⟩ | ⟨rfl, ⟨h, rfl⟩ | ⟨i, t, ht, hzero, rfl⟩⟩) |
      ⟨rfl, ⟨h, rfl⟩ | ⟨i, unit, concentration, hd, rfl⟩⟩) |
      ⟨a, ha, ⟨hsaves, rfl, ⟨h, rfl⟩ | ⟨h, rfl⟩⟩ | ⟨hhits, rfl, hgiven, hwarns, rfl⟩⟩) |
      ⟨t, p, hp, htable⟩)
    · exact ⟨_, rfl, .level h⟩
    · exact ⟨_, rfl, .castingTimes h⟩
    · exact ⟨_, rfl, .castingAmount ht hzero⟩
    · exact ⟨_, rfl, .durations h⟩
    · exact ⟨_, rfl, .durationAmount hd⟩
    · exact ⟨_, rfl, .noEffect ha hsaves h⟩
    · exact ⟨_, rfl, .noSave ha hsaves h⟩
    · exact ⟨_, rfl, .idleEffect ha hhits hgiven hwarns⟩
    · obtain ⟨rfl, ⟨h, rfl⟩ | ⟨first, hfirst, habove, rfl⟩ | ⟨i, before, step, hbefore, hstep, hle, rfl⟩⟩ :=
        reportedAt_progression.1 htable
      · exact ⟨.table t, rfl, .empty hp h⟩
      · exact ⟨.key t 0, (firstStep_path t.field).symm, .base hp hfirst habove⟩
      · exact ⟨.key t (i + 1), rfl, .ascent hp hbefore hstep hle⟩
  · rintro ⟨rule, rfl, hbreaks⟩
    cases hbreaks with
    | level h => exact .inl (.inl (.inl (.inl ⟨rfl, h, rfl⟩)))
    | castingTimes h => exact .inl (.inl (.inl (.inr ⟨rfl, .inl ⟨h, rfl⟩⟩)))
    | castingAmount ht hzero => exact .inl (.inl (.inl (.inr ⟨rfl, .inr ⟨_, _, ht, hzero, rfl⟩⟩)))
    | durations h => exact .inl (.inl (.inr ⟨rfl, .inl ⟨h, rfl⟩⟩))
    | durationAmount hd => exact .inl (.inl (.inr ⟨rfl, .inr ⟨_, _, _, hd, rfl⟩⟩))
    | noEffect ha hsaves h => exact .inl (.inr ⟨_, ha, .inl ⟨hsaves, rfl, .inl ⟨h, rfl⟩⟩⟩)
    | idleEffect ha hhits hgiven hwarns =>
      exact .inl (.inr ⟨_, ha, .inr ⟨hhits, rfl, hgiven, hwarns, rfl⟩⟩)
    | noSave ha hsaves h => exact .inl (.inr ⟨_, ha, .inl ⟨hsaves, rfl, .inr ⟨h, rfl⟩⟩⟩)
    | empty hp h => exact .inr ⟨_, _, hp, reportedAt_progression.2 ⟨rfl, .inl ⟨h, rfl⟩⟩⟩
    | @base t p first hp hfirst habove =>
      refine .inr ⟨_, _, hp, reportedAt_progression.2 ⟨rfl, .inr (.inl ⟨_, hfirst, habove, ?_⟩)⟩⟩
      exact (firstStep_path t.field).symm
    | ascent hp hbefore hstep hle =>
      exact .inr ⟨_, _, hp, reportedAt_progression.2
        ⟨rfl, .inr (.inr ⟨_, _, _, hbefore, hstep, hle, rfl⟩)⟩⟩

/-- A rule is broken exactly if something is found where it reports. -/
theorem reportedAt_path {rule : Rule} :
    ReportedAt (s.findings config) rule.path severity ↔ s.Breaks config rule severity := by
  rw [reportedAt_iff]
  constructor
  · rintro ⟨rule', hpath, hbreaks⟩
    rwa [Rule.path_injective hpath] at hbreaks
  · intro hbreaks
    exact ⟨rule, rfl, hbreaks⟩

/-- Nothing is found about a table of dice exactly if it is well formed. -/
theorem progression_findings_eq_nil {p : Progression} {field : String} {level : UInt8} :
    p.findings field level = [] ↔ p.WellFormed level := by
  rw [← clean_progression, List.eq_nil_iff_forall_not_mem]
  constructor
  · intro h f hf
    exact absurd hf (h f)
  · intro h f hf
    have hreported : ReportedAt (p.findings field level) f.field f.severity := ⟨f, hf, rfl, rfl⟩
    exact h f hf (reportedAt_progression.1 hreported).1

end

/-- **Each broken rule is reported once, at its own path, and nothing else is.** No two findings are at
the same path. At the path of a rule there is one exactly if the spell breaks it, as bad as that is, and
every finding is at the path of a rule. So a table of dice without findings is not empty, starts at its
base or below it, and ascends. -/
theorem findings_report (s : Spell) (config : BuildConfig) :
    ((s.findings config).map (·.field)).Nodup ∧
    (∀ (rule : Rule) (severity : Severity),
      ReportedAt (s.findings config) rule.path severity ↔ s.Breaks config rule severity) ∧
    (∀ f ∈ s.findings config, ∃ rule : Rule, rule.path = f.field ∧
      s.Breaks config rule f.severity) ∧
    ∀ (p : Progression) (field : String) (level : UInt8),
      p.findings field level = [] ↔ p.WellFormed level := by
  refine ⟨(spell_structural s config).fields.nodup (by decide), fun _ _ => reportedAt_path, ?_,
    fun _ _ _ => progression_findings_eq_nil⟩
  intro f hf
  exact reportedAt_iff.1 ⟨f, hf, rfl, rfl⟩

/-- A spell of a level that no slot has, with a saving throw that is not described and a table that
starts too high and does not ascend. -/
def overreach : Spell where
  id := "overreach"
  name := "Overreach"
  level := 10
  school := ⟨.magicSchools, "evocation"⟩
  castingTimes := [⟨1, .action, none⟩, ⟨0, .minute, none⟩]
  range := .touch
  durations := [.timed 0 .round true, .special]
  attack := some { kind := .savingThrow }
  damageProgression := some ⟨.slotLevel, [⟨11, "1d6"⟩, ⟨11, "2d6"⟩, ⟨12, "3d6"⟩]⟩
  healingProgression := some ⟨.targetCount, []⟩
  desc := ""

/-- Eight rules are broken. The one on the second key of a table is found at its path, and the one on the
third key is kept. -/
theorem findings_report_overreach :
    (overreach.findings {}).map (·.field) = ["level", "castingTimes[1].amount", "durations[0].amount",
      "attack.effectOnSave", "attack.save", "damageProgression.steps[0].at",
      "damageProgression.steps[1].at", "healingProgression"] ∧
    Finding.error "damageProgression.steps[1].at" "keys must be strictly ascending: 11 follows 11" ∈
      overreach.findings {} ∧
    (∃ rule : Rule, rule.path = "damageProgression.steps[1].at" ∧ overreach.Breaks {} rule .error) ∧
    ¬ ReportedAt (overreach.findings {}) (Rule.key .damage 2).path .error := by
  have hmem : Finding.error "damageProgression.steps[1].at"
      "keys must be strictly ascending: 11 follows 11" ∈ overreach.findings {} := by decide +kernel
  refine ⟨by decide +kernel, hmem, (findings_report overreach {}).2.2.1 _ hmem, ?_⟩
  rw [(findings_report overreach {}).2.1]
  intro h
  cases h with
  | @ascent t p i before step table first second notAbove =>
    cases table
    cases first
    cases second
    exact absurd notAbove (by decide)

end Rulebook
