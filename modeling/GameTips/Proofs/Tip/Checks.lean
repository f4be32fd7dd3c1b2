import GameTips.Proofs.Conditions.Acceptance
import GameTips.Proofs.Conditions.Writing
import GameTips.Proofs.Tip.Reading

/-!
# What is checked of an entry

An entry is read if it is an object that passes all checks of `EntryCheck`, and refused with what the
first check reports that it does not pass (`EntryFault`). Which members are looked at is plain from the
checks: two entries that agree on these are both refused, with the same error, or give tips with the
same written form, whatever the host (`SameEntry`). The texts of rules have no part in refusing an
entry.

`read_spec` puts these together.
-/

namespace GameTips

/-- What is checked of an entry that is an object. -/
inductive EntryCheck where
  | type
  | field (field : TipField)
  | category (category : Category)

/-- The text by which the type of an entry is reported. -/
def Json.typeText : Json → String
  | .str s => s
  | v => v.compact

/-- Whether a value is a time: a whole number that is no float, in the range of times. -/
def Json.isMilliseconds : Json → Bool
  | .int n => decide (0 ≤ n ∧ n < UInt32.size)
  | _ => false

theorem Json.isMilliseconds_iff {v : Json} :
    v.isMilliseconds = true ↔ ∃ n : Nat, v = .int n ∧ n < UInt32.size := by
  cases v with
  | int n =>
    rw [isMilliseconds, decide_eq_true_iff]
    constructor
    · rintro ⟨hpos, hlt⟩
      exact ⟨n.toNat, by rw [Int.toNat_of_nonneg hpos], by omega⟩
    · rintro ⟨m, hm, hlt⟩
      obtain rfl := Json.int.inj hm
      exact ⟨Int.natCast_nonneg m, by omega⟩
  | _ => simp [isMilliseconds]

namespace EntryCheck

/-- The checks in the order in which they are made. -/
def order : List EntryCheck :=
  [.type, .field .title, .field .text, .field .cycleTime, .field .conditions,
    .category .screens, .category .biomes, .category .dimensions, .category .milestones]

/-- The condition of a category that the members of an entry hold. -/
def element? (members : List (String × Json)) (category : Category) : Option Json :=
  match Json.get? TipField.conditions.key members with
  | some (.obj conditions) => Json.get? category.key conditions
  | _ => none

/-- Whether the members of an entry pass a check. The fallback is the title of entries that have
none. -/
def Passes (fallback : Option RichText) (members : List (String × Json)) : EntryCheck → Prop
  | .type => ∀ v, Json.get? "type" members = some v → v = .str Tip.simpleType
  | .field .title =>
    (∀ v, Json.get? TipField.title.key members = some v → v.isText = true) ∧
      (Json.get? TipField.title.key members = none → fallback.isSome = true)
  | .field .text => ∃ v, Json.get? TipField.text.key members = some v ∧ v.isText = true
  | .field .cycleTime =>
    ∀ v, Json.get? TipField.cycleTime.key members = some v →
      ∃ n : Nat, v = .int n ∧ n < UInt32.size
  | .field .conditions =>
    ∀ v, Json.get? TipField.conditions.key members = some v → v.shape = .object
  | .category c => ∀ v, element? members c = some v → v.IsCondition

/-- What is reported for a field that is not right: that it is invalid, or else that it is missing. -/
def fieldFault (members : List (String × Json)) (field : TipField) : TipFault :=
  if (Json.get? field.key members).isSome then .invalidField field else .missingField field

/-- What a check reports that is not passed. -/
def Reports (members : List (String × Json)) (fault : TipFault) : EntryCheck → Prop
  | .type => ∃ v, Json.get? "type" members = some v ∧ fault = .unsupportedType v.typeText
  | .field f => fault = fieldFault members f
  | .category c =>
    ∃ v err, element? members c = some v ∧ Conditions.ElementFault v err ∧
      fault = .conditions c err

/-- What is wrong with the members of an entry as far as a check goes. -/
def fault? (fallback : Option RichText) (members : List (String × Json)) :
    EntryCheck → Option TipFault
  | .type => (TipReader.checkType members).error?
  | .field .title => (TipReader.readText members .title fallback).error?
  | .field .text => (TipReader.readText members .text none).error?
  | .field .cycleTime => (TipReader.readCycleTime members).error?
  | .field .conditions =>
    match Json.get? TipField.conditions.key members with
    | none | some (.obj _) => none
    | some _ => some (.invalidField .conditions)
  | .category c => (Conditions.fault? (element? members c)).map (.conditions c)

variable {fallback : Option RichText} {members : List (String × Json)}

/-- Whether a field of the members of an entry is right. -/
def fieldPasses (fallback : Option RichText) (members : List (String × Json)) : TipField → Bool
  | .title => (Json.get? TipField.title.key members).elim fallback.isSome Json.isText
  | .text => (Json.get? TipField.text.key members).any Json.isText
  | .cycleTime => (Json.get? TipField.cycleTime.key members).all Json.isMilliseconds
  | .conditions => (Json.get? TipField.conditions.key members).all fun v => v.shape == .object

theorem error?_readText (field : TipField) :
    (TipReader.readText members field fallback).error? =
      if (Json.get? field.key members).elim fallback.isSome Json.isText then none
      else some (fieldFault members field) := by
  unfold TipReader.readText RichText.ofJson? fieldFault
  cases Json.get? field.key members with
  | none => cases fallback <;> rfl
  | some v =>
    by_cases hv : v.isText = true
    · simp [hv, Except.error?]
    · simp [hv, Except.error?]

theorem error?_readCycleTime :
    (TipReader.readCycleTime members).error? =
      if fieldPasses fallback members .cycleTime then none
      else some (fieldFault members .cycleTime) := by
  unfold TipReader.readCycleTime fieldPasses fieldFault
  cases Json.get? TipField.cycleTime.key members with
  | none => rfl
  | some v =>
    cases v with
    | int n =>
      rw [Option.all_some, Json.isMilliseconds]
      dsimp only
      by_cases hn : 0 ≤ n ∧ n < UInt32.size
      · rw [if_pos hn, decide_eq_true hn]
        rfl
      · rw [if_neg hn, decide_eq_false hn]
        rfl
    | _ => rfl

theorem fault?_field (field : TipField) :
    fault? fallback members (.field field) =
      if fieldPasses fallback members field then none else some (fieldFault members field) := by
  cases field with
  | title => exact error?_readText .title
  | text =>
    rw [fault?, error?_readText, fieldPasses]
    cases Json.get? TipField.text.key members <;> rfl
  | cycleTime => exact error?_readCycleTime
  | conditions =>
    unfold fault? fieldPasses fieldFault
    cases Json.get? TipField.conditions.key members with
    | none => rfl
    | some v => cases v <;> rfl

theorem fieldPasses_iff (field : TipField) :
    fieldPasses fallback members field = true ↔ Passes fallback members (.field field) := by
  unfold fieldPasses Passes
  cases field with
  | title => cases Json.get? TipField.title.key members <;> simp
  | text => simp [Option.any_eq_true]
  | cycleTime => simp [Option.all_eq_true, Json.isMilliseconds_iff]
  | conditions => simp [Option.all_eq_true]

theorem error?_checkType :
    (TipReader.checkType members).error? =
      (Json.get? "type" members).bind fun v =>
        if v = .str Tip.simpleType then none else some (.unsupportedType v.typeText) := by
  unfold TipReader.checkType
  cases Json.get? "type" members with
  | none => rfl
  | some v =>
    cases v with
    | str s => by_cases hs : s = Tip.simpleType <;> simp [hs, Except.error?, Json.typeText]
    | _ => simp [Except.error?, Json.typeText]

theorem fault?_eq_none_iff (check : EntryCheck) :
    check.fault? fallback members = none ↔ check.Passes fallback members := by
  cases check with
  | type =>
    simp only [fault?, Passes, error?_checkType]
    cases Json.get? "type" members <;> simp
  | field field =>
    rw [fault?_field, ← fieldPasses_iff]
    cases fieldPasses fallback members field <;> simp
  | category c =>
    simp only [fault?, Passes, Option.map_eq_none_iff]
    cases element? members c with
    | none => simp [Conditions.fault?]
    | some v => simp [Conditions.fault?_eq_none_iff_isCondition]

theorem reports_of_fault?_eq_some {check : EntryCheck} {fault : TipFault}
    (h : check.fault? fallback members = some fault) : check.Reports members fault := by
  cases check with
  | type =>
    simp only [fault?, error?_checkType, Option.bind_eq_some_iff] at h
    obtain ⟨v, hv, hfault⟩ := h
    split at hfault
    · cases hfault
    · exact ⟨v, hv, (Option.some.inj hfault).symm⟩
  | field field =>
    rw [fault?_field] at h
    split at h
    · cases h
    · exact (Option.some.inj h).symm
  | category c =>
    simp only [fault?, Option.map_eq_some_iff] at h
    obtain ⟨err, herr, rfl⟩ := h
    cases hget : element? members c with
    | none =>
      rw [hget] at herr
      cases herr
    | some v =>
      rw [hget] at herr
      exact ⟨v, err, hget, Conditions.fault?_eq_some_iff.1 herr, rfl⟩

theorem Reports.unique {check : EntryCheck} {fault fault' : TipFault}
    (h : check.Reports members fault) (h' : check.Reports members fault') : fault = fault' := by
  cases check with
  | type =>
    obtain ⟨v, hv, rfl⟩ := h
    obtain ⟨v', hv', rfl⟩ := h'
    rw [hv] at hv'
    rw [Option.some.inj hv']
  | field field => exact h.trans h'.symm
  | category c =>
    obtain ⟨v, err, hv, herr, rfl⟩ := h
    obtain ⟨v', err', hv', herr', rfl⟩ := h'
    rw [hv] at hv'
    obtain rfl := Option.some.inj hv'
    have hsame := (Conditions.fault?_eq_some_iff.2 herr).symm.trans (Conditions.fault?_eq_some_iff.2 herr')
    rw [Option.some.inj hsame]

theorem fault?_eq_some_iff {check : EntryCheck} {fault : TipFault} :
    check.fault? fallback members = some fault ↔
      ¬ check.Passes fallback members ∧ check.Reports members fault := by
  rw [← fault?_eq_none_iff]
  constructor
  · intro h
    exact ⟨by simp [h], reports_of_fault?_eq_some h⟩
  · rintro ⟨hfails, hreports⟩
    obtain ⟨fault', hfault'⟩ := Option.ne_none_iff_exists'.1 hfails
    rw [hfault', (reports_of_fault?_eq_some hfault').unique hreports]

end EntryCheck

/-! ## The first fault -/

/-- What is wrong with an entry, where the fallback is the title of entries that have none. -/
inductive EntryFault (fallback : Option RichText) : Json → TipFault → Prop
  | shape {v : Json} : v.shape ≠ .object → EntryFault fallback v .notAnObject
  /-- The entry is an object, and this is the first check that it does not pass. -/
  | check {members : List (String × Json)} {before after : List EntryCheck} {check : EntryCheck}
      {fault : TipFault} : EntryCheck.order = before ++ check :: after →
      (∀ earlier ∈ before, earlier.Passes fallback members) → ¬ check.Passes fallback members →
      check.Reports members fault → EntryFault fallback (.obj members) fault

namespace TipReader

open EntryCheck

/-- What is wrong with an entry, found by going through the checks. -/
def entryFault? (fallback : Option RichText) : Json → Option TipFault
  | .obj members => order.findSome? (fault? fallback members)
  | _ => some .notAnObject

theorem entryFault?_eq_some_iff {fallback : Option RichText} {v : Json} {fault : TipFault} :
    entryFault? fallback v = some fault ↔ EntryFault fallback v fault := by
  constructor
  · intro h
    by_cases hv : v.shape = .object
    · cases v with
      | obj members =>
        obtain ⟨before, check, after, horder, hfault, hbefore⟩ := List.findSome?_eq_some_iff.1 h
        obtain ⟨hfails, hreports⟩ := EntryCheck.fault?_eq_some_iff.1 hfault
        refine .check horder (fun earlier hmem => ?_) hfails hreports
        exact (EntryCheck.fault?_eq_none_iff earlier).1 (hbefore earlier hmem)
      | _ => cases hv
    · have hfault : fault = .notAnObject := by
        cases v with
        | obj members => exact absurd rfl hv
        | _ => exact (Option.some.inj h).symm
      rw [hfault]
      exact .shape hv
  · intro h
    cases h with
    | shape hv =>
      cases v with
      | obj members => exact absurd rfl hv
      | _ => rfl
    | @check members before after check fault horder hbefore hfails hreports =>
      refine List.findSome?_eq_some_iff.2 ⟨before, check, after, horder, ?_, ?_⟩
      · exact EntryCheck.fault?_eq_some_iff.2 ⟨hfails, hreports⟩
      · intro earlier hmem
        exact (EntryCheck.fault?_eq_none_iff earlier).2 (hbefore earlier hmem)

theorem mem_order (check : EntryCheck) : check ∈ order := by
  cases check with
  | type => simp [order]
  | field field => cases field <;> simp [order]
  | category c => cases c <;> simp [order]

theorem entryFault?_eq_none_iff {fallback : Option RichText} {v : Json} :
    entryFault? fallback v = none ↔
      ∃ members, v = .obj members ∧ ∀ check : EntryCheck, check.Passes fallback members := by
  cases v with
  | obj members =>
    rw [entryFault?, List.findSome?_eq_none_iff]
    constructor
    · intro h
      refine ⟨members, rfl, fun check => ?_⟩
      exact (EntryCheck.fault?_eq_none_iff check).1 (h check (mem_order check))
    · rintro ⟨members', hv, hpasses⟩ check -
      obtain rfl := Json.obj.inj hv
      exact (EntryCheck.fault?_eq_none_iff check).2 (hpasses check)
  | _ => simp [entryFault?]

theorem error?_readCategory {σ : Type} (compiler : RuleCompiler σ) (c : Category)
    (conditions : List (String × Json)) :
    (readCategory compiler c conditions).outcome.error? =
      (Conditions.fault? (Json.get? c.key conditions)).map (.conditions c) := by
  unfold readCategory
  rw [TracedReading.outcome_adapt, Except.error?_mapError, Conditions.error?_outcome_ofElement]

theorem findSome?_order (f : EntryCheck → Option TipFault) :
    order.findSome? f =
      (f .type).or ((f (.field .title)).or ((f (.field .text)).or ((f (.field .cycleTime)).or
        ((f (.field .conditions)).or ((f (.category .screens)).or ((f (.category .biomes)).or
          ((f (.category .dimensions)).or (f (.category .milestones))))))))) := by
  have hcons : ∀ check checks, (check :: checks).findSome? f = (f check).or (checks.findSome? f) := by
    intro check checks
    rw [List.findSome?_cons]
    cases f check <;> rfl
  simp only [order, hcons, List.findSome?_nil, Option.or_none]

theorem error?_readConditions (r : TipReader) (conditions : List (String × Json)) :
    (r.readConditions conditions).outcome.error? =
      (((Conditions.fault? (Json.get? Category.screens.key conditions)).map (.conditions .screens)).or
        (((Conditions.fault? (Json.get? Category.biomes.key conditions)).map (.conditions .biomes)).or
          (((Conditions.fault? (Json.get? Category.dimensions.key conditions)).map
              (.conditions .dimensions)).or
            ((Conditions.fault? (Json.get? Category.milestones.key conditions)).map
              (.conditions .milestones))))) := by
  unfold readConditions
  simp only [TracedReading.outcome_bind, ← error?_readCategory (compileScreenRule r.host) .screens,
    ← error?_readCategory compileRegistryRule .biomes,
    ← error?_readCategory compileRegistryRule .dimensions,
    ← error?_readCategory compileMemberRule .milestones]
  refine Except.error?_bind fun screens => Except.error?_bind fun biomes =>
    Except.error?_bind fun dimensions => ?_
  refine (Except.error?_bind fun milestones => ?_).trans (Option.or_none)
  rfl

theorem error?_conditionsMember (r : TipReader) (fallback : Option RichText)
    (members : List (String × Json)) :
    (r.conditionsMember members).outcome.error? =
      (fault? fallback members (.field .conditions)).or
        ((fault? fallback members (.category .screens)).or
          ((fault? fallback members (.category .biomes)).or
            ((fault? fallback members (.category .dimensions)).or
              (fault? fallback members (.category .milestones))))) := by
  unfold conditionsMember
  simp only [fault?, element?]
  cases Json.get? TipField.conditions.key members with
  | none => rfl
  | some v =>
    cases v with
    | obj conditions =>
      rw [Option.none_or]
      exact r.error?_readConditions conditions
    | _ => rfl

/-- The error with which an entry is refused is that of the first check it does not pass. -/
theorem error?_readMembers (r : TipReader) (id : Identifier) (members : List (String × Json)) :
    (r.readMembers id members).outcome.error? = order.findSome? (fault? r.defaultTitle members) := by
  rw [readMembers_eq, findSome?_order, ← r.error?_conditionsMember]
  simp only [TracedReading.outcome_bind, TracedReading.outcome_mk_pure]
  refine Except.error?_bind fun _ => Except.error?_bind fun title => Except.error?_bind fun text =>
    Except.error?_bind fun cycleTime => ?_
  refine (Except.error?_bind fun conditions => ?_).trans (Option.or_none)
  rfl

theorem error?_read (r : TipReader) (id : Identifier) (v : Json) :
    (r.read id v).outcome.error? = (entryFault? r.defaultTitle v).map (TipError.mk id) := by
  unfold read
  rw [TracedReading.outcome_adapt, Except.error?_mapError]
  cases v with
  | obj members =>
    dsimp only
    rw [error?_readMembers, entryFault?]
  | _ => rfl

/-! ## What reading an entry does not depend on -/

/-- Members of entries that agree on those that count, up to conditions. -/
structure SameFields (members members' : List (String × Json)) : Prop where
  type : Json.get? "type" members = Json.get? "type" members'
  field : ∀ f : TipField, f ≠ .conditions → Json.get? f.key members = Json.get? f.key members'

/-- The members of entries whose conditions are the same, or objects related category by category. -/
def SameConditions (R : Option Json → Option Json → Prop) (v v' : Option Json) : Prop :=
  v = v' ∨ ∃ conditions conditions', v = some (.obj conditions) ∧ v' = some (.obj conditions') ∧
    ∀ c : Category, R (Json.get? c.key conditions) (Json.get? c.key conditions')

/-- The members of entries that agree on those that count, and have related conditions. -/
structure SameMembers (R : Option Json → Option Json → Prop)
    (members members' : List (String × Json)) : Prop extends SameFields members members' where
  conditions : SameConditions R (Json.get? TipField.conditions.key members)
    (Json.get? TipField.conditions.key members')

/-- Entries that are the same value, or objects with the same members as far as these count. -/
def SameEntry (R : Option Json → Option Json → Prop) (v v' : Json) : Prop :=
  v = v' ∨ ∃ members members', v = .obj members ∧ v' = .obj members' ∧ SameMembers R members members'

section Fields

variable {members members' : List (String × Json)} (h : SameFields members members')
include h

theorem SameFields.checkType_eq : checkType members = checkType members' := by
  unfold checkType
  rw [h.type]

theorem SameFields.readText_eq {field : TipField} (hne : field ≠ .conditions)
    (fallback : Option RichText) :
    readText members field fallback = readText members' field fallback := by
  unfold readText
  rw [h.field field hne]

theorem SameFields.readCycleTime_eq : readCycleTime members = readCycleTime members' := by
  unfold readCycleTime
  rw [h.field .cycleTime (by decide)]

/-- The same is wrong with entries, if the same is wrong with their conditions. -/
theorem SameFields.fault?_eq {fallback : Option RichText}
    (hconditions : fault? fallback members (.field .conditions) =
      fault? fallback members' (.field .conditions))
    (hcategory : ∀ c, Conditions.fault? (element? members c) =
      Conditions.fault? (element? members' c)) :
    fault? fallback members = fault? fallback members' := by
  funext check
  cases check with
  | type => exact congrArg Except.error? h.checkType_eq
  | field field =>
    cases field with
    | title => exact congrArg Except.error? (h.readText_eq (by decide) fallback)
    | text => exact congrArg Except.error? (h.readText_eq (by decide) none)
    | cycleTime => exact congrArg Except.error? h.readCycleTime_eq
    | conditions => exact hconditions
  | category c => exact congrArg (Option.map (TipFault.conditions c)) (hcategory c)

end Fields

section Same

variable {R : Option Json → Option Json → Prop} {members members' : List (String × Json)}

theorem SameMembers.element? (hrefl : ∀ e, R e e) (h : SameMembers R members members')
    (c : Category) : R (element? members c) (element? members' c) := by
  unfold EntryCheck.element?
  rcases h.conditions with heq | ⟨conditions, conditions', hget, hget', hrel⟩
  · rw [heq]
    exact hrefl _
  · rw [hget, hget']
    exact hrel c

theorem SameMembers.fault?_eq (h : SameMembers Conditions.SameOutline members members')
    (fallback : Option RichText) : fault? fallback members = fault? fallback members' := by
  refine h.toSameFields.fault?_eq ?_ fun c =>
    Conditions.fault?_congr (h.element? Conditions.SameOutline.refl c)
  simp only [fault?]
  rcases h.conditions with heq | ⟨conditions, conditions', hget, hget', -⟩
  · rw [heq]
  · rw [hget, hget']

theorem SameEntry.sameOutline {v v' : Json} (h : SameEntry Conditions.SameGroups v v') :
    SameEntry Conditions.SameOutline v v' := by
  rcases h with heq | ⟨members, members', hv, hv', hfields, hconditions⟩
  · exact .inl heq
  · refine .inr ⟨members, members', hv, hv', hfields, ?_⟩
    rcases hconditions with heq | ⟨conditions, conditions', hget, hget', hrel⟩
    · exact .inl heq
    · exact .inr ⟨conditions, conditions', hget, hget', fun c => (hrel c).sameOutline⟩

theorem SameEntry.entryFault?_eq {v v' : Json} (h : SameEntry Conditions.SameOutline v v')
    (fallback : Option RichText) : entryFault? fallback v = entryFault? fallback v' := by
  rcases h with rfl | ⟨members, members', rfl, rfl, h⟩
  · rfl
  · rw [entryFault?, entryFault?, h.fault?_eq fallback]

/-- Elements with the same groups are written alike, by whomever they were compiled. -/
theorem toJson?_congr {σ τ : Type} {compiler : RuleCompiler σ} {compiler' : RuleCompiler τ}
    {e e' : Option Json} {c : Conditions σ} {c' : Conditions τ}
    (h : (Conditions.ofElement compiler e).outcome = .ok c)
    (h' : (Conditions.ofElement compiler' e').outcome = .ok c')
    (hsame : Conditions.SameGroups e e') : c.toJson? = c'.toJson? := by
  have hrules : Conditions.elementRules e = Conditions.elementRules e' := by
    funext kind
    rw [Conditions.elementRules, Conditions.elementRules, hsame.2 kind]
  rw [Conditions.eq_ofRules_of_outcome h, Conditions.eq_ofRules_of_outcome h', hrules]
  exact Conditions.toJson?_ofRules_congr compiler compiler' _

/-- Each category of the conditions that were read is that of its element. -/
theorem ofElement_of_conditionsMember {r : TipReader} {c : TipConditions}
    (h : (r.conditionsMember members).outcome = .ok c) :
    (Conditions.ofElement (compileScreenRule r.host)
        (EntryCheck.element? members .screens)).outcome = .ok c.screens ∧
      (Conditions.ofElement compileRegistryRule
        (EntryCheck.element? members .biomes)).outcome = .ok c.biomes ∧
      (Conditions.ofElement compileRegistryRule
        (EntryCheck.element? members .dimensions)).outcome = .ok c.dimensions ∧
      (Conditions.ofElement compileMemberRule
        (EntryCheck.element? members .milestones)).outcome = .ok c.milestones := by
  unfold conditionsMember at h
  unfold EntryCheck.element?
  cases hget : Json.get? TipField.conditions.key members with
  | none =>
    rw [hget] at h
    obtain rfl := Except.ok.inj h
    exact ⟨rfl, rfl, rfl, rfl⟩
  | some v =>
    rw [hget] at h
    cases v with
    | obj conditions => exact readConditions_eq_ok_iff.1 h
    | _ => cases h

theorem SameMembers.toJson?_eq (hsame : SameMembers Conditions.SameGroups members members')
    {r r' : TipReader} {c c' : TipConditions} (h : (r.conditionsMember members).outcome = .ok c)
    (h' : (r'.conditionsMember members').outcome = .ok c') : c.toJson? = c'.toJson? := by
  obtain ⟨hscreens, hbiomes, hdimensions, hmilestones⟩ := ofElement_of_conditionsMember h
  obtain ⟨hscreens', hbiomes', hdimensions', hmilestones'⟩ := ofElement_of_conditionsMember h'
  have helement := hsame.element? Conditions.SameGroups.refl
  have hmembers : c.members = c'.members := by
    unfold TipConditions.members TipConditions.member?
    rw [toJson?_congr hscreens hscreens' (helement .screens),
      toJson?_congr hbiomes hbiomes' (helement .biomes),
      toJson?_congr hdimensions hdimensions' (helement .dimensions),
      toJson?_congr hmilestones hmilestones' (helement .milestones)]
  rw [TipConditions.toJson?, hmembers]
  rfl

/-- A tip that was read is written from the members that count. -/
theorem SameEntry.toJson_eq {v v' : Json} (hsame : SameEntry Conditions.SameGroups v v')
    {r r' : TipReader} {id id' : Identifier} {t t' : Tip} (h : (r.read id v).outcome = .ok t)
    (h' : (r'.read id' v').outcome = .ok t') (hfallback : r.defaultTitle = r'.defaultTitle) :
    t.toJson = t'.toJson := by
  obtain ⟨members, rfl, -, -, htitle, htext, htime, hconditions⟩ := read_eq_ok_iff.1 h
  obtain ⟨members', rfl, -, -, htitle', htext', htime', hconditions'⟩ := read_eq_ok_iff.1 h'
  have hmembers : SameMembers Conditions.SameGroups members members' := by
    rcases hsame with heq | ⟨_, _, hv, hv', hsame⟩
    · obtain rfl := Json.obj.inj heq
      exact ⟨⟨rfl, fun _ _ => rfl⟩, .inl rfl⟩
    · obtain rfl := Json.obj.inj hv
      obtain rfl := Json.obj.inj hv'
      exact hsame
  have hfields := hmembers.toSameFields
  have heqTitle : t.title = t'.title := by
    rw [hfields.readText_eq (by decide), hfallback, htitle'] at htitle
    exact (Except.ok.inj htitle).symm
  have heqText : t.text = t'.text := by
    rw [hfields.readText_eq (by decide), htext'] at htext
    exact (Except.ok.inj htext).symm
  have heqTime : t.ownCycleTime = t'.ownCycleTime := by
    rw [hfields.readCycleTime_eq, htime'] at htime
    exact (Except.ok.inj htime).symm
  rw [Tip.toJson, Tip.toJson, heqTitle, heqText, heqTime, hmembers.toJson?_eq hconditions hconditions']

end Same

/-- **Which entries are read, and with which error others are refused.** An entry is read if it is an
object that passes all checks, and refused with its id and what the first check reports that it does
not pass. What is refused, what with and how a tip is written afterwards depends neither on the host
nor on any other members of the entry, of its conditions and of the objects in these; what is refused
and what with does not depend on the text of rules either. -/
theorem read_spec (r : TipReader) (id : Identifier) (v : Json) :
    ((∃ t, (r.read id v).outcome = .ok t) ↔
      ∃ members, v = .obj members ∧ ∀ check : EntryCheck, check.Passes r.defaultTitle members) ∧
    (∀ e, (r.read id v).outcome = .error e ↔ e.id = id ∧ EntryFault r.defaultTitle v e.fault) ∧
    (∀ (host : ScreenHost) (v' : Json), SameEntry Conditions.SameGroups v v' →
      (r.read id v).outcome.map Tip.toJson =
        (read ⟨host, r.defaultTitle⟩ id v').outcome.map Tip.toJson) ∧
    ∀ (host : ScreenHost) (v' : Json), SameEntry Conditions.SameOutline v v' →
      (r.read id v).outcome.map (fun _ => ()) =
        (read ⟨host, r.defaultTitle⟩ id v').outcome.map fun _ => () := by
  refine ⟨?_, ?_, ?_, ?_⟩
  · rw [← Except.error?_eq_none_iff, error?_read, Option.map_eq_none_iff, entryFault?_eq_none_iff]
  · intro e
    rw [← Except.error?_eq_some_iff, error?_read, Option.map_eq_some_iff, ← entryFault?_eq_some_iff]
    constructor
    · rintro ⟨fault, hfault, rfl⟩
      exact ⟨rfl, hfault⟩
    · rintro ⟨rfl, hfault⟩
      exact ⟨e.fault, hfault, rfl⟩
  · intro host v' hsame
    have herror : (r.read id v).outcome.error? =
        (read ⟨host, r.defaultTitle⟩ id v').outcome.error? := by
      rw [error?_read, error?_read, hsame.sameOutline.entryFault?_eq]
    exact Except.map_eq_map herror fun t t' hread hread' => hsame.toJson_eq hread hread' rfl
  · intro host v' hsame
    rw [Except.map_unit_eq_iff, error?_read, error?_read, hsame.entryFault?_eq]

end TipReader

end GameTips
