import GameTips.Proofs.Conditions.Faults

/-!
# Which elements are read as conditions

An element is a condition if it holds rules or has groups that all hold rules (`Json.IsCondition`). Any
other element has a first fault, which `ElementFault` names from the element alone: the groups of an
object are looked at in a fixed order, and one that is bad hides all that is wrong with later ones.

What the rules say does not bear on that, since a fault only depends on the element with the text of
its rules taken out (`fault?_congr`). It decides what is compiled, though: the rules of the groups
before the first bad one, each once (`events_ofElement`).

`ofElement_spec` puts these together.
-/

namespace GameTips

namespace Json

instance : DecidablePred HoldsRules
  | .str _ => .isTrue trivial
  | .arr items => inferInstanceAs (Decidable (items ≠ [] ∧ ∀ v ∈ items, v.text?.isSome))
  | .null | .bool _ | .int _ | .float _ | .obj _ => .isFalse id

/-- Rules by themselves, or an object with groups of rules. -/
def IsCondition : Json → Prop
  | .obj members =>
    (∃ kind : GroupKind, (get? kind.key members).isSome) ∧
      ∀ (kind : GroupKind) (v : Json), get? kind.key members = some v → v.HoldsRules
  | v => v.HoldsRules

/-- The value without its text, if it is a string. -/
def blank : Json → Json
  | .str _ => .str ""
  | v => v

/-- The value of a group without the text of its rules. -/
def outline : Json → Json
  | .arr items => .arr (items.map blank)
  | v => v.blank

theorem isNone_text?_eq_false_iff {v : Json} : v.text?.isNone = false ↔ v.shape = .string := by
  cases v <;> simp [text?, shape]

theorem isNone_text?_blank (v : Json) : v.blank.text?.isNone = v.text?.isNone := by
  cases v <;> rfl

end Json

namespace Conditions

/-! ## The first fault -/

/-- What is wrong with the value of a group. -/
inductive GroupFault (kind : GroupKind) : Json → ConditionError → Prop
  /-- It is neither a string nor an array. -/
  | shape {v : Json} : v.shape ≠ .string → v.shape ≠ .array →
      GroupFault kind v (.malformedShape v.shape)
  /-- It is an array, and this is its first item that is no string. -/
  | item {before after : List Json} {v : Json} : (∀ w ∈ before, w.shape = .string) →
      v.shape ≠ .string →
      GroupFault kind (.arr (before ++ v :: after)) (.nonStringRule kind before.length)
  | noItems : GroupFault kind (.arr []) (.emptyGroup kind)

/-- What is wrong with an element. -/
inductive ElementFault : Json → ConditionError → Prop
  /-- It is no object and holds no rules. -/
  | value {v : Json} {err : ConditionError} : v.shape ≠ .object → GroupFault .anyOf v err →
      ElementFault v err
  /-- It is an object, and this is its first group that holds no rules. -/
  | group {members : List (String × Json)} {before after : List GroupKind} {kind : GroupKind}
      {v : Json} {err : ConditionError} : readingOrder = before ++ kind :: after →
      (∀ earlier ∈ before, ∀ w, Json.get? earlier.key members = some w → w.HoldsRules) →
      Json.get? kind.key members = some v → GroupFault kind v err →
      ElementFault (.obj members) err
  | noGroups {members : List (String × Json)} :
      (∀ kind : GroupKind, Json.get? kind.key members = none) →
      ElementFault (.obj members) .noRecognizedKeys

theorem groupFault?_arr_eq_some_iff {kind : GroupKind} {items : List Json} {err : ConditionError} :
    groupFault? kind (.arr items) = some err ↔
      (∃ i, items.findIdx? (fun v => v.text?.isNone) = some i ∧ err = .nonStringRule kind i) ∨
        items = [] ∧ err = .emptyGroup kind := by
  rw [groupFault?]
  cases items with
  | nil => simp [eq_comm]
  | cons v rest =>
    rw [List.isEmpty_cons, if_neg Bool.false_ne_true, Option.or_none, Option.map_eq_some_iff]
    simp only [reduceCtorEq, false_and, or_false, eq_comm]

theorem groupFault?_eq_some_iff {kind : GroupKind} {v : Json} {err : ConditionError} :
    groupFault? kind v = some err ↔ GroupFault kind v err := by
  constructor
  · intro h
    cases v with
    | str rule => cases h
    | arr items =>
      rcases groupFault?_arr_eq_some_iff.1 h with ⟨i, hfind, rfl⟩ | ⟨rfl, rfl⟩
      · obtain ⟨before, v, after, rfl, rfl, hv, hbefore⟩ := List.findIdx?_eq_some_iff_append.1 hfind
        refine .item (fun w hw => Json.isNone_text?_eq_false_iff.1 (hbefore w hw)) ?_
        intro hshape
        rw [Json.isNone_text?_eq_false_iff.2 hshape] at hv
        cases hv
      · exact .noItems
    | _ =>
      obtain rfl := Option.some.inj h
      exact .shape (by simp [Json.shape]) (by simp [Json.shape])
  · intro h
    cases h with
    | shape hstring harray => cases v <;> simp_all [Json.shape, groupFault?]
    | @item before after v hbefore hv =>
      refine groupFault?_arr_eq_some_iff.2 (.inl ⟨_, List.findIdx?_eq_some_iff_append.2 ?_, rfl⟩)
      refine ⟨before, v, after, rfl, rfl, ?_, ?_⟩
      · rw [← Bool.not_eq_false, Json.isNone_text?_eq_false_iff]
        exact hv
      · intro w hw
        exact Json.isNone_text?_eq_false_iff.2 (hbefore w hw)
    | noItems => rfl

theorem memberFault?_eq_some_iff {members : List (String × Json)} {kind : GroupKind}
    {err : ConditionError} :
    memberFault? members kind = some err ↔
      ∃ v, Json.get? kind.key members = some v ∧ GroupFault kind v err := by
  unfold memberFault?
  simp only [Option.bind_eq_some_iff, groupFault?_eq_some_iff]

theorem memberFault?_eq_none_iff {members : List (String × Json)} {kind : GroupKind} :
    memberFault? members kind = none ↔
      ∀ v, Json.get? kind.key members = some v → v.HoldsRules := by
  unfold memberFault?
  simp only [Option.bind_eq_none_iff, groupFault?_eq_none_iff]

theorem mem_readingOrder (kind : GroupKind) : kind ∈ readingOrder := by
  cases kind <;> decide

theorem all_readingOrder_iff {members : List (String × Json)} :
    (readingOrder.all fun kind => (Json.get? kind.key members).isNone) = true ↔
      ∀ kind : GroupKind, Json.get? kind.key members = none := by
  rw [List.all_eq_true]
  constructor
  · intro h kind
    exact Option.isNone_iff_eq_none.1 (h kind (mem_readingOrder kind))
  · intro h kind _
    exact Option.isNone_iff_eq_none.2 (h kind)

theorem fault?_of_ne_object {v : Json} (hv : v.shape ≠ .object) :
    fault? (some v) = groupFault? .anyOf v := by
  cases v with
  | obj members => exact absurd rfl hv
  | _ => rfl

/-- **The fault of an element** is the first one. -/
theorem fault?_eq_some_iff {v : Json} {err : ConditionError} :
    fault? (some v) = some err ↔ ElementFault v err := by
  constructor
  · intro h
    by_cases hv : v.shape = .object
    · cases v with
      | obj members =>
        rcases Option.or_eq_some_iff.1 h with hgroup | ⟨-, hempty⟩
        · obtain ⟨before, kind, after, horder, hbad, hsound⟩ := List.findSome?_eq_some_iff.1 hgroup
          obtain ⟨w, hw, hfault⟩ := memberFault?_eq_some_iff.1 hbad
          have hearlier : ∀ earlier ∈ before, ∀ w, Json.get? earlier.key members = some w →
              w.HoldsRules := fun earlier hmem => memberFault?_eq_none_iff.1 (hsound earlier hmem)
          exact .group horder hearlier hw hfault
        · split at hempty
          · next hall =>
            obtain rfl := Option.some.inj hempty
            exact .noGroups (all_readingOrder_iff.1 hall)
          · cases hempty
      | _ => cases hv
    · rw [fault?_of_ne_object hv] at h
      exact .value hv (groupFault?_eq_some_iff.1 h)
  · intro h
    cases h with
    | value hv hfault =>
      rw [fault?_of_ne_object hv]
      exact groupFault?_eq_some_iff.2 hfault
    | @group members before after kind w err horder hearlier hw hfault =>
      refine Option.or_eq_some_iff.2 (.inl (List.findSome?_eq_some_iff.2 ?_))
      refine ⟨before, kind, after, horder, memberFault?_eq_some_iff.2 ⟨w, hw, hfault⟩, ?_⟩
      intro earlier hmem
      exact memberFault?_eq_none_iff.2 (hearlier earlier hmem)
    | @noGroups members hnone =>
      refine Option.or_eq_some_iff.2 (.inr ⟨?_, if_pos (all_readingOrder_iff.2 hnone)⟩)
      rw [List.findSome?_eq_none_iff]
      intro kind _
      rw [memberFault?, hnone kind]
      rfl

theorem fault?_eq_none_iff_isCondition {v : Json} : fault? (some v) = none ↔ v.IsCondition := by
  by_cases hv : v.shape = .object
  · cases v with
    | obj members => exact fault?_eq_none_iff
    | _ => cases hv
  · rw [fault?_of_ne_object hv, groupFault?_eq_none_iff]
    cases v with
    | obj members => exact absurd rfl hv
    | _ => exact Iff.rfl

/-! ## What an element is without its rules -/

theorem groupValue_eq_none (kind : GroupKind) {v : Json} (hv : v.shape ≠ .object)
    (hkind : kind ≠ .anyOf) : groupValue kind (some v) = none := by
  cases v with
  | obj members => exact absurd rfl hv
  | _ => exact if_neg hkind

theorem groupValue_anyOf {v : Json} (hv : v.shape ≠ .object) :
    groupValue .anyOf (some v) = some v := by
  cases v with
  | obj members => exact absurd rfl hv
  | _ => rfl

/-- What is wrong with the value that an element has for a kind of group. -/
def valueFault? (e : Option Json) (kind : GroupKind) : Option ConditionError :=
  (groupValue kind e).bind (groupFault? kind)

/-- An element of any shape is looked at as an object with its groups. -/
theorem fault?_eq (v : Json) :
    fault? (some v) =
      (readingOrder.findSome? (valueFault? (some v))).or
        (if readingOrder.all fun kind => (groupValue kind (some v)).isNone then
          some .noRecognizedKeys else none) := by
  by_cases hv : v.shape = .object
  · cases v with
    | obj members => rfl
    | _ => cases hv
  · have hall := groupValue_eq_none .allOf hv (by decide)
    have hnone := groupValue_eq_none .noneOf hv (by decide)
    rw [fault?_of_ne_object hv, findSome?_readingOrder]
    simp [valueFault?, groupValue_anyOf hv, hall, hnone, readingOrder]

/-- Two elements that are both missing or both there, and whose groups differ at most in the text of
their rules. -/
def SameOutline (e e' : Option Json) : Prop :=
  e.isSome = e'.isSome ∧
    ∀ kind, (groupValue kind e).map Json.outline = (groupValue kind e').map Json.outline

/-- Two elements that are both missing or both there, and have the same groups. -/
def SameGroups (e e' : Option Json) : Prop :=
  e.isSome = e'.isSome ∧ ∀ kind, groupValue kind e = groupValue kind e'

theorem SameOutline.refl (e : Option Json) : SameOutline e e :=
  ⟨rfl, fun _ => rfl⟩

theorem SameGroups.refl (e : Option Json) : SameGroups e e :=
  ⟨rfl, fun _ => rfl⟩

theorem SameGroups.sameOutline {e e' : Option Json} (h : SameGroups e e') : SameOutline e e' :=
  ⟨h.1, fun kind => congrArg (Option.map Json.outline) (h.2 kind)⟩

theorem groupFault?_outline (kind : GroupKind) (v : Json) :
    groupFault? kind v.outline = groupFault? kind v := by
  cases v with
  | arr items =>
    show groupFault? kind (.arr (items.map Json.blank)) = _
    rw [groupFault?, groupFault?, List.findIdx?_map, List.isEmpty_map]
    simp only [Function.comp_def, Json.isNone_text?_blank]
  | _ => rfl

theorem valueFault?_congr {e e' : Option Json} (h : SameOutline e e') (kind : GroupKind) :
    valueFault? e kind = valueFault? e' kind := by
  have houtline : ∀ e : Option Json,
      valueFault? e kind = ((groupValue kind e).map Json.outline).bind (groupFault? kind) := by
    intro e
    rw [valueFault?, Option.bind_map]
    simp only [Function.comp_def, groupFault?_outline]
  rw [houtline, houtline, h.2 kind]

/-- **The fault of an element does not depend on what its rules say.** -/
theorem fault?_congr {e e' : Option Json} (h : SameOutline e e') : fault? e = fault? e' := by
  cases e with
  | none =>
    cases e' with
    | none => rfl
    | some v' => cases h.1
  | some v =>
    cases e' with
    | none => cases h.1
    | some v' =>
      have hpresent : ∀ kind, (groupValue kind (some v)).isNone = (groupValue kind (some v')).isNone := by
        intro kind
        have hsome := congrArg Option.isNone (h.2 kind)
        simpa only [Option.isNone_map] using hsome
      rw [fault?_eq, fault?_eq, funext (valueFault?_congr h), funext hpresent]

/-! ## Which rules are compiled -/

section Compiled

variable {σ : Type} {compiler : RuleCompiler σ}

theorem error?_outcome_ofElement (compiler : RuleCompiler σ) (e : Option Json) :
    (ofElement compiler e).outcome.error? = fault? e := by
  rw [outcome_ofElement]
  cases fault? e <;> rfl

/-- A condition that was read is the one with the rules of its element. -/
theorem eq_ofRules_of_outcome {e : Option Json} {c : Conditions σ}
    (h : (ofElement compiler e).outcome = .ok c) : c = ofRules compiler (elementRules e) := by
  rw [outcome_ofElement] at h
  cases hfault : fault? e with
  | none =>
    rw [hfault] at h
    exact (Except.ok.inj h).symm
  | some err =>
    rw [hfault] at h
    cases h

/-- The group of a kind holds rules, if the element has it. -/
def IsSound (e : Option Json) (kind : GroupKind) : Prop :=
  ∀ v ∈ groupValue kind e, v.HoldsRules

instance (e : Option Json) : DecidablePred (IsSound e) := fun kind =>
  inferInstanceAs (Decidable (∀ v ∈ groupValue kind e, v.HoldsRules))

/-- The rules of the group of a kind, each once in the order of first mention. -/
def distinctRules (e : Option Json) (kind : GroupKind) : List String :=
  (elementRules e kind).elim [] List.eraseDups

/-- The rules that are compiled when an element is read: those of its groups, up to the first group
that does not hold rules. -/
def compiledRules (e : Option Json) : List String :=
  (readingOrder.takeWhile fun kind => IsSound e kind).flatMap (distinctRules e)

/-- The events of compiling the group of a kind. -/
def groupEvents (compiler : RuleCompiler σ) (e : Option Json) (kind : GroupKind) : List Event :=
  (distinctRules e kind).flatMap fun rule => (compiler rule).events

theorem events_compile (kind : GroupKind) (rules : List String) :
    (RuleGroup.compile compiler kind rules).events =
      rules.eraseDups.flatMap fun rule => (compiler rule).events := by
  unfold RuleGroup.compile
  cases rules.eraseDups with
  | nil => rfl
  | cons rule rest =>
    show (Traced.events (_ >>= _)) = _
    rw [Traced.events_bind, Traced.events_pure, List.append_nil, Traced.events_mapM]

/-- The rules of a value that is not one of a group are not compiled. -/
theorem events_readGroup (kind : GroupKind) (v : Json) :
    (readGroup compiler kind v).events =
      if v.HoldsRules then v.ruleTexts.eraseDups.flatMap fun rule => (compiler rule).events
      else [] := by
  have hlift : ∀ rules, ruleStrings kind v = .ok rules →
      (readGroup compiler kind v).events =
        rules.eraseDups.flatMap fun rule => (compiler rule).events := by
    intro rules hrules
    have hread : TracedReading.outcome (ExceptT.mk (pure (ruleStrings kind v))) = .ok rules := hrules
    unfold readGroup
    rw [TracedReading.events_bind_of_ok hread, TracedReading.events_mk_pure, List.nil_append,
      TracedReading.events_bind_of_ok (TracedReading.outcome_lift _), TracedReading.events_lift,
      events_compile]
    cases (RuleGroup.compile compiler kind rules).value with
    | none => exact List.append_nil _
    | some g => exact List.append_nil _
  by_cases hv : v.HoldsRules
  · rw [if_pos hv]
    exact hlift _ (ruleStrings_of_holdsRules kind hv).1
  · rw [if_neg hv]
    cases hrules : ruleStrings kind v with
    | error err =>
      have hread : TracedReading.outcome (ExceptT.mk (pure (ruleStrings kind v))) = .error err := hrules
      unfold readGroup
      rw [TracedReading.events_bind_of_error hread, TracedReading.events_mk_pure]
    | ok rules =>
      -- Strings that make no group are none at all.
      have hempty : rules = [] :=
        Classical.byContradiction fun hne => hv (holdsRules_of_ruleStrings hrules hne)
      rw [hlift rules hrules, hempty]
      rfl

theorem groupEvents_of_value {e : Option Json} {kind : GroupKind} {v : Json}
    (h : groupValue kind e = some v) :
    groupEvents compiler e kind = v.ruleTexts.eraseDups.flatMap fun rule => (compiler rule).events := by
  rw [groupEvents, distinctRules, elementRules, h]
  rfl

theorem groupEvents_of_absent {e : Option Json} {kind : GroupKind} (h : groupValue kind e = none) :
    groupEvents compiler e kind = [] := by
  rw [groupEvents, distinctRules, elementRules, h]
  rfl

theorem flatMap_compiledRules (e : Option Json) :
    ((compiledRules e).flatMap fun rule => (compiler rule).events) =
      if IsSound e .allOf then
        groupEvents compiler e .allOf ++
          if IsSound e .noneOf then
            groupEvents compiler e .noneOf ++
              if IsSound e .anyOf then groupEvents compiler e .anyOf else []
          else []
      else [] := by
  unfold compiledRules readingOrder
  rw [List.flatMap_assoc]
  by_cases hall : IsSound e .allOf
  · by_cases hnone : IsSound e .noneOf
    · by_cases hany : IsSound e .anyOf
      · simp [hall, hnone, hany, groupEvents]
      · simp [hall, hnone, hany, groupEvents]
    · simp [hall, hnone, groupEvents]
  · simp [hall]

/-- A group of an object is compiled if it holds rules, and what comes after is read only then. -/
theorem events_readKey_bind {β : Type} (kind : GroupKind) (members : List (String × Json))
    {f : Option (RuleGroup σ) → TracedReading ConditionError β} {rest : List Event}
    (hf : ∀ g, (f g).events = rest) :
    (readKey compiler kind members >>= f).events =
      if IsSound (some (.obj members)) kind then
        groupEvents compiler (some (.obj members)) kind ++ rest
      else [] := by
  have hvalue : groupValue kind (some (.obj members)) = Json.get? kind.key members := rfl
  cases hget : Json.get? kind.key members with
  | none =>
    have hread : readKey compiler kind members = pure none := by
      rw [readKey, hget]
    have hsound : IsSound (some (.obj members)) kind := by
      rw [IsSound, hvalue, hget]
      intro v hv
      cases hv
    rw [if_pos hsound, groupEvents_of_absent (hvalue.trans hget), hread,
      TracedReading.events_bind_of_ok (TracedReading.outcome_pure none), hf]
    rfl
  | some v =>
    have hread : readKey compiler kind members = some <$> readGroup compiler kind v := by
      rw [readKey, hget]
    have hsound : IsSound (some (.obj members)) kind ↔ v.HoldsRules := by
      rw [IsSound, hvalue, hget]
      simp
    rw [hread]
    by_cases hv : v.HoldsRules
    · have hok : TracedReading.outcome (some <$> readGroup compiler kind v) =
          .ok (some (.ofRules compiler kind v.ruleTexts)) :=
        TracedReading.outcome_map_eq_ok.2 ⟨_, readGroup_eq_ok_iff.2 ⟨hv, rfl⟩, rfl⟩
      rw [if_pos (hsound.2 hv), TracedReading.events_bind_of_ok hok, TracedReading.events_map,
        events_readGroup, if_pos hv, hf, groupEvents_of_value (hvalue.trans hget)]
    · obtain ⟨err, herr⟩ := Option.ne_none_iff_exists'.1 (mt groupFault?_eq_none_iff.1 hv)
      have hfail : TracedReading.outcome (some <$> readGroup compiler kind v) = .error err := by
        rw [TracedReading.outcome_map, outcome_readGroup_of_fault herr]
        rfl
      rw [if_neg (mt hsound.1 hv), TracedReading.events_bind_of_error hfail, TracedReading.events_map,
        events_readGroup, if_neg hv]

theorem events_ofElement_obj (members : List (String × Json)) :
    (ofElement compiler (some (.obj members))).events =
      (compiledRules (some (.obj members))).flatMap fun rule => (compiler rule).events := by
  rw [flatMap_compiledRules]
  unfold ofElement
  refine events_readKey_bind .allOf members fun allOf => ?_
  refine events_readKey_bind .noneOf members fun noneOf => ?_
  have hend : ∀ anyOf : Option (RuleGroup σ),
      (if (⟨anyOf, allOf, noneOf⟩ : Conditions σ).isEmpty then throw .noRecognizedKeys
        else pure ⟨anyOf, allOf, noneOf⟩ : TracedReading ConditionError (Conditions σ)).events = [] := by
    intro anyOf
    split <;> rfl
  refine (events_readKey_bind .anyOf members hend).trans ?_
  rw [List.append_nil]

/-- An element that is no object is compiled as a group of any. -/
theorem events_ofElement_of_ne_object {v : Json} (hv : v.shape ≠ .object) :
    (ofElement compiler (some v)).events = (readGroup compiler .anyOf v).events := by
  have hgroup : ∀ v : Json,
      (readGroup compiler .anyOf v >>= fun g => pure ⟨some g, none, none⟩ :
        TracedReading ConditionError (Conditions σ)).events = (readGroup compiler .anyOf v).events := by
    intro v
    rw [bind_pure_comp, TracedReading.events_map]
  cases v with
  | obj members => exact absurd rfl hv
  | str rule => exact hgroup (.str rule)
  | arr items => exact hgroup (.arr items)
  | _ =>
    rw [events_readGroup]
    rfl

/-- **What is compiled when an element is read**, under every compiler. -/
theorem events_ofElement (compiler : RuleCompiler σ) (e : Option Json) :
    (ofElement compiler e).events =
      (compiledRules e).flatMap fun rule => (compiler rule).events := by
  cases e with
  | none =>
    rw [flatMap_compiledRules]
    simp only [groupEvents_of_absent (rfl : groupValue _ none = none), List.nil_append, ite_self]
    rfl
  | some v =>
    by_cases hv : v.shape = .object
    · cases v with
      | obj members => exact events_ofElement_obj members
      | _ => cases hv
    · have hall := groupValue_eq_none .allOf hv (by decide)
      have hnone := groupValue_eq_none .noneOf hv (by decide)
      have habsent : ∀ kind, groupValue kind (some v) = none → IsSound (some v) kind := by
        intro kind hkind w hw
        rw [hkind] at hw
        cases hw
      have hany : IsSound (some v) .anyOf ↔ v.HoldsRules := by
        rw [IsSound, groupValue_anyOf hv]
        simp
      rw [events_ofElement_of_ne_object hv, events_readGroup, flatMap_compiledRules,
        if_pos (habsent _ hall), if_pos (habsent _ hnone), groupEvents_of_absent hall,
        groupEvents_of_absent hnone, groupEvents_of_value (groupValue_anyOf hv)]
      simp only [hany, List.nil_append]

/-- **Which elements are read, with which error others are refused, and what is compiled on the way**,
for every compiler. An element that holds rules is read, and any other is refused with its first
fault; what the rules say and who compiles them makes no difference to that. Each rule is compiled at
most once in a group, in the order of first mention, and none of a group that is bad or comes after
a bad one. -/
theorem ofElement_spec (compiler : RuleCompiler σ) (e : Json) :
    ((∃ c, (ofElement compiler (some e)).outcome = .ok c) ↔ e.IsCondition) ∧
    (∀ err, (ofElement compiler (some e)).outcome = .error err ↔ ElementFault e err) ∧
    (∀ {τ : Type} (compiler' : RuleCompiler τ) (e' : Json), SameOutline (some e) (some e') →
      (ofElement compiler (some e)).outcome.map (fun _ => ()) =
        (ofElement compiler' (some e')).outcome.map fun _ => ()) ∧
    (ofElement compiler (some e)).events =
      (compiledRules (some e)).flatMap fun rule => (compiler rule).events := by
  refine ⟨?_, ?_, ?_, events_ofElement compiler (some e)⟩
  · rw [outcome_ofElement, ← fault?_eq_none_iff_isCondition]
    cases fault? (some e) <;> simp
  · intro err
    rw [outcome_ofElement, ← fault?_eq_some_iff]
    cases fault? (some e) <;> simp
  · intro τ compiler' e' h
    rw [outcome_ofElement, outcome_ofElement, fault?_congr h]
    cases fault? (some e') <;> rfl

/-- The first group is compiled, the second has a bad item, and nothing is made of the third. -/
example : (ofElement (Predicate.degraded .noRegistryForm : RuleCompiler Unit) (some (.obj [
      ("all_of", .arr [.str "b", .str "a", .str "b"]), ("any_of", .null),
      ("none_of", .arr [.str "c", .int 1])]))).run.events =
    [.notice (.ruleDegraded .noRegistryForm "b"), .notice (.ruleDegraded .noRegistryForm "a")] := by
  rfl

end Compiled

end Conditions
end GameTips
