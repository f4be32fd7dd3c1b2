import GameTips.Proofs.Conditions.Reading

/-!
# What a condition means

`meaning` reads an element as it stands, without reading it into groups first: a string is a rule, an
array holds if one of its rules does, and an object if each group does that it has. Compiled
conditions mean that (`test_eq_meaning`): compiling each rule once, keeping every group with its kind
and stopping a test early make no difference. Since a group only depends on which rules it has
(`joins_congr`), neither order nor repetition matters.
-/

namespace GameTips

/-- Whether a rule holds, where `m` says which texts do. What is not a string is no rule. -/
def Json.ruleHolds (m : String → Bool) : Json → Bool
  | .str rule => m rule
  | _ => false

/-- The rules of a value, one or several, as they stand. -/
def Json.rules : Json → List Json
  | .arr items => items
  | v => [v]

namespace Conditions

/-- Whether a member of an object, if there is one, passes a test. -/
def memberPasses (members : List (String × Json)) (key : String) (test : List Json → Bool) : Bool :=
  match Json.get? key members with
  | none => true
  | some v => test v.rules

/-- What an element says of a value, where `m` says which rules match the value. -/
def meaning (m : String → Bool) : Option Json → Bool
  | none => true
  | some (.str rule) => m rule
  | some (.arr items) => items.any (Json.ruleHolds m)
  | some (.obj members) =>
    memberPasses members "any_of" (fun rules => rules.any (Json.ruleHolds m)) &&
      memberPasses members "all_of" (fun rules => rules.all (Json.ruleHolds m)) &&
      memberPasses members "none_of" fun rules => !rules.any (Json.ruleHolds m)
  | some _ => false

/-- Two elements have groups of the same kinds, and each holds the same rules in both, in whatever
order and however often. -/
def SameRules (e e' : Option Json) : Prop :=
  ∀ kind, Option.Rel (fun v w => ∀ rule, rule ∈ v.ruleTexts ↔ rule ∈ w.ruleTexts)
    (groupValue kind e) (groupValue kind e')

/-- How a group of a kind joins what `m` says of its rules. -/
def joins (kind : GroupKind) (m : String → Bool) (rules : List String) : Bool :=
  match kind with
  | .anyOf => rules.any m
  | .allOf => rules.all m
  | .noneOf => !rules.any m

theorem joins_congr (kind : GroupKind) (m : String → Bool) {xs ys : List String}
    (h : ∀ rule, rule ∈ xs ↔ rule ∈ ys) : joins kind m xs = joins kind m ys := by
  have hany : xs.any m = ys.any m := by
    rw [Bool.eq_iff_iff, List.any_eq_true, List.any_eq_true]
    simp only [h]
  have hall : xs.all m = ys.all m := by
    rw [Bool.eq_iff_iff, List.all_eq_true, List.all_eq_true]
    simp only [h]
  cases kind
  · exact hany
  · exact hall
  · exact congrArg not hany

variable {σ : Type} {compiler : RuleCompiler σ}

/-- What a compiled rule says of a value. -/
def matchesRule (compiler : RuleCompiler σ) (x : σ) (rule : String) : Bool :=
  ((compiler rule).value x).value

theorem value_test_ofRules (kind : GroupKind) (rules : List String) (x : σ) :
    ((RuleGroup.ofRules compiler kind rules).test x).value =
      joins kind (matchesRule compiler x) rules := by
  rw [← joins_congr kind _ fun rule => List.mem_eraseDups]
  unfold RuleGroup.test RuleGroup.ofRules joins matchesRule
  cases kind <;> simp [Function.comp_def]

theorem value_test (c : Conditions σ) (x : σ) :
    (c.test x).value =
      ((passes c.anyOf x).value && (passes c.allOf x).value && (passes c.noneOf x).value) := by
  unfold test
  rw [Traced.value_bind]
  cases (passes c.anyOf x).value
  · rfl
  · simp only [if_true, Traced.value_bind]
    cases (passes c.allOf x).value <;> simp

theorem value_passes_ofRules (v? : Option Json) (kind : GroupKind) (x : σ) :
    (passes (v?.map fun v => RuleGroup.ofRules compiler kind v.ruleTexts) x).value =
      v?.all fun v => joins kind (matchesRule compiler x) v.ruleTexts := by
  cases v? with
  | none => rfl
  | some v => exact value_test_ofRules kind v.ruleTexts x

theorem value_test_of_outcome {e : Option Json} {c : Conditions σ}
    (h : (ofElement compiler e).outcome = .ok c) (x : σ) :
    (c.test x).value =
      ([.anyOf, .allOf, .noneOf] : List GroupKind).all fun kind =>
        (groupValue kind e).all fun v => joins kind (matchesRule compiler x) v.ruleTexts := by
  have hgroup := fun kind => (group_of_outcome_eq_ok h kind).2
  rw [value_test, show c.anyOf = _ from hgroup .anyOf, show c.allOf = _ from hgroup .allOf,
    show c.noneOf = _ from hgroup .noneOf]
  simp only [value_passes_ofRules, List.all_cons, List.all_nil, Bool.and_true, Bool.and_assoc]

/-! ## The element as it stands -/

theorem any_ruleTexts (m : String → Bool) {v : Json} (h : v.HoldsRules) :
    v.ruleTexts.any m = v.rules.any (Json.ruleHolds m) := by
  cases v with
  | str rule => rfl
  | arr items =>
    show (items.filterMap Json.text?).any m = items.any (Json.ruleHolds m)
    rw [List.any_filterMap]
    congr 1
    funext item
    cases item <;> rfl
  | _ => exact h.elim

/-- All rules of a value hold if all of its texts do, as it has nothing but texts. -/
theorem all_ruleTexts (m : String → Bool) {v : Json} (h : v.HoldsRules) :
    v.ruleTexts.all m = v.rules.all (Json.ruleHolds m) := by
  cases v with
  | str rule => rfl
  | arr items =>
    show (items.filterMap Json.text?).all m = items.all (Json.ruleHolds m)
    rw [List.all_filterMap, Bool.eq_iff_iff, List.all_eq_true, List.all_eq_true]
    refine forall₂_congr fun item hitem => ?_
    obtain ⟨rule, hrule⟩ := Option.isSome_iff_exists.1 (h.2 item hitem)
    cases item with
    | str s => rfl
    | _ => cases hrule
  | _ => exact h.elim

/-- A condition that was read says of a value what its element says. -/
theorem value_test_eq_meaning {e : Option Json} {c : Conditions σ}
    (h : (ofElement compiler e).outcome = .ok c) (x : σ) :
    (c.test x).value = meaning (matchesRule compiler x) e := by
  have hrules := fun kind => (group_of_outcome_eq_ok h kind).1
  rw [value_test_of_outcome h]
  simp only [List.all_cons, List.all_nil, Bool.and_true]
  cases e with
  | none => rfl
  | some v =>
    cases v with
    | str rule => simp [groupValue, joins, Json.ruleTexts, meaning]
    | arr items =>
      have hany := any_ruleTexts (matchesRule compiler x) (hrules .anyOf _ rfl)
      rw [show (Json.arr items).rules = items from rfl] at hany
      simpa [groupValue, joins, meaning] using hany
    | obj members =>
      -- Each kind of group is looked up under a key of its own.
      have hmember : ∀ (kind : GroupKind) (test : List Json → Bool),
          (∀ v : Json, v.HoldsRules →
            joins kind (matchesRule compiler x) v.ruleTexts = test v.rules) →
          (groupValue kind (some (.obj members))).all
              (fun v => joins kind (matchesRule compiler x) v.ruleTexts) =
            memberPasses members kind.key test := by
        intro kind test htest
        unfold memberPasses
        cases hget : Json.get? kind.key members with
        | none => simp [groupValue, hget]
        | some v => simp [groupValue, hget, htest v (hrules kind v hget)]
      have hany := hmember .anyOf (fun rules => rules.any (Json.ruleHolds _)) fun v hv =>
        any_ruleTexts _ hv
      have hall := hmember .allOf (fun rules => rules.all (Json.ruleHolds _)) fun v hv =>
        all_ruleTexts _ hv
      have hnone := hmember .noneOf (fun rules => !rules.any (Json.ruleHolds _)) fun v hv =>
        congrArg not (any_ruleTexts _ hv)
      rw [hany, hall, hnone, ← Bool.and_assoc]
      rfl
    | _ => cases h

theorem value_test_congr {e e' : Option Json} {c c' : Conditions σ}
    (h : (ofElement compiler e).outcome = .ok c) (h' : (ofElement compiler e').outcome = .ok c')
    (hsame : SameRules e e') (x : σ) : (c.test x).value = (c'.test x).value := by
  rw [value_test_of_outcome h, value_test_of_outcome h']
  congr 1
  funext kind
  have hrel := hsame kind
  generalize groupValue kind e = v? at hrel ⊢
  generalize groupValue kind e' = w? at hrel ⊢
  cases hrel with
  | none => rfl
  | some hmem => exact joins_congr kind _ hmem

/-- An object with the group of one kind can be read if the value of the group makes a group. -/
theorem outcome_single (kind : GroupKind) {v : Json} (hv : v.HoldsRules) :
    ∃ c, (ofElement compiler (some (.obj [(kind.key, v)]))).outcome = .ok c := by
  have hread : ∀ kind', (readKey compiler kind' [(kind.key, v)]).outcome =
      .ok (if kind' = kind then some (.ofRules compiler kind v.ruleTexts) else none) := by
    intro kind'
    have hget : Json.get? kind'.key [(kind.key, v)] = if kind' = kind then some v else none := by
      rw [Json.get?_cons]
      cases kind' <;> cases kind <;> rfl
    rw [readKey_eq_ok_iff, hget]
    split
    · next h =>
      subst h
      refine ⟨?_, rfl⟩
      rintro w ⟨⟩
      exact hv
    · exact ⟨fun w hw => (by cases hw), rfl⟩
  unfold ofElement
  simp only [TracedReading.outcome_bind, hread]
  cases kind <;> exact ⟨_, rfl⟩

/-- **A compiled condition means what its element says**, for every rule compiler, every element that
can be read and every value. Neither the order nor the repetition of rules matters, and none of some
rules is the contrary of any of them. -/
theorem test_eq_meaning {e : Option Json} {c : Conditions σ}
    (h : (ofElement compiler e).outcome = .ok c) :
    (∀ x, (c.test x).value = meaning (matchesRule compiler x) e) ∧
    (∀ {e' : Option Json} {c' : Conditions σ}, (ofElement compiler e').outcome = .ok c' →
      SameRules e e' → ∀ x, (c.test x).value = (c'.test x).value) ∧
    (∀ v, e = some (.obj [("any_of", v)]) →
      ∃ n, (ofElement compiler (some (.obj [("none_of", v)]))).outcome = .ok n ∧
        ∀ x, (n.test x).value = !(c.test x).value) := by
  refine ⟨value_test_eq_meaning h, value_test_congr h, ?_⟩
  rintro v rfl
  have hv := (group_of_outcome_eq_ok h .anyOf).1 v rfl
  have hnone : ∃ n, (ofElement compiler (some (.obj [("none_of", v)]))).outcome = .ok n :=
    outcome_single .noneOf hv
  obtain ⟨n, hn⟩ := hnone
  refine ⟨n, hn, fun x => ?_⟩
  rw [value_test_eq_meaning h, value_test_eq_meaning hn]
  generalize matchesRule compiler x = m
  show (true && true && !v.rules.any (Json.ruleHolds m)) =
    !(v.rules.any (Json.ruleHolds m) && true && true)
  simp

/-- Rules that match the same text. -/
def sameText : RuleCompiler String :=
  fun rule => pure (Predicate.ofTest fun x => x == rule)

/-- Any of two texts, one of them twice, but not the other. -/
def repeatedRules : Json :=
  .obj [("any_of", .arr [.str "a", .str "b", .str "a"]), ("none_of", .str "b")]

theorem test_repeatedRules :
    ∃ c, (ofElement sameText (some repeatedRules)).outcome = .ok c ∧
      (∀ x, (c.test x).value = meaning (matchesRule sameText x) (some repeatedRules)) ∧
      (c.test "a").value = true ∧ (c.test "b").value = false := by
  refine ⟨_, rfl, (test_eq_meaning rfl).1, ?_, ?_⟩ <;> rfl

end Conditions
end GameTips
