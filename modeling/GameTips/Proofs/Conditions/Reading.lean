import GameTips.Proofs.Trace

/-!
# What reading a condition gives

A reading that succeeds gives, for each kind of group, the group of the rules that the element holds
for that kind, each compiled once in the order of first mention (`group_of_outcome_eq_ok`). Which
value of the element counts for a kind is `groupValue`, the values that make a group are those with
`Json.HoldsRules`, and their rules are `Json.ruleTexts`.
-/

namespace GameTips

def Json.text? : Json → Option String
  | .str s => some s
  | _ => none

/-- The rules that a value of a group holds: one, or those of an array. -/
def Json.ruleTexts : Json → List String
  | .str rule => [rule]
  | .arr items => items.filterMap text?
  | _ => []

/-- A value that makes a group: a string, or an array of strings that is not empty. -/
def Json.HoldsRules : Json → Prop
  | .str _ => True
  | .arr items => items ≠ [] ∧ ∀ v ∈ items, v.text?.isSome
  | _ => False

def RuleGroup.ofRules {σ : Type} (compiler : RuleCompiler σ) (kind : GroupKind)
    (rules : List String) : RuleGroup σ :=
  ⟨kind, rules.eraseDups, rules.eraseDups.map fun rule => (compiler rule).value⟩

namespace Conditions

variable {σ : Type} {compiler : RuleCompiler σ}

/-- The value that an element has for a kind of group. A string or an array is one of any. -/
def groupValue (kind : GroupKind) : Option Json → Option Json
  | none => none
  | some (.obj members) => Json.get? kind.key members
  | some v => if kind = .anyOf then some v else none

/-- The items of an array are its strings, unless one is not a string: then the first such one is
reported. -/
theorem stringItems_eq (kind : GroupKind) (items : List Json) (index : Nat) :
    stringItems kind index items =
      match items.findIdx? fun v => v.text?.isNone with
      | none => .ok (items.filterMap Json.text?)
      | some i => .error (.nonStringRule kind (index + i)) := by
  induction items generalizing index with
  | nil => rfl
  | cons v rest ih =>
    cases v with
    | str rule =>
      rw [stringItems, ih, List.findIdx?_cons]
      cases rest.findIdx? fun v => v.text?.isNone with
      | none => rfl
      | some i =>
        simp only [Json.text?, Option.isNone_some, Bool.false_eq_true, if_false, Option.map_some]
        rw [Nat.add_assoc, Nat.add_comm 1 i]
        rfl
    | _ => rfl

theorem ruleStrings_of_holdsRules (kind : GroupKind) {v : Json} (h : v.HoldsRules) :
    ruleStrings kind v = .ok v.ruleTexts ∧ v.ruleTexts ≠ [] := by
  cases v with
  | str rule => exact ⟨rfl, List.cons_ne_nil rule []⟩
  | arr items =>
    obtain ⟨hne, hall⟩ := h
    constructor
    · have hnone : items.findIdx? (fun v => v.text?.isNone) = none := by
        rw [List.findIdx?_eq_none_iff]
        intro v hv
        simpa using hall v hv
      rw [ruleStrings, stringItems_eq, hnone]
      rfl
    · obtain ⟨v, hv⟩ := List.exists_mem_of_ne_nil items hne
      obtain ⟨rule, hrule⟩ := Option.isSome_iff_exists.1 (hall v hv)
      exact List.ne_nil_of_mem (List.mem_filterMap.2 ⟨v, hv, hrule⟩)
  | _ => exact h.elim

theorem holdsRules_of_ruleStrings {kind : GroupKind} {v : Json} {rules : List String}
    (h : ruleStrings kind v = .ok rules) (hne : rules ≠ []) : v.HoldsRules := by
  cases v with
  | str rule => trivial
  | arr items =>
    rw [ruleStrings, stringItems_eq] at h
    cases hfind : items.findIdx? fun v => v.text?.isNone with
    | some i =>
      rw [hfind] at h
      cases h
    | none =>
      rw [hfind] at h
      obtain rfl := Except.ok.inj h
      rw [List.findIdx?_eq_none_iff] at hfind
      refine ⟨?_, fun v hv => by simpa using hfind v hv⟩
      rintro rfl
      exact hne rfl
  | _ => cases h

theorem value_compile (kind : GroupKind) (rules : List String) :
    (RuleGroup.compile compiler kind rules).value =
      if rules = [] then none else some (.ofRules compiler kind rules) := by
  unfold RuleGroup.compile
  cases rules with
  | nil => rfl
  | cons rule rest =>
    have hdups : (rule :: rest).eraseDups.isEmpty = false := by
      rw [List.eraseDups_cons]
      rfl
    simp [hdups, RuleGroup.ofRules]

theorem outcome_readGroup (kind : GroupKind) (v : Json) :
    (readGroup compiler kind v).outcome =
      match ruleStrings kind v with
      | .error e => .error e
      | .ok rules =>
        if rules = [] then .error (.emptyGroup kind) else .ok (.ofRules compiler kind rules) := by
  unfold readGroup
  rw [TracedReading.outcome_bind, TracedReading.outcome_mk_pure]
  cases ruleStrings kind v with
  | error e => rfl
  | ok rules =>
    show (_ >>= _ : TracedReading ConditionError (RuleGroup σ)).outcome = _
    rw [TracedReading.outcome_bind, TracedReading.outcome_lift, value_compile]
    by_cases hempty : rules = []
    · rw [if_pos hempty]
      exact (if_pos hempty).symm
    · rw [if_neg hempty]
      exact (if_neg hempty).symm

theorem readGroup_eq_ok_iff {kind : GroupKind} {v : Json} {g : RuleGroup σ} :
    (readGroup compiler kind v).outcome = .ok g ↔
      v.HoldsRules ∧ g = .ofRules compiler kind v.ruleTexts := by
  rw [outcome_readGroup]
  constructor
  · intro h
    cases hrules : ruleStrings kind v with
    | error e =>
      rw [hrules] at h
      cases h
    | ok rules =>
      rw [hrules] at h
      dsimp only at h
      split at h
      · cases h
      · next hne =>
        have hv := holdsRules_of_ruleStrings hrules hne
        rw [(ruleStrings_of_holdsRules kind hv).1] at hrules
        obtain rfl := Except.ok.inj hrules
        exact ⟨hv, (Except.ok.inj h).symm⟩
  · rintro ⟨hv, rfl⟩
    obtain ⟨hrules, hne⟩ := ruleStrings_of_holdsRules kind hv
    rw [hrules]
    exact if_neg hne

theorem readKey_eq_ok_iff {kind : GroupKind} {members : List (String × Json)}
    {g : Option (RuleGroup σ)} :
    (readKey compiler kind members).outcome = .ok g ↔
      (∀ v, Json.get? kind.key members = some v → v.HoldsRules) ∧
        g = (Json.get? kind.key members).map fun v => .ofRules compiler kind v.ruleTexts := by
  unfold readKey
  cases Json.get? kind.key members with
  | none =>
    constructor
    · intro h
      exact ⟨fun v hv => (by cases hv), (Except.ok.inj h).symm⟩
    · rintro ⟨-, rfl⟩
      rfl
  | some v =>
    dsimp only
    rw [TracedReading.outcome_map_eq_ok]
    constructor
    · rintro ⟨g', hg, rfl⟩
      obtain ⟨hv, rfl⟩ := readGroup_eq_ok_iff.1 hg
      refine ⟨?_, rfl⟩
      rintro w ⟨⟩
      exact hv
    · rintro ⟨hv, rfl⟩
      exact ⟨_, readGroup_eq_ok_iff.2 ⟨hv v rfl, rfl⟩, rfl⟩

/-- **The groups of a condition that was read** are those of the rules that its element holds, each
compiled once, in the order in which they are first given. -/
theorem group_of_outcome_eq_ok {e : Option Json} {c : Conditions σ}
    (h : (ofElement compiler e).outcome = .ok c) (kind : GroupKind) :
    (∀ v, groupValue kind e = some v → v.HoldsRules) ∧
      c.group kind = (groupValue kind e).map fun v => .ofRules compiler kind v.ruleTexts := by
  -- A string and an array make one group of any.
  have hshort : ∀ v, groupValue .anyOf (some v) = some v →
      groupValue .allOf (some v) = none → groupValue .noneOf (some v) = none →
      ∀ g, (readGroup compiler .anyOf v).outcome = .ok g → c = ⟨some g, none, none⟩ →
      (∀ w, groupValue kind (some v) = some w → w.HoldsRules) ∧
        c.group kind = (groupValue kind (some v)).map fun w => .ofRules compiler kind w.ruleTexts := by
    rintro v hany hall hnone g hg rfl
    obtain ⟨hv, rfl⟩ := readGroup_eq_ok_iff.1 hg
    cases kind
    · rw [hany]
      refine ⟨?_, rfl⟩
      rintro w ⟨⟩
      exact hv
    · rw [hall]
      exact ⟨fun w hw => (by cases hw), rfl⟩
    · rw [hnone]
      exact ⟨fun w hw => (by cases hw), rfl⟩
  cases e with
  | none =>
    obtain rfl := Except.ok.inj h
    refine ⟨fun v hv => (by cases hv), ?_⟩
    cases kind <;> rfl
  | some v =>
    cases v with
    | obj members =>
      obtain ⟨allOf, hall, h⟩ := TracedReading.outcome_bind_eq_ok.1 h
      obtain ⟨noneOf, hnone, h⟩ := TracedReading.outcome_bind_eq_ok.1 h
      obtain ⟨anyOf, hany, h⟩ := TracedReading.outcome_bind_eq_ok.1 h
      dsimp only at h
      split at h
      · cases h
      · obtain rfl := Except.ok.inj h
        cases kind
        · exact readKey_eq_ok_iff.1 hany
        · exact readKey_eq_ok_iff.1 hall
        · exact readKey_eq_ok_iff.1 hnone
    | str rule =>
      obtain ⟨g, hg, h⟩ := TracedReading.outcome_bind_eq_ok.1 h
      exact hshort (.str rule) rfl rfl rfl g hg (Except.ok.inj h).symm
    | arr items =>
      obtain ⟨g, hg, h⟩ := TracedReading.outcome_bind_eq_ok.1 h
      exact hshort (.arr items) rfl rfl rfl g hg (Except.ok.inj h).symm
    | _ => cases h

/-! ## The condition with given rules -/

/-- The rules of the group of a kind, each once; nothing if there is no such group. -/
def rules? (c : Conditions σ) (kind : GroupKind) : Option (List String) :=
  (c.group kind).map RuleGroup.entries

/-- The condition with groups of given rules. -/
def ofRules (compiler : RuleCompiler σ) (rules : GroupKind → Option (List String)) :
    Conditions σ where
  anyOf := (rules .anyOf).map (.ofRules compiler .anyOf)
  allOf := (rules .allOf).map (.ofRules compiler .allOf)
  noneOf := (rules .noneOf).map (.ofRules compiler .noneOf)

@[simp] theorem group_ofRules (rules : GroupKind → Option (List String)) (kind : GroupKind) :
    (ofRules compiler rules).group kind = (rules kind).map (.ofRules compiler kind) := by
  cases kind <;> rfl

theorem rules?_ofRules (rules : GroupKind → Option (List String)) (kind : GroupKind) :
    (ofRules compiler rules).rules? kind = (rules kind).map List.eraseDups := by
  rw [rules?, group_ofRules, Option.map_map]
  rfl

theorem eq_of_group_eq {c c' : Conditions σ} (h : ∀ kind, c.group kind = c'.group kind) : c = c' := by
  obtain ⟨anyOf, allOf, noneOf⟩ := c
  obtain ⟨anyOf', allOf', noneOf'⟩ := c'
  obtain rfl : anyOf = anyOf' := h .anyOf
  obtain rfl : allOf = allOf' := h .allOf
  obtain rfl : noneOf = noneOf' := h .noneOf
  rfl

theorem isEmpty_iff {c : Conditions σ} : c.isEmpty = true ↔ ∀ kind, c.group kind = none := by
  simp only [isEmpty, Bool.and_eq_true, Option.isNone_iff_eq_none]
  constructor
  · rintro ⟨⟨hany, hall⟩, hnone⟩ kind
    cases kind
    · exact hany
    · exact hall
    · exact hnone
  · intro h
    exact ⟨⟨h .anyOf, h .allOf⟩, h .noneOf⟩

/-- The rules that an element holds for each kind of group. -/
def elementRules (e : Option Json) (kind : GroupKind) : Option (List String) :=
  (groupValue kind e).map Json.ruleTexts

/-- **Which elements can be read, and what they give**: there is a group, every group is a string or
an array of strings that is not empty, and the condition has the rules that the groups hold. -/
theorem outcome_eq_ok_iff {e : Json} {c : Conditions σ} :
    (ofElement compiler (some e)).outcome = .ok c ↔
      (∃ kind, (groupValue kind (some e)).isSome) ∧
        (∀ kind v, groupValue kind (some e) = some v → v.HoldsRules) ∧
        c = ofRules compiler (elementRules (some e)) := by
  constructor
  · intro h
    have hgroup := group_of_outcome_eq_ok h
    refine ⟨?_, fun kind => (hgroup kind).1, ?_⟩
    · cases e with
      | obj members =>
        obtain ⟨allOf, -, h⟩ := TracedReading.outcome_bind_eq_ok.1 h
        obtain ⟨noneOf, -, h⟩ := TracedReading.outcome_bind_eq_ok.1 h
        obtain ⟨anyOf, -, h⟩ := TracedReading.outcome_bind_eq_ok.1 h
        dsimp only at h
        split at h
        · cases h
        · next hne =>
          obtain rfl := Except.ok.inj h
          rw [isEmpty_iff, Classical.not_forall] at hne
          obtain ⟨kind, hkind⟩ := hne
          rw [(hgroup kind).2, Option.map_eq_none_iff, ← ne_eq, Option.ne_none_iff_isSome] at hkind
          exact ⟨kind, hkind⟩
      | _ => exact ⟨.anyOf, rfl⟩
    · apply eq_of_group_eq
      intro kind
      rw [(hgroup kind).2, group_ofRules, elementRules, Option.map_map]
      rfl
  · rintro ⟨⟨kind, hkind⟩, hrules, rfl⟩
    cases e with
    | str rule =>
      refine TracedReading.outcome_bind_eq_ok.2 ⟨_, readGroup_eq_ok_iff.2 ⟨trivial, rfl⟩, ?_⟩
      rfl
    | arr items =>
      have hitems := hrules .anyOf (.arr items) rfl
      refine TracedReading.outcome_bind_eq_ok.2 ⟨_, readGroup_eq_ok_iff.2 ⟨hitems, rfl⟩, ?_⟩
      rfl
    | obj members =>
      have hread : ∀ kind, (readKey compiler kind members).outcome =
          .ok ((elementRules (some (.obj members)) kind).map (.ofRules compiler kind)) := by
        intro kind
        rw [elementRules, Option.map_map]
        exact readKey_eq_ok_iff.2 ⟨fun v hv => hrules kind v hv, rfl⟩
      have hne : ¬ (ofRules compiler (elementRules (some (.obj members)))).isEmpty = true := by
        rw [isEmpty_iff]
        intro h
        have hgroup := h kind
        rw [group_ofRules, Option.map_eq_none_iff, elementRules, Option.map_eq_none_iff] at hgroup
        rw [hgroup] at hkind
        cases hkind
      refine TracedReading.outcome_bind_eq_ok.2 ⟨_, hread .allOf, ?_⟩
      refine TracedReading.outcome_bind_eq_ok.2 ⟨_, hread .noneOf, ?_⟩
      refine TracedReading.outcome_bind_eq_ok.2 ⟨_, hread .anyOf, ?_⟩
      exact congrArg TracedReading.outcome (if_neg hne)
    | _ => exact (hrules .anyOf _ rfl).elim

end Conditions
end GameTips
