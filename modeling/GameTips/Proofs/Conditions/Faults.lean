import GameTips.Proofs.Conditions.Reading

/-!
# What is wrong with an element

Whether an element can be read does not depend on what its rules say, and so not on the compiler
either: `fault?` tells what is wrong with an element from the element alone, and a reading fails with
that fault or, if there is none, gives the rules of the element (`outcome_ofElement`). Nothing is
wrong with an element exactly if it has a group and all its groups hold rules (`fault?_eq_none_iff`).
-/

namespace GameTips.Conditions

variable {σ : Type} {compiler : RuleCompiler σ}

/-- What is wrong with a value for a group: it has another shape, or an item that is no string, of
which the first counts, or no items. -/
def groupFault? (kind : GroupKind) : Json → Option ConditionError
  | .str _ => none
  | .arr items =>
    ((items.findIdx? fun v => v.text?.isNone).map (.nonStringRule kind)).or
      (if items.isEmpty then some (.emptyGroup kind) else none)
  | v => some (.malformedShape v.shape)

/-- What is wrong with the group of a kind in an object. -/
def memberFault? (members : List (String × Json)) (kind : GroupKind) : Option ConditionError :=
  (Json.get? kind.key members).bind (groupFault? kind)

/-- The kinds of groups in the order in which an object is read for them. -/
def readingOrder : List GroupKind := [.allOf, .noneOf, .anyOf]

/-- What is wrong with an element. Of several bad groups in an object the one that is read first
counts; an object without bad groups may have no groups at all. -/
def fault? : Option Json → Option ConditionError
  | none => none
  | some (.obj members) =>
    (readingOrder.findSome? (memberFault? members)).or
      (if readingOrder.all fun kind => (Json.get? kind.key members).isNone then
        some .noRecognizedKeys else none)
  | some v => groupFault? .anyOf v

/-! ## Groups -/

theorem groupFault?_eq_none_iff {kind : GroupKind} {v : Json} :
    groupFault? kind v = none ↔ v.HoldsRules := by
  cases v with
  | str rule => exact iff_of_true rfl trivial
  | arr items =>
    unfold groupFault? Json.HoldsRules
    rw [Option.or_eq_none_iff, Option.map_eq_none_iff, List.findIdx?_eq_none_iff, and_comm]
    simp [Option.isSome_iff_ne_none]
  | _ => exact iff_of_false (fun h => (by cases h)) id

theorem outcome_readGroup_of_fault {kind : GroupKind} {v : Json} {err : ConditionError}
    (h : groupFault? kind v = some err) : (readGroup compiler kind v).outcome = .error err := by
  rw [outcome_readGroup]
  cases v with
  | str rule => cases h
  | arr items =>
    rw [groupFault?] at h
    rw [ruleStrings, stringItems_eq]
    cases hfind : items.findIdx? fun v => v.text?.isNone with
    | some i =>
      rw [hfind] at h
      obtain rfl := Option.some.inj h
      dsimp only
      rw [Nat.zero_add]
    | none =>
      rw [hfind] at h
      cases items with
      | nil =>
        obtain rfl := Option.some.inj h
        rfl
      | cons v rest => cases h
  | _ =>
    obtain rfl := Option.some.inj h
    rfl

theorem outcome_readGroup_eq (kind : GroupKind) (v : Json) :
    (readGroup compiler kind v).outcome =
      (groupFault? kind v).elim (.ok (.ofRules compiler kind v.ruleTexts)) .error := by
  cases hfault : groupFault? kind v with
  | none => exact readGroup_eq_ok_iff.2 ⟨groupFault?_eq_none_iff.1 hfault, rfl⟩
  | some err => exact outcome_readGroup_of_fault hfault

theorem outcome_readKey_eq (kind : GroupKind) (members : List (String × Json)) :
    (readKey compiler kind members).outcome =
      (memberFault? members kind).elim
        (.ok ((elementRules (some (.obj members)) kind).map (.ofRules compiler kind))) .error := by
  have hvalue : groupValue kind (some (.obj members)) = Json.get? kind.key members := rfl
  rw [elementRules, hvalue, memberFault?]
  unfold readKey
  cases Json.get? kind.key members with
  | none => rfl
  | some v =>
    rw [Option.bind_some, Option.map_some, Option.map_some]
    dsimp only
    rw [TracedReading.outcome_map, outcome_readGroup_eq]
    cases groupFault? kind v <;> rfl

/-! ## Elements -/

theorem isEmpty_ofRules (rules : GroupKind → Option (List String)) :
    (ofRules compiler rules).isEmpty = readingOrder.all fun kind => (rules kind).isNone := by
  simp [isEmpty, ofRules, readingOrder, Bool.and_comm, Bool.and_assoc]

theorem findSome?_readingOrder {α : Type} (f : GroupKind → Option α) :
    readingOrder.findSome? f = (f .allOf).or ((f .noneOf).or (f .anyOf)) := by
  simp only [readingOrder, List.findSome?_cons, List.findSome?_nil]
  cases f .allOf <;> cases f .noneOf <;> cases f .anyOf <;> rfl

/-- A condition of an object with good groups fails only if there are none. -/
theorem outcome_unlessEmpty (members : List (String × Json)) :
    (if (ofRules compiler (elementRules (some (.obj members)))).isEmpty then
        throw .noRecognizedKeys
      else pure (ofRules compiler (elementRules (some (.obj members)))) :
        TracedReading ConditionError (Conditions σ)).outcome =
      (if readingOrder.all fun kind => (Json.get? kind.key members).isNone then
          some ConditionError.noRecognizedKeys else none).elim
        (.ok (ofRules compiler (elementRules (some (.obj members))))) .error := by
  have habsent : ∀ kind, (elementRules (some (.obj members)) kind).isNone =
      (Json.get? kind.key members).isNone := fun kind => Option.isNone_map
  simp only [isEmpty_ofRules, habsent]
  split <;> rfl

/-- The groups of an object are read in order, up to the first that is bad. -/
theorem outcome_ofElement_obj (members : List (String × Json)) :
    (ofElement compiler (some (.obj members))).outcome =
      (fault? (some (.obj members))).elim
        (.ok (ofRules compiler (elementRules (some (.obj members))))) .error := by
  unfold ofElement fault?
  simp only [TracedReading.outcome_bind, outcome_readKey_eq, findSome?_readingOrder]
  cases memberFault? members .allOf with
  | some err => rfl
  | none =>
    cases memberFault? members .noneOf with
    | some err => rfl
    | none =>
      cases memberFault? members .anyOf with
      | some err => rfl
      | none => exact outcome_unlessEmpty members

/-- **What an element is read as, or what is wrong with it**, for every compiler. -/
theorem outcome_ofElement (compiler : RuleCompiler σ) (e : Option Json) :
    (ofElement compiler e).outcome =
      (fault? e).elim (.ok (ofRules compiler (elementRules e))) .error := by
  cases e with
  | none => rfl
  | some v =>
    cases v with
    | obj members => exact outcome_ofElement_obj members
    | str rule => rfl
    | arr items =>
      have hread : (ofElement compiler (some (.arr items))).outcome =
          (readGroup compiler .anyOf (.arr items)).outcome >>= fun g => .ok ⟨some g, none, none⟩ :=
        TracedReading.outcome_bind _ _
      have hfault : fault? (some (.arr items)) = groupFault? .anyOf (.arr items) := rfl
      rw [hread, outcome_readGroup_eq, hfault]
      cases groupFault? .anyOf (.arr items) <;> rfl
    | _ => rfl

/-- Nothing is wrong with an element that has a group and whose groups all hold rules. -/
theorem fault?_eq_none_iff {e : Json} :
    fault? (some e) = none ↔ (∃ kind, (groupValue kind (some e)).isSome) ∧
      ∀ kind v, groupValue kind (some e) = some v → v.HoldsRules := by
  -- Any compiler tells, as reading fails with the fault under each.
  obtain ⟨compiler⟩ : Nonempty (RuleCompiler Unit) := ⟨fun _ => pure Predicate.never⟩
  have hread := outcome_ofElement compiler (some e)
  constructor
  · intro h
    rw [h] at hread
    obtain ⟨hsome, hrules, -⟩ := outcome_eq_ok_iff.1 hread
    exact ⟨hsome, hrules⟩
  · rintro ⟨hsome, hrules⟩
    rw [outcome_eq_ok_iff.2 ⟨hsome, hrules, rfl⟩] at hread
    cases hfault : fault? (some e) with
    | none => rfl
    | some err =>
      rw [hfault] at hread
      cases hread

end GameTips.Conditions
