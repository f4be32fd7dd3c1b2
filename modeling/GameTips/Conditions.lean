import GameTips.Json.Basic
import GameTips.Rule.Group

/-!
# Conditions

A condition on a value joins up to three groups of rules, all of which have to pass; without groups
it holds of every value. In JSON it is a string, an array of strings, both short for a group of any,
or an object with the groups under their keys.

* `Conditions.ofElement` reads the JSON form and compiles the rules;
* `Conditions.test` tests a value;
* `Conditions.toJson?` writes the JSON form, the short one where a group of any stands alone.
-/

namespace GameTips

/-- Why a JSON value is no condition. -/
inductive ConditionError where
  /-- A value of a shape that holds no rules. -/
  | malformedShape (found : Json.Shape)
  /-- An object with none of the keys of groups. -/
  | noRecognizedKeys
  | emptyGroup (kind : GroupKind)
  | nonStringRule (kind : GroupKind) (index : Nat)
deriving DecidableEq, Repr

/-- The text shown for an error in a condition. -/
def ConditionError.message : ConditionError → String
  | .malformedShape found =>
    "condition must be a string, string array, or object with 'any_of', 'all_of', or 'none_of'; found "
      ++ found.name
  | .noRecognizedKeys => "condition object has none of 'any_of', 'all_of', or 'none_of'"
  | .emptyGroup kind => "condition group '" ++ kind.key ++ "' has no rules"
  | .nonStringRule kind index =>
    "condition group '" ++ kind.key ++ "' has a non-string rule at index " ++ toString index

/-- Up to one group of each kind. -/
structure Conditions (σ : Type) where
  anyOf : Option (RuleGroup σ)
  allOf : Option (RuleGroup σ)
  noneOf : Option (RuleGroup σ)

/-- A reading that leaves a trace and may fail; what was traced before a failure stays. -/
abbrev TracedReading (ε α : Type) := ExceptT ε Traced α

namespace Conditions

variable {σ : Type}

/-- The condition that always holds. -/
def unconstrained : Conditions σ := ⟨none, none, none⟩

def isEmpty (c : Conditions σ) : Bool :=
  c.anyOf.isNone && c.allOf.isNone && c.noneOf.isNone

def group (c : Conditions σ) : GroupKind → Option (RuleGroup σ)
  | .anyOf => c.anyOf
  | .allOf => c.allOf
  | .noneOf => c.noneOf

def entries (c : Conditions σ) (kind : GroupKind) : List String :=
  match c.group kind with
  | some g => g.entries
  | none => []

/-! ## Reading -/

/-- The strings of an array, the first of which has a given index. -/
def stringItems (kind : GroupKind) (index : Nat) : List Json → Except ConditionError (List String)
  | [] => .ok []
  | .str rule :: rest => do
    let rules ← stringItems kind (index + 1) rest
    .ok (rule :: rules)
  | _ :: _ => .error (.nonStringRule kind index)

/-- The rules of a group: a single string or an array of strings. -/
def ruleStrings (kind : GroupKind) : Json → Except ConditionError (List String)
  | .str rule => .ok [rule]
  | .arr items => stringItems kind 0 items
  | v => .error (.malformedShape v.shape)

/-- Read a group. Rules are compiled only once all of them have been found to be strings. -/
def readGroup (compiler : RuleCompiler σ) (kind : GroupKind) (v : Json) :
    TracedReading ConditionError (RuleGroup σ) := do
  let rules ← ExceptT.mk (pure (ruleStrings kind v))
  match ← ExceptT.lift (RuleGroup.compile compiler kind rules) with
  | some g => pure g
  | none => throw (.emptyGroup kind)

/-- Read the group under the key of a kind, if there is one. -/
def readKey (compiler : RuleCompiler σ) (kind : GroupKind) (members : List (String × Json)) :
    TracedReading ConditionError (Option (RuleGroup σ)) :=
  match Json.get? kind.key members with
  | none => pure none
  | some v => some <$> readGroup compiler kind v

/-- Read a condition. A missing one holds of every value. The groups of an object are read in a fixed
order, and other keys do not count. -/
def ofElement (compiler : RuleCompiler σ) :
    Option Json → TracedReading ConditionError (Conditions σ)
  | none => pure unconstrained
  | some (.obj members) => do
    let allOf ← readKey compiler .allOf members
    let noneOf ← readKey compiler .noneOf members
    let anyOf ← readKey compiler .anyOf members
    let c : Conditions σ := ⟨anyOf, allOf, noneOf⟩
    if c.isEmpty then throw .noRecognizedKeys else pure c
  | some (.str rule) => do
    let g ← readGroup compiler .anyOf (.str rule)
    pure ⟨some g, none, none⟩
  | some (.arr items) => do
    let g ← readGroup compiler .anyOf (.arr items)
    pure ⟨some g, none, none⟩
  | some v => throw (.malformedShape v.shape)

/-! ## Testing -/

/-- Test a value against a group that may be missing. -/
def passes (g : Option (RuleGroup σ)) (x : σ) : Traced Bool :=
  match g with
  | none => pure true
  | some g => g.test x

/-- Test a value against all groups, until one does not pass. -/
def test (c : Conditions σ) (x : σ) : Traced Bool := do
  if ← passes c.anyOf x then
    if ← passes c.allOf x then passes c.noneOf x else pure false
  else pure false

/-! ## Writing -/

/-- The member of an object for a group. -/
def groupMember (g : RuleGroup σ) : String × Json :=
  (g.kind.key, Json.strings g.entries)

/-- The JSON form: a string or an array for a group of any that stands alone, else an object with an
array for each group. A condition without groups has none. -/
def toJson? (c : Conditions σ) : Option Json :=
  match c.anyOf, c.allOf, c.noneOf with
  | none, none, none => none
  | some g, none, none =>
    match g.entries with
    | [rule] => some (.str rule)
    | rules => some (Json.strings rules)
  | anyOf, allOf, noneOf =>
    some (Json.ofMembers ((anyOf.toList ++ allOf.toList ++ noneOf.toList).map groupMember))

/-- A description of a group that may be missing. -/
def describeGroup : Option (RuleGroup σ) → String
  | none => "None"
  | some g => "Some(" ++ g.describe ++ ")"

/-- A description of the condition, without its predicates. -/
def describe (c : Conditions σ) : String :=
  "ConditionRules \x7b any_of: " ++ describeGroup c.anyOf ++ ", all_of: " ++ describeGroup c.allOf ++
    ", none_of: " ++ describeGroup c.noneOf ++ " \x7d"

end Conditions
end GameTips
