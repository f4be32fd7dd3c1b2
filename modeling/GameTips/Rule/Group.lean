import GameTips.Rule.Basic
import GameTips.Text.Quoted

/-!
# Groups of rules

A group joins the predicates of several rules: any of them, all of them, or none of them. It keeps
the rule texts, each once, in the order in which they were first given.
-/

namespace GameTips

/-- How the rules of a group are joined. -/
inductive GroupKind where
  | anyOf
  | allOf
  | noneOf
deriving DecidableEq, Repr

namespace GroupKind

def key : GroupKind → String
  | .anyOf => "any_of"
  | .allOf => "all_of"
  | .noneOf => "none_of"

def name : GroupKind → String
  | .anyOf => "AnyOf"
  | .allOf => "AllOf"
  | .noneOf => "NoneOf"

end GroupKind

/-- Rules of one kind with their predicates, position by position. -/
structure RuleGroup (σ : Type) where
  kind : GroupKind
  entries : List String
  predicates : List (Predicate σ)

namespace RuleGroup

variable {σ : Type}

/-- Compile a group, each rule once. A group without rules is none. -/
def compile (compiler : RuleCompiler σ) (kind : GroupKind) (rules : List String) :
    Traced (Option (RuleGroup σ)) :=
  let entries := rules.eraseDups
  if entries.isEmpty then pure none
  else do
    let predicates ← entries.mapM compiler
    pure (some ⟨kind, entries, predicates⟩)

/-- Test a value. The predicates are asked in order, until the answer is known. -/
def test (g : RuleGroup σ) (x : σ) : Traced Bool :=
  match g.kind with
  | .anyOf => g.predicates.anyM fun p => p x
  | .allOf => g.predicates.allM fun p => p x
  | .noneOf => do
    let found ← g.predicates.anyM fun p => p x
    pure !found

def listText : List String → String
  | [] => ""
  | [s] => Text.quoted s
  | s :: rest => Text.quoted s ++ ", " ++ listText rest

/-- A description of the group, without its predicates. -/
def describe (g : RuleGroup σ) : String :=
  "RuleGroup \x7b kind: " ++ g.kind.name ++ ", entries: [" ++ listText g.entries ++ "] \x7d"

end RuleGroup
end GameTips
