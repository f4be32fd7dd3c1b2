import GameTips.Identifier
import GameTips.Pattern.Reader

/-!
# Forms of rules

A rule on registry entries or identifiers is a short text of one of four forms: an identifier, a bare
namespace, a tag after `#`, or a pattern after `~`. No text has two of these forms.
-/

namespace GameTips

/-- The identifier of a tag rule, which follows `#`. -/
def tag? (rule : String) : Option Identifier :=
  match rule.toList with
  | '#' :: rest => (Identifier.parse (String.ofList rest)).toOption
  | _ => none

/-- The text of a pattern rule, which follows `~`. -/
def patternText? (rule : String) : Option String :=
  match rule.toList with
  | '~' :: rest => some (String.ofList rest)
  | _ => none

/-- What a rule asks for. -/
inductive RuleForm where
  /-- One identifier. -/
  | exactly (id : Identifier)
  /-- All identifiers of a namespace. -/
  | inNamespace (ns : String)
  /-- All entries that carry a tag. -/
  | tagged (tag : Identifier)
  /-- All identifiers that a pattern matches as a whole. -/
  | matching (pattern : String)
deriving DecidableEq, Repr

namespace RuleForm

/-- The form of a rule. -/
def read? (rule : String) : Option RuleForm :=
  match Identifier.parse rule with
  | .ok id => some (.exactly id)
  | .error _ =>
    if isNamespace rule then some (.inNamespace rule)
    else
      match tag? rule with
      | some tag => some (.tagged tag)
      | none => (patternText? rule).map .matching

end RuleForm

namespace Pattern

/-- The text of a pattern set between the ends of the text it is to match. -/
def anchored (text : String) : String :=
  "^(?:" ++ text ++ ")$"

/-- The pattern that stands for a pattern rule. -/
def ofRule? (text : String) : Option Pattern :=
  read? (anchored text)

/-- Whether the pattern occurs in the written form of an identifier. -/
def accepts (p : Pattern) (id : Identifier) : Bool :=
  p.occursIn id.toString.toList

end Pattern
end GameTips
