import GameTips.Player
import GameTips.Rule.Basic
import GameTips.Rule.Form

/-!
# Rules on registry entries and identifiers

Three compilers for the forms of `RuleForm`: on registry entries, where all four forms make sense; on
identifiers, which carry no tags; and on sets of identifiers, where one member has to match.
-/

namespace GameTips

/-- The predicate of a pattern rule on what can be seen of an identifier. -/
def compilePattern {σ : Type} (idOf : σ → Option Identifier) (rule text : String) :
    Traced (Predicate σ) :=
  match Pattern.ofRule? text with
  | some p => pure (Predicate.ofTest fun x => (idOf x).any p.accepts)
  | none => Predicate.degraded .invalidPattern rule

/-- Compile a rule on registry entries. An unbound entry matches by its tags only. -/
def compileRegistryRule : RuleCompiler RegistryEntry := fun rule =>
  match RuleForm.read? rule with
  | some (.exactly target) => pure (Predicate.ofTest fun entry => entry.id == some target)
  | some (.inNamespace ns) =>
    pure (Predicate.ofTest fun entry => entry.id.any fun id => sameIgnoringCase id.ns ns)
  | some (.tagged tag) => pure fun entry => entry.isIn tag
  | some (.matching text) => compilePattern RegistryEntry.id rule text
  | none => Predicate.degraded .noRegistryForm rule

def compileIdentifierRule : RuleCompiler Identifier := fun rule =>
  match RuleForm.read? rule with
  | some (.exactly target) => pure (Predicate.ofTest fun id => id == target)
  | some (.inNamespace ns) => pure (Predicate.ofTest fun id => sameIgnoringCase id.ns ns)
  | some (.matching text) => compilePattern some rule text
  | some (.tagged _) | none => Predicate.degraded .noIdentifierForm rule

/-- Compile a rule on sets of identifiers: some member has to match it. -/
def compileMemberRule : RuleCompiler (List Identifier) := fun rule => do
  let single ← compileIdentifierRule rule
  pure fun ids => ids.anyM single

end GameTips
