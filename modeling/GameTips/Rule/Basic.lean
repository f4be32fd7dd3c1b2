import GameTips.Trace

/-!
# Rules

A rule is a text. A rule compiler turns it into a predicate, once; a text that makes no sense becomes
a predicate that never holds, and a notice tells of it. Both steps may put questions to
collaborators.
-/

namespace GameTips

/-- A test of a value that leaves a trace. -/
abbrev Predicate (σ : Type) := σ → Traced Bool

/-- A reading of rules as predicates. -/
abbrev RuleCompiler (σ : Type) := String → Traced (Predicate σ)

namespace Predicate

variable {σ : Type}

/-- The predicate that does not hold. -/
def never : Predicate σ := fun _ => pure false

def ofTest (test : σ → Bool) : Predicate σ := fun x => pure (test x)

/-- Give up a rule: a notice tells why, and nothing matches. -/
def degraded (fault : RuleFault) (rule : String) : Traced (Predicate σ) := do
  Traced.note (.ruleDegraded fault rule)
  pure never

end Predicate

/-- Whether two texts are the same up to the case of ASCII letters. -/
def sameIgnoringCase (s t : String) : Bool :=
  s.toList.map Char.toLower == t.toList.map Char.toLower

end GameTips
