import GameTips.Rule.Basic
import GameTips.Screen

/-!
# Rules on screens

A rule on screens is the sentinel for all screens that the host draws tips on, an identifier of an
engine screen, a qualified name (it has a point), or a simple name. Case is ignored in the sentinel
and in qualified names.
-/

namespace GameTips

/-- The rule for every screen that the host draws tips on. -/
def builtInScreens : String := "tipsmod:built-in"

/-- The namespace of the screens that identifiers can name. -/
def engineNamespace : String := "minecraft"

/-- Compile a rule on screens. The host is asked for the type of an engine screen at once, and about
drawing on a screen at each test. -/
def compileScreenRule (host : ScreenHost) : RuleCompiler Screen := fun rule =>
  if sameIgnoringCase rule builtInScreens then pure fun screen => host.canRenderOn screen
  else
    match Identifier.parse rule with
    | .ok id =>
      if sameIgnoringCase id.ns engineNamespace then do
        match ← host.screenType id with
        | some name => pure (Predicate.ofTest fun screen => screen.qualifiedName == name)
        | none => Predicate.degraded .unknownScreen rule
      else Predicate.degraded .foreignScreen rule
    | .error _ =>
      if rule.toList.contains '.' then
        pure (Predicate.ofTest fun screen => sameIgnoringCase screen.qualifiedName rule)
      else pure (Predicate.ofTest fun screen => screen.simpleName == rule)

end GameTips
