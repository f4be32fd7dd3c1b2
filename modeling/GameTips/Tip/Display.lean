import GameTips.Tip.Basic

/-!
# The display decision

A tip is shown where four steps pass in turn: the screen, the biome, the dimension and the
milestones. The first that fails is noted, and nothing is asked beyond it. A tip without conditions
on screens is shown where the host draws tips, and no tip is shown without a player.
-/

namespace GameTips.Tip

/-- Go on if a step passes, and note why the tip is hidden if not. -/
@[macro_inline]
def require (t : Tip) (reason : HideReason) (passed : Bool) (next : Traced Bool) : Traced Bool :=
  if passed then next
  else do
    Traced.note (.tipHidden reason t.id)
    pure false

def screenPasses (t : Tip) (ctx : DisplayContext) : Traced Bool :=
  if t.conditions.screens.isEmpty then ctx.host.canRenderOn ctx.screen
  else t.conditions.screens.test ctx.screen

/-- Test a condition on something that has to be asked for; where there is no condition, nothing is
asked. -/
def factPasses {σ : Type} (c : Conditions σ) (fact : Traced σ) : Traced Bool :=
  if c.isEmpty then pure true
  else do
    let x ← fact
    c.test x

/-- Decide whether the tip may be shown. -/
def canDisplay (t : Tip) (ctx : DisplayContext) : Traced Bool := do
  let onScreen ← t.screenPasses ctx
  t.require .screen onScreen <|
    match ctx.player with
    | none => t.require .noPlayer false (pure true)
    | some player => do
      let inBiome ← factPasses t.conditions.biomes player.askBiome
      t.require .biome inBiome do
        let inDimension ← factPasses t.conditions.dimensions player.askDimension
        t.require .dimension inDimension do
          let completed ← factPasses t.conditions.milestones player.askMilestones
          t.require .milestones completed (pure true)

end GameTips.Tip
