import GameTips.Proofs.Catalog.Displayable
import GameTips.Proofs.Random

/-!
# A tip at random

The tip that a catalog gives at random is chosen in one walk through the tips that can be shown. As no
tip stands in a catalog twice, the uniform choice of `DrawSequence.card_choose` is one among them,
wherever hidden tips stand in between, and the walk itself decides about each tip of the catalog once
(`Catalog.randomTip_uniform`).
-/

namespace GameTips.Catalog

open scoped Nat

/-- How many tips of the catalog can be shown. -/
def countDisplayable (c : Catalog) (ctx : DisplayContext) : Nat :=
  c.toList.countP fun t => (t.canDisplay ctx).value

theorem length_displayable (c : Catalog) (ctx : DisplayContext) :
    (c.displayable ctx).value.length = c.countDisplayable ctx := by
  rw [value_displayable, countDisplayable, List.countP_eq_length_filter]

theorem nodup_displayable (c : Catalog) (ctx : DisplayContext) :
    (c.displayable ctx).value.Nodup := by
  rw [value_displayable]
  exact c.nodup_ids.of_map.filter _

theorem value_randomTip {ρ : Type} (c : Catalog) (ctx : DisplayContext) (chooser : Chooser ρ Tip)
    (s : ρ) :
    (c.randomTip ctx chooser s).value = chooser.choose (c.displayable ctx).value s := rfl

theorem events_randomTip {ρ : Type} (c : Catalog) (ctx : DisplayContext) (chooser : Chooser ρ Tip)
    (s : ρ) :
    (c.randomTip ctx chooser s).events = c.toList.flatMap fun t => (t.canDisplay ctx).events := by
  unfold randomTip
  rw [Traced.events_bind, Traced.events_pure, List.append_nil, displayable_eq_filterM,
    Traced.events_filterM]

theorem randomTip_eq_none_iff {ρ : Type} {c : Catalog} {ctx : DisplayContext}
    {chooser : Chooser ρ Tip} {s : ρ} :
    (c.randomTip ctx chooser s).value.1 = none ↔ c.countDisplayable ctx = 0 := by
  rw [← Option.not_isSome_iff_eq_none, isSome_randomTip_iff, countDisplayable, List.countP_eq_zero]
  simp

/-- **A tip at random is chosen uniformly** among those that can be shown. With no such tip there is
none, and a hidden one is never given, whatever is drawn. A source draws one number for each tip that
can be shown, and what it gives depends on these numbers only; of the `n!` sequences that may be drawn
for `n` such tips each of them is given by `(n - 1)!`. On the way each tip of the catalog is decided
about once, in order: that is all that shows, and writing down the decisions gives the tips of the
catalog. -/
theorem randomTip_uniform (c : Catalog) (ctx : DisplayContext) :
    (∀ {ρ : Type} (draws : Draws ρ) (s : ρ),
      ((c.randomTip ctx draws s).value.1 = none ↔ c.countDisplayable ctx = 0) ∧
      (∀ t, (c.randomTip ctx draws s).value.1 = some t →
        t ∈ c.toList ∧ (t.canDisplay ctx).value = true) ∧
      (c.randomTip ctx draws s).value.2 = draws.stateAfter s (c.countDisplayable ctx) ∧
      (c.randomTip ctx draws s).value.1 =
        (c.randomTip ctx (draws.sequence s (c.countDisplayable ctx)).source ()).value.1 ∧
      (c.randomTip ctx draws s).events =
        c.toList.flatMap fun t => (t.canDisplay ctx).events) ∧
    Nat.card (DrawSequence (c.countDisplayable ctx)) = (c.countDisplayable ctx)! ∧
    (∀ t ∈ c.toList, (t.canDisplay ctx).value = true →
      Nat.card {d : DrawSequence (c.countDisplayable ctx) //
        (c.randomTip ctx d.source ()).value.1 = some t} = (c.countDisplayable ctx - 1)!) ∧
    (c.toList.filterM (Traced.recorded fun t => t.canDisplay ctx)).run [] =
      (fun shown => (shown, c.toList)) <$> c.displayable ctx := by
  refine ⟨fun draws s => ⟨randomTip_eq_none_iff, fun t => mem_of_randomTip, ?_, ?_,
    c.events_randomTip ctx _ s⟩, DrawSequence.card_drawSequence _, ?_, ?_⟩
  · rw [value_randomTip, ← length_displayable]
    exact draws.snd_choose _ s
  · rw [value_randomTip, value_randomTip, ← length_displayable]
    exact (draws.fst_choose_sequence s _).symm
  · intro t ht hshown
    exact DrawSequence.card_choose (c.nodup_displayable ctx) (c.length_displayable ctx)
      (mem_displayable.2 ⟨ht, hshown⟩)
  · rw [displayable_eq_filterM]
    exact Traced.filterM_recorded _ _ []

end GameTips.Catalog
