import GameTips.Catalog.Basic
import GameTips.Proofs.Trace

/-!
# The tips that can be shown

`Catalog.displayable` keeps exactly the tips of the catalog that pass the display decision, and
`Catalog.randomTip` gives one of them, whatever the way to choose, or none where there are none. To
find them, each tip is decided about once (`Catalog.displayable_eq_filterM`).
-/

namespace GameTips.Catalog

theorem value_displayableOf (ctx : DisplayContext) (ts : List Tip) :
    (displayableOf ctx ts).value = ts.filter fun t => (t.canDisplay ctx).value := by
  induction ts with
  | nil => rfl
  | cons t rest ih =>
    rw [displayableOf, Traced.value_bind, Traced.value_bind, ih, Traced.value_pure,
      List.filter_cons]

theorem value_displayable (c : Catalog) (ctx : DisplayContext) :
    (c.displayable ctx).value = c.toList.filter fun t => (t.canDisplay ctx).value :=
  value_displayableOf ctx c.toList

theorem mem_displayable {c : Catalog} {ctx : DisplayContext} {t : Tip} :
    t ∈ (c.displayable ctx).value ↔ t ∈ c.toList ∧ (t.canDisplay ctx).value = true := by
  rw [value_displayable, List.mem_filter]

theorem displayable_eq_filterM (c : Catalog) (ctx : DisplayContext) :
    c.displayable ctx = c.toList.filterM fun t => t.canDisplay ctx := by
  unfold displayable
  induction c.toList with
  | nil => rfl
  | cons t rest ih => rw [List.filterM_cons, displayableOf, ih]

variable {ρ : Type} {c : Catalog} {ctx : DisplayContext} {chooser : Chooser ρ Tip} {s : ρ}

theorem mem_of_randomTip {t : Tip} (h : (c.randomTip ctx chooser s).value.1 = some t) :
    t ∈ c.toList ∧ (t.canDisplay ctx).value = true :=
  mem_displayable.1 (chooser.mem_of_choose h)

theorem isSome_randomTip_iff :
    (c.randomTip ctx chooser s).value.1.isSome ↔
      ∃ t ∈ c.toList, (t.canDisplay ctx).value = true := by
  constructor
  · intro h
    obtain ⟨t, ht⟩ := Option.isSome_iff_exists.1 h
    exact ⟨t, mem_of_randomTip ht⟩
  · rintro ⟨t, ht⟩
    exact chooser.isSome_choose s (List.ne_nil_of_mem (mem_displayable.2 ht))

end GameTips.Catalog
