import GameTips.Proofs.Conditions.Questions
import GameTips.Proofs.Tip.Display

/-!
# Milestones and progress

A rule on sets of identifiers that matches a set matches every set that contains it
(`matchesRule_member_mono`). Groups of any and of all hold the more the more rules match, and a group
of none the less, so a condition without the latter passes from a set to those that contain it
(`value_test_mono`), and one with nothing else the other way (`value_test_anti`).

Nothing else about a tip depends on the milestones. So completing one hides no tip whose condition on
them has no group of none (`progress_monotone`).
-/

namespace GameTips

namespace Conditions

/-! ## More rules that match -/

section Mono

variable {m m' : String → Bool} (hm : ∀ rule, m rule = true → m' rule = true) {rules : List String}
include hm

theorem joins_mono {kind : GroupKind} (hkind : kind ≠ .noneOf) (h : joins kind m rules = true) :
    joins kind m' rules = true := by
  cases kind with
  | anyOf =>
    obtain ⟨rule, hrule, hmatch⟩ := List.any_eq_true.1 h
    exact List.any_eq_true.2 ⟨rule, hrule, hm rule hmatch⟩
  | allOf => exact List.all_eq_true.2 fun rule hrule => hm rule (List.all_eq_true.1 h rule hrule)
  | noneOf => exact absurd rfl hkind

theorem joins_noneOf_anti (h : joins .noneOf m' rules = true) :
    joins .noneOf m rules = true := by
  rw [joins, Bool.not_eq_true', List.any_eq_false] at h ⊢
  exact fun rule hrule hmatch => h rule hrule (hm rule hmatch)

end Mono

section Test

variable {σ : Type} {compiler : RuleCompiler σ} {e : Option Json} {c : Conditions σ} {x y : σ}
  (h : (ofElement compiler e).outcome = .ok c)
include h

/-- A condition passes from a value to another one if each of its groups does. -/
theorem value_test_of_joins
    (hjoins : ∀ kind, (groupValue kind e).isSome → ∀ rules,
      joins kind (matchesRule compiler x) rules = true →
      joins kind (matchesRule compiler y) rules = true)
    (hx : (c.test x).value = true) : (c.test y).value = true := by
  rw [value_test_eq_all h, List.all_eq_true] at hx ⊢
  intro kind hkind
  have hholds := hx kind hkind
  unfold groupHolds elementRules at hholds ⊢
  cases hv : groupValue kind e with
  | none => rfl
  | some v =>
    rw [hv] at hholds
    exact hjoins kind (Option.isSome_of_eq_some hv) _ hholds

variable (hrules : ∀ rule, matchesRule compiler x rule = true → matchesRule compiler y rule = true)
include hrules

/-- Without a group of none a condition that holds of a value holds of one that more rules match. -/
theorem value_test_mono (hnone : groupValue .noneOf e = none) (hx : (c.test x).value = true) :
    (c.test y).value = true := by
  refine value_test_of_joins h (fun kind hgiven rules => joins_mono hrules ?_) hx
  rintro rfl
  exact Option.isSome_iff_ne_none.1 hgiven hnone

/-- With nothing but a group of none it holds of one that fewer rules match. -/
theorem value_test_anti (hany : groupValue .anyOf e = none) (hall : groupValue .allOf e = none)
    (hy : (c.test y).value = true) : (c.test x).value = true := by
  refine value_test_of_joins h (fun kind hgiven rules => ?_) hy
  cases kind with
  | anyOf => exact absurd hany (Option.isSome_iff_ne_none.1 hgiven)
  | allOf => exact absurd hall (Option.isSome_iff_ne_none.1 hgiven)
  | noneOf => exact joins_noneOf_anti hrules

end Test

/-- A member that a rule matches is also one of every set that contains the set. -/
theorem matchesRule_member_mono {ids ids' : List Identifier} (h : ids ⊆ ids') (rule : String)
    (hmatch : matchesRule compileMemberRule ids rule = true) :
    matchesRule compileMemberRule ids' rule = true := by
  rw [matchesRule_member, List.any_eq_true] at hmatch ⊢
  obtain ⟨id, hid, hmatch⟩ := hmatch
  exact ⟨id, h hid, hmatch⟩

end Conditions

/-! ## A player who gets ahead -/

/-- The player is where they were, and has completed what they had, and maybe more. -/
structure Player.Ahead (p p' : Player) : Prop where
  biome : p'.biome = p.biome
  dimension : p'.dimension = p.dimension
  completed : p.completed ⊆ p'.completed

/-- Two contexts that differ at most in the milestones that the player has completed, of which the
second has those of the first. -/
structure DisplayContext.Ahead (ctx ctx' : DisplayContext) : Prop where
  screen : ctx'.screen = ctx.screen
  host : ctx'.host = ctx.host
  player : Option.Rel Player.Ahead ctx.player ctx'.player

theorem Tip.allowsScreen_congr (t : Tip) {ctx ctx' : DisplayContext}
    (hscreen : ctx'.screen = ctx.screen) (hhost : ctx'.host = ctx.host) :
    t.allowsScreen ctx' = t.allowsScreen ctx := by
  unfold allowsScreen
  rw [hscreen, hhost]

/-- A tip is shown to a player who is ahead if its condition on milestones still holds. -/
theorem Tip.canDisplay_of_ahead {t : Tip} {ctx ctx' : DisplayContext} (hahead : ctx.Ahead ctx')
    (hmilestones : ∀ {ids ids'}, ids ⊆ ids' → (t.conditions.milestones.test ids).value = true →
      (t.conditions.milestones.test ids').value = true)
    (h : (t.canDisplay ctx).value = true) : (t.canDisplay ctx').value = true := by
  rw [value_canDisplay] at h ⊢
  obtain ⟨hscreen, p, hp, hbiome, hdimension, hcompleted⟩ := h
  obtain ⟨hscreen', hhost', hplayer⟩ := hahead
  rw [t.allowsScreen_congr hscreen' hhost']
  rw [hp] at hplayer
  generalize ctx'.player = player' at hplayer ⊢
  cases hplayer with
  | some hplayer =>
    rw [← hplayer.biome] at hbiome
    rw [← hplayer.dimension] at hdimension
    refine ⟨hscreen, _, rfl, hbiome, hdimension, ?_⟩
    unfold allowsFact at hcompleted ⊢
    rw [Bool.or_eq_true] at hcompleted ⊢
    exact hcompleted.imp_right (hmilestones hplayer.completed)

namespace Conditions

/-- **Completing milestones never hides a tip** whose condition on them has no group of none. Whatever
its rules say, a condition without such a group holds of every set that contains one it holds of, and
a condition with nothing else of every set that one it holds of contains; the order and repetition of
members do not matter. So a tip with a condition of the first kind, be it read or put together, is
shown to every player who is ahead of one it is shown to. -/
theorem progress_monotone {e : Option Json} {c : Conditions (List Identifier)}
    (h : (ofElement compileMemberRule e).outcome = .ok c) :
    (groupValue .noneOf e = none → ∀ ids ids', ids ⊆ ids' →
      (c.test ids).value = true → (c.test ids').value = true) ∧
    (groupValue .anyOf e = none → groupValue .allOf e = none → ∀ ids ids', ids ⊆ ids' →
      (c.test ids').value = true → (c.test ids).value = true) ∧
    ∀ t : Tip, t.conditions.milestones = c → c.group .noneOf = none → ∀ ctx ctx', ctx.Ahead ctx' →
      (t.canDisplay ctx).value = true → (t.canDisplay ctx').value = true := by
  have hmono : groupValue .noneOf e = none → ∀ ids ids', ids ⊆ ids' →
      (c.test ids).value = true → (c.test ids').value = true :=
    fun hnone ids ids' hsub => value_test_mono h (matchesRule_member_mono hsub) hnone
  refine ⟨hmono, fun hany hall ids ids' hsub =>
    value_test_anti h (matchesRule_member_mono hsub) hany hall, ?_⟩
  rintro t rfl hnone ctx ctx' hahead
  have hvalue : groupValue .noneOf e = none := by
    rw [(group_of_outcome_eq_ok h .noneOf).2, Option.map_eq_none_iff] at hnone
    exact hnone
  exact Tip.canDisplay_of_ahead hahead (hmono hvalue _ _)

/-- A milestone, and some milestone of a namespace. -/
def sampleAims : Json :=
  .obj [("all_of", .arr [.str "land:pond", .str "sea"])]

/-- A tip with a condition on milestones only. -/
def sampleTip (c : Conditions (List Identifier)) : Tip :=
  ⟨sampleTag "aims" (by decide), .literal "Aims", .literal "Go and see.", none,
    { TipConditions.unconstrained with milestones := c }⟩

/-- A context with a player who has completed milestones. -/
def sampleContext (completed : List Identifier) : DisplayContext where
  screen := .named "Menu"
  host := ⟨"host", fun _ => true, fun _ => none⟩
  player := some ⟨sampleEntry, sampleEntry, completed⟩

/-- The first milestones that meet the two rules. -/
def sampleMilestones : List Identifier :=
  [sampleTag "pond" (by decide), ⟨"sea", "bay", by decide, by decide⟩]

/-- Two milestones meet the rules, and the tip is still shown when another one is completed. -/
theorem progress_sampleAims :
    ∃ c, (ofElement compileMemberRule (some sampleAims)).outcome = .ok c ∧
      (c.test []).value = false ∧
      ((sampleTip c).canDisplay (sampleContext sampleMilestones)).value = true ∧
      ((sampleTip c).canDisplay
        (sampleContext (sampleTag "moor" (by decide) :: sampleMilestones))).value = true := by
  obtain ⟨c, hread⟩ : ∃ c, (ofElement compileMemberRule (some sampleAims)).outcome = .ok c :=
    ⟨_, rfl⟩
  have hnone : (c.test []).value = false := by
    rw [value_test_eq_meaning hread]
    decide +kernel
  have hmet : (c.test sampleMilestones).value = true := by
    rw [value_test_eq_meaning hread]
    decide +kernel
  have hshown : ((sampleTip c).canDisplay (sampleContext sampleMilestones)).value = true := by
    refine (Tip.value_canDisplay _ _).2 ⟨rfl, _, rfl, rfl, rfl, ?_⟩
    exact Bool.or_eq_true_iff.2 (.inr hmet)
  have hgroup : c.group .noneOf = none := (group_of_outcome_eq_ok hread .noneOf).2
  have hahead : (sampleContext sampleMilestones).Ahead
      (sampleContext (sampleTag "moor" (by decide) :: sampleMilestones)) :=
    ⟨rfl, rfl, .some ⟨rfl, rfl, List.subset_cons_self _ _⟩⟩
  exact ⟨c, hread, hnone, hshown,
    (progress_monotone hread).2.2 (sampleTip c) rfl hgroup _ _ hahead hshown⟩

end Conditions
end GameTips
