import GameTips.Proofs.Rotation.Run
import GameTips.Proofs.Tip.Display

/-!
# New screens

When does a tick without an active tip pick one? By the law of new screens (`OpensOnNewKey`), exactly
if it is the first or its key is not that of the tick just before it. A rotation goes by the key of
another tick: it remembers the key of the last tick that began without an active tip
(`screen_remembered`) and forgets the keys of the ticks since. `opensOnNewKey_iff` says what follows,
and exactly where the law holds.

The law fails for a player who leaves a menu while its tip is on screen, stays away until the tip has
expired, and comes back: `not_opensOnNewKey`.
-/

namespace GameTips.Rotation

variable {κ : Type} [BEq κ]

/-- The last tick that began without an active tip. -/
def LastIdle : List (Frame κ) → Frame κ → Prop :=
  LastTick fun r _ => r.active = none

theorem lastTick_snoc_iff {P : Rotation κ → Frame κ → Prop} {fs : List (Frame κ)} {f g : Frame κ} :
    LastTick P (fs ++ [f]) g ↔ P (after fs) f ∧ g = f ∨ ¬ P (after fs) f ∧ LastTick P fs g := by
  constructor
  · intro h
    generalize hrun : fs ++ [f] = run at h
    cases h with
    | here hp =>
      obtain ⟨rfl, hf⟩ := List.append_inj' hrun rfl
      cases hf
      exact Or.inl ⟨hp, rfl⟩
    | earlier hp hg =>
      obtain ⟨rfl, hf⟩ := List.append_inj' hrun rfl
      cases hf
      exact Or.inr ⟨hp, hg⟩
  · rintro (⟨hp, rfl⟩ | ⟨hp, hg⟩)
    · exact .here hp
    · exact .earlier hp hg

theorem LastTick.ne_nil {P : Rotation κ → Frame κ → Prop} {fs : List (Frame κ)} {g : Frame κ}
    (h : LastTick P fs g) : fs ≠ [] := by
  cases h <;> simp

theorem LastTick.unique {P : Rotation κ → Frame κ → Prop} {fs : List (Frame κ)} {g g' : Frame κ}
    (h : LastTick P fs g) (h' : LastTick P fs g') : g = g' := by
  induction h with
  | here hp =>
    rcases lastTick_snoc_iff.1 h' with ⟨-, rfl⟩ | ⟨hn, -⟩
    · rfl
    · exact absurd hp hn
  | earlier hn _ ih =>
    rcases lastTick_snoc_iff.1 h' with ⟨hp, -⟩ | ⟨-, hg⟩
    · exact absurd hp hn
    · exact ih hg

theorem LastTick.forall_iff {P : Rotation κ → Frame κ → Prop} {Q : Frame κ → Prop}
    {fs : List (Frame κ)} {g : Frame κ} (h : LastTick P fs g) :
    (∀ g', LastTick P fs g' → Q g') ↔ Q g := by
  constructor
  · intro hall
    exact hall g h
  · intro hg g' h'
    obtain rfl := h.unique h'
    exact hg

section Keys

variable [PartialEquivBEq κ]

/-- A rotation remembers the key of the last tick that began without an active tip, or another key
that equals the same keys. -/
theorem screen_remembered (fs : List (Frame κ)) (hne : fs ≠ []) :
    ∃ g k, LastIdle fs g ∧ (after fs).lastScreen = some k ∧ ∀ x, (k == x) = (g.screen == x) := by
  induction fs using List.reverseRecOn with
  | nil => exact absurd rfl hne
  | append_singleton fs f ih =>
    rw [after_snoc, step_eq]
    cases hact : (after fs).active with
    | none =>
      refine ⟨f, ?_⟩
      by_cases hp : (after fs).picks f = true
      · rw [if_pos hp]
        exact ⟨f.screen, .here hact, by simp [settle, hact], fun _ => rfl⟩
      · rw [if_neg hp]
        -- Nothing is picked only where the key of the tick equals the remembered one.
        rw [picks_iff_of_idle f hact] at hp
        push Not at hp
        obtain ⟨k, hkey, hne⟩ := hp
        exact ⟨k, .here hact, hkey, fun x => BEq.congr_left (by simpa using hne)⟩
    | some a =>
      have hrun : fs ≠ [] := by
        rintro rfl
        cases hact
      obtain ⟨g, k, hg, hkey, heq⟩ := ih hrun
      refine ⟨g, k, .earlier (by simp [hact]) hg, ?_, heq⟩
      split
      · simpa [settle, hact] using hkey
      · exact hkey

/-- The law of new screens at a tick: it picks exactly if it is the first one or its key is not that
of the tick just before it. -/
def OpensOnNewKey (fs : List (Frame κ)) (f : Frame κ) : Prop :=
  (after fs).picks f = true ↔ ∀ p, fs.getLast? = some p → (p.screen == f.screen) = false

theorem picks_iff_lastIdle {fs : List (Frame κ)} (f : Frame κ) (h : (after fs).active = none) :
    (after fs).picks f = true ↔ ∀ g, LastIdle fs g → (g.screen == f.screen) = false := by
  rw [picks_iff_of_idle f h]
  by_cases hrun : fs = []
  · subst hrun
    constructor
    · intro _ g hg
      exact absurd rfl hg.ne_nil
    · intro _ k hk
      cases hk
  · obtain ⟨g, k, hg, hkey, heq⟩ := screen_remembered fs hrun
    rw [LastIdle, LastTick.forall_iff hg, hkey, ← heq]
    constructor
    · intro hall
      exact hall k rfl
    · rintro hk k' ⟨⟩
      exact hk

/-- At a tick without an active tip the law holds exactly if the tick just before it and the last one
that began so differ from it in the key alike. -/
theorem opensOnNewKey_iff_same {fs : List (Frame κ)} (f : Frame κ) (h : (after fs).active = none) :
    OpensOnNewKey fs f ↔
      ∀ p g, fs.getLast? = some p → LastIdle fs g →
        (p.screen == f.screen) = (g.screen == f.screen) := by
  unfold OpensOnNewKey
  rw [picks_iff_lastIdle f h]
  by_cases hrun : fs = []
  · subst hrun
    constructor
    · intro _ p _ hlast
      cases hlast
    · intro _
      exact ⟨fun _ _ hlast => (by cases hlast), fun _ g hg => absurd rfl hg.ne_nil⟩
  · obtain ⟨g, -, hg, -⟩ := screen_remembered fs hrun
    have hlast : fs.getLast? = some (fs.getLast hrun) := List.getLast?_eq_some_getLast hrun
    rw [LastIdle, LastTick.forall_iff hg, hlast]
    constructor
    · rintro hlaw p g' ⟨⟩ hg'
      obtain rfl := hg.unique hg'
      exact Bool.eq_iff_iff.2 (by simpa using not_congr hlaw.symm)
    · intro hsame
      rw [← hsame _ g rfl hg]
      constructor
      · rintro hp p ⟨⟩
        exact hp
      · intro hall
        exact hall _ rfl

omit [PartialEquivBEq κ] in
/-- A tick without an active tip that does not pick does nothing at all. -/
theorem advance_of_idle {r : Rotation κ} {f : Frame κ} (h : r.active = none)
    (hp : r.picks f = false) : r.advance f = pure (none, r, f.source) := by
  have hshown : r.shown f.catalog f.ctx = pure none := by
    unfold shown current
    rw [h]
    rfl
  rw [advance_eq, if_neg (by rw [hp]; exact Bool.false_ne_true), advanceKeeping, hshown, pure_bind]

omit [PartialEquivBEq κ] in
theorem isSome_current_of_picks {r : Rotation κ} {f : Frame κ} (h : r.picks f = true) :
    (r.step f).current.isSome ↔ ∃ t, f.Displays t := by
  rw [step_eq, if_pos h, current, Option.isSome_map]
  exact Frame.isSome_pick_iff

/-- **Where the law of new screens holds.** A tick without an active tip picks unless its key is that
of the last tick that began so; if it picks, a tip is active afterwards whenever one can be shown,
and if not, nothing happens. So the law holds exactly where the keys of that tick and of the tick
just before compare in the same way with the new one. -/
theorem opensOnNewKey_iff (fs : List (Frame κ)) (f : Frame κ) (hidle : (after fs).active = none) :
    ((after fs).picks f = true ↔ ∀ g, LastIdle fs g → (g.screen == f.screen) = false) ∧
    ((after fs).picks f = true →
      (after fs).advance f = (after fs).advancePicking f ∧
        ((after (fs ++ [f])).current.isSome ↔ ∃ t, f.Displays t)) ∧
    ((after fs).picks f = false → (after fs).advance f = pure (none, after fs, f.source)) ∧
    (OpensOnNewKey fs f ↔
      ∀ p g, fs.getLast? = some p → LastIdle fs g →
        (p.screen == f.screen) = (g.screen == f.screen)) := by
  refine ⟨picks_iff_lastIdle f hidle, ?_, advance_of_idle hidle, opensOnNewKey_iff_same f hidle⟩
  intro hp
  rw [advance_eq, if_pos hp, after_snoc]
  exact ⟨rfl, isSome_current_of_picks hp⟩

end Keys

/-! ## A menu that is opened again -/

section Reopening

def plainTip : Tip :=
  .plain ⟨"tips", "menu", by decide, by decide⟩ (.literal "Menus") (.literal "This is a menu.")

/-- A tick on a screen of a host that draws tips on its menu only. The key of the screen is its
name. -/
def frameOn (name : String) (millis : Nat) : Frame String where
  ρ := Unit
  chooser := Draws.chooser ⟨fun k s => (Fin.last k, s)⟩
  source := ()
  catalog := Catalog.empty.put plainTip
  config := .default
  ctx := ⟨.named name, ⟨"host", fun s => s.qualifiedName == "Menu", fun _ => none⟩,
    some ⟨⟨none, fun _ => false⟩, ⟨none, fun _ => false⟩, []⟩⟩
  screen := name
  now := .ofMillis millis

/-- The tip is picked on the menu, and its time of five seconds runs out on the map. -/
def awayFromMenu : List (Frame String) :=
  [frameOn "Menu" 0, frameOn "Map" 500, frameOn "Map" 6000]

variable {name : String} {millis : Nat}

theorem displays_frameOn {t : Tip} :
    (frameOn name millis).Displays t ↔ t = plainTip ∧ name = "Menu" := by
  have htips : (frameOn name millis).catalog.toList = [plainTip] := by
    show (Catalog.empty.put plainTip).toList = _
    rw [Catalog.toList_put_of_not_mem (by simp [Catalog.ids, Catalog.toList, Catalog.empty])]
    rfl
  unfold Frame.Displays
  rw [htips, List.mem_singleton]
  constructor
  · rintro ⟨rfl, h⟩
    obtain ⟨hscreen, -⟩ := (plainTip.value_canDisplay _).1 h
    have hname : (name == "Menu") = true := hscreen
    exact ⟨rfl, eq_of_beq hname⟩
  · rintro ⟨rfl, rfl⟩
    exact ⟨rfl, rfl⟩

theorem pick_menu : (frameOn "Menu" millis).pick.value.1 = some ⟨plainTip.id, .ofMillis millis⟩ := by
  obtain ⟨a, ha⟩ := Option.isSome_iff_exists.1
    (Frame.isSome_pick_iff.2 ⟨plainTip, displays_frameOn.2 ⟨rfl, rfl⟩⟩)
  obtain ⟨hsince, t, ht, hid⟩ := Frame.displays_of_pick ha
  obtain ⟨rfl, -⟩ := displays_frameOn.1 ht
  obtain ⟨id, since⟩ := a
  obtain rfl := hsince
  obtain rfl := hid
  exact ha

theorem pick_elsewhere (h : name ≠ "Menu") : (frameOn name millis).pick.value.1 = none := by
  rw [← Option.not_isSome_iff_eq_none, Frame.isSome_pick_iff]
  rintro ⟨t, ht⟩
  exact h (displays_frameOn.1 ht).2

theorem picks_frameOn {since : Moment} {key : Option String} :
    (⟨some ⟨plainTip.id, since⟩, key⟩ : Rotation String).picks (frameOn name millis) =
      decide (5000 * Moment.nanosPerMilli < since.elapsed (.ofMillis millis)) := by
  have hget : (frameOn name millis).catalog.get? plainTip.id = some plainTip := by
    show (Catalog.empty.put plainTip).get? plainTip.id = _
    rw [Catalog.get?_put, if_pos rfl]
  unfold picks isExpired
  dsimp only
  rw [hget]
  rfl

/-- Back on the menu there is no tip, but the menu counts as the last screen. -/
theorem after_awayFromMenu : after awayFromMenu = ⟨none, some "Menu"⟩ := by
  have hmenu : (start : Rotation String).step (frameOn "Menu" 0) =
      ⟨some ⟨plainTip.id, .ofMillis 0⟩, some "Menu"⟩ := by
    have hpicks : (start : Rotation String).picks (frameOn "Menu" 0) = true := rfl
    rw [step_eq, if_pos hpicks, pick_menu]
    rfl
  show ((start.step (frameOn "Menu" 0)).step (frameOn "Map" 500)).step (frameOn "Map" 6000) = _
  rw [hmenu, step_eq _ (frameOn "Map" 500), if_neg (by rw [picks_frameOn]; decide), step_eq,
    if_pos (by rw [picks_frameOn]; decide), pick_elsewhere (by decide)]
  rfl

theorem advance_awayFromMenu :
    (after awayFromMenu).active = none ∧
      (after awayFromMenu).advance (frameOn "Menu" 7000) = pure (none, after awayFromMenu, ()) := by
  have hidle : (after awayFromMenu).active = none := by rw [after_awayFromMenu]
  refine ⟨hidle, (opensOnNewKey_iff awayFromMenu (frameOn "Menu" 7000) hidle).2.2.1 ?_⟩
  rw [after_awayFromMenu]
  rfl

/-- The law of new screens fails on the way back to a menu: no tip is active, the tick before was on
another screen and there is a tip to show, but none is picked. -/
theorem not_opensOnNewKey :
    (after awayFromMenu).active = none ∧
      (∃ p, awayFromMenu.getLast? = some p ∧
        (p.screen == (frameOn "Menu" 7000).screen) = false) ∧
      (frameOn "Menu" 7000).Displays plainTip ∧
      (after (awayFromMenu ++ [frameOn "Menu" 7000])).current = none ∧
      ¬ OpensOnNewKey awayFromMenu (frameOn "Menu" 7000) := by
  have hpicks : (after awayFromMenu).picks (frameOn "Menu" 7000) = false := by
    rw [after_awayFromMenu]
    rfl
  refine ⟨by rw [after_awayFromMenu], ⟨frameOn "Map" 6000, rfl, by decide⟩,
    displays_frameOn.2 ⟨rfl, rfl⟩, ?_, ?_⟩
  · rw [after_snoc, step_eq, hpicks, after_awayFromMenu]
    rfl
  · intro hlaw
    have hpicked := hlaw.2 fun p hp => by
      obtain rfl := Option.some.inj hp
      decide
    rw [hpicks] at hpicked
    cases hpicked

end Reopening

end GameTips.Rotation
