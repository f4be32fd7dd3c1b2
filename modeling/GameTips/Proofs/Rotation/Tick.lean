import GameTips.Proofs.Catalog.Displayable
import GameTips.Proofs.Trace
import GameTips.Rotation

/-!
# One tick of a rotation

A tick gets its catalog, settings, context, screen key, moment and random source from a `Frame`, all
of which may differ from one tick to the next. The two places of a tick where a tip is picked exclude
each other: a tip that has just been picked is in the catalog and has had no time yet
(`fresh_of_pick`). So a tick picks at most once (`advance_eq`), namely where `picks` says so.

After a tick the active tip is in the catalog of the frame and has not had its time
(`fresh_step`), and the tick shows it exactly if the display decision lets it
(`value_shown_eq_some_iff`).
-/

namespace GameTips

/-- What a tick is given. -/
structure Frame (κ : Type) : Type 1 where
  ρ : Type
  chooser : Chooser ρ Tip
  source : ρ
  catalog : Catalog
  config : Config
  ctx : DisplayContext
  screen : κ
  now : Moment

namespace Frame

variable {κ : Type}

/-- Pick one of the tips that can be shown in the frame. -/
def pick (f : Frame κ) : Traced (Option Active × f.ρ) :=
  Rotation.pick f.chooser f.catalog f.ctx f.now f.source

/-- Whether a tip can be shown in the frame. -/
def Displays (f : Frame κ) (t : Tip) : Prop :=
  t ∈ f.catalog.toList ∧ (t.canDisplay f.ctx).value = true

theorem value_pick (f : Frame κ) :
    f.pick.value.1 =
      (f.catalog.randomTip f.ctx f.chooser f.source).value.1.map fun t => ⟨t.id, f.now⟩ := by
  unfold pick Rotation.pick
  obtain ⟨⟨tip, s⟩, events⟩ := f.catalog.randomTip f.ctx f.chooser f.source
  cases tip <;> rfl

/-- A pick gives a tip that can be shown, from now on. -/
theorem displays_of_pick {f : Frame κ} {a : Active} (h : f.pick.value.1 = some a) :
    a.since = f.now ∧ ∃ t, f.Displays t ∧ t.id = a.id := by
  rw [value_pick] at h
  obtain ⟨t, ht, rfl⟩ := Option.map_eq_some_iff.1 h
  exact ⟨rfl, t, Catalog.mem_of_randomTip ht, rfl⟩

theorem isSome_pick_iff {f : Frame κ} : f.pick.value.1.isSome ↔ ∃ t, f.Displays t := by
  rw [value_pick, Option.isSome_map]
  exact Catalog.isSome_randomTip_iff

end Frame

namespace Rotation

variable {κ : Type}

/-- An active tip that is in the catalog of a frame and has not had its time there. -/
def Fresh (f : Frame κ) (a : Active) : Prop :=
  ∃ t, f.catalog.get? a.id = some t ∧ a.since.elapsed f.now ≤ t.cycleNanos f.config

theorem isExpired_eq_false_iff {f : Frame κ} {a : Active} :
    isExpired a f.catalog f.config f.now = false ↔ Fresh f a := by
  unfold isExpired Fresh
  cases f.catalog.get? a.id with
  | none => simp
  | some t => simp

theorem fresh_of_pick {f : Frame κ} {a : Active} (h : f.pick.value.1 = some a) : Fresh f a := by
  obtain ⟨hnow, t, ⟨ht, -⟩, hid⟩ := Frame.displays_of_pick h
  refine ⟨t, Catalog.get?_eq_some_iff.2 ⟨ht, hid⟩, ?_⟩
  have hzero : a.since.elapsed f.now = 0 := by
    rw [hnow]
    exact Nat.sub_self f.now.nanos
  omega

variable [BEq κ]

def advance (r : Rotation κ) (f : Frame κ) : Traced (Option Tip × Rotation κ × f.ρ) :=
  r.tick f.chooser f.catalog f.config f.ctx f.screen f.now f.source

/-- Whether a tick picks a tip: without an active one if the key is not the remembered one, else if
the active one has expired. -/
def picks (r : Rotation κ) (f : Frame κ) : Bool :=
  match r.active with
  | none => r.lastScreen != some f.screen
  | some a => isExpired a f.catalog f.config f.now

theorem picks_iff_of_idle {r : Rotation κ} (f : Frame κ) (h : r.active = none) :
    r.picks f = true ↔ ∀ k, r.lastScreen = some k → (k == f.screen) = false := by
  unfold picks
  rw [h]
  cases r.lastScreen with
  | none =>
    constructor
    · intro _ _ hk
      cases hk
    · intro _
      rfl
  | some k =>
    have hbne : (some k != some f.screen) = !(k == f.screen) := rfl
    simp [hbne]

/-- The state after a pick. The key of the screen is remembered only where no tip was active. -/
def settle (r : Rotation κ) (screen : κ) (active : Option Active) : Rotation κ :=
  ⟨active, if r.active.isNone then some screen else r.lastScreen⟩

omit [BEq κ] in
/-- The second half of a tick leaves a state as it is if its active tip is fresh. -/
theorem replaceExpired_of_fresh {r : Rotation κ} {f : Frame κ} (s : f.ρ)
    (h : ∀ a, r.active = some a → Fresh f a) :
    replaceExpired f.chooser r f.catalog f.config f.ctx f.now s = pure (r, s) := by
  unfold replaceExpired
  rw [if_neg]
  cases hr : r.active with
  | none => simp
  | some a => simp [isExpired_eq_false_iff.2 (h a hr)]

/-- A tick that picks: the only thing asked before the pick is whether to pick. -/
def advancePicking (r : Rotation κ) (f : Frame κ) : Traced (Option Tip × Rotation κ × f.ρ) := do
  let (active, s) ← f.pick
  let tip ← (r.settle f.screen active).shown f.catalog f.ctx
  pure (tip, r.settle f.screen active, s)

def advanceKeeping (r : Rotation κ) (f : Frame κ) : Traced (Option Tip × Rotation κ × f.ρ) := do
  let tip ← r.shown f.catalog f.ctx
  pure (tip, r, f.source)

/-- **A tick picks at most once**: where `picks` says so it picks from the tips that can be shown in
the frame, and elsewhere it leaves the state and the random source as they are. -/
theorem advance_eq (r : Rotation κ) (f : Frame κ) :
    r.advance f = if r.picks f then r.advancePicking f else r.advanceKeeping f := by
  obtain ⟨active, lastScreen⟩ := r
  unfold advance tick openScreen picks
  cases active with
  | none =>
    by_cases hkey : (lastScreen != some f.screen) = true
    · rw [if_pos (by simpa using hkey), if_pos hkey]
      simp only [bind_assoc, pure_bind]
      refine Traced.bind_congr_value (x := f.pick) ?_
      have hkept := replaceExpired_of_fresh (r := ⟨f.pick.value.1, some f.screen⟩) f.pick.value.2
        fun a ha => fresh_of_pick ha
      rw [hkept, pure_bind]
      rfl
    · rw [if_neg (by simpa using hkey), if_neg hkey]
      rfl
  | some a =>
    rw [if_neg (by simp)]
    by_cases hexp : isExpired a f.catalog f.config f.now = true
    · rw [if_pos hexp, pure_bind]
      dsimp only
      unfold replaceExpired
      rw [if_pos (by simpa using hexp)]
      simp only [bind_assoc, pure_bind]
      rfl
    · rw [if_neg hexp, pure_bind]
      dsimp only
      rw [replaceExpired_of_fresh, pure_bind]
      · rfl
      · rintro b ⟨⟩
        exact isExpired_eq_false_iff.1 (Bool.eq_false_iff.2 hexp)

def step (r : Rotation κ) (f : Frame κ) : Rotation κ :=
  (r.advance f).value.2.1

theorem step_eq (r : Rotation κ) (f : Frame κ) :
    r.step f = if r.picks f then r.settle f.screen f.pick.value.1 else r := by
  unfold step
  rw [advance_eq]
  split <;> rfl

theorem value_advance_fst (r : Rotation κ) (f : Frame κ) :
    (r.advance f).value.1 = ((r.step f).shown f.catalog f.ctx).value := by
  rw [step_eq, advance_eq]
  split <;> rfl

/-- After a tick the active tip is in the catalog and has not had its time, whatever the state before
the tick was. -/
theorem fresh_step {r : Rotation κ} {f : Frame κ} {a : Active} (h : (r.step f).active = some a) :
    Fresh f a := by
  rw [step_eq] at h
  by_cases hp : r.picks f = true
  · rw [if_pos hp] at h
    exact fresh_of_pick h
  · rw [if_neg hp] at h
    unfold picks at hp
    rw [h] at hp
    exact isExpired_eq_false_iff.1 (Bool.eq_false_iff.2 hp)

omit [BEq κ] in
theorem value_shown_eq_some_iff {r : Rotation κ} {catalog : Catalog} {ctx : DisplayContext} {t : Tip} :
    (r.shown catalog ctx).value = some t ↔
      r.current = some t.id ∧ catalog.get? t.id = some t ∧ (t.canDisplay ctx).value = true := by
  unfold shown
  cases hcur : r.current with
  | none => simp
  | some id =>
    rw [Option.bind_some]
    cases hget : catalog.get? id with
    | none =>
      simp only [Traced.value_pure, reduceCtorEq, Option.some.injEq, false_iff]
      rintro ⟨rfl, ht, -⟩
      rw [hget] at ht
      cases ht
    | some u =>
      obtain ⟨-, rfl⟩ := Catalog.get?_eq_some_iff.1 hget
      simp only [Traced.value_bind, Traced.value_pure, Option.some.injEq]
      constructor
      · intro h
        split at h
        · next hshown =>
          obtain rfl := Option.some.inj h
          exact ⟨rfl, hget, hshown⟩
        · cases h
      · rintro ⟨hid, ht, hshown⟩
        obtain rfl := Option.some.inj (hget.symm.trans (hid ▸ ht))
        rw [if_pos hshown]

end Rotation
end GameTips
