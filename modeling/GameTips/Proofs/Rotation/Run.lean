import GameTips.Proofs.Rotation.Tick
import Mathlib.Data.List.Induction

/-!
# Runs of a rotation

A run is the list of the frames of its ticks, and `after` is the state it leads to. `LastTick P`
relates a run to the last of its ticks that had the property `P`, a property of the state before the
tick and of its frame.

`active_picked` is what a run keeps: the active tip is the one that the last tick that picked has
picked, and it counts its time from the moment of that tick. With what every tick sees to
(`fresh_step`, `value_shown_eq_some_iff`) this gives `advance_sound`.
-/

namespace GameTips.Rotation

variable {κ : Type} [BEq κ]

def after (fs : List (Frame κ)) : Rotation κ :=
  fs.foldl step start

@[simp] theorem after_nil : after ([] : List (Frame κ)) = start := rfl

theorem after_snoc (fs : List (Frame κ)) (f : Frame κ) : after (fs ++ [f]) = (after fs).step f := by
  unfold after
  rw [List.foldl_append]
  rfl

/-- The last tick of a run that has a property of its frame and of the state before it. -/
inductive LastTick (P : Rotation κ → Frame κ → Prop) : List (Frame κ) → Frame κ → Prop
  | here {fs : List (Frame κ)} {f : Frame κ} : P (after fs) f → LastTick P (fs ++ [f]) f
  | earlier {fs : List (Frame κ)} {f g : Frame κ} :
    ¬ P (after fs) f → LastTick P fs g → LastTick P (fs ++ [f]) g

def LastPick : List (Frame κ) → Frame κ → Prop :=
  LastTick fun r f => r.picks f = true

/-- **The active tip of a run** is the one that the last tick that picked has picked. -/
theorem active_picked (fs : List (Frame κ)) {a : Active} (h : (after fs).active = some a) :
    ∃ g, LastPick fs g ∧ g.pick.value.1 = some a := by
  induction fs using List.reverseRecOn with
  | nil => cases h
  | append_singleton fs f ih =>
    rw [after_snoc, step_eq] at h
    by_cases hp : (after fs).picks f = true
    · rw [if_pos hp] at h
      exact ⟨f, .here hp, h⟩
    · rw [if_neg hp] at h
      obtain ⟨g, hg, ha⟩ := ih h
      exact ⟨g, .earlier hp hg, ha⟩

/-- **What a tick of a run shows.** After every tick of every run, the active tip is one of the
catalog of that tick and was picked by the last tick that picked, since when no more than its time
has gone by; and the tick shows a tip exactly if it is the active one, as the catalog of the tick has
it, and passes the display decision. -/
theorem advance_sound (fs : List (Frame κ)) (f : Frame κ) :
    (∀ id, (after (fs ++ [f])).current = some id →
      ∃ t g, f.catalog.get? id = some t ∧ t.id = id ∧
        LastPick (fs ++ [f]) g ∧ g.pick.value.1 = some ⟨id, g.now⟩ ∧
        g.now.elapsed f.now ≤ t.cycleNanos f.config) ∧
    ∀ t, ((after fs).advance f).value.1 = some t ↔
      (after (fs ++ [f])).current = some t.id ∧ f.catalog.get? t.id = some t ∧
        (t.canDisplay f.ctx).value = true := by
  constructor
  · intro id hid
    obtain ⟨a, ha, rfl⟩ := Option.map_eq_some_iff.1 hid
    obtain ⟨g, hlast, hpick⟩ := active_picked (fs ++ [f]) ha
    obtain ⟨hsince, -⟩ := Frame.displays_of_pick hpick
    rw [after_snoc] at ha
    obtain ⟨t, ht, htime⟩ := fresh_step ha
    refine ⟨t, g, ht, (Catalog.get?_eq_some_iff.1 ht).2, hlast, ?_, ?_⟩
    · rw [hpick, ← hsince]
    · rw [← hsince]
      exact htime
  · intro t
    rw [value_advance_fst, after_snoc]
    exact value_shown_eq_some_iff

end GameTips.Rotation
