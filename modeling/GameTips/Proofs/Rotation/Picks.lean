import GameTips.Proofs.Rotation.Tick

/-!
# What a tick changes

A tick changes a rotation only where it picks. To count its picks, a tick is given a chooser that
writes down every list it is to choose from (`Chooser.recorded`): nothing else depends on that
(`advance_recorded`), and what has been written down at the end are the picks of the tick
(`choices`).

* `choices_eq`: a tick picks once or not at all, as `picks` says, and from all tips that can be shown;
* `value_advance_snd`: the state and the random source after a tick, in both cases;
* `advance_onScreen`: while a tip is active, the key of the screen does not matter;
* `advance_confined`: which of this holds when, for every state and every frame.
-/

namespace GameTips

/-- A way to choose that also writes down each list it is to choose from. -/
def Chooser.recorded {ρ α : Type} (chooser : Chooser ρ α) : Chooser (ρ × List (List α)) α where
  choose xs s := ((chooser.choose xs s.1).1, (chooser.choose xs s.1).2, s.2 ++ [xs])
  mem_of_choose := chooser.mem_of_choose
  isSome_choose s := chooser.isSome_choose s.1

namespace Frame

variable {κ : Type}

/-- The frame with a chooser that writes down what it is to choose from. -/
abbrev recorded (f : Frame κ) : Frame κ :=
  { f with ρ := f.ρ × List (List Tip), chooser := f.chooser.recorded, source := (f.source, []) }

/-- The frame on another screen. -/
def onScreen (f : Frame κ) (key : κ) : Frame κ :=
  { f with screen := key }

/-- The tips that can be shown in the frame, in the order of the catalog. -/
def candidates (f : Frame κ) : List Tip :=
  (f.catalog.displayable f.ctx).value

theorem mem_candidates {f : Frame κ} {t : Tip} : t ∈ f.candidates ↔ f.Displays t :=
  Catalog.mem_displayable

/-- The tip that the chooser of the frame takes from the candidates, and the random source then. -/
def chosen (f : Frame κ) : Option Tip × f.ρ :=
  f.chooser.choose f.candidates f.source

/-- The tip that the chooser takes, from now on. -/
def picked (f : Frame κ) : Option Active :=
  f.chosen.1.map fun t => ⟨t.id, f.now⟩

theorem value_pick_eq (f : Frame κ) : f.pick.value = (f.picked, f.chosen.2) := by
  refine Prod.ext f.value_pick ?_
  have hchosen : f.chosen = (f.catalog.randomTip f.ctx f.chooser f.source).value := rfl
  rw [hchosen]
  unfold pick Rotation.pick
  obtain ⟨⟨tip, s⟩, events⟩ := f.catalog.randomTip f.ctx f.chooser f.source
  cases tip <;> rfl

theorem displays_of_picked {f : Frame κ} {a : Active} (h : f.picked = some a) :
    a.since = f.now ∧ ∃ t, f.Displays t ∧ t.id = a.id := by
  apply displays_of_pick
  rw [value_pick_eq]
  exact h

theorem picked_eq_none_iff {f : Frame κ} : f.picked = none ↔ ∀ t, ¬ f.Displays t := by
  have hsome : f.picked.isSome ↔ ∃ t, f.Displays t := by
    rw [← isSome_pick_iff, value_pick_eq]
  rw [← Option.not_isSome_iff_eq_none, hsome, not_exists]

/-- A pick hands the candidates to the chooser, once. -/
theorem pick_recorded (f : Frame κ) :
    f.recorded.pick = (fun x => (x.1, x.2, [f.candidates])) <$> f.pick := by
  have hrandom : f.catalog.randomTip f.ctx f.chooser.recorded (f.source, []) =
      (fun x => (x.1, x.2, [f.candidates])) <$> f.catalog.randomTip f.ctx f.chooser f.source := by
    unfold Catalog.randomTip
    rw [map_bind]
    exact Traced.bind_congr_value rfl
  show Rotation.pick f.chooser.recorded f.catalog f.ctx f.now (f.source, []) = _
  unfold pick Rotation.pick
  rw [hrandom, bind_map_left, map_bind]
  refine Traced.bind_congr_value ?_
  obtain ⟨⟨tip, s⟩, events⟩ := f.catalog.randomTip f.ctx f.chooser f.source
  cases tip <;> rfl

end Frame

namespace Rotation

variable {κ : Type} [BEq κ]

/-- What a tick has picked from: a list of tips for each of its picks. -/
def choices (r : Rotation κ) (f : Frame κ) : List (List Tip) :=
  (r.advance f.recorded).value.2.2.2

theorem advance_of_picks {r : Rotation κ} {f : Frame κ} (h : r.picks f = true) :
    r.advance f = r.advancePicking f := by
  rw [advance_eq, if_pos h]

theorem advance_of_not_picks {r : Rotation κ} {f : Frame κ} (h : r.picks f = false) :
    r.advance f = r.advanceKeeping f := by
  rw [advance_eq, h]
  rfl

/-- A tick with its picks written down, from the tick. -/
theorem advance_recorded_eq (r : Rotation κ) (f : Frame κ) :
    r.advance f.recorded =
      (fun x => (x.1, x.2.1, x.2.2, if r.picks f then [f.candidates] else [])) <$> r.advance f := by
  -- Whether to pick is settled before the chooser is asked, so both ticks take the same branch.
  cases hp : r.picks f with
  | true =>
    have hp' : r.picks f.recorded = true := hp
    rw [advance_of_picks hp, advance_of_picks hp']
    unfold advancePicking
    rw [Frame.pick_recorded, bind_map_left, map_bind]
    refine Traced.bind_congr_value ?_
    rw [map_bind]
    rfl
  | false =>
    have hp' : r.picks f.recorded = false := hp
    rw [advance_of_not_picks hp, advance_of_not_picks hp']
    unfold advanceKeeping
    rw [map_bind]
    rfl

/-- Writing down the picks of a tick changes nothing else. -/
theorem advance_recorded (r : Rotation κ) (f : Frame κ) :
    (fun x => (x.1, x.2.1, x.2.2.1)) <$> r.advance f.recorded = r.advance f := by
  rw [advance_recorded_eq, ← comp_map]
  exact id_map (r.advance f)

/-- **A tick picks once or not at all**, and from all tips that can be shown. -/
theorem choices_eq (r : Rotation κ) (f : Frame κ) :
    r.choices f = if r.picks f then [f.candidates] else [] := by
  unfold choices
  rw [advance_recorded_eq]
  rfl

theorem length_choices_le_one (r : Rotation κ) (f : Frame κ) : (r.choices f).length ≤ 1 := by
  rw [choices_eq]
  split
  · exact Nat.le_refl 1
  · exact Nat.zero_le 1

/-! ## The state after a tick -/

/-- The state and the random source after a tick. -/
theorem value_advance_snd (r : Rotation κ) (f : Frame κ) :
    (r.advance f).value.2 =
      if r.picks f then (r.settle f.screen f.picked, f.chosen.2) else (r, f.source) := by
  split
  · next hp =>
    rw [advance_of_picks hp]
    unfold advancePicking
    rw [Traced.value_bind, Frame.value_pick_eq]
    rfl
  · next hp =>
    rw [advance_of_not_picks (Bool.eq_false_iff.2 hp)]
    rfl

/-- The tick does not pick, and leaves the state and the random source as they are. -/
structure Stays (r : Rotation κ) (f : Frame κ) : Prop where
  choices : r.choices f = []
  state : r.step f = r
  source : (r.advance f).value.2.2 = f.source

/-- The tick picks once, from all tips that can be shown, ends with what it has picked, from now on,
and remembers a key. -/
structure PicksOnce (r : Rotation κ) (f : Frame κ) (lastScreen : Option κ) : Prop where
  choices : r.choices f = [f.candidates]
  state : r.step f = ⟨f.picked, lastScreen⟩
  source : (r.advance f).value.2.2 = f.chosen.2

theorem stays_of_not_picks {r : Rotation κ} {f : Frame κ} (h : r.picks f = false) : r.Stays f := by
  have hvalue := value_advance_snd r f
  rw [h] at hvalue
  refine ⟨?_, congrArg Prod.fst hvalue, congrArg Prod.snd hvalue⟩
  rw [choices_eq, h]
  rfl

theorem picksOnce_of_picks {r : Rotation κ} {f : Frame κ} (h : r.picks f = true) :
    r.PicksOnce f (if r.active.isNone then some f.screen else r.lastScreen) := by
  have hvalue := value_advance_snd r f
  rw [h] at hvalue
  refine ⟨?_, congrArg Prod.fst hvalue, congrArg Prod.snd hvalue⟩
  rw [choices_eq, h]
  rfl

theorem choices_ne_nil_iff {r : Rotation κ} {f : Frame κ} : r.choices f ≠ [] ↔ r.picks f = true := by
  rw [choices_eq]
  cases r.picks f <;> simp

/-! ## While a tip is active -/

theorem picks_of_active {r : Rotation κ} (f : Frame κ) {a : Active} (h : r.active = some a) :
    r.picks f = isExpired a f.catalog f.config f.now := by
  unfold picks
  rw [h]

omit [BEq κ] in
/-- An active tip that is not fresh is gone from the catalog or has had its time. -/
theorem not_fresh_iff {f : Frame κ} {a : Active} :
    ¬ Fresh f a ↔ f.catalog.get? a.id = none ∨
      ∃ t, f.catalog.get? a.id = some t ∧ t.cycleNanos f.config < a.since.elapsed f.now := by
  unfold Fresh
  cases f.catalog.get? a.id with
  | none => simp
  | some t => simp

/-- While a tip is active, a tick is the same on every screen. -/
theorem advance_onScreen {r : Rotation κ} (f : Frame κ) {a : Active} (h : r.active = some a)
    (key : κ) : r.advance (f.onScreen key) = r.advance f := by
  -- The key is compared, and remembered, only where no tip is active.
  have hpicks : r.picks (f.onScreen key) = r.picks f := by
    rw [picks_of_active f h]
    exact picks_of_active (f.onScreen key) h
  have hsettle : ∀ active, r.settle (f.onScreen key).screen active = r.settle f.screen active := by
    intro active
    unfold settle
    rw [h]
    rfl
  cases hp : r.picks f with
  | true =>
    rw [advance_of_picks hp, advance_of_picks (hpicks.trans hp)]
    unfold advancePicking
    simp only [hsettle]
    rfl
  | false =>
    rw [advance_of_not_picks hp, advance_of_not_picks (hpicks.trans hp)]
    rfl

/-- **A tick changes only what it must**, for every state of a rotation and every frame. -/
theorem advance_confined (r : Rotation κ) (f : Frame κ) :
    -- an active tip that is in the catalog and has not had its time stays, on whatever screen
    (∀ a, r.active = some a → Fresh f a →
      r.Stays f ∧ ∀ key, r.advance (f.onScreen key) = r.advance f) ∧
    -- one that is gone or has had its time makes room for another, and the key is not remembered
    (∀ a, r.active = some a →
      (f.catalog.get? a.id = none ∨
        ∃ t, f.catalog.get? a.id = some t ∧ t.cycleNanos f.config < a.since.elapsed f.now) →
      r.PicksOnce f r.lastScreen) ∧
    -- without an active tip another key than the remembered one makes a pick, and is remembered
    (r.active = none →
      (r.choices f ≠ [] ↔ ∀ k, r.lastScreen = some k → (k == f.screen) = false) ∧
      (r.choices f ≠ [] → r.PicksOnce f (some f.screen)) ∧ (r.choices f = [] → r.Stays f)) ∧
    -- what is picked can be shown, and is missing only where nothing can be shown
    (∀ t, t ∈ f.candidates ↔ f.Displays t) ∧
    (∀ a, f.picked = some a → a.since = f.now ∧ ∃ t, f.Displays t ∧ t.id = a.id) ∧
    (f.picked = none ↔ ∀ t, ¬ f.Displays t) ∧
    -- no tick picks twice, and writing down its picks does not change it
    (r.choices f).length ≤ 1 ∧
    (fun x => (x.1, x.2.1, x.2.2.1)) <$> r.advance f.recorded = r.advance f := by
  refine ⟨?_, ?_, ?_, fun t => Frame.mem_candidates, fun a => Frame.displays_of_picked,
    Frame.picked_eq_none_iff, r.length_choices_le_one f, r.advance_recorded f⟩
  · intro a ha hfresh
    refine ⟨stays_of_not_picks ?_, advance_onScreen f ha⟩
    rw [picks_of_active f ha]
    exact isExpired_eq_false_iff.2 hfresh
  · intro a ha hold
    have hpicks : r.picks f = true := by
      rw [picks_of_active f ha, ← Bool.not_eq_false, isExpired_eq_false_iff]
      exact not_fresh_iff.2 hold
    have honce := picksOnce_of_picks hpicks
    rw [ha] at honce
    exact honce
  · intro hidle
    refine ⟨?_, ?_, ?_⟩
    · rw [choices_ne_nil_iff, picks_iff_of_idle f hidle]
    · intro hne
      have honce := picksOnce_of_picks (choices_ne_nil_iff.1 hne)
      rw [hidle] at honce
      exact honce
    · intro hnil
      apply stays_of_not_picks
      rw [← Bool.not_eq_true, ← choices_ne_nil_iff, hnil]
      exact fun h => h rfl

end Rotation
end GameTips
