import GameTips.Proofs.Trace
import GameTips.Tip.Reader

/-!
# What reading an entry gives

An entry that can be read is an object, and each part of the tip is what its own reader makes of the
members (`TipReader.read_eq_ok_iff`); each category of conditions is read by a compiler of its own
(`TipReader.readConditions_eq_ok_iff`).
-/

namespace GameTips.TipReader

variable {σ : Type}

/-- The conditions that the members of an entry hold. -/
def conditionsMember (r : TipReader) (members : List (String × Json)) :
    TracedReading TipFault TipConditions :=
  match Json.get? TipField.conditions.key members with
  | none => pure .unconstrained
  | some (.obj members) => r.readConditions members
  | some _ => throw (.invalidField .conditions)

theorem readMembers_eq (r : TipReader) (id : Identifier) (members : List (String × Json)) :
    r.readMembers id members = (do
      let _ ← ExceptT.mk (pure (checkType members))
      let title ← ExceptT.mk (pure (readText members .title r.defaultTitle))
      let text ← ExceptT.mk (pure (readText members .text none))
      let cycleTime ← ExceptT.mk (pure (readCycleTime members))
      let conditions ← r.conditionsMember members
      pure ⟨id, title, text, cycleTime, conditions⟩) := by
  unfold readMembers conditionsMember
  cases Json.get? TipField.conditions.key members with
  | none => rfl
  | some v => cases v <;> rfl

/-- **What an entry gives that can be read.** -/
theorem read_eq_ok_iff {r : TipReader} {id : Identifier} {v : Json} {t : Tip} :
    (r.read id v).outcome = .ok t ↔
      ∃ members, v = .obj members ∧ t.id = id ∧ checkType members = .ok () ∧
        readText members .title r.defaultTitle = .ok t.title ∧
        readText members .text none = .ok t.text ∧
        readCycleTime members = .ok t.ownCycleTime ∧
        (r.conditionsMember members).outcome = .ok t.conditions := by
  unfold read
  rw [TracedReading.outcome_adapt_eq_ok]
  constructor
  · intro h
    cases v with
    | obj members =>
      refine ⟨members, rfl, ?_⟩
      dsimp only at h
      rw [readMembers_eq] at h
      obtain ⟨_, htype, h⟩ := TracedReading.outcome_bind_eq_ok.1 h
      obtain ⟨title, htitle, h⟩ := TracedReading.outcome_bind_eq_ok.1 h
      obtain ⟨text, htext, h⟩ := TracedReading.outcome_bind_eq_ok.1 h
      obtain ⟨time, htime, h⟩ := TracedReading.outcome_bind_eq_ok.1 h
      obtain ⟨conditions, hconditions, h⟩ := TracedReading.outcome_bind_eq_ok.1 h
      obtain rfl := Except.ok.inj h
      exact ⟨rfl, htype, htitle, htext, htime, hconditions⟩
    | _ => cases h
  · rintro ⟨members, rfl, rfl, htype, htitle, htext, htime, hconditions⟩
    dsimp only
    rw [readMembers_eq]
    refine TracedReading.outcome_bind_eq_ok.2 ⟨_, htype, ?_⟩
    refine TracedReading.outcome_bind_eq_ok.2 ⟨_, htitle, ?_⟩
    refine TracedReading.outcome_bind_eq_ok.2 ⟨_, htext, ?_⟩
    refine TracedReading.outcome_bind_eq_ok.2 ⟨_, htime, ?_⟩
    refine TracedReading.outcome_bind_eq_ok.2 ⟨_, hconditions, ?_⟩
    rfl

theorem readCategory_eq_ok_iff {compiler : RuleCompiler σ} {category : Category}
    {members : List (String × Json)} {c : Conditions σ} :
    (readCategory compiler category members).outcome = .ok c ↔
      (Conditions.ofElement compiler (Json.get? category.key members)).outcome = .ok c :=
  TracedReading.outcome_adapt_eq_ok

theorem readConditions_eq_ok_iff {r : TipReader} {members : List (String × Json)}
    {c : TipConditions} :
    (r.readConditions members).outcome = .ok c ↔
      (Conditions.ofElement (compileScreenRule r.host)
          (Json.get? Category.screens.key members)).outcome = .ok c.screens ∧
        (Conditions.ofElement compileRegistryRule
          (Json.get? Category.biomes.key members)).outcome = .ok c.biomes ∧
        (Conditions.ofElement compileRegistryRule
          (Json.get? Category.dimensions.key members)).outcome = .ok c.dimensions ∧
        (Conditions.ofElement compileMemberRule
          (Json.get? Category.milestones.key members)).outcome = .ok c.milestones := by
  unfold readConditions
  constructor
  · intro h
    obtain ⟨screens, hscreens, h⟩ := TracedReading.outcome_bind_eq_ok.1 h
    obtain ⟨biomes, hbiomes, h⟩ := TracedReading.outcome_bind_eq_ok.1 h
    obtain ⟨dimensions, hdimensions, h⟩ := TracedReading.outcome_bind_eq_ok.1 h
    obtain ⟨milestones, hmilestones, h⟩ := TracedReading.outcome_bind_eq_ok.1 h
    obtain rfl := Except.ok.inj h
    exact ⟨readCategory_eq_ok_iff.1 hscreens, readCategory_eq_ok_iff.1 hbiomes,
      readCategory_eq_ok_iff.1 hdimensions, readCategory_eq_ok_iff.1 hmilestones⟩
  · rintro ⟨hscreens, hbiomes, hdimensions, hmilestones⟩
    refine TracedReading.outcome_bind_eq_ok.2 ⟨_, readCategory_eq_ok_iff.2 hscreens, ?_⟩
    refine TracedReading.outcome_bind_eq_ok.2 ⟨_, readCategory_eq_ok_iff.2 hbiomes, ?_⟩
    refine TracedReading.outcome_bind_eq_ok.2 ⟨_, readCategory_eq_ok_iff.2 hdimensions, ?_⟩
    refine TracedReading.outcome_bind_eq_ok.2 ⟨_, readCategory_eq_ok_iff.2 hmilestones, ?_⟩
    rfl

end GameTips.TipReader
