import GameTips.Proofs.Conditions.Faults
import GameTips.Proofs.Conditions.Meaning
import GameTips.Proofs.Rule.FullMatch
import Mathlib.Data.Finset.Insert

/-!
# Conditions on entries, on identifiers and on sets of identifiers

The compilers for entries, identifiers and sets of identifiers read the same rules. A rule matches a
set if it matches a member (`matchesRule_member`), and an entry if it matches the id of the entry or
names a tag that the entry carries (`matchesRule_registry`). What a condition says of a value only
depends on which rules match the value (`value_test_congr_rules`), so an element means the same to
all three, whatever its groups do with the rules (`compilers_agree`).
-/

namespace GameTips

/-- The members of a set, in whatever order. -/
def Enumerates (ids : List Identifier) (S : Finset Identifier) : Prop :=
  ∀ id, id ∈ ids ↔ id ∈ S

/-- The entry carries no tag. -/
def RegistryEntry.IsUntagged (entry : RegistryEntry) : Prop :=
  ∀ tag, entry.hasTag tag = false

namespace Conditions

/-! ## Rules -/

theorem matchesRule_member (ids : List Identifier) (rule : String) :
    matchesRule compileMemberRule ids rule =
      ids.any fun id => matchesRule compileIdentifierRule id rule := by
  unfold matchesRule compileMemberRule
  rw [Traced.value_bind, Traced.value_pure, Traced.value_anyM]

theorem matchesRule_member_eq_true_iff {ids : List Identifier} {S : Finset Identifier}
    (h : Enumerates ids S) (rule : String) :
    matchesRule compileMemberRule ids rule = true ↔
      ∃ id ∈ S, matchesRule compileIdentifierRule id rule = true := by
  rw [matchesRule_member, List.any_eq_true]
  exact exists_congr fun id => and_congr_left' (h id)

/-- The tag of a rule is read exactly from the rules of that form. -/
theorem tag?_eq_some_iff_read? {rule : String} {tag : Identifier} :
    tag? rule = some tag ↔ RuleForm.read? rule = some (.tagged tag) := by
  rw [RuleForm.read?_eq_some_iff]
  exact tag?_eq_some_iff

theorem tag?_eq_none_of_read? {rule : String}
    (h : ∀ tag, RuleForm.read? rule ≠ some (.tagged tag)) : tag? rule = none := by
  rw [Option.eq_none_iff_forall_ne_some]
  exact fun tag htag => h tag (tag?_eq_some_iff_read?.1 htag)

/-- **A rule matches an entry** if it matches its id, or if it names a tag that the entry carries. -/
theorem matchesRule_registry (entry : RegistryEntry) (rule : String) :
    matchesRule compileRegistryRule entry rule =
      ((entry.id.any fun id => matchesRule compileIdentifierRule id rule) ||
        (tag? rule).any entry.hasTag) := by
  obtain ⟨id?, hasTag⟩ := entry
  -- Only a rule of the form for tags has a tag to ask for.
  have htag : (∀ tag, RuleForm.read? rule ≠ some (.tagged tag)) → tag? rule = none :=
    tag?_eq_none_of_read?
  unfold matchesRule compileRegistryRule compileIdentifierRule
  cases hread : RuleForm.read? rule with
  | none =>
    rw [htag (by simp [hread])]
    cases id? <;> rfl
  | some f =>
    cases f with
    | exactly target =>
      rw [htag (by simp [hread])]
      cases id? with
      | none => rfl
      | some id => simp [Predicate.ofTest]
    | inNamespace ns =>
      rw [htag (by simp [hread])]
      simp [Predicate.ofTest]
    | tagged tag =>
      rw [tag?_eq_some_iff_read?.2 hread]
      cases id? <;> rfl
    | matching text =>
      rw [htag (by simp [hread]), Bool.eq_iff_iff]
      simp [PatternRule.value_compilePattern, Option.any_eq_true]

/-- A tag rule is for entries only. -/
example : matchesRule compileRegistryRule ⟨none, fun _ => true⟩ "#a:x" = true ∧
    ∀ id, matchesRule compileIdentifierRule id "#a:x" = false :=
  ⟨by decide, fun _ => rfl⟩

theorem matchesRule_registry_of_isUntagged {entry : RegistryEntry} (h : entry.IsUntagged)
    (rule : String) :
    matchesRule compileRegistryRule entry rule =
      entry.id.any fun id => matchesRule compileIdentifierRule id rule := by
  have htags : (tag? rule).any entry.hasTag = false := by
    cases tag? rule with
    | none => rfl
    | some tag => exact h tag
  rw [matchesRule_registry, htags, Bool.or_false]

/-! ## Conditions -/

/-- What a condition says of a value only depends on which rules match the value, whatever the values
are that the rules are about. -/
theorem value_test_congr_rules {σ τ : Type} {compiler : RuleCompiler σ}
    {compiler' : RuleCompiler τ} {e : Option Json} {c : Conditions σ} {c' : Conditions τ}
    (h : (ofElement compiler e).outcome = .ok c) (h' : (ofElement compiler' e).outcome = .ok c')
    {x : σ} {y : τ} (hrules : ∀ rule, matchesRule compiler x rule = matchesRule compiler' y rule) :
    (c.test x).value = (c'.test y).value := by
  rw [value_test_eq_meaning h, value_test_eq_meaning h', funext hrules]

/-- What conditions on entries, on identifiers and on sets of identifiers say of the same
identifiers. -/
structure Agree (onEntries : Conditions RegistryEntry) (onIds : Conditions Identifier)
    (onSets : Conditions (List Identifier)) : Prop where
  /-- A bound entry without tags is tested as its id. -/
  bound : ∀ {entry : RegistryEntry} {id : Identifier}, entry.id = some id → entry.IsUntagged →
    (onEntries.test entry).value = (onIds.test id).value
  /-- A set with a single member is tested as the member. -/
  single : ∀ {ids : List Identifier} {id : Identifier}, Enumerates ids {id} →
    (onSets.test ids).value = (onIds.test id).value
  /-- The empty set is tested as an unbound entry without tags. -/
  unbound : ∀ {ids : List Identifier} {entry : RegistryEntry}, Enumerates ids ∅ →
    entry.id = none → entry.IsUntagged → (onSets.test ids).value = (onEntries.test entry).value
  /-- The order in which a set is enumerated does not matter. -/
  order : ∀ {ids ids' : List Identifier} {S : Finset Identifier}, Enumerates ids S →
    Enumerates ids' S → (onSets.test ids).value = (onSets.test ids').value

theorem agree_of_outcomes {e : Option Json} {onEntries : Conditions RegistryEntry}
    {onIds : Conditions Identifier} {onSets : Conditions (List Identifier)}
    (hentries : (ofElement compileRegistryRule e).outcome = .ok onEntries)
    (hids : (ofElement compileIdentifierRule e).outcome = .ok onIds)
    (hsets : (ofElement compileMemberRule e).outcome = .ok onSets) :
    Agree onEntries onIds onSets where
  bound := by
    intro entry id hid huntagged
    refine value_test_congr_rules hentries hids fun rule => ?_
    rw [matchesRule_registry_of_isUntagged huntagged, hid, Option.any_some]
  single := by
    intro ids id hsingle
    refine value_test_congr_rules hsets hids fun rule => ?_
    rw [Bool.eq_iff_iff, matchesRule_member_eq_true_iff hsingle]
    simp
  unbound := by
    intro ids entry hempty hid huntagged
    refine value_test_congr_rules hsets hentries fun rule => ?_
    rw [matchesRule_registry_of_isUntagged huntagged, hid, Bool.eq_iff_iff,
      matchesRule_member_eq_true_iff hempty]
    simp
  order := by
    intro ids ids' S hids hids'
    refine value_test_congr_rules hsets hsets fun rule => ?_
    rw [Bool.eq_iff_iff, matchesRule_member_eq_true_iff hids, matchesRule_member_eq_true_iff hids']

/-- **The three compilers agree**: they read the same elements, fail on the others with the same
error, and the conditions they read say the same of an identifier, of its set, and of an entry that
is bound to it and carries no tag. A rule matches a set if it matches a member. -/
theorem compilers_agree (e : Option Json) :
    ((∃ err, (ofElement compileRegistryRule e).outcome = .error err ∧
        (ofElement compileIdentifierRule e).outcome = .error err ∧
        (ofElement compileMemberRule e).outcome = .error err) ∨
      ∃ onEntries onIds onSets, (ofElement compileRegistryRule e).outcome = .ok onEntries ∧
        (ofElement compileIdentifierRule e).outcome = .ok onIds ∧
        (ofElement compileMemberRule e).outcome = .ok onSets ∧ Agree onEntries onIds onSets) ∧
    ∀ (ids : List Identifier) (S : Finset Identifier), Enumerates ids S → ∀ rule,
      (matchesRule compileMemberRule ids rule = true ↔
        ∃ id ∈ S, matchesRule compileIdentifierRule id rule = true) := by
  refine ⟨?_, fun ids S => matchesRule_member_eq_true_iff⟩
  have hentries := outcome_ofElement compileRegistryRule e
  have hids := outcome_ofElement compileIdentifierRule e
  have hsets := outcome_ofElement compileMemberRule e
  cases hfault : fault? e with
  | some err =>
    rw [hfault] at hentries hids hsets
    exact .inl ⟨err, hentries, hids, hsets⟩
  | none =>
    rw [hfault] at hentries hids hsets
    exact .inr ⟨_, _, _, hentries, hids, hsets, agree_of_outcomes hentries hids hsets⟩

end Conditions
end GameTips
