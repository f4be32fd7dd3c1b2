import GameTips.Proofs.Conditions.Writing
import Mathlib.Data.List.Induction

/-!
# The groups of a condition

A group keeps the rules it is made of, each once where it is first mentioned (`List.KeepsFirst`), and
one predicate for each of them, position by position (`RuleGroup.IsMadeOf`). One more rule is added
at the end if it is new, and changes nothing if not (`List.KeepsFirst.concat`), so this is what every
list of rules is reduced to (`List.keepsFirst_eraseDups`).

A condition that was read has only such groups, each under its own kind, and it has the group of a
kind exactly if its element supplies one (`groups_spec`).
-/

namespace List

variable {α : Type} [BEq α] [LawfulBEq α] {kept source : List α}

/-- A list has the items of another one, in the order in which they are first mentioned there. -/
structure KeepsFirst (kept source : List α) : Prop where
  mem_iff : ∀ x, x ∈ kept ↔ x ∈ source
  rising : kept.Pairwise fun x y => source.idxOf x < source.idxOf y

namespace KeepsFirst

/-- An item that comes last changes no first place of the items before it. -/
theorem rising_concat (h : KeepsFirst kept source) (x : α) :
    kept.Pairwise fun y z => (source ++ [x]).idxOf y < (source ++ [x]).idxOf z := by
  refine h.rising.imp_of_mem fun {y z} hy hz hlt => ?_
  rw [idxOf_append_of_mem ((h.mem_iff y).1 hy), idxOf_append_of_mem ((h.mem_iff z).1 hz)]
  exact hlt

/-- One more item is kept if it is new. -/
theorem concat (h : KeepsFirst kept source) (x : α) [Decidable (x ∈ source)] :
    KeepsFirst (if x ∈ source then kept else kept ++ [x]) (source ++ [x]) := by
  split
  · next hx =>
    refine ⟨fun y => ?_, h.rising_concat x⟩
    rw [h.mem_iff, mem_append, mem_singleton]
    exact ⟨.inl, fun hy => hy.elim id fun heq => heq ▸ hx⟩
  · next hx =>
    refine ⟨fun y => ?_, pairwise_append.2 ⟨h.rising_concat x, pairwise_singleton _ x, ?_⟩⟩
    · rw [mem_append, mem_append, h.mem_iff]
    · intro y hy z hz
      obtain rfl := mem_singleton.1 hz
      have hmem : y ∈ source := (h.mem_iff y).1 hy
      rw [idxOf_append_of_mem hmem, idxOf_append_of_notMem hx]
      exact Nat.lt_add_right _ (idxOf_lt_length_of_mem hmem)

end KeepsFirst

/-- The first of equal items are kept, whatever the list. -/
theorem keepsFirst_eraseDups (source : List α) : KeepsFirst source.eraseDups source := by
  classical
  induction source using List.reverseRecOn with
  | nil => exact ⟨fun x => Iff.rfl, Pairwise.nil⟩
  | append_singleton source x ih =>
    rw [eraseDups_concat]
    exact ih.concat x

end List

namespace GameTips

/-- A group of a kind keeps the rules of a source, and what the compiler makes of each. -/
structure RuleGroup.IsMadeOf {σ : Type} (g : RuleGroup σ) (compiler : RuleCompiler σ)
    (kind : GroupKind) (source : List String) : Prop where
  kind_eq : g.kind = kind
  entries_ne_nil : g.entries ≠ []
  nodup_entries : g.entries.Nodup
  keepsFirst : g.entries.KeepsFirst source
  /-- A rule and its predicate stand at the same place. -/
  predicates_eq : g.predicates = g.entries.map fun rule => (compiler rule).value

theorem RuleGroup.isMadeOf_ofRules {σ : Type} (compiler : RuleCompiler σ) (kind : GroupKind)
    {rules : List String} (hne : rules ≠ []) :
    (RuleGroup.ofRules compiler kind rules).IsMadeOf compiler kind rules where
  kind_eq := rfl
  entries_ne_nil := by
    obtain ⟨rule, hrule⟩ := List.exists_mem_of_ne_nil rules hne
    exact List.ne_nil_of_mem (List.mem_eraseDups.2 hrule)
  nodup_entries := List.nodup_eraseDups rules
  keepsFirst := List.keepsFirst_eraseDups rules
  predicates_eq := rfl

/-- A value that makes a group has nothing but its rules. -/
theorem Json.rules_eq_map {v : Json} (h : v.HoldsRules) : v.rules = v.ruleTexts.map Json.str := by
  cases v with
  | str rule => rfl
  | arr items => exact Json.arr.inj (Json.arr_eq_strings h)
  | _ => exact h.elim

namespace Conditions

/-- An element supplies a group of a kind: it is an object with the key of the kind, or it is short
for a group of any. -/
def Supplies (e : Option Json) (kind : GroupKind) : Prop :=
  (∃ members, e = some (.obj members) ∧ kind.key ∈ members.map Prod.fst) ∨
    kind = .anyOf ∧ ∃ v, e = some v ∧ (v.shape = .string ∨ v.shape = .array)

/-- What an element supplies is the value that it has for the kind, if that holds rules. -/
theorem isSome_groupValue_iff {e : Option Json} {kind : GroupKind}
    (h : ∀ v, groupValue kind e = some v → v.HoldsRules) :
    (groupValue kind e).isSome ↔ Supplies e kind := by
  unfold Supplies
  cases e with
  | none => simp [groupValue]
  | some v =>
    cases v with
    | obj members =>
      have hkey : (Json.get? kind.key members).isSome ↔ kind.key ∈ members.map Prod.fst := by
        rw [← Option.ne_none_iff_isSome, ne_eq, Json.get?_eq_none_iff, Classical.not_not]
      simpa [groupValue, Json.shape] using hkey
    | str rule => cases kind <;> simp [groupValue, Json.shape]
    | arr items => cases kind <;> simp [groupValue, Json.shape]
    | _ =>
      cases kind with
      | anyOf => exact (h _ rfl).elim
      | _ => simp [groupValue]

variable {σ : Type} {compiler : RuleCompiler σ}

/-- **The groups of a condition that was read**, under every compiler. There is a group of a kind
exactly if the element supplies one. It is of that kind, and its rules are those that the element
lists for the kind, at least one and each once, in the order of first mention, with the predicate that
the compiler made of each at the same place. -/
theorem groups_spec {e : Option Json} {c : Conditions σ}
    (h : (ofElement compiler e).outcome = .ok c) (kind : GroupKind) :
    ((c.group kind).isSome ↔ Supplies e kind) ∧
    (∀ g, c.group kind = some g → ∃ v source, groupValue kind e = some v ∧
      v.rules = source.map Json.str ∧ g.IsMadeOf compiler kind source) ∧
    (c.entries kind = [] ↔ c.group kind = none) := by
  obtain ⟨hholds, hgroup⟩ := group_of_outcome_eq_ok h kind
  have hmade : ∀ g, c.group kind = some g → ∃ v source, groupValue kind e = some v ∧
      v.rules = source.map Json.str ∧ g.IsMadeOf compiler kind source := by
    intro g hg
    rw [hgroup] at hg
    obtain ⟨v, hv, rfl⟩ := Option.map_eq_some_iff.1 hg
    have hrules := hholds v hv
    exact ⟨v, v.ruleTexts, hv, Json.rules_eq_map hrules,
      RuleGroup.isMadeOf_ofRules compiler kind (ruleStrings_of_holdsRules kind hrules).2⟩
  refine ⟨?_, hmade, ?_⟩
  · rw [hgroup, Option.isSome_map]
    exact isSome_groupValue_iff hholds
  · unfold entries
    cases hg : c.group kind with
    | none => simp
    | some g =>
      obtain ⟨_, _, -, -, hg⟩ := hmade g hg
      simp [hg.entries_ne_nil]

/-- Of a rule that is given twice the first mention counts. -/
theorem groups_repeatedRules :
    ∃ c g, (ofElement sameText (some repeatedRules)).outcome = .ok c ∧
      Supplies (some repeatedRules) .anyOf ∧ c.group .anyOf = some g ∧
      g.IsMadeOf sameText .anyOf ["a", "b", "a"] ∧ g.entries = ["a", "b"] := by
  obtain ⟨c, hread⟩ : ∃ c, (ofElement sameText (some repeatedRules)).outcome = .ok c := ⟨_, rfl⟩
  have hgroup : c.group .anyOf = some (.ofRules sameText .anyOf ["a", "b", "a"]) :=
    (group_of_outcome_eq_ok hread .anyOf).2
  obtain ⟨hsupplied, hmade, -⟩ := groups_spec hread .anyOf
  obtain ⟨v, source, hv, hrules, hmade⟩ := hmade _ hgroup
  obtain rfl := Option.some.inj hv
  obtain rfl : ["a", "b", "a"] = source :=
    List.map_injective_iff.2 (fun _ _ => Json.str.inj) hrules
  exact ⟨c, _, hread, hsupplied.1 (Option.isSome_of_eq_some hgroup), hgroup, hmade, rfl⟩

end Conditions
end GameTips
