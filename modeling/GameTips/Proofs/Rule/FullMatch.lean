import GameTips.Pattern.Matching
import GameTips.Proofs.Pattern.Anchoring
import GameTips.Proofs.Rule.Forms

/-!
# Pattern rules match whole identifiers

The rule `~p` is to accept an identifier exactly if `p` is a pattern that matches all of it, and to be
given up with a notice if `p` is no pattern (`IsFullMatch`). What is compiled is the text `^(?:p)$`.

* `accepts_eq_matchesAll`: where both `p` and the anchored text are patterns, the anchored one accepts
  what `p` matches as a whole;
* `isFullMatch_iff`: the rule is as it is to be where `p` and the anchored text are both patterns or
  both none. It is not where `p` closes the group that is put around it, nor where a comment of `p` or
  a limit keeps the anchored text from being a pattern, except that `p` matches no identifier then;
* `not_isFullMatch`: the text `a)|(?:b`, which is no pattern, makes a rule that accepts every
  identifier that starts with `a`.
-/

namespace GameTips

namespace Pattern

/-! ## The pattern between anchors -/

theorem toList_anchored (text : String) :
    (anchored text).toList = '^' :: '(' :: '?' :: ':' :: (text.toList ++ closing) := by
  simp [anchored, closing]

theorem holdsAt_textStart_iff {t : List Char} {i : Nat} (hi : i ≤ t.length) :
    Assertion.textStart.holdsAt t i = true ↔ i = 0 := by
  simp only [Assertion.holdsAt, Assertion.holdsBetween, Option.isNone_iff_eq_none]
  constructor
  · intro h
    by_contra hne
    rw [if_neg hne, List.getElem?_eq_none_iff] at h
    omega
  · rintro rfl
    rfl

theorem holdsAt_textEnd_iff {t : List Char} {i : Nat} :
    Assertion.textEnd.holdsAt t i = true ↔ t.length ≤ i := by
  simp [Assertion.holdsAt, Assertion.holdsBetween]

theorem matches_whole_iff {p : Pattern} {t : List Char} {i j : Nat} :
    Matches t (whole p) i j ↔ i = 0 ∧ j = t.length ∧ Matches t p 0 t.length := by
  constructor
  · intro h
    cases h with
    | seq hstart hrest =>
      cases hrest with
      | seq hgroup hend =>
        cases hstart with
        | check hi hstart =>
          cases hend with
          | check hj hend =>
            cases hgroup with
            | group hmatch =>
              obtain rfl := (holdsAt_textStart_iff hi).1 hstart
              obtain rfl := Nat.le_antisymm hj (holdsAt_textEnd_iff.1 hend)
              exact ⟨rfl, rfl, hmatch⟩
  · rintro ⟨rfl, rfl, hmatch⟩
    refine .seq (.check (Nat.zero_le _) rfl) (.seq (.group hmatch) (.check (Nat.le_refl _) ?_))
    exact holdsAt_textEnd_iff.2 (Nat.le_refl _)

/-- A pattern between anchors occurs in a text exactly if it matches all of the text. -/
theorem occursIn_whole (p : Pattern) (t : List Char) : (whole p).occursIn t = p.matchesAll t := by
  rw [Bool.eq_iff_iff, occursIn_iff, matchesAll_iff]
  constructor
  · rintro ⟨i, j, h⟩
    exact (matches_whole_iff.1 h).2.2
  · intro h
    exact ⟨0, t.length, matches_whole_iff.2 ⟨rfl, rfl, h⟩⟩

/-- Where a text is a pattern both by itself and between the anchors, what is accepted is what the
pattern matches as a whole. -/
theorem accepts_eq_matchesAll {text : String} {p q : Pattern} (hp : parse? text.toList = some p)
    (hq : ofRule? text = some q) (id : Identifier) : q.accepts id = p.matchesAll id.toString.toList := by
  have hparse : parse? (anchored text).toList = some q := (Option.filter_eq_some_iff.1 hq).1
  rw [toList_anchored] at hparse
  rcases parse?_anchored hp with hwhole | hnone
  · obtain rfl := Option.some.inj (hwhole.symm.trans hparse)
    exact occursIn_whole p _
  · rw [hnone] at hparse
    cases hparse

/-- A comment of the text takes the closing parenthesis. -/
example : (read? "(?x)a #").isSome = true ∧ (ofRule? "(?x)a #").isSome = false := by
  decide +kernel

end Pattern

namespace PatternRule

/-! ## The forms of a pattern rule -/

section Form

variable (p : String)

theorem read?_patternRule : RuleForm.read? ("~" ++ p) = some (.matching p) :=
  RuleForm.read?_of_fits (f := .matching p) rfl

theorem compileIdentifierRule_pattern :
    compileIdentifierRule ("~" ++ p) = compilePattern some ("~" ++ p) p := by
  rw [compileIdentifierRule, read?_patternRule]

end Form

/-! ## What a pattern rule accepts -/

/-- The text is a pattern that matches the whole written form of an identifier. -/
def MatchesWhole (p : String) (id : Identifier) : Prop :=
  ∃ P, Pattern.read? p = some P ∧ P.matchesAll id.toString.toList = true

/-- What the rule `~p` is to do: accept what the pattern `p` matches as a whole, for an entry of a
registry that is bound, for an identifier and for some member of a set, and be given up if `p` is no
pattern. -/
structure IsFullMatch (p : String) : Prop where
  entry : ∀ entry : RegistryEntry, ((compileRegistryRule ("~" ++ p)).value entry).value = true ↔
    ∃ id, entry.id = some id ∧ MatchesWhole p id
  identifier : ∀ id, ((compileIdentifierRule ("~" ++ p)).value id).value = true ↔ MatchesWhole p id
  members : ∀ ids, ((compileMemberRule ("~" ++ p)).value ids).value = true ↔
    ∃ id ∈ ids, MatchesWhole p id
  degrades : Pattern.read? p = none →
    (compileRegistryRule ("~" ++ p)).notices = [.ruleDegraded .invalidPattern ("~" ++ p)] ∧
    (compileIdentifierRule ("~" ++ p)).notices = [.ruleDegraded .invalidPattern ("~" ++ p)] ∧
    (compileMemberRule ("~" ++ p)).notices = [.ruleDegraded .invalidPattern ("~" ++ p)]

section Meaning

variable {p : String}

/-- What the compiled rule accepts. -/
def Accepts (p : String) (id : Identifier) : Prop :=
  ∃ Q, Pattern.ofRule? p = some Q ∧ Q.accepts id = true

theorem value_compilePattern {σ : Type} (idOf : σ → Option Identifier) (rule : String) (x : σ) :
    ((compilePattern idOf rule p).value x).value = true ↔ ∃ id, idOf x = some id ∧ Accepts p id := by
  unfold compilePattern Accepts
  cases hQ : Pattern.ofRule? p with
  | none => simp [Predicate.degraded, Predicate.never]
  | some Q => simp [Predicate.ofTest, Option.any_eq_true]

theorem notices_compilePattern {σ : Type} (idOf : σ → Option Identifier) (rule : String) :
    (compilePattern idOf rule p).notices =
      if (Pattern.ofRule? p).isSome then [] else [.ruleDegraded .invalidPattern rule] := by
  unfold compilePattern
  cases Pattern.ofRule? p <;> rfl

theorem value_registryRule (entry : RegistryEntry) :
    ((compileRegistryRule ("~" ++ p)).value entry).value = true ↔
      ∃ id, entry.id = some id ∧ Accepts p id := by
  rw [compileRegistryRule_text, value_compilePattern]

theorem value_identifierRule (id : Identifier) :
    ((compileIdentifierRule ("~" ++ p)).value id).value = true ↔ Accepts p id := by
  rw [compileIdentifierRule_pattern, value_compilePattern]
  simp

theorem value_memberRule (ids : List Identifier) :
    ((compileMemberRule ("~" ++ p)).value ids).value = true ↔ ∃ id ∈ ids, Accepts p id := by
  rw [compileMemberRule, Traced.value_bind, Traced.value_pure, Traced.value_anyM, List.any_eq_true]
  simp only [value_identifierRule]

theorem notices_registryRule (h : Pattern.ofRule? p = none) :
    (compileRegistryRule ("~" ++ p)).notices = [.ruleDegraded .invalidPattern ("~" ++ p)] := by
  rw [compileRegistryRule_text, notices_compilePattern, h]
  rfl

theorem notices_identifierRule :
    (compileIdentifierRule ("~" ++ p)).notices =
      if (Pattern.ofRule? p).isSome then [] else [.ruleDegraded .invalidPattern ("~" ++ p)] := by
  rw [compileIdentifierRule_pattern, notices_compilePattern]

theorem notices_memberRule :
    (compileMemberRule ("~" ++ p)).notices = (compileIdentifierRule ("~" ++ p)).notices := by
  rw [compileMemberRule, Traced.notices, Traced.events_bind, Traced.events_pure, List.append_nil]
  rfl

/-- What the rule is to do, in terms of the anchored text. -/
theorem isFullMatch_iff_accepts :
    IsFullMatch p ↔ (∀ id, Accepts p id ↔ MatchesWhole p id) ∧
      (Pattern.read? p = none → Pattern.ofRule? p = none) := by
  constructor
  · intro h
    refine ⟨fun id => (value_identifierRule id).symm.trans (h.identifier id), fun hread => ?_⟩
    obtain ⟨-, hnotices, -⟩ := h.degrades hread
    rw [notices_identifierRule] at hnotices
    cases hQ : Pattern.ofRule? p with
    | none => rfl
    | some Q =>
      rw [hQ] at hnotices
      cases hnotices
  · rintro ⟨haccepts, hdegrades⟩
    refine ⟨fun entry => ?_, fun id => ?_, fun ids => ?_, fun hread => ?_⟩
    · simp only [value_registryRule, haccepts]
    · rw [value_identifierRule, haccepts]
    · simp only [value_memberRule, haccepts]
    · have hnone := hdegrades hread
      refine ⟨notices_registryRule hnone, ?_, ?_⟩
      · rw [notices_identifierRule, hnone]
        rfl
      · rw [notices_memberRule, notices_identifierRule, hnone]
        rfl

end Meaning

/-- **When a pattern rule matches whole identifiers**: exactly where its text and the anchored text are
both patterns or both none, or where nothing is accepted and nothing was to be. -/
theorem isFullMatch_iff (p : String) :
    IsFullMatch p ↔
      (Pattern.ofRule? p).isSome = (Pattern.read? p).isSome ∨
        Pattern.ofRule? p = none ∧ ∀ id, ¬ MatchesWhole p id := by
  rw [isFullMatch_iff_accepts]
  unfold Accepts MatchesWhole
  cases hP : Pattern.read? p with
  | none => cases Pattern.ofRule? p <;> simp
  | some P =>
    cases hQ : Pattern.ofRule? p with
    | none => simp
    | some Q =>
      have hparse : Pattern.parse? p.toList = some P := (Option.filter_eq_some_iff.1 hP).1
      simp [Pattern.accepts_eq_matchesAll hparse hQ]

theorem isFullMatch_plains : IsFullMatch "minecraft:(plains|desert)" :=
  (isFullMatch_iff _).2 (.inl (by decide +kernel))

/-! ## A text that closes the group around it -/

/-- The identifier `a:x`. -/
def shortIdentifier : Identifier := ⟨"a", "x", by decide, by decide⟩

/-- The text `a)|(?:b` is no pattern, but between the anchors it is one, which asks for an `a` at the
start or a `b` at the end. So the rule accepts `a:x` and is not given up. -/
theorem not_isFullMatch :
    Pattern.read? "a)|(?:b" = none ∧
      ((compileIdentifierRule ("~" ++ "a)|(?:b")).value shortIdentifier).value = true ∧
      (compileIdentifierRule ("~" ++ "a)|(?:b")).notices = [] ∧ ¬ IsFullMatch "a)|(?:b" := by
  have hread : Pattern.read? "a)|(?:b" = none := by decide +kernel
  have haccepts : (Pattern.ofRule? "a)|(?:b").any (·.accepts shortIdentifier) = true := by
    decide +kernel
  have hanchored : (Pattern.ofRule? "a)|(?:b").isSome = true := by decide +kernel
  refine ⟨hread, (value_identifierRule _).2 ((Option.any_eq_true _ _).1 haccepts), ?_, ?_⟩
  · rw [notices_identifierRule, if_pos hanchored]
  · intro h
    rw [(isFullMatch_iff_accepts.1 h).2 hread] at hanchored
    cases hanchored

end PatternRule
end GameTips
