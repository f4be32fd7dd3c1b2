import GameTips.Proofs.Rule.Forms
import GameTips.Rule.Screen
import Mathlib.Data.List.TakeWhile

/-!
# What a screen rule asks for

The forms of screen rules are tried in turn, and they overlap: the sentinel could be read as an
identifier, and identifiers may hold points. `ScreenForm` says which form a rule has if those before
it do not apply, and every rule has one (`screenForm`). There is one equation for what is compiled
from a rule of each form. From these it follows which rules put questions, and when: the host is
asked for the type of a screen only while an engine identifier is compiled
(`queries_compileScreenRule_eq_nil`), and about drawing only when the sentinel is tested
(`events_test_screenRule`).
-/

namespace GameTips

/-! ## Simple names -/

/-- A text without points is the last part of a name if it is the name, or follows a point at its
end. -/
theorem Screen.lastPart_eq_iff {name part : String} (h : '.' ∉ part.toList) :
    lastPart name = part ↔ name = part ∨ ∃ front, name = front ++ "." ++ part := by
  have hall : ∀ c ∈ part.toList.reverse, decide (c ≠ '.') = true := by
    intro c hc
    rw [decide_eq_true_eq]
    rintro rfl
    exact h (List.mem_reverse.1 hc)
  unfold lastPart
  constructor
  · rintro rfl
    have hsplit : name.toList.reverse.takeWhile (· ≠ '.') ++ name.toList.reverse.dropWhile (· ≠ '.') =
        name.toList.reverse := List.takeWhile_append_dropWhile
    have hname : name = String.ofList (name.toList.reverse.dropWhile (· ≠ '.')).reverse ++
        String.ofList (name.toList.reverse.takeWhile (· ≠ '.')).reverse := by
      rw [← String.ofList_append, ← List.reverse_append, hsplit, List.reverse_reverse,
        String.ofList_toList]
    cases hback : name.toList.reverse.dropWhile (· ≠ '.') with
    | nil =>
      left
      rw [hback] at hname
      exact hname.trans String.empty_append
    | cons c rest =>
      right
      have hc : decide (c ≠ '.') = false := by
        have hhead := List.head?_dropWhile_not (fun c => decide (c ≠ '.')) name.toList.reverse
        rw [hback] at hhead
        exact hhead
      obtain rfl : c = '.' := by simpa using hc
      rw [hback, List.reverse_cons, String.ofList_append] at hname
      exact ⟨_, hname⟩
  · rintro (rfl | ⟨front, rfl⟩)
    · rw [List.takeWhile_eq_self_iff.2 hall, List.reverse_reverse, String.ofList_toList]
    · have hlist : (front ++ "." ++ part).toList.reverse =
          part.toList.reverse ++ '.' :: front.toList.reverse := by simp
      rw [hlist, List.takeWhile_append_of_pos hall]
      simp

/-! ## The form of a rule -/

/-- The rule is the sentinel, in whatever case. -/
abbrev IsBuiltIn (rule : String) : Prop :=
  sameIgnoringCase rule builtInScreens = true

/-- The form of a rule: the first that fits. -/
inductive ScreenForm : String → Prop
  | builtIn {rule : String} : IsBuiltIn rule → ScreenForm rule
  | engine {id : Identifier} : id.ns = engineNamespace → ScreenForm id.toString
  | foreign {id : Identifier} : ¬ IsBuiltIn id.toString → id.ns ≠ engineNamespace →
      ScreenForm id.toString
  | qualified {rule : String} : ¬ IsBuiltIn rule → (∀ id : Identifier, rule ≠ id.toString) →
      '.' ∈ rule.toList → ScreenForm rule
  | simple {rule : String} : ¬ IsBuiltIn rule → (∀ id : Identifier, rule ≠ id.toString) →
      '.' ∉ rule.toList → ScreenForm rule

theorem screenForm (rule : String) : ScreenForm rule := by
  by_cases hrule : IsBuiltIn rule
  · exact .builtIn hrule
  · by_cases hid : ∃ id : Identifier, rule = id.toString
    · obtain ⟨id, rfl⟩ := hid
      by_cases hns : id.ns = engineNamespace
      · exact .engine hns
      · exact .foreign hrule hns
    · have hne : ∀ id : Identifier, rule ≠ id.toString := fun id heq => hid ⟨id, heq⟩
      by_cases hpoint : '.' ∈ rule.toList
      · exact .qualified hrule hne hpoint
      · exact .simple hrule hne hpoint

/-- The sentinel names no engine screen: its namespace is another, whatever the case. -/
theorem not_isBuiltIn_of_engine {id : Identifier} (h : id.ns = engineNamespace) :
    ¬ IsBuiltIn id.toString := by
  have hletter : ('m' :: "inecraft".toList.map Char.toLower ++ (':' :: id.path.toList).map Char.toLower) ≠
      't' :: "ipsmod:built-in".toList.map Char.toLower :=
    fun heq => absurd (List.cons.inj heq).1 (by decide)
  unfold IsBuiltIn sameIgnoringCase
  rw [Identifier.toList_toString, h, beq_iff_eq, List.map_append]
  exact hletter

/-- A namespace is in lower case, so case does not matter when it is compared. -/
theorem sameIgnoringCase_engineNamespace (id : Identifier) :
    sameIgnoringCase id.ns engineNamespace = true ↔ id.ns = engineNamespace :=
  sameIgnoringCase_iff (isNamespace_iff.1 id.isNamespace_ns) (isNamespace_iff.1 (by decide))

/-! ## What is compiled -/

section Compiled

variable (host : ScreenHost) {rule : String} {id : Identifier}

theorem compileScreenRule_builtIn (h : IsBuiltIn rule) :
    compileScreenRule host rule = pure fun screen => host.canRenderOn screen :=
  if_pos h

theorem compileScreenRule_engine (h : id.ns = engineNamespace) :
    compileScreenRule host id.toString =
      ⟨Predicate.ofTest fun screen => host.typeOf id == some screen.qualifiedName,
        .query (.screenType host.label id) ::
          if (host.typeOf id).isNone then [.notice (.ruleDegraded .unknownScreen id.toString)]
          else []⟩ := by
  unfold compileScreenRule
  rw [if_neg (not_isBuiltIn_of_engine h), Identifier.parse_toString]
  dsimp only
  rw [if_pos ((sameIgnoringCase_engineNamespace id).2 h), ScreenHost.screenType]
  cases hname : host.typeOf id with
  | none => rfl
  | some name =>
    apply Traced.ext
    · have hsame : ∀ screen : Screen,
          (screen.qualifiedName == name) = (some name == some screen.qualifiedName) := by
        intro screen
        rw [Bool.eq_iff_iff, beq_iff_eq, beq_iff_eq, Option.some_inj, eq_comm]
      exact congrArg Predicate.ofTest (funext hsame)
    · rfl

theorem compileScreenRule_foreign (h : ¬ IsBuiltIn id.toString) (hns : id.ns ≠ engineNamespace) :
    compileScreenRule host id.toString = Predicate.degraded .foreignScreen id.toString := by
  unfold compileScreenRule
  rw [if_neg h, Identifier.parse_toString]
  dsimp only
  rw [if_neg fun hsame => hns ((sameIgnoringCase_engineNamespace id).1 hsame)]

theorem compileScreenRule_name (h : ¬ IsBuiltIn rule) (hid : ∀ id : Identifier, rule ≠ id.toString) :
    compileScreenRule host rule =
      pure (Predicate.ofTest fun screen =>
        if '.' ∈ rule.toList then sameIgnoringCase screen.qualifiedName rule
        else screen.simpleName == rule) := by
  obtain ⟨e, he⟩ := RuleForm.exists_error_iff.2 hid
  unfold compileScreenRule
  rw [if_neg h, he]
  dsimp only
  by_cases hpoint : '.' ∈ rule.toList
  · simp [hpoint]
  · simp [hpoint]

end Compiled

/-! ## When the host is asked -/

section Questions

variable (host : ScreenHost) (rule : String)

/-- Nothing is asked while a rule is compiled that is no engine identifier. -/
theorem queries_compileScreenRule_eq_nil
    (h : ∀ id : Identifier, rule = id.toString → id.ns ≠ engineNamespace) :
    (compileScreenRule host rule).queries = [] := by
  cases screenForm rule with
  | builtIn hrule =>
    rw [compileScreenRule_builtIn host hrule]
    rfl
  | @engine id hns => exact absurd hns (h id rfl)
  | foreign hrule hns =>
    rw [compileScreenRule_foreign host hrule hns]
    rfl
  | qualified hrule hid _ | simple hrule hid _ =>
    rw [compileScreenRule_name host hrule hid]
    rfl

/-- Of all rules, only the sentinel asks anything when it is tested. -/
theorem events_test_screenRule (screen : Screen) :
    ((compileScreenRule host rule).value screen).events =
      if sameIgnoringCase rule builtInScreens then
        [.query (.canRenderOn host.label screen.qualifiedName)]
      else [] := by
  cases screenForm rule with
  | builtIn h =>
    rw [compileScreenRule_builtIn host h, if_pos h]
    rfl
  | @engine id hns =>
    rw [compileScreenRule_engine host hns, if_neg (not_isBuiltIn_of_engine hns)]
    rfl
  | foreign h hns =>
    rw [compileScreenRule_foreign host h hns, if_neg h]
    rfl
  | qualified h hid _ | simple h hid _ =>
    rw [compileScreenRule_name host h hid, if_neg h]
    rfl

end Questions
end GameTips
