import GameTips.Proofs.Rule.Screens
import GameTips.Proofs.Tip.Checks
import GameTips.Proofs.Tip.Display

/-!
# The screens of a tip

A tip whose condition on screens is the sentinel leaves the decision to the host of its reader, and a
tip without such a condition to the host of the context. Where these answer alike, the tips are shown
in the same contexts (`displayed_builtIn`).

`screenRule_spec` joins this with what is compiled from a rule on screens, and what is asked.
-/

namespace GameTips

namespace Conditions

variable {σ : Type}

theorem outcome_ofElement_str (compiler : RuleCompiler σ) (rule : String) :
    (ofElement compiler (some (.str rule))).outcome =
      .ok ⟨some ⟨.anyOf, [rule], [(compiler rule).value]⟩, none, none⟩ := rfl

/-- A single rule is tested by its predicate. -/
theorem value_test_of_str {compiler : RuleCompiler σ} {rule : String} {c : Conditions σ}
    (h : (ofElement compiler (some (.str rule))).outcome = .ok c) (x : σ) :
    c.isEmpty = false ∧ (c.test x).value = ((compiler rule).value x).value := by
  rw [outcome_ofElement_str] at h
  obtain rfl := Except.ok.inj h
  refine ⟨rfl, ?_⟩
  rw [value_test]
  simp only [passes, RuleGroup.test, Traced.value_anyM, Traced.value_pure, Bool.and_true]
  exact Bool.or_false _

end Conditions

namespace TipReader

open EntryCheck

/-- The members of an entry, and the same without conditions on screens. -/
structure WithoutScreens (members members' : List (String × Json)) : Prop
    extends SameFields members members' where
  object : ∀ v, Json.get? TipField.conditions.key members' = some v → v.shape = .object
  screens : element? members' .screens = none
  element : ∀ c : Category, c ≠ .screens → element? members c = element? members' c

section Displayed

variable {members members' : List (String × Json)} {rule : String}

/-- Only an object has conditions. -/
theorem passes_of_element? {c : Category} {v : Json} (h : element? members c = some v)
    (fallback : Option RichText) : EntryCheck.Passes fallback members (.field .conditions) := by
  intro w hw
  unfold EntryCheck.element? at h
  rw [hw] at h
  cases w with
  | obj conditions => rfl
  | _ => cases h

/-- Leaving out the screens, where these are given by one rule, makes no difference to faults. -/
theorem WithoutScreens.fault?_eq (h : WithoutScreens members members')
    (hscreens : element? members .screens = some (.str rule)) (fallback : Option RichText) :
    fault? fallback members = fault? fallback members' := by
  refine h.toSameFields.fault?_eq ?_ fun c => ?_
  · rw [(EntryCheck.fault?_eq_none_iff _).2 (passes_of_element? hscreens fallback),
      (EntryCheck.fault?_eq_none_iff (.field .conditions)).2 h.object]
  · by_cases hc : c = .screens
    · rw [hc, hscreens, h.screens]
      rfl
    · rw [h.element c hc]

/-- The conditions of a category are the same if the elements are. -/
theorem eq_of_outcome {σ : Type} {compiler : RuleCompiler σ} {e e' : Option Json}
    {c c' : Conditions σ} (heq : e = e') (h : (Conditions.ofElement compiler e).outcome = .ok c)
    (h' : (Conditions.ofElement compiler e').outcome = .ok c') : c = c' := by
  rw [heq, h'] at h
  exact (Except.ok.inj h).symm

/-- **The sentinel is the default.** A tip for all built-in screens is read if the tip without
conditions on screens is, and it is shown in the same contexts if the hosts agree on the screen. -/
theorem displayed_builtIn (r : TipReader) (id : Identifier) (hrule : IsBuiltIn rule)
    (h : WithoutScreens members members') (hscreens : element? members .screens = some (.str rule))
    {ctx : DisplayContext} (hhost : ctx.host.renders ctx.screen = r.host.renders ctx.screen) :
    (r.read id (.obj members)).outcome.map (fun t => (t.canDisplay ctx).value) =
      (r.read id (.obj members')).outcome.map fun t => (t.canDisplay ctx).value := by
  refine Except.map_eq_map ?_ fun t t' ht ht' => ?_
  · rw [error?_read, error?_read, entryFault?, entryFault?, h.fault?_eq hscreens]
  · obtain ⟨_, hobj, -, -, -, -, -, hconditions⟩ := read_eq_ok_iff.1 ht
    obtain ⟨_, hobj', -, -, -, -, -, hconditions'⟩ := read_eq_ok_iff.1 ht'
    obtain rfl := Json.obj.inj hobj
    obtain rfl := Json.obj.inj hobj'
    obtain ⟨hs, hbiomes, hdimensions, hmilestones⟩ := ofElement_of_conditionsMember hconditions
    obtain ⟨hs', hbiomes', hdimensions', hmilestones'⟩ := ofElement_of_conditionsMember hconditions'
    have hallows : t.allowsScreen ctx = t'.allowsScreen ctx := by
      rw [hscreens] at hs
      rw [h.screens] at hs'
      obtain ⟨hempty, hvalue⟩ := Conditions.value_test_of_str hs ctx.screen
      have hempty' : t'.conditions.screens.isEmpty = true := by
        rw [← Except.ok.inj hs']
        rfl
      unfold Tip.allowsScreen
      rw [hempty, hempty', if_neg Bool.false_ne_true, if_pos rfl, hvalue,
        compileScreenRule_builtIn r.host hrule, hhost]
      rfl
    rw [Bool.eq_iff_iff, Tip.value_canDisplay, Tip.value_canDisplay, hallows,
      eq_of_outcome (h.element .biomes (by decide)) hbiomes hbiomes',
      eq_of_outcome (h.element .dimensions (by decide)) hdimensions hdimensions',
      eq_of_outcome (h.element .milestones (by decide)) hmilestones hmilestones']

end Displayed

end TipReader

/-- **What is compiled from a rule on screens**, for every host and every rule: what it says of each
screen, what is asked and what is logged. -/
theorem screenRule_spec (host : ScreenHost) :
    -- the sentinel leaves each test to the host
    (∀ rule, IsBuiltIn rule →
      compileScreenRule host rule = pure fun screen => host.canRenderOn screen) ∧
    -- an engine identifier asks for the screen type that the host names when it is compiled
    (∀ id : Identifier, id.ns = engineNamespace →
      (∀ screen, ((compileScreenRule host id.toString).value screen).value = true ↔
        host.typeOf id = some screen.qualifiedName) ∧
      (compileScreenRule host id.toString).queries = [.screenType host.label id] ∧
      (host.typeOf id = none → ∃ n : Notice, n.severity = .error ∧
        (compileScreenRule host id.toString).notices = [n]) ∧
      ((host.typeOf id).isSome → (compileScreenRule host id.toString).notices = [])) ∧
    -- another identifier is given up and never matches
    (∀ id : Identifier, ¬ IsBuiltIn id.toString → id.ns ≠ engineNamespace →
      (∀ screen, (compileScreenRule host id.toString).value screen = pure false) ∧
      ∃ n : Notice, n.severity = .error ∧
        (compileScreenRule host id.toString).events = [.notice n]) ∧
    -- other rules are names: qualified ones have a point, and their case does not count
    (∀ rule, ¬ IsBuiltIn rule → (∀ id : Identifier, rule ≠ id.toString) →
      (compileScreenRule host rule).events = [] ∧
      ('.' ∈ rule.toList → ∀ screen, ((compileScreenRule host rule).value screen).value =
        sameIgnoringCase screen.qualifiedName rule) ∧
      ('.' ∉ rule.toList →
        (∀ screen, ((compileScreenRule host rule).value screen).value = true ↔
          screen.simpleName = rule) ∧
        ∀ name, (Screen.named name).simpleName = rule ↔
          name = rule ∨ ∃ front, name = front ++ "." ++ rule)) ∧
    -- nothing else is asked, while a rule is compiled or when it is tested
    (∀ rule, (∀ id : Identifier, rule = id.toString → id.ns ≠ engineNamespace) →
      (compileScreenRule host rule).queries = []) ∧
    (∀ rule screen, ((compileScreenRule host rule).value screen).events =
      if sameIgnoringCase rule builtInScreens then
        [.query (.canRenderOn host.label screen.qualifiedName)]
      else []) ∧
    -- a tip for the built-in screens is shown where one without conditions on screens is
    ∀ (r : TipReader) (id : Identifier) (members members' : List (String × Json)) (rule : String)
      (ctx : DisplayContext), IsBuiltIn rule → TipReader.WithoutScreens members members' →
      EntryCheck.element? members .screens = some (.str rule) →
      ctx.host.renders ctx.screen = r.host.renders ctx.screen →
      (r.read id (.obj members)).outcome.map (fun t => (t.canDisplay ctx).value) =
        (r.read id (.obj members')).outcome.map fun t => (t.canDisplay ctx).value := by
  refine ⟨fun _ => compileScreenRule_builtIn host, ?_, ?_, ?_, queries_compileScreenRule_eq_nil host,
    events_test_screenRule host, fun r id _ _ _ _ hrule hwithout hscreens hhost =>
      r.displayed_builtIn id hrule hwithout hscreens hhost⟩
  · intro id hns
    rw [compileScreenRule_engine host hns]
    refine ⟨fun screen => beq_iff_eq, ?_, ?_, ?_⟩
    · cases host.typeOf id <;> rfl
    · intro hname
      rw [hname]
      exact ⟨_, rfl, rfl⟩
    · intro hname
      obtain ⟨name, hname⟩ := Option.isSome_iff_exists.1 hname
      rw [hname]
      rfl
  · intro id hrule hns
    rw [compileScreenRule_foreign host hrule hns]
    exact ⟨fun _ => rfl, _, rfl, rfl⟩
  · intro rule hrule hid
    rw [compileScreenRule_name host hrule hid]
    refine ⟨rfl, ?_, ?_⟩
    · intro hpoint screen
      simp [Predicate.ofTest, hpoint]
    · intro hpoint
      refine ⟨fun screen => ?_, fun name => Screen.lastPart_eq_iff hpoint⟩
      simp [Predicate.ofTest, hpoint]

end GameTips
