import GameTips.Tip.Display

/-!
# The display decision, step by step

The decision goes through a list of steps (`Tip.displaySteps`) and stops at the first that fails. Each
step may put one question of its own and may then test a condition, whose rules may put questions of
theirs. `Tip.canDisplay_eq_gate` says that the decision is that walk, and two inductions on the list
give its value, that all steps pass (`Tip.value_gate`), and its trace, that of the steps reached and a
notice of the one that failed (`Tip.events_gate`).

`Tip.canDisplay_spec` puts both in terms of the conditions of the tip: which steps there are, when the
tip is shown, and when each question is put.
-/

namespace GameTips

/-- A step of the display decision, as it goes if it is reached. -/
structure DisplayStep where
  /-- Why a tip is hidden that fails the step. -/
  reason : HideReason
  /-- What the step asks for itself. -/
  asks : Option Query
  /-- What decides the step once that is answered. -/
  test : Traced Bool

namespace DisplayStep

def passes (s : DisplayStep) : Bool :=
  s.test.value

def events (s : DisplayStep) : List Event :=
  s.asks.toList.map Event.query ++ s.test.events

/-- The steps that are reached: those up to the first that fails, with it. -/
def reached : List DisplayStep → List DisplayStep
  | [] => []
  | s :: rest => s :: if s.passes then reached rest else []

def failure? (steps : List DisplayStep) : Option DisplayStep :=
  steps.find? fun s => !s.passes

/-- The questions that steps ask for themselves, without those of the rules they test. -/
def asked (steps : List DisplayStep) : List Query :=
  steps.filterMap asks

/-- The questions that the rules of the tested conditions ask. -/
def askedByRules (steps : List DisplayStep) : List Query :=
  steps.flatMap fun s => s.test.queries

@[simp] theorem asked_cons (s : DisplayStep) (rest : List DisplayStep) :
    asked (s :: rest) = s.asks.toList ++ asked rest := by
  unfold asked
  rw [List.filterMap_cons]
  cases s.asks <;> rfl

theorem asked_cons_sublist {s : DisplayStep} {rest : List DisplayStep} {q : Query} {qs : List Query}
    (hown : s.asks = none ∨ s.asks = some q) (hrest : (asked rest).Sublist qs) :
    (asked (s :: rest)).Sublist (q :: qs) := by
  rw [asked_cons]
  rcases hown with h | h
  · rw [h]
    exact hrest.cons q
  · rw [h]
    exact hrest.cons_cons q

theorem asked_reached_cons (s : DisplayStep) (rest : List DisplayStep) :
    asked (reached (s :: rest)) =
      s.asks.toList ++ if s.passes then asked (reached rest) else [] := by
  rw [reached, asked_cons]
  split <;> rfl

theorem reached_sublist (steps : List DisplayStep) : (reached steps).Sublist steps := by
  induction steps with
  | nil => exact List.Sublist.refl []
  | cons s rest ih =>
    unfold reached
    refine List.Sublist.cons_cons s ?_
    split
    · exact ih
    · exact List.nil_sublist rest

/-- Every question in the trace of steps is one of their own or one of the rules they test. -/
theorem count_queries (q : Query) (steps : List DisplayStep) :
    ((steps.flatMap events).filterMap Event.query?).count q =
      (asked steps).count q + (askedByRules steps).count q := by
  induction steps with
  | nil => rfl
  | cons s rest ih =>
    have hown : (s.asks.toList.map Event.query).filterMap Event.query? = s.asks.toList := by
      cases s.asks <;> rfl
    simp only [List.flatMap_cons, List.filterMap_append, List.count_append, ih, events, hown,
      asked_cons, askedByRules, Traced.queries]
    omega

end DisplayStep

namespace Tip

/-! ## The walk through the steps -/

/-- Go through steps until one fails, and note why the tip is hidden if one does. -/
def gate (t : Tip) : List DisplayStep → Traced Bool
  | [] => pure true
  | s :: rest => do
    let passed ← ⟨s.passes, s.events⟩
    t.require s.reason passed (t.gate rest)

theorem value_gate (t : Tip) (steps : List DisplayStep) :
    (t.gate steps).value = steps.all DisplayStep.passes := by
  induction steps with
  | nil => rfl
  | cons s rest ih =>
    rw [gate, Traced.value_bind, List.all_cons, ← ih]
    unfold require
    cases s.passes <;> rfl

theorem events_gate (t : Tip) (steps : List DisplayStep) :
    (t.gate steps).events =
      (DisplayStep.reached steps).flatMap DisplayStep.events ++
        (DisplayStep.failure? steps).toList.map fun s => .notice (.tipHidden s.reason t.id) := by
  induction steps with
  | nil => rfl
  | cons s rest ih =>
    rw [gate, Traced.events_bind]
    unfold require DisplayStep.reached DisplayStep.failure?
    by_cases hpass : s.passes = true
    · rw [if_pos hpass, if_pos hpass, List.find?_cons_of_neg (by simpa using hpass),
        List.flatMap_cons, List.append_assoc, ih]
      rfl
    · rw [if_neg hpass, if_neg hpass, List.find?_cons_of_pos (by simpa using hpass)]
      simp

/-! ## The steps of a tip -/

/-- The step on the screen: its conditions, or the host if there are none. -/
def screenStep (t : Tip) (ctx : DisplayContext) : DisplayStep where
  reason := .screen
  asks :=
    if t.conditions.screens.isEmpty then
      some (.canRenderOn ctx.host.label ctx.screen.qualifiedName)
    else none
  test :=
    if t.conditions.screens.isEmpty then pure (ctx.host.renders ctx.screen)
    else t.conditions.screens.test ctx.screen

/-- The step on the player, who has to be there. -/
def playerStep (player : Option Player) : DisplayStep where
  reason := .noPlayer
  asks := none
  test := pure player.isSome

/-- The step on a fact about the player, which is asked for only if there are conditions on it. -/
def factStep {σ : Type} (reason : HideReason) (q : Query) (c : Conditions σ) (fact : σ) :
    DisplayStep where
  reason := reason
  asks := if c.isEmpty then none else some q
  test := if c.isEmpty then pure true else c.test fact

/-- The steps of the display decision, in order. -/
def displaySteps (t : Tip) (ctx : DisplayContext) : List DisplayStep :=
  t.screenStep ctx :: playerStep ctx.player ::
    match ctx.player with
    | none => []
    | some player =>
      [factStep .biome .biome t.conditions.biomes player.biome,
        factStep .dimension .dimension t.conditions.dimensions player.dimension,
        factStep .milestones .milestones t.conditions.milestones player.completed]

theorem screenPasses_eq (t : Tip) (ctx : DisplayContext) :
    t.screenPasses ctx = ⟨(t.screenStep ctx).passes, (t.screenStep ctx).events⟩ := by
  unfold screenPasses DisplayStep.passes DisplayStep.events screenStep
  split <;> rfl

theorem factPasses_eq {σ : Type} (reason : HideReason) (q : Query) (c : Conditions σ) (fact : σ) :
    factPasses c (Traced.ask q fact) =
      ⟨(factStep reason q c fact).passes, (factStep reason q c fact).events⟩ := by
  unfold factPasses DisplayStep.passes DisplayStep.events factStep
  split <;> rfl

theorem canDisplay_eq_gate (t : Tip) (ctx : DisplayContext) :
    t.canDisplay ctx = t.gate (t.displaySteps ctx) := by
  unfold canDisplay displaySteps
  rw [screenPasses_eq]
  cases ctx.player with
  | none => rfl
  | some player =>
    simp only [gate, Player.askBiome, Player.askDimension, Player.askMilestones]
    rw [factPasses_eq .biome, factPasses_eq .dimension, factPasses_eq .milestones]
    rfl

/-! ## The decision in terms of the conditions -/

/-- Whether a tip may be on the screen: by its conditions, or by the host if it has none. -/
def allowsScreen (t : Tip) (ctx : DisplayContext) : Bool :=
  if t.conditions.screens.isEmpty then ctx.host.renders ctx.screen
  else (t.conditions.screens.test ctx.screen).value

def allowsFact {σ : Type} (c : Conditions σ) (fact : σ) : Bool :=
  c.isEmpty || (c.test fact).value

/-- Why a tip is hidden: the first thing that does not allow it. -/
def hideReason? (t : Tip) (ctx : DisplayContext) : Option HideReason :=
  if !t.allowsScreen ctx then some .screen
  else
    match ctx.player with
    | none => some .noPlayer
    | some player =>
      if !allowsFact t.conditions.biomes player.biome then some .biome
      else if !allowsFact t.conditions.dimensions player.dimension then some .dimension
      else if !allowsFact t.conditions.milestones player.completed then some .milestones
      else none

@[simp] theorem passes_screenStep (t : Tip) (ctx : DisplayContext) :
    (t.screenStep ctx).passes = t.allowsScreen ctx := by
  unfold DisplayStep.passes screenStep allowsScreen
  split <;> rfl

@[simp] theorem passes_playerStep (player : Option Player) :
    (playerStep player).passes = player.isSome := rfl

@[simp] theorem passes_factStep {σ : Type} (reason : HideReason) (q : Query) (c : Conditions σ)
    (fact : σ) : (factStep reason q c fact).passes = allowsFact c fact := by
  unfold DisplayStep.passes factStep allowsFact
  by_cases h : c.isEmpty = true
  · rw [if_pos h, h]
    rfl
  · rw [if_neg h, Bool.eq_false_iff.2 h]
    rfl

/-- The questions that the decision puts itself, without those of the rules. -/
def asks (t : Tip) (ctx : DisplayContext) : List Query :=
  DisplayStep.asked (DisplayStep.reached (t.displaySteps ctx))

theorem toList_asks_factStep {σ : Type} (reason : HideReason) (q : Query) (c : Conditions σ)
    (fact : σ) : (factStep reason q c fact).asks.toList = if c.isEmpty then [] else [q] := by
  unfold factStep
  split <;> rfl

theorem toList_asks_screenStep (t : Tip) (ctx : DisplayContext) :
    (t.screenStep ctx).asks.toList =
      if t.conditions.screens.isEmpty then [.canRenderOn ctx.host.label ctx.screen.qualifiedName]
      else [] := by
  unfold screenStep
  split <;> rfl

/-- Each question is put where the step that puts it is reached and has to. -/
theorem asks_eq (t : Tip) (ctx : DisplayContext) :
    t.asks ctx =
      (t.screenStep ctx).asks.toList ++
        if t.allowsScreen ctx then
          match ctx.player with
          | none => []
          | some p =>
            (if t.conditions.biomes.isEmpty then [] else [Query.biome]) ++
              if allowsFact t.conditions.biomes p.biome then
                (if t.conditions.dimensions.isEmpty then [] else [Query.dimension]) ++
                  if allowsFact t.conditions.dimensions p.dimension then
                    if t.conditions.milestones.isEmpty then [] else [Query.milestones]
                  else []
              else []
        else [] := by
  unfold asks displaySteps
  rw [DisplayStep.asked_reached_cons, passes_screenStep]
  cases ctx.player with
  | none => rfl
  | some p =>
    have hasks : (playerStep (some p)).asks = none := rfl
    have hend : DisplayStep.asked (DisplayStep.reached []) = [] := rfl
    simp only [DisplayStep.asked_reached_cons, passes_playerStep, passes_factStep,
      toList_asks_factStep, hasks, hend, Option.isSome_some, if_true, ite_self, List.append_nil,
      Option.toList_none, List.nil_append]

/-- No question is put twice, and they come in a fixed order. -/
theorem asks_sublist (t : Tip) (ctx : DisplayContext) :
    (t.asks ctx).Sublist
      [.canRenderOn ctx.host.label ctx.screen.qualifiedName, .biome, .dimension, .milestones] := by
  refine ((DisplayStep.reached_sublist (t.displaySteps ctx)).filterMap DisplayStep.asks).trans ?_
  have hfact : ∀ {σ : Type} (reason : HideReason) (q : Query) (c : Conditions σ) (fact : σ),
      (factStep reason q c fact).asks = none ∨ (factStep reason q c fact).asks = some q := by
    intro σ reason q c fact
    by_cases h : c.isEmpty = true
    · exact Or.inl (if_pos h)
    · exact Or.inr (if_neg h)
  have hscreen : (t.screenStep ctx).asks = none ∨
      (t.screenStep ctx).asks = some (.canRenderOn ctx.host.label ctx.screen.qualifiedName) := by
    by_cases h : t.conditions.screens.isEmpty = true
    · exact Or.inr (if_pos h)
    · exact Or.inl (if_neg h)
  refine DisplayStep.asked_cons_sublist hscreen ?_
  show (DisplayStep.asked (playerStep ctx.player :: _)).Sublist _
  rw [DisplayStep.asked_cons]
  cases ctx.player with
  | none => exact List.nil_sublist _
  | some p =>
    exact DisplayStep.asked_cons_sublist (hfact ..) (DisplayStep.asked_cons_sublist (hfact ..)
      (DisplayStep.asked_cons_sublist (hfact ..) (List.Sublist.refl [])))

theorem failure?_displaySteps (t : Tip) (ctx : DisplayContext) :
    (DisplayStep.failure? (t.displaySteps ctx)).map DisplayStep.reason = t.hideReason? ctx := by
  unfold DisplayStep.failure? displaySteps hideReason?
  rw [List.find?_cons, passes_screenStep]
  cases t.allowsScreen ctx with
  | false => rfl
  | true =>
    cases ctx.player with
    | none => rfl
    | some p =>
      simp only [List.find?_cons, passes_playerStep, passes_factStep, Option.isSome_some]
      cases allowsFact t.conditions.biomes p.biome <;> try rfl
      cases allowsFact t.conditions.dimensions p.dimension <;> try rfl
      cases allowsFact t.conditions.milestones p.completed <;> rfl

theorem value_canDisplay (t : Tip) (ctx : DisplayContext) :
    (t.canDisplay ctx).value = true ↔
      t.allowsScreen ctx = true ∧ ∃ p, ctx.player = some p ∧
        allowsFact t.conditions.biomes p.biome = true ∧
        allowsFact t.conditions.dimensions p.dimension = true ∧
        allowsFact t.conditions.milestones p.completed = true := by
  rw [canDisplay_eq_gate, value_gate, displaySteps, List.all_cons, passes_screenStep,
    Bool.and_eq_true]
  refine and_congr_right fun _ => ?_
  cases ctx.player <;> simp

theorem events_canDisplay (t : Tip) (ctx : DisplayContext) :
    (t.canDisplay ctx).events =
      (DisplayStep.reached (t.displaySteps ctx)).flatMap DisplayStep.events ++
        (t.hideReason? ctx).toList.map fun reason => .notice (.tipHidden reason t.id) := by
  rw [canDisplay_eq_gate, events_gate, ← failure?_displaySteps, Option.toList_map, List.map_map]
  rfl

theorem count_queries_canDisplay (t : Tip) (ctx : DisplayContext) (q : Query) :
    (t.canDisplay ctx).queries.count q =
      (t.asks ctx).count q +
        (DisplayStep.askedByRules (DisplayStep.reached (t.displaySteps ctx))).count q := by
  have hnotice : ((t.hideReason? ctx).toList.map fun reason =>
      Event.notice (.tipHidden reason t.id)).filterMap Event.query? = [] := by
    cases t.hideReason? ctx <;> rfl
  rw [Traced.queries, events_canDisplay, List.filterMap_append, hnotice, List.append_nil]
  exact DisplayStep.count_queries q _

/-- **The display decision and its questions.** The tip is shown exactly if the screen, the player
and all facts about them allow it. The trace is that of the steps reached, in order, and then, for a
tip that is hidden, one notice of the first thing that does not allow it. Of the questions in it, the
decision puts each of four at most once, in a fixed order: to the host exactly if there are no
conditions on screens, and for a fact about the player exactly if everything before allows the tip
and there are conditions on the fact. All others are those of the rules. -/
theorem canDisplay_spec (t : Tip) (ctx : DisplayContext) :
    ((t.canDisplay ctx).value = true ↔
      t.allowsScreen ctx = true ∧ ∃ p, ctx.player = some p ∧
        allowsFact t.conditions.biomes p.biome = true ∧
        allowsFact t.conditions.dimensions p.dimension = true ∧
        allowsFact t.conditions.milestones p.completed = true) ∧
    (t.canDisplay ctx).events =
      (DisplayStep.reached (t.displaySteps ctx)).flatMap DisplayStep.events ++
        (t.hideReason? ctx).toList.map (fun reason => .notice (.tipHidden reason t.id)) ∧
    (∀ q, (t.canDisplay ctx).queries.count q =
      (t.asks ctx).count q +
        (DisplayStep.askedByRules (DisplayStep.reached (t.displaySteps ctx))).count q) ∧
    (t.asks ctx).Sublist
      [.canRenderOn ctx.host.label ctx.screen.qualifiedName, .biome, .dimension, .milestones] ∧
    (.canRenderOn ctx.host.label ctx.screen.qualifiedName ∈ t.asks ctx ↔
      t.conditions.screens.isEmpty = true) ∧
    (.biome ∈ t.asks ctx ↔
      t.allowsScreen ctx = true ∧ ctx.player.isSome ∧ t.conditions.biomes.isEmpty = false) ∧
    (.dimension ∈ t.asks ctx ↔
      t.allowsScreen ctx = true ∧ (∃ p, ctx.player = some p ∧
        allowsFact t.conditions.biomes p.biome = true) ∧
      t.conditions.dimensions.isEmpty = false) ∧
    (.milestones ∈ t.asks ctx ↔
      t.allowsScreen ctx = true ∧ (∃ p, ctx.player = some p ∧
        allowsFact t.conditions.biomes p.biome = true ∧
        allowsFact t.conditions.dimensions p.dimension = true) ∧
      t.conditions.milestones.isEmpty = false) := by
  refine ⟨t.value_canDisplay ctx, t.events_canDisplay ctx, t.count_queries_canDisplay ctx,
    t.asks_sublist ctx, ?_⟩
  rw [asks_eq, toList_asks_screenStep]
  cases ctx.player <;> simp [and_assoc]

end Tip
end GameTips
