import GameTips.Proofs.Tip.Reading

/-!
# What reading an entry shows outside

Reading an entry asks the host for screen types and tells of rules that are given up, and shows
nothing else (`TipReader.read_emits`): what becomes of the entry in a catalog is for the catalog to
tell.
-/

namespace GameTips

/-- An event of compiling a rule: a screen type is looked up, or a rule given up. -/
def Event.IsOfCompiling : Event → Prop
  | .query (.screenType _ _) => True
  | .notice (.ruleDegraded _ _) => True
  | _ => False

/-! ## Rule compilers -/

namespace RuleCompiler

variable {σ : Type}

/-- The compiler shows nothing but events of compiling. -/
def IsReticent (compiler : RuleCompiler σ) : Prop :=
  ∀ rule, (compiler rule).Emits Event.IsOfCompiling

end RuleCompiler

section Compilers

variable {σ : Type}

theorem degraded_emits (fault : RuleFault) (rule : String) :
    (Predicate.degraded fault rule : Traced (Predicate σ)).Emits Event.IsOfCompiling :=
  Traced.Emits.bind (Traced.emits_note trivial) fun _ => Traced.emits_pure _

theorem compilePattern_emits (idOf : σ → Option Identifier) (rule text : String) :
    (compilePattern idOf rule text).Emits Event.IsOfCompiling := by
  unfold compilePattern
  split
  · exact Traced.emits_pure _
  · exact degraded_emits _ _

theorem isReticent_compileRegistryRule : RuleCompiler.IsReticent compileRegistryRule := by
  intro rule
  unfold compileRegistryRule
  split
  · exact Traced.emits_pure _
  · exact Traced.emits_pure _
  · exact Traced.emits_pure _
  · exact compilePattern_emits _ _ _
  · exact degraded_emits _ _

theorem isReticent_compileIdentifierRule : RuleCompiler.IsReticent compileIdentifierRule := by
  intro rule
  unfold compileIdentifierRule
  split
  · exact Traced.emits_pure _
  · exact Traced.emits_pure _
  · exact compilePattern_emits _ _ _
  all_goals exact degraded_emits _ _

theorem isReticent_compileMemberRule : RuleCompiler.IsReticent compileMemberRule := fun rule =>
  (isReticent_compileIdentifierRule rule).bind fun _ => Traced.emits_pure _

theorem isReticent_compileScreenRule (host : ScreenHost) :
    RuleCompiler.IsReticent (compileScreenRule host) := by
  intro rule
  unfold compileScreenRule
  split
  · exact Traced.emits_pure _
  · split
    · split
      · refine Traced.Emits.bind (Traced.emits_ask trivial _) fun name => ?_
        cases name with
        | some name => exact Traced.emits_pure _
        | none => exact degraded_emits _ _
      · exact degraded_emits _ _
    · split <;> exact Traced.emits_pure _

end Compilers

/-! ## Conditions -/

section Conditions

variable {σ : Type} {compiler : RuleCompiler σ}

theorem RuleGroup.compile_emits (h : compiler.IsReticent) (kind : GroupKind)
    (rules : List String) :
    (RuleGroup.compile compiler kind rules).Emits Event.IsOfCompiling := by
  unfold RuleGroup.compile
  dsimp only
  split
  · exact Traced.emits_pure _
  · exact (Traced.emits_mapM h _).bind fun _ => Traced.emits_pure _

theorem Conditions.readGroup_emits (h : compiler.IsReticent) (kind : GroupKind) (v : Json) :
    TracedReading.Emits Event.IsOfCompiling (Conditions.readGroup compiler kind v) := by
  unfold Conditions.readGroup
  refine (TracedReading.emits_mk_pure _).bind fun rules => ?_
  refine (TracedReading.emits_lift (RuleGroup.compile_emits h kind rules)).bind fun g => ?_
  cases g with
  | some g => exact TracedReading.emits_pure _
  | none => exact TracedReading.emits_throw _

theorem Conditions.readKey_emits (h : compiler.IsReticent) (kind : GroupKind)
    (members : List (String × Json)) :
    TracedReading.Emits Event.IsOfCompiling (Conditions.readKey compiler kind members) := by
  unfold Conditions.readKey
  split
  · exact TracedReading.emits_pure _
  · exact (Conditions.readGroup_emits h kind _).map _

theorem Conditions.ofElement_emits (h : compiler.IsReticent) (v : Option Json) :
    TracedReading.Emits Event.IsOfCompiling (Conditions.ofElement compiler v) := by
  unfold Conditions.ofElement
  split
  · exact TracedReading.emits_pure _
  · refine (Conditions.readKey_emits h _ _).bind fun allOf => ?_
    refine (Conditions.readKey_emits h _ _).bind fun noneOf => ?_
    refine (Conditions.readKey_emits h _ _).bind fun anyOf => ?_
    dsimp only
    split
    · exact TracedReading.emits_throw _
    · exact TracedReading.emits_pure _
  · exact (Conditions.readGroup_emits h _ _).bind fun _ => TracedReading.emits_pure _
  · exact (Conditions.readGroup_emits h _ _).bind fun _ => TracedReading.emits_pure _
  · exact TracedReading.emits_throw _

end Conditions

/-! ## Entries -/

namespace TipReader

theorem readCategory_emits {σ : Type} {compiler : RuleCompiler σ} (h : compiler.IsReticent)
    (category : Category) (members : List (String × Json)) :
    TracedReading.Emits Event.IsOfCompiling (readCategory compiler category members) :=
  (Conditions.ofElement_emits h _).adapt _

theorem readConditions_emits (r : TipReader) (members : List (String × Json)) :
    TracedReading.Emits Event.IsOfCompiling (r.readConditions members) := by
  unfold readConditions
  refine (readCategory_emits (isReticent_compileScreenRule _) _ _).bind fun screens => ?_
  refine (readCategory_emits isReticent_compileRegistryRule _ _).bind fun biomes => ?_
  refine (readCategory_emits isReticent_compileRegistryRule _ _).bind fun dimensions => ?_
  refine (readCategory_emits isReticent_compileMemberRule _ _).bind fun milestones => ?_
  exact TracedReading.emits_pure _

theorem conditionsMember_emits (r : TipReader) (members : List (String × Json)) :
    TracedReading.Emits Event.IsOfCompiling (r.conditionsMember members) := by
  unfold conditionsMember
  split
  · exact TracedReading.emits_pure _
  · exact r.readConditions_emits _
  · exact TracedReading.emits_throw _

theorem readMembers_emits (r : TipReader) (id : Identifier) (members : List (String × Json)) :
    TracedReading.Emits Event.IsOfCompiling (r.readMembers id members) := by
  rw [readMembers_eq]
  refine (TracedReading.emits_mk_pure _).bind fun _ => ?_
  refine (TracedReading.emits_mk_pure _).bind fun _ => ?_
  refine (TracedReading.emits_mk_pure _).bind fun _ => ?_
  refine (TracedReading.emits_mk_pure _).bind fun _ => ?_
  exact (r.conditionsMember_emits members).bind fun _ => TracedReading.emits_pure _

/-- **Reading an entry shows nothing but the events of compiling its rules.** -/
theorem read_emits (r : TipReader) (id : Identifier) (v : Json) :
    TracedReading.Emits Event.IsOfCompiling (r.read id v) := by
  unfold read
  apply TracedReading.Emits.adapt
  split
  · exact r.readMembers_emits id _
  · exact TracedReading.emits_throw _

end TipReader
end GameTips
