import GameTips.Proofs.Conditions.Acceptance
import GameTips.Proofs.Conditions.Agreement

/-!
# What a condition asks

A test goes through the groups of a condition until one does not hold, and through the rules of a
group until one settles it (`evaluated`). So the trace of a test is that of the rules evaluated, in
order (`events_test`).

Of the rules on registry entries only those for a tag ask for something, the entry for that tag
(`events_registryRule`). `test_asks` says which tags a condition asks for, that it asks for none that
its element does not mention and for none twice in a group, and that entries that the element cannot
tell apart are tested in the same way.
-/

namespace GameTips.Conditions

/-! ## The rules that are evaluated -/

/-- Whether a group of a kind is settled by a rule, given whether the rule matches: one match is enough
for any and against none, and one that does not match is enough against all. -/
def settles : GroupKind → Bool → Bool
  | .anyOf, matched => matched
  | .allOf, matched => !matched
  | .noneOf, matched => matched

/-- The kinds of groups in the order in which they are tested. -/
def testingOrder : List GroupKind := [.anyOf, .allOf, .noneOf]

/-- Whether the group of a kind holds, or is missing, where `m` says which rules match. -/
def groupHolds (m : String → Bool) (e : Option Json) (kind : GroupKind) : Bool :=
  (elementRules e kind).all (joins kind m)

/-- The rules of a group up to the first that settles it. -/
def evaluatedIn (m : String → Bool) (e : Option Json) (kind : GroupKind) : List String :=
  (distinctRules e kind).throughFirst fun rule => settles kind (m rule)

/-- The rules that a test evaluates: those of the groups up to the first that does not hold. -/
def evaluated (m : String → Bool) (e : Option Json) : List String :=
  (testingOrder.throughFirst fun kind => !groupHolds m e kind).flatMap (evaluatedIn m e)

section Test

variable {σ : Type} {compiler : RuleCompiler σ}

/-- A test asks for the groups in turn. -/
theorem test_eq_allM (c : Conditions σ) (x : σ) :
    c.test x = testingOrder.allM fun kind => passes (c.group kind) x := by
  have hcons : ∀ (kind : GroupKind) (kinds : List GroupKind),
      ((kind :: kinds).allM fun kind => passes (c.group kind) x) =
        (do if ← passes (c.group kind) x then kinds.allM fun kind => passes (c.group kind) x
            else pure false) := by
    intro kind kinds
    rw [List.allM]
    congr 1
    funext holds
    cases holds <;> rfl
  have hlast : (do if ← passes (c.group .noneOf) x then pure true else pure false) =
      passes (c.group .noneOf) x := by
    refine Eq.trans ?_ (bind_pure _)
    congr 1
    funext holds
    cases holds <;> rfl
  rw [testingOrder, hcons, hcons, hcons, List.allM, hlast]
  rfl

theorem events_test_ofRules (kind : GroupKind) (rules : List String) (x : σ) :
    ((RuleGroup.ofRules compiler kind rules).test x).events =
      (rules.eraseDups.throughFirst fun rule =>
        settles kind (matchesRule compiler x rule)).flatMap fun rule =>
          ((compiler rule).value x).events := by
  unfold RuleGroup.test RuleGroup.ofRules matchesRule
  cases kind with
  | anyOf =>
    dsimp only
    rw [Traced.events_anyM, List.throughFirst_map, List.flatMap_map]
    rfl
  | allOf =>
    dsimp only
    rw [Traced.events_allM, List.throughFirst_map, List.flatMap_map]
    rfl
  | noneOf =>
    dsimp only
    rw [Traced.events_bind, Traced.events_pure, List.append_nil, Traced.events_anyM,
      List.throughFirst_map, List.flatMap_map]
    rfl

theorem group_of_outcome {e : Option Json} {c : Conditions σ}
    (h : (ofElement compiler e).outcome = .ok c) (kind : GroupKind) :
    c.group kind = (elementRules e kind).map (.ofRules compiler kind) := by
  rw [eq_ofRules_of_outcome h, group_ofRules]

theorem value_passes {e : Option Json} {c : Conditions σ}
    (h : (ofElement compiler e).outcome = .ok c) (kind : GroupKind) (x : σ) :
    (passes (c.group kind) x).value = groupHolds (matchesRule compiler x) e kind := by
  rw [group_of_outcome h, groupHolds]
  cases elementRules e kind with
  | none => rfl
  | some rules => exact value_test_ofRules kind rules x

theorem events_passes {e : Option Json} {c : Conditions σ}
    (h : (ofElement compiler e).outcome = .ok c) (kind : GroupKind) (x : σ) :
    (passes (c.group kind) x).events =
      (evaluatedIn (matchesRule compiler x) e kind).flatMap fun rule =>
        ((compiler rule).value x).events := by
  rw [group_of_outcome h, evaluatedIn, distinctRules]
  cases elementRules e kind with
  | none => rfl
  | some rules => exact events_test_ofRules kind rules x

theorem value_test_eq_all {e : Option Json} {c : Conditions σ}
    (h : (ofElement compiler e).outcome = .ok c) (x : σ) :
    (c.test x).value = testingOrder.all (groupHolds (matchesRule compiler x) e) := by
  rw [test_eq_allM, Traced.value_allM]
  simp only [value_passes h]

/-- **The trace of a test** is that of the rules it evaluates, for every compiler. -/
theorem events_test {e : Option Json} {c : Conditions σ}
    (h : (ofElement compiler e).outcome = .ok c) (x : σ) :
    (c.test x).events =
      (evaluated (matchesRule compiler x) e).flatMap fun rule => ((compiler rule).value x).events := by
  rw [test_eq_allM, Traced.events_allM, evaluated, List.flatMap_assoc]
  simp only [value_passes h, events_passes h]

end Test

/-! ## Rules that are evaluated alike -/

theorem joins_congr_matches (kind : GroupKind) {m m' : String → Bool} {rules : List String}
    (h : ∀ rule ∈ rules, m rule = m' rule) : joins kind m rules = joins kind m' rules := by
  have hmap : rules.map m = rules.map m' := List.map_congr_left h
  have hany : rules.any m = rules.any m' := by
    have hid := congrArg (List.any · id) hmap
    simpa [List.any_map] using hid
  have hall : rules.all m = rules.all m' := by
    have hid := congrArg (List.all · id) hmap
    simpa [List.all_map] using hid
  cases kind
  · exact hany
  · exact hall
  · exact congrArg not hany

theorem mem_distinctRules_iff {e : Option Json} {kind : GroupKind} {rule : String} :
    rule ∈ distinctRules e kind ↔ ∃ rules, elementRules e kind = some rules ∧ rule ∈ rules := by
  unfold distinctRules
  cases elementRules e kind with
  | none => simp
  | some rules => simp

theorem nodup_distinctRules (e : Option Json) (kind : GroupKind) : (distinctRules e kind).Nodup := by
  unfold distinctRules
  cases elementRules e kind with
  | none => exact List.nodup_nil
  | some rules => exact List.nodup_eraseDups rules

theorem evaluatedIn_sublist (m : String → Bool) (e : Option Json) (kind : GroupKind) :
    (evaluatedIn m e kind).Sublist (distinctRules e kind) :=
  List.throughFirst_sublist _

section Alike

variable {e : Option Json} {m m' : String → Bool}
  (h : ∀ kind, ∀ rule ∈ distinctRules e kind, m rule = m' rule)
include h

theorem groupHolds_congr (kind : GroupKind) : groupHolds m e kind = groupHolds m' e kind := by
  unfold groupHolds
  cases hrules : elementRules e kind with
  | none => rfl
  | some rules =>
    refine joins_congr_matches kind fun rule hrule => h kind rule ?_
    exact mem_distinctRules_iff.2 ⟨rules, hrules, hrule⟩

theorem evaluated_congr : evaluated m e = evaluated m' e := by
  have hgroup : ∀ kind, evaluatedIn m e kind = evaluatedIn m' e kind := by
    intro kind
    apply List.throughFirst_congr
    intro rule hrule
    rw [h kind rule hrule]
  unfold evaluated
  rw [funext (groupHolds_congr h), funext hgroup]

end Alike

/-! ## Rules on registry entries -/

/-- The tags that a test asks an entry for: those of the rules evaluated that are for a tag. -/
def askedTags (entry : RegistryEntry) (e : Option Json) : List Identifier :=
  (evaluated (matchesRule compileRegistryRule entry) e).filterMap tag?

/-- The tags that a test asks for in a group, if it gets there. -/
def askedTagsIn (entry : RegistryEntry) (e : Option Json) (kind : GroupKind) : List Identifier :=
  (evaluatedIn (matchesRule compileRegistryRule entry) e kind).filterMap tag?

/-- The element has a rule for a tag in a group of a kind. -/
def Mentions (e : Option Json) (kind : GroupKind) (tag : Identifier) : Prop :=
  ∃ rules, elementRules e kind = some rules ∧ "#" ++ tag.toString ∈ rules

/-- The element cannot tell two entries apart: they have the same id, or none, and carry the same of
the tags that it has rules for. -/
structure SameTo (e : Option Json) (entry entry' : RegistryEntry) : Prop where
  id : entry.id = entry'.id
  hasTag : ∀ kind tag, Mentions e kind tag → entry.hasTag tag = entry'.hasTag tag

/-- A rule asks for its tag, if it is for one, and for nothing else. -/
theorem events_registryRule (rule : String) (entry : RegistryEntry) :
    ((compileRegistryRule rule).value entry).events =
      (tag? rule).toList.map fun tag => .query (.isIn tag) := by
  have htag : (∀ tag, RuleForm.read? rule ≠ some (.tagged tag)) → tag? rule = none :=
    tag?_eq_none_of_read?
  unfold compileRegistryRule
  cases hread : RuleForm.read? rule with
  | none =>
    rw [htag (by simp [hread])]
    rfl
  | some f =>
    cases f with
    | exactly target =>
      rw [htag (by simp [hread])]
      rfl
    | inNamespace ns =>
      rw [htag (by simp [hread])]
      rfl
    | tagged tag =>
      rw [tag?_eq_some_iff_read?.2 hread]
      rfl
    | matching text =>
      rw [htag (by simp [hread])]
      dsimp only
      unfold compilePattern
      cases Pattern.ofRule? text <;> rfl

theorem flatMap_registryRules (rules : List String) (entry : RegistryEntry) :
    (rules.flatMap fun rule => ((compileRegistryRule rule).value entry).events) =
      (rules.filterMap tag?).map fun tag => .query (.isIn tag) := by
  simp only [events_registryRule, List.filterMap_eq_flatMap_toList, List.map_flatMap]

theorem mentions_iff {e : Option Json} {kind : GroupKind} {tag : Identifier} :
    Mentions e kind tag ↔ tag ∈ (distinctRules e kind).filterMap tag? := by
  rw [List.mem_filterMap]
  constructor
  · rintro ⟨rules, hrules, hmem⟩
    exact ⟨_, mem_distinctRules_iff.2 ⟨rules, hrules, hmem⟩, tag?_eq_some_iff.2 rfl⟩
  · rintro ⟨rule, hmem, htag⟩
    obtain rfl := tag?_eq_some_iff.1 htag
    exact mem_distinctRules_iff.1 hmem

theorem nodup_askedTagsIn (entry : RegistryEntry) (e : Option Json) (kind : GroupKind) :
    (askedTagsIn entry e kind).Nodup := by
  have hnodup : (evaluatedIn (matchesRule compileRegistryRule entry) e kind).Nodup :=
    (evaluatedIn_sublist _ e kind).nodup (nodup_distinctRules e kind)
  refine List.Pairwise.filterMap tag? ?_ hnodup
  intro rule rule' hne tag htag tag' htag' heq
  rw [tag?_eq_some_iff] at htag htag'
  apply hne
  rw [htag, htag', heq]

theorem mentions_of_mem_askedTagsIn {entry : RegistryEntry} {e : Option Json} {kind : GroupKind}
    {tag : Identifier} (h : tag ∈ askedTagsIn entry e kind) : Mentions e kind tag :=
  mentions_iff.2 (((evaluatedIn_sublist _ e kind).filterMap tag?).subset h)

theorem askedTags_eq (entry : RegistryEntry) (e : Option Json) :
    askedTags entry e =
      askedTagsIn entry e .anyOf ++
        if groupHolds (matchesRule compileRegistryRule entry) e .anyOf then
          askedTagsIn entry e .allOf ++
            if groupHolds (matchesRule compileRegistryRule entry) e .allOf then
              askedTagsIn entry e .noneOf
            else []
        else [] := by
  unfold askedTags evaluated askedTagsIn testingOrder
  rw [List.filterMap_flatMap]
  generalize matchesRule compileRegistryRule entry = m
  have hend : List.throughFirst (fun kind => !groupHolds m e kind) [] = [] := rfl
  simp only [List.throughFirst_cons, hend]
  cases groupHolds m e .anyOf
  · simp
  · cases groupHolds m e .allOf <;> simp

/-- An element that cannot tell entries apart has no rule that does. -/
theorem SameTo.matchesRule_eq {e : Option Json} {entry entry' : RegistryEntry}
    (h : SameTo e entry entry') {kind : GroupKind} {rule : String}
    (hrule : rule ∈ distinctRules e kind) :
    matchesRule compileRegistryRule entry rule = matchesRule compileRegistryRule entry' rule := by
  have htag : (tag? rule).any entry.hasTag = (tag? rule).any entry'.hasTag := by
    cases hread : tag? rule with
    | none => rfl
    | some tag =>
      have hmentions : Mentions e kind tag :=
        mentions_iff.2 (List.mem_filterMap.2 ⟨rule, hrule, hread⟩)
      exact h.hasTag kind tag hmentions
  rw [matchesRule_registry, matchesRule_registry, h.id, htag]

/-- **Which tags a condition asks an entry for.** A test shows nothing else. It goes through the rules
for any up to the first that matches; then, if any does or there are none, through those for all up to
the first that does not match; then, if all do or there are none, through those for none up to the
first that matches. So it only asks for tags that the element has a rule for, for each at most once in
a group, and entries that agree on these tags and have the same id get the same answer after the same
questions. -/
theorem test_asks {e : Option Json} {c : Conditions RegistryEntry}
    (h : (ofElement compileRegistryRule e).outcome = .ok c) :
    (∀ entry, (c.test entry).events = (askedTags entry e).map fun tag => .query (.isIn tag)) ∧
    (∀ entry, askedTags entry e =
      askedTagsIn entry e .anyOf ++
        if groupHolds (matchesRule compileRegistryRule entry) e .anyOf then
          askedTagsIn entry e .allOf ++
            if groupHolds (matchesRule compileRegistryRule entry) e .allOf then
              askedTagsIn entry e .noneOf
            else []
        else []) ∧
    (∀ entry kind tag, tag ∈ askedTagsIn entry e kind → Mentions e kind tag) ∧
    (∀ entry kind, (askedTagsIn entry e kind).Nodup) ∧
    ∀ entry entry', SameTo e entry entry' → c.test entry = c.test entry' := by
  have hevents : ∀ entry,
      (c.test entry).events = (askedTags entry e).map fun tag => .query (.isIn tag) := by
    intro entry
    rw [events_test h, flatMap_registryRules, askedTags]
  refine ⟨hevents, fun entry => askedTags_eq entry e, fun _ _ _ => mentions_of_mem_askedTagsIn,
    fun entry => nodup_askedTagsIn entry e, ?_⟩
  intro entry entry' hsame
  have hmatches : ∀ kind, ∀ rule ∈ distinctRules e kind,
      matchesRule compileRegistryRule entry rule = matchesRule compileRegistryRule entry' rule :=
    fun kind rule => hsame.matchesRule_eq
  apply Traced.ext
  · rw [value_test_eq_all h, value_test_eq_all h, funext (groupHolds_congr hmatches)]
  · rw [hevents, hevents, askedTags, askedTags, evaluated_congr hmatches]

/-- A tag of a sample registry of lands. -/
def sampleTag (path : String) (h : isPath path = true) : Identifier := ⟨"land", path, by decide, h⟩

/-- An entry that carries the tag `land:cold` only. -/
def sampleEntry : RegistryEntry where
  id := some (sampleTag "fen" (by decide))
  hasTag := fun tag => tag.path == "cold"

/-- Groups of all kinds that share the tag `land:cold`. -/
def sampleElement : Json :=
  .obj [("all_of", .arr [.str "#land:cold", .str "#land:dry", .str "#land:high"]),
    ("any_of", .arr [.str "land:moor", .str "#land:cold", .str "#land:cold", .str "#land:wet"]),
    ("none_of", .str "#land:cold")]

/-- The entry is asked for `land:cold` twice, in two groups, and then for the tag that it does not carry. -/
theorem test_asks_sampleEntry :
    ∃ c, (ofElement compileRegistryRule (some sampleElement)).outcome = .ok c ∧
      (c.test sampleEntry).events =
        [.query (.isIn (sampleTag "cold" (by decide))), .query (.isIn (sampleTag "cold" (by decide))),
          .query (.isIn (sampleTag "dry" (by decide)))] := by
  obtain ⟨c, hread⟩ : ∃ c, (ofElement compileRegistryRule (some sampleElement)).outcome = .ok c :=
    ⟨_, rfl⟩
  have hevents := (test_asks hread).1 sampleEntry
  have htags : askedTags sampleEntry (some sampleElement) =
      [sampleTag "cold" (by decide), sampleTag "cold" (by decide), sampleTag "dry" (by decide)] := by
    decide +kernel
  rw [htags] at hevents
  exact ⟨c, hread, hevents⟩

end GameTips.Conditions
