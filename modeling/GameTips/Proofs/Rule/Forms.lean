import GameTips.Proofs.Identifier.Grammar
import GameTips.Proofs.Trace
import GameTips.Rule.Registry

/-!
# What a registry rule asks for

A rule has a form if it is written in the way of that form (`RuleForm.Fits`). No rule has two
(`Fits.unique`): the marks of tags and patterns are no letters, and a namespace has no colon. So the
forms can be tried in any order (`compileTrying_perm`), and a rule is compiled to what its form asks
for. A namespace is asked for regardless of case, but only letters without case make a namespace, so
nothing else is let in (`sameIgnoringCase_iff`).

`registryRule_spec` says what is compiled from every rule, and what is logged.
-/

namespace GameTips

namespace RuleForm

/-- The way in which a form is written. -/
def Fits (rule : String) : RuleForm → Prop
  | .exactly id => rule = id.toString
  | .inNamespace ns => rule = ns ∧ IsWord namespaceLetters ns
  | .tagged tag => rule = "#" ++ tag.toString
  | .matching text => rule = "~" ++ text

/-! ## Which texts are no identifiers -/

theorem exists_error_iff {s : String} :
    (∃ e, Identifier.parse s = .error e) ↔ ∀ id : Identifier, s ≠ id.toString := by
  constructor
  · rintro ⟨e, he⟩ id rfl
    rw [Identifier.parse_toString] at he
    cases he
  · intro h
    cases hread : Identifier.parse s with
    | error e => exact ⟨e, rfl⟩
    | ok id => exact absurd (Identifier.parse_eq_ok_iff.1 hread) (h id)

theorem colon_mem_toString (id : Identifier) : ':' ∈ id.toString.toList := by
  rw [Identifier.toList_toString]
  exact List.mem_append_right _ List.mem_cons_self

/-- A namespace is no identifier, as it has no colon. -/
theorem ne_toString_of_isWord {ns : String} (h : IsWord namespaceLetters ns) (id : Identifier) :
    ns ≠ id.toString := by
  rintro rfl
  have hcolon : ':' ∈ namespaceLetters.toList := h.2 ':' (colon_mem_toString id)
  exact absurd hcolon (by decide)

section Mark

variable {mark : Char} (hmark : mark ∉ namespaceLetters.toList)
include hmark

/-- An identifier starts with a letter. -/
theorem mark_append_ne_toString (text : String) (id : Identifier) :
    String.singleton mark ++ text ≠ id.toString := by
  intro h
  have hlist := congrArg String.toList h
  rw [Identifier.toList_toString, String.toList_append, String.toList_singleton] at hlist
  cases hns : id.ns.toList with
  | nil =>
    have hne := (isNamespace_iff.1 id.isNamespace_ns).1
    exact hne (String.toList_injective hns)
  | cons c rest =>
    rw [hns] at hlist
    have hc : mark = c := (List.cons.inj hlist).1
    apply hmark
    rw [← isNamespaceChar_iff, hc]
    exact id.isNamespaceChar_of_mem (by rw [hns]; exact List.mem_cons_self)

theorem isNamespace_mark_append (text : String) :
    isNamespace (String.singleton mark ++ text) = false := by
  rw [← Bool.not_eq_true, isNamespace_iff]
  intro hword
  exact hmark (hword.2 mark (by simp))

/-- The form of a rule that starts with a mark. -/
theorem read?_mark_append (text : String) :
    read? (String.singleton mark ++ text) =
      ((tag? (String.singleton mark ++ text)).map .tagged).or
        ((patternText? (String.singleton mark ++ text)).map .matching) := by
  -- Neither an identifier nor a namespace starts with the mark; this leaves the last two forms.
  obtain ⟨e, he⟩ := exists_error_iff.2 (mark_append_ne_toString hmark text)
  unfold read?
  rw [he]
  dsimp only
  rw [isNamespace_mark_append hmark text, if_neg Bool.false_ne_true]
  cases tag? (String.singleton mark ++ text) <;> rfl

end Mark

/-! ## The form of a rule -/

theorem patternText?_eq_some_iff {rule text : String} :
    patternText? rule = some text ↔ rule = "~" ++ text := by
  have hlist : ("~" ++ text).toList = '~' :: text.toList := by
    simp
  unfold patternText?
  constructor
  · intro h
    split at h
    · next rest hrest =>
      obtain rfl := Option.some.inj h
      apply String.toList_injective
      rw [hlist, hrest, String.toList_ofList]
    · cases h
  · rintro rfl
    rw [hlist]
    exact congrArg some String.ofList_toList

theorem read?_of_fits {rule : String} {f : RuleForm} (h : f.Fits rule) : read? rule = some f := by
  cases f with
  | exactly id =>
    obtain rfl := h
    unfold read?
    rw [Identifier.parse_toString]
  | inNamespace ns =>
    obtain ⟨rfl, hns⟩ := h
    obtain ⟨e, he⟩ := exists_error_iff.2 (ne_toString_of_isWord hns)
    unfold read?
    rw [he]
    exact if_pos (isNamespace_iff.2 hns)
  | tagged tag =>
    obtain rfl := h
    have htag := tag?_eq_some_iff.2 (rfl : "#" ++ tag.toString = _)
    have hmark : '#' ∉ namespaceLetters.toList := by decide
    have hread := read?_mark_append hmark tag.toString
    rw [show String.singleton '#' = "#" from rfl, htag] at hread
    exact hread
  | matching text =>
    obtain rfl := h
    have htag : tag? ("~" ++ text) = none := by
      unfold tag?
      rw [String.toList_append]
      rfl
    have htext := patternText?_eq_some_iff.2 (rfl : "~" ++ text = _)
    have hmark : '~' ∉ namespaceLetters.toList := by decide
    have hread := read?_mark_append hmark text
    rw [show String.singleton '~' = "~" from rfl, htag, htext] at hread
    exact hread

theorem fits_of_read? {rule : String} {f : RuleForm} (h : read? rule = some f) : f.Fits rule := by
  unfold read? at h
  split at h
  · next id hid =>
    obtain rfl := Option.some.inj h
    exact Identifier.parse_eq_ok_iff.1 hid
  · split at h
    · next hns =>
      obtain rfl := Option.some.inj h
      exact ⟨rfl, isNamespace_iff.1 hns⟩
    · split at h
      · next tag htag =>
        obtain rfl := Option.some.inj h
        exact tag?_eq_some_iff.1 htag
      · obtain ⟨text, htext, rfl⟩ := Option.map_eq_some_iff.1 h
        exact patternText?_eq_some_iff.1 htext

/-- **The form of a rule** is read exactly if the rule is written in its way. -/
theorem read?_eq_some_iff {rule : String} {f : RuleForm} : read? rule = some f ↔ f.Fits rule :=
  ⟨fits_of_read?, read?_of_fits⟩

theorem read?_eq_none_iff {rule : String} : read? rule = none ↔ ∀ f : RuleForm, ¬ f.Fits rule := by
  rw [Option.eq_none_iff_forall_ne_some]
  exact forall_congr' fun f => not_congr read?_eq_some_iff

/-- No rule has two forms. -/
theorem Fits.unique {rule : String} {f g : RuleForm} (hf : f.Fits rule) (hg : g.Fits rule) :
    f = g := by
  have hread := (read?_of_fits hf).symm.trans (read?_of_fits hg)
  exact Option.some.inj hread

end RuleForm

/-! ## Namespaces regardless of case -/

theorem toLower_of_mem_namespaceLetters {c : Char} (h : c ∈ namespaceLetters.toList) :
    c.toLower = c := by
  have hall : namespaceLetters.toList.all (fun c => c.toLower == c) = true := by decide
  exact beq_iff_eq.1 (List.all_eq_true.1 hall c h)

/-- Two namespaces that are the same up to case are the same. -/
theorem sameIgnoringCase_iff {s t : String} (hs : IsWord namespaceLetters s)
    (ht : IsWord namespaceLetters t) : sameIgnoringCase s t = true ↔ s = t := by
  have hlower : ∀ u : String, IsWord namespaceLetters u → u.toList.map Char.toLower = u.toList := by
    intro u hu
    have hmap : u.toList.map Char.toLower = u.toList.map id :=
      List.map_congr_left fun c hc => toLower_of_mem_namespaceLetters (hu.2 c hc)
    rw [hmap, List.map_id]
  unfold sameIgnoringCase
  rw [hlower s hs, hlower t ht, beq_iff_eq]
  exact String.toList_inj

/-! ## What is compiled -/

section Compiled

theorem compileRegistryRule_identifier (id : Identifier) :
    compileRegistryRule id.toString = pure (Predicate.ofTest fun entry => entry.id == some id) := by
  unfold compileRegistryRule
  rw [RuleForm.read?_of_fits (f := .exactly id) rfl]

theorem compileRegistryRule_namespace {ns : String} (h : IsWord namespaceLetters ns) :
    compileRegistryRule ns = pure (Predicate.ofTest fun entry => entry.id.any fun id => id.ns == ns) := by
  have hsame : ∀ id : Identifier, sameIgnoringCase id.ns ns = (id.ns == ns) := by
    intro id
    rw [Bool.eq_iff_iff, beq_iff_eq, sameIgnoringCase_iff (isNamespace_iff.1 id.isNamespace_ns) h]
  unfold compileRegistryRule
  rw [RuleForm.read?_of_fits (f := .inNamespace ns) ⟨rfl, h⟩]
  simp only [hsame]

theorem compileRegistryRule_tag (tag : Identifier) :
    compileRegistryRule ("#" ++ tag.toString) = pure fun entry => entry.isIn tag := by
  unfold compileRegistryRule
  rw [RuleForm.read?_of_fits (f := .tagged tag) rfl]

theorem compileRegistryRule_text (text : String) :
    compileRegistryRule ("~" ++ text) = compilePattern RegistryEntry.id ("~" ++ text) text := by
  unfold compileRegistryRule
  rw [RuleForm.read?_of_fits (f := .matching text) rfl]

theorem compileRegistryRule_pattern {text : String} {p : Pattern} (h : Pattern.ofRule? text = some p) :
    compileRegistryRule ("~" ++ text) = pure (Predicate.ofTest fun entry => entry.id.any p.accepts) := by
  rw [compileRegistryRule_text, compilePattern, h]

theorem compileRegistryRule_noPattern {text : String} (h : Pattern.ofRule? text = none) :
    compileRegistryRule ("~" ++ text) = Predicate.degraded .invalidPattern ("~" ++ text) := by
  rw [compileRegistryRule_text, compilePattern, h]

theorem compileRegistryRule_noForm {rule : String} (h : ∀ f : RuleForm, ¬ f.Fits rule) :
    compileRegistryRule rule = Predicate.degraded .noRegistryForm rule := by
  unfold compileRegistryRule
  rw [RuleForm.read?_eq_none_iff.2 h]

end Compiled

/-! ## The order of the forms -/

/-- The ways to compile a rule on registry entries, one for each form. -/
def registryAttempts : List (String → Option (Traced (Predicate RegistryEntry))) :=
  [fun rule => (Identifier.parse rule).toOption.map fun target =>
      pure (Predicate.ofTest fun entry => entry.id == some target),
    fun rule =>
      if isNamespace rule then
        some (pure (Predicate.ofTest fun entry => entry.id.any fun id => sameIgnoringCase id.ns rule))
      else none,
    fun rule => (tag? rule).map fun tag => pure fun entry => entry.isIn tag,
    fun rule => (patternText? rule).map (compilePattern RegistryEntry.id rule)]

/-- Compile by the first attempt that makes something of the rule; if none does, give it up. -/
def compileTrying (attempts : List (String → Option (Traced (Predicate RegistryEntry)))) :
    RuleCompiler RegistryEntry := fun rule =>
  (attempts.findSome? fun attempt => attempt rule).getD (Predicate.degraded .noRegistryForm rule)

/-- An attempt that makes something of a rule makes what is compiled. -/
theorem eq_compiled_of_attempt {attempt : String → Option (Traced (Predicate RegistryEntry))}
    (h : attempt ∈ registryAttempts) {rule : String} {x : Traced (Predicate RegistryEntry)}
    (hx : attempt rule = some x) : x = compileRegistryRule rule := by
  simp only [registryAttempts, List.mem_cons, List.not_mem_nil, or_false] at h
  rcases h with rfl | rfl | rfl | rfl
  · obtain ⟨target, htarget, rfl⟩ := Option.map_eq_some_iff.1 hx
    obtain rfl := Identifier.toOption_parse_eq_some_iff.1 htarget
    exact (compileRegistryRule_identifier target).symm
  · dsimp only at hx
    split at hx
    · next hns =>
      obtain rfl := Option.some.inj hx
      unfold compileRegistryRule
      rw [RuleForm.read?_of_fits (f := .inNamespace rule) ⟨rfl, isNamespace_iff.1 hns⟩]
    · cases hx
  · obtain ⟨tag, htag, rfl⟩ := Option.map_eq_some_iff.1 hx
    obtain rfl := tag?_eq_some_iff.1 htag
    exact (compileRegistryRule_tag tag).symm
  · obtain ⟨text, htext, rfl⟩ := Option.map_eq_some_iff.1 hx
    obtain rfl := RuleForm.patternText?_eq_some_iff.1 htext
    exact (compileRegistryRule_text text).symm

/-- For each form there is an attempt that makes something of the rules of that form. -/
theorem exists_attempt_of_fits {rule : String} {f : RuleForm} (h : f.Fits rule) :
    ∃ attempt ∈ registryAttempts, attempt rule ≠ none := by
  cases f with
  | exactly id =>
    refine ⟨_, List.mem_cons_self, ?_⟩
    rw [Identifier.toOption_parse_eq_some_iff.2 h]
    exact Option.some_ne_none _
  | inNamespace ns =>
    refine ⟨_, List.mem_cons_of_mem _ List.mem_cons_self, ?_⟩
    obtain ⟨rfl, hns⟩ := h
    rw [if_pos (isNamespace_iff.2 hns)]
    exact Option.some_ne_none _
  | tagged tag =>
    refine ⟨_, List.mem_cons_of_mem _ (List.mem_cons_of_mem _ List.mem_cons_self), ?_⟩
    rw [tag?_eq_some_iff.2 h]
    exact Option.some_ne_none _
  | matching text =>
    refine ⟨_, List.mem_of_getElem? (i := 3) rfl, ?_⟩
    rw [RuleForm.patternText?_eq_some_iff.2 h]
    exact Option.some_ne_none _

/-- **The order of the attempts does not matter.** -/
theorem compileTrying_perm {attempts : List (String → Option (Traced (Predicate RegistryEntry)))}
    (h : attempts.Perm registryAttempts) : compileTrying attempts = compileRegistryRule := by
  funext rule
  unfold compileTrying
  cases hfind : attempts.findSome? fun attempt => attempt rule with
  | some x =>
    obtain ⟨attempt, hmem, hx⟩ := List.exists_of_findSome?_eq_some hfind
    exact eq_compiled_of_attempt (h.mem_iff.1 hmem) hx
  | none =>
    have hnone := List.findSome?_eq_none_iff.1 hfind
    refine (compileRegistryRule_noForm fun f hf => ?_).symm
    obtain ⟨attempt, hmem, hsome⟩ := exists_attempt_of_fits hf
    exact hsome (hnone attempt (h.mem_iff.2 hmem))

/-! ## Rules that are given up -/

/-- A rule of no form, or one whose pattern is none. -/
def IsGivenUp (rule : String) : Prop :=
  (∀ f : RuleForm, ¬ f.Fits rule) ∨ ∃ text, rule = "~" ++ text ∧ Pattern.ofRule? text = none

theorem compileRegistryRule_of_isGivenUp {rule : String} (h : IsGivenUp rule) :
    ∃ fault, compileRegistryRule rule = Predicate.degraded fault rule := by
  rcases h with hform | ⟨text, rfl, hpattern⟩
  · exact ⟨_, compileRegistryRule_noForm hform⟩
  · exact ⟨_, compileRegistryRule_noPattern hpattern⟩

/-- Nothing is logged for a rule that is not given up. -/
theorem events_of_not_isGivenUp {rule : String} (h : ¬ IsGivenUp rule) :
    (compileRegistryRule rule).events = [] := by
  unfold IsGivenUp at h
  push Not at h
  obtain ⟨⟨f, hf⟩, hpattern⟩ := h
  cases f with
  | exactly id =>
    obtain rfl := hf
    rw [compileRegistryRule_identifier, Traced.events_pure]
  | inNamespace ns =>
    obtain ⟨rfl, hns⟩ := hf
    rw [compileRegistryRule_namespace hns, Traced.events_pure]
  | tagged tag =>
    obtain rfl := hf
    rw [compileRegistryRule_tag, Traced.events_pure]
  | matching text =>
    obtain ⟨p, hp⟩ := Option.ne_none_iff_exists'.1 (hpattern text hf)
    obtain rfl := hf
    rw [compileRegistryRule_pattern hp, Traced.events_pure]

/-- **What is compiled from a rule on registry entries**, for every rule and every entry, and what is
logged. -/
theorem registryRule_spec :
    -- no rule has two forms, so the forms can be tried in any order
    (∀ rule (f g : RuleForm), f.Fits rule → g.Fits rule → f = g) ∧
    (∀ attempts, attempts.Perm registryAttempts → compileTrying attempts = compileRegistryRule) ∧
    -- an identifier is asked for as it is
    (∀ id entry, ((compileRegistryRule id.toString).value entry).value = true ↔
      entry.id = some id) ∧
    -- a namespace is asked for regardless of case, which lets in nothing else
    (∀ ns, IsWord namespaceLetters ns →
      (∀ entry, ((compileRegistryRule ns).value entry).value = true ↔
        ∃ id, entry.id = some id ∧ id.ns = ns) ∧
      ∀ id : Identifier, sameIgnoringCase id.ns ns = true ↔ id.ns = ns) ∧
    -- a tag is asked of the entry, bound or not
    (∀ tag entry, (compileRegistryRule ("#" ++ tag.toString)).value entry = entry.isIn tag) ∧
    -- a pattern is looked for in the written form of the identifier
    (∀ text p, Pattern.ofRule? text = some p → ∀ entry,
      ((compileRegistryRule ("~" ++ text)).value entry).value = true ↔
        ∃ id, entry.id = some id ∧ p.accepts id = true) ∧
    -- any other rule is given up and never matches
    (∀ rule, IsGivenUp rule → (∀ entry, (compileRegistryRule rule).value entry = pure false) ∧
      ∃ n : Notice, (compileRegistryRule rule).events = [.notice n] ∧ n.severity = .error) ∧
    (∀ rule, ¬ IsGivenUp rule → (compileRegistryRule rule).events = []) := by
  refine ⟨fun _ _ _ => RuleForm.Fits.unique, fun _ => compileTrying_perm, ?_, ?_, ?_, ?_, ?_,
    fun _ => events_of_not_isGivenUp⟩
  · intro id entry
    rw [compileRegistryRule_identifier]
    exact beq_iff_eq
  · intro ns hns
    refine ⟨fun entry => ?_, fun id => sameIgnoringCase_iff (isNamespace_iff.1 id.isNamespace_ns) hns⟩
    rw [compileRegistryRule_namespace hns]
    simp [Predicate.ofTest, Option.any_eq_true]
  · intro tag entry
    rw [compileRegistryRule_tag, Traced.value_pure]
  · intro text p hp entry
    rw [compileRegistryRule_pattern hp]
    simp [Predicate.ofTest, Option.any_eq_true]
  · intro rule hrule
    obtain ⟨fault, hcompiled⟩ := compileRegistryRule_of_isGivenUp hrule
    rw [hcompiled]
    exact ⟨fun _ => rfl, _, rfl, rfl⟩

end GameTips
