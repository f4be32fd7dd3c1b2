import GameTips.Proofs.Conditions.Meaning
import GameTips.Proofs.Json.Members
import GameTips.Proofs.Lists

/-!
# Writing a condition and reading it again

A condition is written from the rules of its groups alone (`toJson?_ofRules`), and what is written
holds these rules again (`elementRules_written`). So a condition that was read is given back by its
written form, and different rules are written differently. The written form is the element itself if
that is canonical (`written_eq_iff`): short where a group of any stands alone, arrays in an object
otherwise, and every rule once.
-/

namespace GameTips

/-- An array of different strings, of which there are at least so many. -/
def Json.IsDistinctStrings (least : Nat) (v : Json) : Prop :=
  ∃ texts : List String, v = Json.strings texts ∧ texts.Nodup ∧ least ≤ texts.length

/-- A string, an array of several different strings, or an object with groups under their keys, one
of all or of none among them, each as an array of different strings. -/
def Json.IsCanonical : Json → Prop
  | .str _ => True
  | .arr items => (Json.arr items).IsDistinctStrings 2
  | .obj members =>
    (∀ m ∈ members, (∃ kind : GroupKind, m.1 = kind.key) ∧ m.2.IsDistinctStrings 1) ∧
      (GroupKind.allOf.key ∈ members.map Prod.fst ∨ GroupKind.noneOf.key ∈ members.map Prod.fst)
  | _ => False

theorem Json.ruleTexts_strings (texts : List String) : (Json.strings texts).ruleTexts = texts := by
  show (texts.map Json.str).filterMap Json.text? = texts
  rw [List.filterMap_map]
  exact List.filterMap_some

theorem Json.strings_injective {xs ys : List String} (h : Json.strings xs = Json.strings ys) :
    xs = ys := by
  rw [← ruleTexts_strings xs, h, ruleTexts_strings]

theorem Json.holdsRules_strings {texts : List String} (h : texts ≠ []) :
    (Json.strings texts).HoldsRules := by
  refine ⟨by simpa using h, ?_⟩
  intro v hv
  obtain ⟨s, -, rfl⟩ := List.mem_map.1 hv
  rfl

/-- An array that makes a group has nothing but its rules. -/
theorem Json.arr_eq_strings {items : List Json} (h : (Json.arr items).HoldsRules) :
    Json.arr items = Json.strings (Json.arr items).ruleTexts := by
  have hitems : ∀ items : List Json, (∀ v ∈ items, v.text?.isSome) →
      items = (items.filterMap Json.text?).map .str := by
    intro items
    induction items with
    | nil => exact fun _ => rfl
    | cons v rest ih =>
      intro hall
      have hrest := ih fun w hw => hall w (List.mem_cons_of_mem v hw)
      cases v with
      | str rule =>
        show Json.str rule :: rest = Json.str rule :: _
        rw [← hrest]
      | _ => cases hall _ List.mem_cons_self
  exact congrArg Json.arr (hitems items h.2)

theorem RuleGroup.ofRules_eraseDups {σ : Type} (compiler : RuleCompiler σ) (kind : GroupKind)
    (rules : List String) :
    RuleGroup.ofRules compiler kind rules.eraseDups = RuleGroup.ofRules compiler kind rules := by
  unfold RuleGroup.ofRules
  rw [List.eraseDups_of_nodup (List.nodup_eraseDups rules)]

theorem GroupKind.key_injective {a b : GroupKind} (h : a.key = b.key) : a = b := by
  cases a <;> cases b <;> first | rfl | exact absurd h (by decide)

namespace Conditions

variable {σ : Type} {compiler : RuleCompiler σ} {rules : GroupKind → Option (List String)}

/-- Every group has rules, and has each of them once. -/
def Distinct (rules : GroupKind → Option (List String)) : Prop :=
  ∀ kind texts, rules kind = some texts → texts ≠ [] ∧ texts.Nodup

/-! ## What was read -/

theorem rules?_of_outcome {e : Option Json} {c : Conditions σ}
    (h : (ofElement compiler e).outcome = .ok c) (kind : GroupKind) :
    c.rules? kind = (elementRules e kind).map List.eraseDups := by
  rw [rules?, (group_of_outcome_eq_ok h kind).2, elementRules, Option.map_map, Option.map_map]
  rfl

/-- A condition that was read is the one with its rules. -/
theorem eq_ofRules {e : Option Json} {c : Conditions σ}
    (h : (ofElement compiler e).outcome = .ok c) : c = ofRules compiler c.rules? := by
  apply eq_of_group_eq
  intro kind
  rw [group_ofRules, rules?_of_outcome h, (group_of_outcome_eq_ok h kind).2, elementRules,
    Option.map_map, Option.map_map]
  congr 1
  funext v
  exact (RuleGroup.ofRules_eraseDups compiler kind v.ruleTexts).symm

theorem distinct_rules? {e : Option Json} {c : Conditions σ}
    (h : (ofElement compiler e).outcome = .ok c) : Distinct c.rules? := by
  intro kind texts htexts
  rw [rules?_of_outcome h, elementRules, Option.map_map, Option.map_eq_some_iff] at htexts
  obtain ⟨v, hv, rfl⟩ := htexts
  have hne := (ruleStrings_of_holdsRules kind ((group_of_outcome_eq_ok h kind).1 v hv)).2
  refine ⟨?_, List.nodup_eraseDups _⟩
  obtain ⟨rule, hrule⟩ := List.exists_mem_of_ne_nil _ hne
  exact List.ne_nil_of_mem (List.mem_eraseDups.2 hrule)

/-! ## The written form -/

/-- The short form of a group of any. -/
def shortForm : List String → Json
  | [rule] => .str rule
  | texts => Json.strings texts

/-- The member of the long form for a kind of group. -/
def ruleMember? (rules : GroupKind → Option (List String)) (kind : GroupKind) :
    Option (String × Json) :=
  (rules kind).map fun texts => (kind.key, Json.strings texts)

/-- The members of the long form, before they are sorted. -/
def longForm (rules : GroupKind → Option (List String)) : List (String × Json) :=
  (ruleMember? rules .anyOf).toList ++ (ruleMember? rules .allOf).toList ++
    (ruleMember? rules .noneOf).toList

theorem holdsRules_shortForm {texts : List String} (h : texts ≠ []) :
    (shortForm texts).HoldsRules ∧ (shortForm texts).ruleTexts = texts := by
  unfold shortForm
  split
  · exact ⟨trivial, rfl⟩
  · exact ⟨Json.holdsRules_strings h, Json.ruleTexts_strings texts⟩

theorem toJson?_ofRules_congr {τ : Type} (compiler : RuleCompiler σ) (compiler' : RuleCompiler τ)
    (rules : GroupKind → Option (List String)) :
    (ofRules compiler rules).toJson? = (ofRules compiler' rules).toJson? := by
  unfold toJson? ofRules
  cases rules .anyOf <;> cases rules .allOf <;> cases rules .noneOf <;> rfl

theorem toJson?_short {texts : List String} (hdistinct : Distinct rules)
    (hany : rules .anyOf = some texts) (hall : rules .allOf = none) (hnone : rules .noneOf = none) :
    (ofRules compiler rules).toJson? = some (shortForm texts) := by
  have htexts := List.eraseDups_of_nodup (hdistinct .anyOf texts hany).2
  unfold toJson? ofRules
  rw [hany, hall, hnone]
  show (match texts.eraseDups with
    | [rule] => some (Json.str rule)
    | texts => some (Json.strings texts)) = _
  rw [htexts]
  unfold shortForm
  split <;> rfl

theorem toJson?_of_isSome {c : Conditions σ} (h : c.allOf.isSome ∨ c.noneOf.isSome) :
    c.toJson? = some (Json.ofMembers
      ((c.anyOf.toList ++ c.allOf.toList ++ c.noneOf.toList).map groupMember)) := by
  obtain ⟨anyOf, allOf, noneOf⟩ := c
  cases allOf with
  | some g => cases anyOf <;> rfl
  | none =>
    cases noneOf with
    | some g => cases anyOf <;> rfl
    | none => rcases h with h | h <;> cases h

theorem toJson?_long (hdistinct : Distinct rules)
    (h : (rules .allOf).isSome ∨ (rules .noneOf).isSome) :
    (ofRules compiler rules).toJson? = some (.obj (Json.collected (longForm rules))) := by
  have hmember : ∀ kind, ((rules kind).map (RuleGroup.ofRules compiler kind)).toList.map groupMember =
      (ruleMember? rules kind).toList := by
    intro kind
    unfold ruleMember?
    cases htexts : rules kind with
    | none => rfl
    | some texts =>
      show [(kind.key, Json.strings texts.eraseDups)] = [(kind.key, Json.strings texts)]
      rw [List.eraseDups_of_nodup (hdistinct kind texts htexts).2]
  rw [toJson?_of_isSome (by simpa [ofRules] using h), List.map_append, List.map_append, longForm,
    ← hmember, ← hmember, ← hmember]
  rfl

theorem nodup_keys_longForm (rules : GroupKind → Option (List String)) :
    ((longForm rules).map Prod.fst).Nodup := by
  unfold longForm ruleMember?
  cases rules .anyOf <;> cases rules .allOf <;> cases rules .noneOf <;>
    simp [GroupKind.key]

theorem mem_longForm {k : String} {v : Json} :
    (k, v) ∈ longForm rules ↔
      ∃ kind texts, rules kind = some texts ∧ k = kind.key ∧ v = Json.strings texts := by
  have hmember : ∀ kind, (k, v) ∈ (ruleMember? rules kind).toList ↔
      ∃ texts, rules kind = some texts ∧ k = kind.key ∧ v = Json.strings texts := by
    intro kind
    rw [Option.mem_toList, ruleMember?, Option.map_eq_some_iff]
    simp only [Prod.mk.injEq, eq_comm]
  simp only [longForm, List.mem_append, hmember]
  constructor
  · rintro ((h | h) | h)
    · exact ⟨.anyOf, h⟩
    · exact ⟨.allOf, h⟩
    · exact ⟨.noneOf, h⟩
  · rintro ⟨kind, h⟩
    cases kind
    · exact Or.inl (Or.inl h)
    · exact Or.inl (Or.inr h)
    · exact Or.inr h

theorem get?_longForm {k : String} {v : Json} :
    Json.get? k (Json.collected (longForm rules)) = some v ↔
      ∃ kind texts, rules kind = some texts ∧ k = kind.key ∧ v = Json.strings texts := by
  rw [Json.get?_collected (nodup_keys_longForm rules),
    Json.get?_eq_some_iff (nodup_keys_longForm rules), mem_longForm]

theorem get?_key_longForm (rules : GroupKind → Option (List String)) (kind : GroupKind) :
    Json.get? kind.key (Json.collected (longForm rules)) = (rules kind).map Json.strings := by
  apply Option.ext
  intro v
  rw [get?_longForm, Option.map_eq_some_iff]
  constructor
  · rintro ⟨kind', texts, htexts, hkey, rfl⟩
    obtain rfl := GroupKind.key_injective hkey
    exact ⟨texts, htexts, rfl⟩
  · rintro ⟨texts, htexts, rfl⟩
    exact ⟨kind, texts, htexts, rfl, rfl⟩

/-! ## Reading what was written -/

/-- The two shapes of the written form. -/
theorem written_cases (hdistinct : Distinct rules) (hsome : ∃ kind, (rules kind).isSome) :
    (∃ texts, rules .anyOf = some texts ∧ rules .allOf = none ∧ rules .noneOf = none ∧
        ∀ {σ : Type} (compiler : RuleCompiler σ),
          (ofRules compiler rules).toJson? = some (shortForm texts)) ∨
      (((rules .allOf).isSome ∨ (rules .noneOf).isSome) ∧
        ∀ {σ : Type} (compiler : RuleCompiler σ),
          (ofRules compiler rules).toJson? = some (.obj (Json.collected (longForm rules)))) := by
  by_cases hlong : (rules .allOf).isSome ∨ (rules .noneOf).isSome
  · exact Or.inr ⟨hlong, fun compiler => toJson?_long hdistinct hlong⟩
  · rw [not_or, Option.not_isSome_iff_eq_none, Option.not_isSome_iff_eq_none] at hlong
    obtain ⟨hall, hnone⟩ := hlong
    obtain ⟨kind, hkind⟩ := hsome
    have hany : (rules .anyOf).isSome := by
      cases kind
      · exact hkind
      · rw [hall] at hkind
        cases hkind
      · rw [hnone] at hkind
        cases hkind
    obtain ⟨texts, htexts⟩ := Option.isSome_iff_exists.1 hany
    exact Or.inl ⟨texts, htexts, hall, hnone, fun compiler => toJson?_short hdistinct htexts hall hnone⟩

/-- A condition is written unless it has no groups. -/
theorem toJson?_eq_none_iff (hdistinct : Distinct rules) :
    (ofRules compiler rules).toJson? = none ↔ ∀ kind, rules kind = none := by
  constructor
  · intro h
    by_contra hsome
    simp only [not_forall, ← ne_eq, Option.ne_none_iff_isSome] at hsome
    rcases written_cases hdistinct hsome with ⟨texts, -, -, -, hshort⟩ | ⟨-, hlong⟩
    · rw [hshort] at h
      cases h
    · rw [hlong] at h
      cases h
  · intro hnone
    unfold toJson? ofRules
    rw [hnone, hnone, hnone]
    rfl

/-- What is written for rules holds these rules. -/
theorem elementRules_written {w : Json} (hdistinct : Distinct rules)
    (hw : (ofRules compiler rules).toJson? = some w) :
    (∃ kind, (groupValue kind (some w)).isSome) ∧
      (∀ kind v, groupValue kind (some w) = some v → v.HoldsRules) ∧
      elementRules (some w) = rules := by
  have hsome : ∃ kind, (rules kind).isSome := by
    by_contra hnone
    simp only [not_exists, Option.not_isSome_iff_eq_none] at hnone
    rw [(toJson?_eq_none_iff hdistinct).2 hnone] at hw
    cases hw
  rcases written_cases hdistinct hsome with ⟨texts, hany, hall, hnone, hshort⟩ | ⟨-, hlong⟩
  · rw [hshort] at hw
    obtain rfl := Option.some.inj hw
    obtain ⟨hrules, htexts⟩ := holdsRules_shortForm (hdistinct .anyOf texts hany).1
    have hvalue : ∀ kind, groupValue kind (some (shortForm texts)) =
        if kind = .anyOf then some (shortForm texts) else none := by
      intro kind
      unfold shortForm
      split <;> rfl
    refine ⟨⟨.anyOf, by rw [hvalue, if_pos rfl]; rfl⟩, ?_, ?_⟩
    · intro kind v hv
      rw [hvalue] at hv
      split at hv
      · obtain rfl := Option.some.inj hv
        exact hrules
      · cases hv
    · funext kind
      rw [elementRules, hvalue]
      cases kind
      · rw [if_pos rfl, hany, Option.map_some, htexts]
      · exact hall.symm
      · exact hnone.symm
  · rw [hlong] at hw
    obtain rfl := Option.some.inj hw
    have hvalue : ∀ kind, groupValue kind (some (.obj (Json.collected (longForm rules)))) =
        (rules kind).map Json.strings := get?_key_longForm rules
    refine ⟨?_, ?_, ?_⟩
    · obtain ⟨kind, hkind⟩ := hsome
      exact ⟨kind, by rw [hvalue, Option.isSome_map]; exact hkind⟩
    · intro kind v hv
      rw [hvalue] at hv
      obtain ⟨texts, htexts, rfl⟩ := Option.map_eq_some_iff.1 hv
      exact Json.holdsRules_strings (hdistinct kind texts htexts).1
    · funext kind
      rw [elementRules, hvalue, Option.map_map]
      have hid : Json.ruleTexts ∘ Json.strings = id := funext Json.ruleTexts_strings
      rw [hid, Option.map_id_fun]
      rfl

/-- **Reading what was written.** Any compiler gives a condition with the rules that were written. -/
theorem outcome_written {τ : Type} (compiler' : RuleCompiler τ) {w : Json}
    (hdistinct : Distinct rules) (hw : (ofRules compiler rules).toJson? = some w) :
    (ofElement compiler' (some w)).outcome = .ok (ofRules compiler' rules) := by
  obtain ⟨hsome, hholds, hrules⟩ := elementRules_written hdistinct hw
  rw [outcome_eq_ok_iff, hrules]
  exact ⟨hsome, hholds, rfl⟩

/-- Different rules are written differently. -/
theorem toJson?_eq_iff {τ : Type} {compiler' : RuleCompiler τ}
    {rules' : GroupKind → Option (List String)} {w : Json} (hdistinct : Distinct rules)
    (hdistinct' : Distinct rules') (hw : (ofRules compiler rules).toJson? = some w) :
    (ofRules compiler' rules').toJson? = some w ↔ rules' = rules := by
  constructor
  · intro hw'
    rw [← (elementRules_written hdistinct hw).2.2, ← (elementRules_written hdistinct' hw').2.2]
  · rintro rfl
    rw [← hw]
    exact toJson?_ofRules_congr compiler' compiler rules'

/-! ## Canonical elements -/

theorem shortForm_eq_strings_iff {xs ys : List String} :
    shortForm xs = Json.strings ys ↔ xs = ys ∧ xs.length ≠ 1 := by
  unfold shortForm
  split
  · next rule =>
    constructor
    · intro h
      cases h
    · rintro ⟨-, hlen⟩
      exact absurd rfl hlen
  · next hlong =>
    constructor
    · intro h
      refine ⟨Json.strings_injective h, ?_⟩
      intro hlen
      obtain ⟨rule, rfl⟩ := List.length_eq_one_iff.1 hlen
      exact hlong rule rfl
    · rintro ⟨rfl, -⟩
      rfl

/-- An array is written as it stands if it has several rules, all different. -/
theorem shortForm_eraseDups_iff {texts : List String} (hne : texts ≠ []) :
    shortForm texts.eraseDups = Json.strings texts ↔
      (Json.strings texts).IsDistinctStrings 2 := by
  rw [shortForm_eq_strings_iff]
  have hpos := List.length_pos_of_ne_nil hne
  constructor
  · rintro ⟨hdups, hlen⟩
    rw [hdups] at hlen
    exact ⟨texts, rfl, hdups ▸ List.nodup_eraseDups texts, by omega⟩
  · rintro ⟨ys, hys, hnodup, hlen⟩
    obtain rfl := Json.strings_injective hys
    rw [List.eraseDups_of_nodup hnodup]
    exact ⟨rfl, by omega⟩

/-- A group is written as it stands if it is an array of different strings. -/
theorem strings_eraseDups_iff {v : Json} (h : v.HoldsRules) :
    Json.strings v.ruleTexts.eraseDups = v ↔ v.IsDistinctStrings 1 := by
  have hne := (ruleStrings_of_holdsRules .anyOf h).2
  have hpos := List.length_pos_of_ne_nil hne
  constructor
  · intro hv
    refine ⟨_, hv.symm, List.nodup_eraseDups _, ?_⟩
    obtain ⟨rule, hrule⟩ := List.exists_mem_of_ne_nil _ hne
    exact List.length_pos_of_mem (List.mem_eraseDups.2 hrule)
  · rintro ⟨texts, rfl, hnodup, -⟩
    rw [Json.ruleTexts_strings, List.eraseDups_of_nodup hnodup]

/-- The long form is the element if every member of the element is a group as it is written. -/
theorem collected_longForm_eq_iff {members : List (String × Json)}
    (hrising : (members.map Prod.fst).Pairwise (· < ·))
    (hholds : ∀ kind v, groupValue kind (some (.obj members)) = some v → v.HoldsRules)
    (hrules : ∀ kind, rules kind = (elementRules (some (.obj members)) kind).map List.eraseDups) :
    Json.collected (longForm rules) = members ↔
      ∀ m ∈ members, (∃ kind : GroupKind, m.1 = kind.key) ∧ m.2.IsDistinctStrings 1 := by
  have hnodup := Json.nodup_of_rising hrising
  have hget : ∀ (kind : GroupKind) (v : Json), Json.get? kind.key members = some v →
      Json.get? kind.key (Json.collected (longForm rules)) =
        some (Json.strings v.ruleTexts.eraseDups) := by
    intro kind v hv
    rw [get?_key_longForm, hrules, elementRules, groupValue, hv]
    rfl
  constructor
  · rintro heq ⟨k, v⟩ hm
    have hv := (Json.get?_eq_some_iff hnodup).2 hm
    obtain ⟨kind, texts, -, rfl, -⟩ := get?_longForm.1 (heq ▸ hv)
    refine ⟨⟨kind, rfl⟩, (strings_eraseDups_iff (hholds kind v hv)).1 ?_⟩
    have hsame := hget kind v hv
    rw [heq, hv] at hsame
    exact (Option.some.inj hsame).symm
  · intro hcanonical
    refine Json.eq_of_get?_eq (Json.pairwise_keys_collected _) hrising fun k => ?_
    cases hv : Json.get? k members with
    | some v =>
      obtain ⟨⟨kind, hk⟩, hdistinct⟩ := hcanonical _ (Json.mem_of_get?_eq_some hv)
      obtain rfl : k = kind.key := hk
      rw [hget kind v hv, (strings_eraseDups_iff (hholds kind v hv)).2 hdistinct]
    | none =>
      rw [Option.eq_none_iff_forall_ne_some]
      intro w hw
      obtain ⟨kind, texts, htexts, rfl, -⟩ := get?_longForm.1 hw
      rw [hrules, elementRules, groupValue, hv] at htexts
      cases htexts

theorem isSome_elementRules_iff {members : List (String × Json)} {kind : GroupKind} :
    (elementRules (some (.obj members)) kind).isSome ↔ kind.key ∈ members.map Prod.fst := by
  rw [elementRules, Option.isSome_map, groupValue, ← Option.ne_none_iff_isSome, ne_eq,
    Json.get?_eq_none_iff, Classical.not_not]

/-- **The written form of a sorted element is the element exactly if that is canonical.** -/
theorem written_eq_iff {e w : Json} {c : Conditions σ}
    (h : (ofElement compiler (some e)).outcome = .ok c) (hw : c.toJson? = some w)
    (hsorted : e.Sorted) : w = e ↔ e.IsCanonical := by
  obtain ⟨⟨kind, hkind⟩, hholds, -⟩ := outcome_eq_ok_iff.1 h
  have hdistinct := distinct_rules? h
  have hrules := rules?_of_outcome h
  rw [eq_ofRules h] at hw
  cases e with
  | str rule =>
    rw [toJson?_short hdistinct (hrules .anyOf) (hrules .allOf) (hrules .noneOf)] at hw
    obtain rfl := Option.some.inj hw
    exact ⟨fun _ => trivial, fun _ => rfl⟩
  | arr items =>
    have hitems := hholds .anyOf (.arr items) rfl
    have htexts := (ruleStrings_of_holdsRules .anyOf hitems).2
    rw [toJson?_short hdistinct (hrules .anyOf) (hrules .allOf) (hrules .noneOf)] at hw
    obtain rfl := Option.some.inj hw
    show shortForm (Json.arr items).ruleTexts.eraseDups = _ ↔ (Json.arr items).IsDistinctStrings 2
    rw [Json.arr_eq_strings hitems, Json.ruleTexts_strings]
    exact shortForm_eraseDups_iff htexts
  | obj members =>
    have hkey : ∀ kind : GroupKind, (c.rules? kind).isSome ↔ kind.key ∈ members.map Prod.fst := by
      intro kind
      rw [hrules, Option.isSome_map, isSome_elementRules_iff]
    have hsome : ∃ kind, (c.rules? kind).isSome := by
      refine ⟨kind, ?_⟩
      rw [hrules, Option.isSome_map, elementRules, Option.isSome_map]
      exact hkind
    rcases written_cases hdistinct hsome with ⟨texts, -, hall, hnone, hshort⟩ | ⟨hgroup, hlong⟩
    · rw [hshort] at hw
      obtain rfl := Option.some.inj hw
      constructor
      · intro heq
        unfold shortForm at heq
        split at heq <;> cases heq
      · rintro ⟨-, hgroup⟩
        rw [← hkey, ← hkey, hall, hnone] at hgroup
        rcases hgroup with hgroup | hgroup <;> cases hgroup
    · rw [hlong] at hw
      obtain rfl := Option.some.inj hw
      rw [hkey, hkey] at hgroup
      rw [Json.obj.injEq, collected_longForm_eq_iff hsorted.1 hholds hrules]
      exact ⟨fun hall => ⟨hall, hgroup⟩, fun hcanonical => hcanonical.1⟩
  | _ => cases h

/-- **Writing a condition and reading it again.** A condition that was read has a written form, from
which the same compiler gives it back: with the groups and rules that the element holds, each rule
once, with the tests and with the written form. Two conditions are written alike exactly if they have
the same groups of the same rules. An element whose members are sorted is its own written form
exactly if it is canonical. -/
theorem reread_written {e : Json} {c : Conditions σ}
    (h : (ofElement compiler (some e)).outcome = .ok c) :
    ∃ w, c.toJson? = some w ∧
      (ofElement compiler (some w)).outcome = .ok c ∧
      (∀ kind, c.rules? kind = (elementRules (some e) kind).map List.eraseDups) ∧
      (∀ {τ : Type} {compiler' : RuleCompiler τ} {e' : Json} {c' : Conditions τ},
        (ofElement compiler' (some e')).outcome = .ok c' →
          (c'.toJson? = some w ↔ ∀ kind, c'.rules? kind = c.rules? kind)) ∧
      (e.Sorted → (w = e ↔ e.IsCanonical)) := by
  have hdistinct := distinct_rules? h
  have hc := eq_ofRules h
  have hsome : ∃ kind, (c.rules? kind).isSome := by
    obtain ⟨⟨kind, hkind⟩, -, -⟩ := outcome_eq_ok_iff.1 h
    refine ⟨kind, ?_⟩
    rw [rules?_of_outcome h, Option.isSome_map, elementRules, Option.isSome_map]
    exact hkind
  have hwritten : (ofRules compiler c.rules?).toJson? ≠ none := by
    rw [ne_eq, toJson?_eq_none_iff hdistinct]
    intro hnone
    obtain ⟨kind, hkind⟩ := hsome
    rw [hnone] at hkind
    cases hkind
  obtain ⟨w, hw⟩ := Option.ne_none_iff_exists'.1 hwritten
  refine ⟨w, by rw [hc]; exact hw, ?_, rules?_of_outcome h, ?_, written_eq_iff h (by rw [hc]; exact hw)⟩
  · rw [outcome_written compiler hdistinct hw, ← hc]
  · intro τ compiler' e' c' h'
    rw [eq_ofRules h', toJson?_eq_iff hdistinct (distinct_rules? h') hw, ← eq_ofRules h']
    exact ⟨fun heq kind => congrFun heq kind, funext⟩

/-- The written form of `repeatedRules`: each rule once, and each group as an array. -/
def repeatedRulesWritten : Json :=
  .obj [("any_of", Json.strings ["a", "b"]), ("none_of", Json.strings ["b"])]

theorem reread_repeatedRules :
    ∃ c, (ofElement sameText (some repeatedRules)).outcome = .ok c ∧
      c.toJson? = some repeatedRulesWritten ∧
      (ofElement sameText (some repeatedRulesWritten)).outcome = .ok c ∧
      ¬ repeatedRules.IsCanonical ∧ repeatedRulesWritten.IsCanonical := by
  obtain ⟨w, hw, hreread, -, -, hcanonical⟩ :=
    reread_written (show (ofElement sameText (some repeatedRules)).outcome = .ok _ from rfl)
  obtain rfl : w = repeatedRulesWritten := Option.some.inj (hw.symm.trans rfl)
  obtain ⟨w', hw', -, -, -, hcanonical'⟩ := reread_written hreread
  obtain rfl : w' = repeatedRulesWritten := Option.some.inj (hw'.symm.trans rfl)
  have hkeys : ["any_of", "none_of"].Pairwise (· < ·) := by decide
  have hsorted : repeatedRules.Sorted := by
    simp only [repeatedRules, Json.Sorted, Json.SortedMembers, Json.SortedItems, and_true]
    exact hkeys
  have hsorted' : repeatedRulesWritten.Sorted := by
    simp only [repeatedRulesWritten, Json.strings, List.map_cons, List.map_nil, Json.Sorted,
      Json.SortedMembers, Json.SortedItems, and_true]
    exact hkeys
  refine ⟨_, rfl, hw, hreread, ?_, (hcanonical' hsorted').1 rfl⟩
  rw [← hcanonical hsorted]
  decide

end Conditions
end GameTips
