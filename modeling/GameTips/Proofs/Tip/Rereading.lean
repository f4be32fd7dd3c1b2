import GameTips.Proofs.Conditions.Writing
import GameTips.Proofs.Tip.Reading
import GameTips.Tip.Display

/-!
# Writing a tip and reading it again

A tip that was read, or put together from conditions that were, is given back by its JSON form up to
the compilation of its rules: reading it anywhere gives the tip with its rules compiled there
(`outcome_read_toJson`). Since the JSON form does not depend on how rules are compiled, it is written
again as it was.
-/

namespace GameTips

namespace Conditions

variable {σ τ : Type}

/-- A condition that some compiler made of an element, or of none. -/
def IsRead (c : Conditions σ) : Prop :=
  ∃ (compiler : RuleCompiler σ) (e : Option Json), (ofElement compiler e).outcome = .ok c

theorem isRead_unconstrained : IsRead (unconstrained : Conditions σ) :=
  ⟨fun _ => pure Predicate.never, none, rfl⟩

theorem IsRead.distinct {c : Conditions σ} (h : c.IsRead) : Distinct c.rules? := by
  obtain ⟨compiler, e, h⟩ := h
  exact distinct_rules? h

theorem IsRead.eq_ofRules {c : Conditions σ} (h : c.IsRead) :
    ∃ compiler, c = ofRules compiler c.rules? := by
  obtain ⟨compiler, e, h⟩ := h
  exact ⟨compiler, Conditions.eq_ofRules h⟩

theorem ofRules_none (compiler : RuleCompiler σ) {rules : GroupKind → Option (List String)}
    (h : ∀ kind, rules kind = none) : ofRules compiler rules = unconstrained := by
  unfold ofRules unconstrained
  rw [h, h, h]
  rfl

/-- Another compiler makes a condition with the same rules of an element. -/
theorem outcome_compiler {compiler : RuleCompiler σ} (compiler' : RuleCompiler τ)
    {e : Option Json} {c : Conditions σ} (h : (ofElement compiler e).outcome = .ok c) :
    (ofElement compiler' e).outcome = .ok (ofRules compiler' c.rules?) := by
  have hrules := rules?_of_outcome h
  cases e with
  | none =>
    rw [ofRules_none compiler' hrules]
    rfl
  | some e =>
    obtain ⟨hsome, hholds, -⟩ := outcome_eq_ok_iff.1 h
    have h' : (ofElement compiler' (some e)).outcome =
        .ok (ofRules compiler' (elementRules (some e))) := outcome_eq_ok_iff.2 ⟨hsome, hholds, rfl⟩
    rw [h', Conditions.eq_ofRules h', funext (rules?_of_outcome h'), funext hrules]

/-- **What is written for a condition**, or that nothing is, is read as a condition with its rules. -/
theorem outcome_toJson? (compiler' : RuleCompiler τ) {c : Conditions σ} (h : c.IsRead) :
    (ofElement compiler' c.toJson?).outcome = .ok (ofRules compiler' c.rules?) := by
  obtain ⟨compiler, hc⟩ := h.eq_ofRules
  cases hw : c.toJson? with
  | none =>
    rw [hc, toJson?_eq_none_iff h.distinct] at hw
    rw [ofRules_none compiler' hw]
    rfl
  | some w =>
    rw [hc] at hw
    exact outcome_written compiler' h.distinct hw

theorem rules?_ofRules_of_distinct {compiler : RuleCompiler σ}
    {rules : GroupKind → Option (List String)} (h : Distinct rules) (kind : GroupKind) :
    (ofRules compiler rules).rules? kind = rules kind := by
  rw [rules?_ofRules]
  cases htexts : rules kind with
  | none => rfl
  | some texts => rw [Option.map_some, List.eraseDups_of_nodup (h kind texts htexts).2]

theorem ofRules_of_toJson?_eq_none (compiler' : RuleCompiler τ) {c : Conditions σ} (h : c.IsRead)
    (hnone : c.toJson? = none) : ofRules compiler' c.rules? = unconstrained := by
  have hread := outcome_toJson? compiler' h
  rw [hnone] at hread
  exact (Except.ok.inj hread).symm

/-- The rules say how a condition is written. -/
theorem toJson?_ofRules (compiler' : RuleCompiler τ) {c : Conditions σ} (h : c.IsRead) :
    (ofRules compiler' c.rules?).toJson? = c.toJson? := by
  obtain ⟨compiler, hc⟩ := h.eq_ofRules
  rw [toJson?_ofRules_congr compiler' compiler, ← hc]

end Conditions

/-! ## The conditions of a tip -/

namespace TipConditions

variable {c : TipConditions}

/-- The rules of a category in the group of a kind. -/
def rules? (c : TipConditions) (category : Category) (kind : GroupKind) : Option (List String) :=
  match category with
  | .screens => c.screens.rules? kind
  | .biomes => c.biomes.rules? kind
  | .dimensions => c.dimensions.rules? kind
  | .milestones => c.milestones.rules? kind

/-- Conditions that were read, by whatever compilers. -/
structure IsRead (c : TipConditions) : Prop where
  screens : c.screens.IsRead
  biomes : c.biomes.IsRead
  dimensions : c.dimensions.IsRead
  milestones : c.milestones.IsRead

/-- Conditions that were read by the compilers that entries are read with at a host. -/
structure CompiledFor (host : ScreenHost) (c : TipConditions) : Prop where
  screens : ∃ e, (Conditions.ofElement (compileScreenRule host) e).outcome = .ok c.screens
  biomes : ∃ e, (Conditions.ofElement compileRegistryRule e).outcome = .ok c.biomes
  dimensions : ∃ e, (Conditions.ofElement compileRegistryRule e).outcome = .ok c.dimensions
  milestones : ∃ e, (Conditions.ofElement compileMemberRule e).outcome = .ok c.milestones

/-- The conditions with the same rules, compiled as entries are at a host. -/
def recompiled (host : ScreenHost) (c : TipConditions) : TipConditions where
  screens := .ofRules (compileScreenRule host) c.screens.rules?
  biomes := .ofRules compileRegistryRule c.biomes.rules?
  dimensions := .ofRules compileRegistryRule c.dimensions.rules?
  milestones := .ofRules compileMemberRule c.milestones.rules?

theorem CompiledFor.isRead {host : ScreenHost} (h : c.CompiledFor host) : c.IsRead :=
  ⟨⟨_, h.screens⟩, ⟨_, h.biomes⟩, ⟨_, h.dimensions⟩, ⟨_, h.milestones⟩⟩

theorem isRead_unconstrained : IsRead unconstrained :=
  ⟨Conditions.isRead_unconstrained, Conditions.isRead_unconstrained,
    Conditions.isRead_unconstrained, Conditions.isRead_unconstrained⟩

theorem CompiledFor.recompiled_eq {host : ScreenHost} (h : c.CompiledFor host) :
    c.recompiled host = c := by
  obtain ⟨_, hscreens⟩ := h.screens
  obtain ⟨_, hbiomes⟩ := h.biomes
  obtain ⟨_, hdimensions⟩ := h.dimensions
  obtain ⟨_, hmilestones⟩ := h.milestones
  unfold recompiled
  rw [← Conditions.eq_ofRules hscreens, ← Conditions.eq_ofRules hbiomes,
    ← Conditions.eq_ofRules hdimensions, ← Conditions.eq_ofRules hmilestones]

theorem rules?_recompiled (h : c.IsRead) (host : ScreenHost) :
    (c.recompiled host).rules? = c.rules? := by
  funext category kind
  cases category
  · exact Conditions.rules?_ofRules_of_distinct h.screens.distinct kind
  · exact Conditions.rules?_ofRules_of_distinct h.biomes.distinct kind
  · exact Conditions.rules?_ofRules_of_distinct h.dimensions.distinct kind
  · exact Conditions.rules?_ofRules_of_distinct h.milestones.distinct kind

/-- The JSON form of conditions does not depend on how their rules are compiled. -/
theorem toJson?_recompiled (h : c.IsRead) (host : ScreenHost) :
    (c.recompiled host).toJson? = c.toJson? := by
  have hmembers : (c.recompiled host).members = c.members := by
    unfold members member? recompiled
    rw [Conditions.toJson?_ofRules _ h.screens, Conditions.toJson?_ofRules _ h.biomes,
      Conditions.toJson?_ofRules _ h.dimensions, Conditions.toJson?_ofRules _ h.milestones]
  unfold toJson?
  rw [hmembers]

theorem nodup_keys_members (c : TipConditions) : (c.members.map Prod.fst).Nodup := by
  unfold members member?
  cases c.screens.toJson? <;> cases c.biomes.toJson? <;> cases c.dimensions.toJson? <;>
    cases c.milestones.toJson? <;> simp [Category.key]

theorem get?_member? {σ : Type} (category : Category) (c : Conditions σ) (k : String) :
    Json.get? k (member? category c).toList = if k = category.key then c.toJson? else none := by
  rw [Json.get?_toList, member?]
  cases c.toJson? with
  | none => exact (ite_self none).symm
  | some v => rfl

theorem get?_members (c : TipConditions) (k : String) :
    Json.get? k (Json.collected c.members) =
      (((if k = Category.screens.key then c.screens.toJson? else none).or
        (if k = Category.biomes.key then c.biomes.toJson? else none)).or
        (if k = Category.dimensions.key then c.dimensions.toJson? else none)).or
        (if k = Category.milestones.key then c.milestones.toJson? else none) := by
  rw [Json.get?_collected c.nodup_keys_members, members, Json.get?_append, Json.get?_append,
    Json.get?_append, get?_member?, get?_member?, get?_member?, get?_member?]

/-- Conditions that are not written have no rules. -/
theorem recompiled_of_toJson?_eq_none (h : c.IsRead) (hnone : c.toJson? = none)
    (host : ScreenHost) : c.recompiled host = unconstrained := by
  have hmembers : c.members = [] := by
    unfold toJson? at hnone
    split at hnone
    · next hempty => exact List.isEmpty_iff.1 hempty
    · cases hnone
  simp only [members, member?, List.append_eq_nil_iff, Option.toList_eq_nil_iff,
    Option.map_eq_none_iff] at hmembers
  obtain ⟨⟨⟨hscreens, hbiomes⟩, hdimensions⟩, hmilestones⟩ := hmembers
  unfold recompiled
  rw [Conditions.ofRules_of_toJson?_eq_none _ h.screens hscreens,
    Conditions.ofRules_of_toJson?_eq_none _ h.biomes hbiomes,
    Conditions.ofRules_of_toJson?_eq_none _ h.dimensions hdimensions,
    Conditions.ofRules_of_toJson?_eq_none _ h.milestones hmilestones]
  rfl

end TipConditions

/-! ## Reading the JSON form of a tip -/

namespace TipReader

theorem readText_toJson {members : List (String × Json)} {field : TipField} {text : RichText}
    (fallback : Option RichText) (h : Json.get? field.key members = some text.toJson) :
    readText members field fallback = .ok text := by
  unfold readText
  rw [h]
  simp only [RichText.ofJson?, text.isText_toJson, dif_pos]

theorem readCycleTime_toJson {members : List (String × Json)} {time : Option UInt32}
    (h : Json.get? TipField.cycleTime.key members = time.map fun time => Json.int time.toNat) :
    readCycleTime members = .ok time := by
  unfold readCycleTime
  rw [h]
  cases time with
  | none => rfl
  | some time =>
    have hbound : (0 : Int) ≤ time.toNat ∧ (time.toNat : Int) < UInt32.size := by
      have := time.toNat_lt_size
      omega
    show (if _ then _ else _) = _
    rw [if_pos hbound]
    simp

theorem outcome_readConditions (r : TipReader) {c : TipConditions} (h : c.IsRead) :
    (r.readConditions (Json.collected c.members)).outcome = .ok (c.recompiled r.host) := by
  have hget := c.get?_members
  refine readConditions_eq_ok_iff.2 ⟨?_, ?_, ?_, ?_⟩
  · rw [show Json.get? Category.screens.key _ = c.screens.toJson? by rw [hget]; simp [Category.key]]
    exact Conditions.outcome_toJson? _ h.screens
  · rw [show Json.get? Category.biomes.key _ = c.biomes.toJson? by rw [hget]; simp [Category.key]]
    exact Conditions.outcome_toJson? _ h.biomes
  · rw [show Json.get? Category.dimensions.key _ = c.dimensions.toJson? by
      rw [hget]; simp [Category.key]]
    exact Conditions.outcome_toJson? _ h.dimensions
  · rw [show Json.get? Category.milestones.key _ = c.milestones.toJson? by
      rw [hget]; simp [Category.key]]
    exact Conditions.outcome_toJson? _ h.milestones

theorem compiledFor_of_read {r : TipReader} {id : Identifier} {v : Json} {t : Tip}
    (h : (r.read id v).outcome = .ok t) : t.conditions.CompiledFor r.host := by
  obtain ⟨members, -, -, -, -, -, -, hconditions⟩ := read_eq_ok_iff.1 h
  unfold conditionsMember at hconditions
  split at hconditions
  · obtain hc := Except.ok.inj hconditions
    rw [← hc]
    exact ⟨⟨none, rfl⟩, ⟨none, rfl⟩, ⟨none, rfl⟩, ⟨none, rfl⟩⟩
  · obtain ⟨hscreens, hbiomes, hdimensions, hmilestones⟩ := readConditions_eq_ok_iff.1 hconditions
    exact ⟨⟨_, hscreens⟩, ⟨_, hbiomes⟩, ⟨_, hdimensions⟩, ⟨_, hmilestones⟩⟩
  · cases hconditions

/-- The host of a reader only bears on how rules are compiled. -/
theorem read_at_host {r : TipReader} {id : Identifier} {v : Json} {t : Tip}
    (h : (r.read id v).outcome = .ok t) (host : ScreenHost) :
    ((⟨host, r.defaultTitle⟩ : TipReader).read id v).outcome =
      .ok { t with conditions := t.conditions.recompiled host } := by
  obtain ⟨members, rfl, rfl, htype, htitle, htext, htime, hconditions⟩ := read_eq_ok_iff.1 h
  refine read_eq_ok_iff.2 ⟨members, rfl, rfl, htype, htitle, htext, htime, ?_⟩
  unfold conditionsMember at hconditions ⊢
  split at hconditions
  · obtain hc := Except.ok.inj hconditions
    rw [← hc, TipConditions.recompiled_of_toJson?_eq_none TipConditions.isRead_unconstrained rfl]
    rfl
  · obtain ⟨hscreens, hbiomes, hdimensions, hmilestones⟩ := readConditions_eq_ok_iff.1 hconditions
    exact readConditions_eq_ok_iff.2 ⟨Conditions.outcome_compiler _ hscreens,
      Conditions.outcome_compiler _ hbiomes, Conditions.outcome_compiler _ hdimensions,
      Conditions.outcome_compiler _ hmilestones⟩
  · cases hconditions

end TipReader

namespace Tip

/-- The members of the JSON form, before they are sorted. -/
def jsonMembers (t : Tip) : List (String × Json) :=
  [("type", .str simpleType), ("title", t.title.toJson), ("tip", t.text.toJson)] ++
    (t.ownCycleTime.map fun time => ("cycleTime", Json.int time.toNat)).toList ++
    (t.conditions.toJson?.map fun c => ("conditions", c)).toList

theorem toJson_eq (t : Tip) : t.toJson = .obj (Json.collected t.jsonMembers) := by
  unfold toJson jsonMembers
  rw [Option.toList_map, Option.toList_map]
  rfl

theorem nodup_keys_jsonMembers (t : Tip) : (t.jsonMembers.map Prod.fst).Nodup := by
  unfold jsonMembers
  cases t.ownCycleTime <;> cases t.conditions.toJson? <;> simp

theorem get?_jsonMembers (t : Tip) (k : String) :
    Json.get? k (Json.collected t.jsonMembers) =
      ((if k = "type" then some (Json.str simpleType)
        else if k = "title" then some t.title.toJson
        else if k = "tip" then some t.text.toJson else none).or
        (if k = "cycleTime" then t.ownCycleTime.map fun time => Json.int time.toNat else none)).or
        (if k = "conditions" then t.conditions.toJson? else none) := by
  rw [Json.get?_collected t.nodup_keys_jsonMembers, jsonMembers, Json.get?_append, Json.get?_append,
    Json.get?_toList, Json.get?_toList, Json.get?_cons, Json.get?_cons, Json.get?_cons]
  congr 1
  · congr 1
    cases t.ownCycleTime with
    | none => exact (ite_self none).symm
    | some time => rfl
  · cases t.conditions.toJson? with
    | none => exact (ite_self none).symm
    | some c => rfl

/-- The tip with its rules compiled as entries are at a host. -/
def recompiled (host : ScreenHost) (t : Tip) : Tip :=
  { t with conditions := t.conditions.recompiled host }

/-- **Reading the JSON form of a tip** gives the tip with its rules compiled at the reader's host. -/
theorem outcome_read_toJson (r : TipReader) {t : Tip} (h : t.conditions.IsRead) :
    (r.read t.id t.toJson).outcome = .ok (t.recompiled r.host) := by
  have hget := t.get?_jsonMembers
  refine TipReader.read_eq_ok_iff.2 ⟨_, t.toJson_eq, rfl, ?_, ?_, ?_, ?_, ?_⟩
  · unfold TipReader.checkType
    rw [hget]
    rfl
  · exact TipReader.readText_toJson r.defaultTitle (by rw [hget]; rfl)
  · exact TipReader.readText_toJson none (by rw [hget]; rfl)
  · exact TipReader.readCycleTime_toJson (by rw [hget]; simp [TipField.key, recompiled])
  · have hconditions : Json.get? TipField.conditions.key (Json.collected t.jsonMembers) =
        t.conditions.toJson? := by
      rw [hget]
      simp [TipField.key]
    unfold TipReader.conditionsMember
    rw [hconditions]
    cases hw : t.conditions.toJson? with
    | none =>
      show Except.ok _ = Except.ok (t.conditions.recompiled r.host)
      rw [TipConditions.recompiled_of_toJson?_eq_none h hw]
    | some w =>
      unfold TipConditions.toJson? at hw
      split at hw
      · cases hw
      · obtain rfl := Option.some.inj hw
        exact r.outcome_readConditions h

theorem toJson_recompiled {t : Tip} (h : t.conditions.IsRead) (host : ScreenHost) :
    (t.recompiled host).toJson = t.toJson := by
  unfold toJson recompiled
  rw [TipConditions.toJson?_recompiled h]

/-! ## The tips that can be made -/

/-- A tip that was read from an entry, or put together step by step from a title, a text, a time and
conditions that were read. -/
inductive Built : Tip → Prop where
  | read {r : TipReader} {id : Identifier} {v : Json} {t : Tip} :
      (r.read id v).outcome = .ok t → Built t
  | plain (id : Identifier) (title text : RichText) : Built (.plain id title text)
  | withCycleTime {t : Tip} (time : UInt32) : Built t → Built { t with ownCycleTime := some time }
  | withScreens {t : Tip} {c : Conditions Screen} : Built t → c.IsRead →
      Built { t with conditions := { t.conditions with screens := c } }
  | withBiomes {t : Tip} {c : Conditions RegistryEntry} : Built t → c.IsRead →
      Built { t with conditions := { t.conditions with biomes := c } }
  | withDimensions {t : Tip} {c : Conditions RegistryEntry} : Built t → c.IsRead →
      Built { t with conditions := { t.conditions with dimensions := c } }
  | withMilestones {t : Tip} {c : Conditions (List Identifier)} : Built t → c.IsRead →
      Built { t with conditions := { t.conditions with milestones := c } }

theorem Built.isRead {t : Tip} (h : t.Built) : t.conditions.IsRead := by
  induction h with
  | read h => exact (TipReader.compiledFor_of_read h).isRead
  | plain => exact TipConditions.isRead_unconstrained
  | withCycleTime _ _ ih => exact ih
  | withScreens _ hc ih => exact { ih with screens := hc }
  | withBiomes _ hc ih => exact { ih with biomes := hc }
  | withDimensions _ hc ih => exact { ih with dimensions := hc }
  | withMilestones _ hc ih => exact { ih with milestones := hc }

/-- **A tip is given back by its JSON form.** Every tip that can be made is read again from its JSON
form, with whatever host and title for entries without one: with the same id, title, text and time,
with the same rules in every group of every category, and so with the same JSON form. Where its rules
were compiled at the reader's host, it is shown in the same contexts. A tip that was read from an
entry would have had the same JSON form at any other host. -/
theorem reread_toJson {t : Tip} (h : t.Built) (r : TipReader) :
    ∃ t', (r.read t.id t.toJson).outcome = .ok t' ∧
      t'.id = t.id ∧ t'.title = t.title ∧ t'.text = t.text ∧ t'.ownCycleTime = t.ownCycleTime ∧
      t'.conditions.rules? = t.conditions.rules? ∧
      t'.toJson = t.toJson ∧
      (t.conditions.CompiledFor r.host → ∀ ctx, t'.canDisplay ctx = t.canDisplay ctx) ∧
      ∀ {r₀ : TipReader} {id : Identifier} {v : Json}, (r₀.read id v).outcome = .ok t →
        ∀ host, ∃ u, ((⟨host, r₀.defaultTitle⟩ : TipReader).read id v).outcome = .ok u ∧
          u.toJson = t.toJson := by
  have hread := h.isRead
  refine ⟨t.recompiled r.host, outcome_read_toJson r hread, rfl, rfl, rfl, rfl,
    TipConditions.rules?_recompiled hread r.host, toJson_recompiled hread r.host, ?_, ?_⟩
  · intro hcompiled ctx
    rw [recompiled, hcompiled.recompiled_eq]
  · intro r₀ id v hv host
    exact ⟨t.recompiled host, TipReader.read_at_host hv host, toJson_recompiled hread host⟩

/-! ## An entry without a title -/

section Sample

def sampleHost : ScreenHost := ⟨"host", fun _ => true, fun _ => none⟩

def otherHost : ScreenHost := ⟨"other", fun _ => false, fun _ => none⟩

/-- A reader with a title for entries that have none. -/
def sampleReader : TipReader := ⟨sampleHost, some (.literal "Did you know?")⟩

/-- An entry with a rule that is given twice, and a group of none. -/
def sampleEntry : Json :=
  .obj [("conditions", .obj [("advancements", .obj [("none_of", .str "tips:done")]),
      ("screens", Json.strings ["Menu", "Map", "Menu"])]),
    ("cycleTime", .int 1200), ("tip", .str "Beds explode in the nether.")]

def sampleId : Identifier := ⟨"advice", "beds", by decide, by decide⟩

/-- The written form has the title that the reader gave, and every rule once. -/
def sampleWritten : Json :=
  .obj [("conditions", .obj [("advancements", .obj [("none_of", Json.strings ["tips:done"])]),
      ("screens", Json.strings ["Menu", "Map"])]),
    ("cycleTime", .int 1200), ("tip", .str "Beds explode in the nether."),
    ("title", .str "Did you know?"), ("type", .str "tipsmod:simple")]

/-- A reader that has no title to fall back on gives the tip back. -/
theorem reread_sampleEntry :
    ∃ t, (sampleReader.read sampleId sampleEntry).outcome = .ok t ∧ t.toJson = sampleWritten ∧
      (∃ t', ((⟨sampleHost, none⟩ : TipReader).read sampleId sampleWritten).outcome = .ok t' ∧
        t'.toJson = sampleWritten ∧ ∀ ctx, t'.canDisplay ctx = t.canDisplay ctx) ∧
      ∃ u, ((⟨otherHost, some (.literal "Did you know?")⟩ : TipReader).read sampleId
        sampleEntry).outcome = .ok u ∧ u.toJson = sampleWritten := by
  have hread : ∃ t, (sampleReader.read sampleId sampleEntry).outcome = .ok t := ⟨_, rfl⟩
  obtain ⟨t, ht⟩ := hread
  have hid : t.id = sampleId := by
    obtain ⟨-, -, hid, -⟩ := TipReader.read_eq_ok_iff.1 ht
    exact hid
  have hwritten : t.toJson = sampleWritten := by
    obtain rfl := Except.ok.inj ht
    rfl
  obtain ⟨t', hreread, -, -, -, -, -, hjson, hshown, hhost⟩ :=
    reread_toJson (.read ht) ⟨sampleHost, none⟩
  rw [hid, hwritten] at hreread
  rw [hwritten] at hjson
  obtain ⟨u, hu, hujson⟩ := hhost ht otherHost
  rw [hwritten] at hujson
  have hcompiled := TipReader.compiledFor_of_read (r := sampleReader) ht
  exact ⟨t, ht, hwritten, ⟨t', hreread, hjson, hshown hcompiled⟩, u, hu,
    hujson⟩

end Sample

end Tip
end GameTips
