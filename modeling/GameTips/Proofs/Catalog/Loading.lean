import GameTips.Proofs.Catalog.Displayable
import GameTips.Proofs.Lists
import GameTips.Proofs.Tip.Notices
import Mathlib.Data.List.Induction

/-!
# What a catalog holds after a load

A load goes through its entries one after the other. Ignored entries leave the catalog alone; each
of the *live* ones is read, and its outcome is added (`value_load`). So the catalog is what the
outcomes of the live entries make of the empty one (`ofOutcomes`), and the laws of a load are proved
by adding one outcome at the end:

* `get?_ofOutcomes`: the tip of an id is the last one that was read for it;
* `ids_ofOutcomes`: the ids stand in the order in which they first succeeded;
* `failures_ofOutcomes`: every error is kept, in order;
* `count_loadEntries`: every entry is ignored, failed, held, or was replaced with a notice.

`load_spec` joins them.
-/

namespace GameTips

/-- A tip takes the place of an earlier one. -/
def Notice.isReplacement : Notice → Bool
  | .tipReplaced _ => true
  | _ => false

/-- The number of times that a tip took the place of an earlier one. -/
def Traced.replacements {α : Type} (x : Traced α) : Nat :=
  x.notices.countP Notice.isReplacement

namespace Traced

variable {α β : Type}

@[simp] theorem replacements_pure (a : α) : (pure a : Traced α).replacements = 0 := rfl

@[simp] theorem replacements_bind (x : Traced α) (f : α → Traced β) :
    (x >>= f).replacements = x.replacements + (f x.value).replacements := by
  simp [replacements, notices]

theorem replacements_eq_zero {x : Traced α} (h : x.Emits Event.IsOfCompiling) :
    x.replacements = 0 := by
  rw [replacements, List.countP_eq_zero]
  intro n hn
  obtain ⟨e, he, hen⟩ := List.mem_filterMap.1 hn
  have hcompiling := h e he
  cases e with
  | query q => cases hen
  | notice m =>
    obtain rfl := Option.some.inj hen
    cases m with
    | ruleDegraded fault rule => exact Bool.false_ne_true
    | _ => exact hcompiling.elim

end Traced

namespace Catalog

/-! ## Outcomes -/

/-- The error of an outcome, if the reading failed. -/
def failure? : Except TipError Tip → Option TipError
  | .ok _ => none
  | .error e => some e

/-- The catalog with an outcome added. -/
def add (c : Catalog) : Except TipError Tip → Catalog
  | .ok t => c.put t
  | .error e => { c with failures := c.failures ++ [e] }

/-- What outcomes make of the empty catalog, one after the other. -/
def ofOutcomes (rs : List (Except TipError Tip)) : Catalog :=
  rs.foldl add empty

theorem ofOutcomes_concat (rs : List (Except TipError Tip)) (r : Except TipError Tip) :
    ofOutcomes (rs ++ [r]) = (ofOutcomes rs).add r := by
  simp [ofOutcomes]

theorem failures_ofOutcomes (rs : List (Except TipError Tip)) :
    (ofOutcomes rs).failures = rs.filterMap failure? := by
  induction rs using List.reverseRecOn with
  | nil => rfl
  | append_singleton rs r ih =>
    rw [ofOutcomes_concat, List.filterMap_append, ← ih]
    cases r with
    | ok t => simp [add, failure?]
    | error e => simp [add, failure?]

theorem ids_ofOutcomes (rs : List (Except TipError Tip)) :
    (ofOutcomes rs).ids = ((rs.filterMap Except.toOption).map Tip.id).eraseDups := by
  induction rs using List.reverseRecOn with
  | nil => rfl
  | append_singleton rs r ih =>
    rw [ofOutcomes_concat, List.filterMap_append]
    cases r with
    | error e =>
      rw [show [Except.error e].filterMap Except.toOption = ([] : List Tip) from rfl, List.append_nil]
      exact ih
    | ok t =>
      rw [add, ids_put, ih]
      simp only [Except.toOption, List.filterMap_cons, List.filterMap_nil, List.map_append, List.map_cons,
        List.map_nil, List.eraseDups_concat, List.mem_eraseDups]

/-- A failure leaves the tip of an id alone, a success for the id takes its place. -/
theorem get?_ofOutcomes (rs : List (Except TipError Tip)) (id : Identifier) :
    (ofOutcomes rs).get? id = ((rs.filterMap Except.toOption).filter (·.id == id)).getLast? := by
  induction rs using List.reverseRecOn with
  | nil => simp [ofOutcomes, empty, get?]
  | append_singleton rs r ih =>
    rw [ofOutcomes_concat, List.filterMap_append, List.filter_append]
    cases r with
    | error e =>
      rw [show [Except.error e].filterMap Except.toOption = ([] : List Tip) from rfl,
        List.filter_nil, List.append_nil]
      exact ih
    | ok t =>
      rw [add, get?_put, ih]
      by_cases hid : t.id = id
      · simp [Except.toOption, hid]
      · simp [Except.toOption, hid, Ne.symm hid]

/-! ## Entries -/

theorem size_eq_length_ids (c : Catalog) : c.size = c.ids.length := by
  simp [size, ids, toList]

theorem position_iff {c : Catalog} {id : Identifier} {i : Nat} :
    c.positions[id]? = some i ↔ ∃ h : i < c.tips.size, c.tips[i].id = id := by
  rw [c.positions_iff, Option.map_eq_some_iff]
  constructor
  · rintro ⟨t, ht, hid⟩
    obtain ⟨h, rfl⟩ := Array.getElem?_eq_some_iff.1 ht
    exact ⟨h, hid⟩
  · rintro ⟨h, hid⟩
    exact ⟨c.tips[i], Array.getElem?_eq_some_iff.2 ⟨h, rfl⟩, hid⟩

theorem isSome_get?_iff {c : Catalog} {id : Identifier} : (c.get? id).isSome ↔ id ∈ c.ids := by
  simp only [Option.isSome_iff_exists, get?_eq_some_iff, ids, List.mem_map]

theorem value_accept (c : Catalog) (r : Except TipError Tip) : (c.accept r).value = c.add r := by
  cases r with
  | error e => rfl
  | ok t =>
    rw [accept, insert]
    split <;> rfl

/-- An outcome is one more error, one more tip, or a tip in the place of another. -/
theorem count_add (c : Catalog) (r : Except TipError Tip) :
    (c.add r).failures.length + (c.add r).size + (c.accept r).replacements =
      c.failures.length + c.size + 1 := by
  cases r with
  | error e =>
    have hquiet : (c.accept (.error e)).replacements = 0 := rfl
    have hsize : (c.add (.error e)).size = c.size := rfl
    have hfailures : (c.add (.error e)).failures.length = c.failures.length + 1 := by simp [add]
    omega
  | ok t =>
    rw [add, failures_put, size_eq_length_ids, size_eq_length_ids, ids_put, accept, insert]
    by_cases hid : t.id ∈ c.ids
    · rw [if_pos hid, if_pos (isSome_get?_iff.2 hid)]
      rfl
    · rw [if_neg hid, if_neg (fun h => hid (isSome_get?_iff.1 h)), List.length_append]
      rfl

theorem value_addEntry (config : Config) (c : Catalog) (id : Identifier)
    (entry : TracedReading TipError Tip) :
    (c.addEntry config id entry).value =
      if config.isIgnored id then c else c.add entry.outcome := by
  unfold addEntry
  split
  · rfl
  · rw [Traced.value_bind, value_accept]
    rfl

theorem count_addEntry (config : Config) (c : Catalog) (id : Identifier)
    {entry : TracedReading TipError Tip} (hquiet : entry.Emits Event.IsOfCompiling) :
    (c.addEntry config id entry).value.failures.length +
        (c.addEntry config id entry).value.size +
        (c.addEntry config id entry).replacements +
        (if config.isIgnored id then 1 else 0) =
      c.failures.length + c.size + 1 := by
  rw [value_addEntry, addEntry]
  by_cases hid : config.isIgnored id = true
  · simp only [if_pos hid]
    rfl
  · have hread : entry.run.replacements = 0 := Traced.replacements_eq_zero hquiet
    simp only [if_neg hid, Traced.replacements_bind, hread, Nat.zero_add, Nat.add_zero]
    exact count_add c entry.outcome

/-! ## Loads -/

variable {α : Type}

/-- The entries that a load reads. -/
def live (config : Config) (entries : List (Identifier × α)) : List (Identifier × α) :=
  entries.filter fun e => !config.isIgnored e.1

theorem live_live (config : Config) (entries : List (Identifier × α)) :
    live config (live config entries) = live config entries := by
  simp [live]

theorem value_loadEntries (config : Config)
    (entries : List (Identifier × TracedReading TipError Tip)) :
    (loadEntries config entries).value =
      ofOutcomes ((live config entries).map fun e => e.2.outcome) := by
  rw [loadEntries, Traced.value_bind, Traced.value_bind, Traced.value_pure, Traced.value_foldlM,
    ofOutcomes, List.foldl_map, live, List.foldl_filter]
  congr 1
  funext c e
  rw [value_addEntry]
  cases config.isIgnored e.1 <;> rfl

/-- The catalog after entries, one after the other. -/
def addEntries (config : Config) (c : Catalog)
    (entries : List (Identifier × TracedReading TipError Tip)) : Traced Catalog :=
  entries.foldlM (fun c e => addEntry config c e.1 e.2) c

theorem addEntries_cons (config : Config) (c : Catalog)
    (e : Identifier × TracedReading TipError Tip)
    (entries : List (Identifier × TracedReading TipError Tip)) :
    addEntries config c (e :: entries) =
      c.addEntry config e.1 e.2 >>= fun c => c.addEntries config entries := by
  simp [addEntries]

theorem count_addEntries (config : Config) (c : Catalog)
    {entries : List (Identifier × TracedReading TipError Tip)}
    (hquiet : ∀ e ∈ entries, e.2.Emits Event.IsOfCompiling) :
    (c.addEntries config entries).value.failures.length +
        (c.addEntries config entries).value.size +
        (c.addEntries config entries).replacements +
        entries.countP (fun e => config.isIgnored e.1) =
      c.failures.length + c.size + entries.length := by
  induction entries generalizing c with
  | nil => rfl
  | cons e entries ih =>
    have hfirst := count_addEntry config c e.1 (hquiet e List.mem_cons_self)
    have hrest := ih (c.addEntry config e.1 e.2).value fun e he => hquiet e (List.mem_cons_of_mem _ he)
    rw [addEntries_cons, Traced.value_bind, Traced.replacements_bind, List.countP_cons,
      List.length_cons]
    omega

/-- **Nothing is lost**: every entry is ignored, failed, held, or had its tip replaced. -/
theorem count_loadEntries (config : Config)
    {entries : List (Identifier × TracedReading TipError Tip)}
    (hquiet : ∀ e ∈ entries, e.2.Emits Event.IsOfCompiling) :
    entries.length = entries.countP (fun e => config.isIgnored e.1) +
      (loadEntries config entries).value.failures.length +
      (loadEntries config entries).value.size + (loadEntries config entries).replacements := by
  have hcount := count_addEntries config empty hquiet
  have hempty : empty.failures.length + empty.size = 0 := rfl
  have hvalue : (loadEntries config entries).value = (empty.addEntries config entries).value := rfl
  have hreplaced : (loadEntries config entries).replacements =
      (empty.addEntries config entries).replacements := by
    rw [loadEntries, Traced.replacements_bind]
    rfl
  rw [hvalue, hreplaced]
  omega

/-! ## Loads of JSON entries -/

section Load

variable {reader : TipReader} {config : Config} {entries : List (Identifier × Json)}

/-- What reading an entry in a load ends with. -/
def outcome (reader : TipReader) (config : Config) (e : Identifier × Json) : Except TipError Tip :=
  ((readerFor reader config).read e.1 e.2).outcome

theorem live_map {β : Type} (config : Config) (f : Identifier × α → β)
    (entries : List (Identifier × α)) :
    live config (entries.map fun e => (e.1, f e)) =
      (live config entries).map fun e => (e.1, f e) := by
  rw [live, List.filter_map]
  rfl

/-- **The catalog is what the outcomes of the live entries make of the empty one.** -/
theorem value_load (reader : TipReader) (config : Config) (entries : List (Identifier × Json)) :
    (load reader config entries).value =
      ofOutcomes ((live config entries).map (outcome reader config)) := by
  rw [load, value_loadEntries, live_map, List.map_map]
  rfl

theorem value_load_live (reader : TipReader) (config : Config) (entries : List (Identifier × Json)) :
    (load reader config (live config entries)).value = (load reader config entries).value := by
  rw [value_load, value_load, live_live]

theorem id_of_outcome {e : Identifier × Json} {t : Tip} (h : outcome reader config e = .ok t) :
    t.id = e.1 := by
  obtain ⟨_, _, hid, _⟩ := TipReader.read_eq_ok_iff.1 h
  exact hid

/-- The tips of an id are what the entries of that id give. -/
theorem filter_tips (es : List (Identifier × Json)) (id : Identifier) :
    ((es.map (outcome reader config)).filterMap Except.toOption).filter (·.id == id) =
      (es.filter (·.1 == id)).filterMap fun e => (outcome reader config e).toOption := by
  rw [List.filterMap_map, List.filter_filterMap, List.filterMap_filter]
  congr 1
  funext e
  dsimp only [Function.comp]
  cases he : outcome reader config e with
  | error fault => simp [Except.toOption]
  | ok t => simp [Except.toOption, Option.filter, id_of_outcome he]

/-- The ids of the tips are the ids of the entries that can be read. -/
theorem ids_tips (es : List (Identifier × Json)) :
    ((es.map (outcome reader config)).filterMap Except.toOption).map Tip.id =
      (es.filter fun e => (outcome reader config e).isOk).map Prod.fst := by
  rw [List.filterMap_map, List.map_filterMap, ← List.filterMap_eq_map, List.filterMap_filter]
  congr 1
  funext e
  dsimp only [Function.comp]
  cases he : outcome reader config e with
  | error fault => rfl
  | ok t => simp [Except.toOption, Except.isOk, Except.toBool, id_of_outcome he]

theorem count_load (reader : TipReader) (config : Config) (entries : List (Identifier × Json)) :
    entries.length = entries.countP (fun e => config.isIgnored e.1) +
      (load reader config entries).value.failures.length +
      (load reader config entries).value.size + (load reader config entries).replacements := by
  have hquiet : ∀ e ∈ entries.map fun e => (e.1, (readerFor reader config).read e.1 e.2),
      e.2.Emits Event.IsOfCompiling := by
    intro e he
    obtain ⟨e, -, rfl⟩ := List.mem_map.1 he
    exact (readerFor reader config).read_emits e.1 e.2
  have hcount := count_loadEntries config hquiet
  rw [List.length_map, List.countP_map] at hcount
  exact hcount

/-- **The laws of a load**, whatever the reader, the configuration and the entries. -/
theorem load_spec (reader : TipReader) (config : Config) (entries : List (Identifier × Json)) :
    let c := (load reader config entries).value
    let live := entries.filter fun e => !config.isIgnored e.1
    let outcome := fun e : Identifier × Json =>
      ((TipReader.mk reader.host (reader.defaultTitle.or config.defaultTitle)).read e.1 e.2).outcome
    -- ids are distinct, and the table leads from each of them to its position and nowhere else
    c.ids.Nodup ∧
    (∀ id i, c.positions[id]? = some i ↔ ∃ h : i < c.tips.size, c.tips[i].id = id) ∧
    (∀ id t, c.get? id = some t ↔ t ∈ c.toList ∧ t.id = id) ∧
    -- the last success for an id counts, and ids stand in the order of their first success
    (∀ id, c.get? id =
      ((live.filter (·.1 == id)).filterMap fun e => (outcome e).toOption).getLast?) ∧
    c.ids = ((live.filter fun e => (outcome e).isOk).map Prod.fst).eraseDups ∧
    -- failures are the errors of the entries that fail, in their order
    c.failures = (live.filterMap fun e => failure? (outcome e)) ∧
    -- ignored entries do not matter, and every entry is accounted for
    c = (load reader config live).value ∧
    entries.length = entries.countP (fun e => config.isIgnored e.1) + c.failures.length + c.size +
      (load reader config entries).notices.countP Notice.isReplacement := by
  refine ⟨nodup_ids _, fun id i => position_iff, fun id t => get?_eq_some_iff, ?_, ?_, ?_, ?_,
    count_load _ _ _⟩
  · intro id
    rw [value_load, get?_ofOutcomes, filter_tips]
    rfl
  · rw [value_load, ids_ofOutcomes, ids_tips]
    rfl
  · rw [value_load, failures_ofOutcomes, List.filterMap_map]
    rfl
  · exact (value_load_live reader config entries).symm

end Load

end Catalog
end GameTips
