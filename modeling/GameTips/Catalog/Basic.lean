import GameTips.Random
import GameTips.Tip.Display
import GameTips.Tip.Reader
import Std.Data.HashMap

/-!
# Catalogs

A catalog holds the tips that were loaded from a list of entries, in the order in which their ids
first succeeded, and the errors of the entries that failed. Of several entries with one id, the last
that can be read counts. Ignored tips are passed over.

* `Catalog.load` loads entries;
* `Catalog.get?` finds a tip by its id, through a table of positions;
* `Catalog.displayable` and `Catalog.randomTip` ask which tips can be shown.

`Catalog.get?_eq_some_iff` says that a catalog has at most one tip for an id and that the table leads
to it. `Catalog.ids_put` and `Catalog.get?_put` say what adding a tip does.
-/

namespace GameTips

/-- Loaded tips and the errors met on the way. -/
structure Catalog where
  tips : Array Tip
  /-- Where the tip of an id stands. -/
  positions : Std.HashMap Identifier Nat
  failures : List TipError
  /-- An id is in the table exactly if a tip has it, with the position of the tip. -/
  positions_iff : ∀ id i, positions[id]? = some i ↔ tips[i]?.map Tip.id = some id

namespace Catalog

def empty : Catalog := ⟨#[], ∅, [], by simp⟩

def toList (c : Catalog) : List Tip :=
  c.tips.toList

def ids (c : Catalog) : List Identifier :=
  c.toList.map Tip.id

def get? (c : Catalog) (id : Identifier) : Option Tip :=
  c.positions[id]?.bind fun i => c.tips[i]?

def size (c : Catalog) : Nat :=
  c.tips.size

def isEmpty (c : Catalog) : Bool :=
  c.tips.isEmpty

theorem get?_eq_some_iff {c : Catalog} {id : Identifier} {t : Tip} :
    c.get? id = some t ↔ t ∈ c.toList ∧ t.id = id := by
  simp only [get?, toList, Option.bind_eq_some_iff, Array.mem_toList_iff, Array.mem_iff_getElem?]
  constructor
  · rintro ⟨i, hpos, htip⟩
    have hid := (c.positions_iff id i).1 hpos
    rw [htip] at hid
    exact ⟨⟨i, htip⟩, Option.some.inj hid⟩
  · rintro ⟨⟨i, htip⟩, rfl⟩
    exact ⟨i, (c.positions_iff t.id i).2 (by rw [htip]; rfl), htip⟩

theorem getElem?_ids (c : Catalog) (i : Nat) : c.ids[i]? = c.tips[i]?.map Tip.id := by
  simp [ids, toList]

theorem mem_ids_iff {c : Catalog} {id : Identifier} :
    id ∈ c.ids ↔ (c.positions[id]?).isSome := by
  simp only [List.mem_iff_getElem?, Option.isSome_iff_exists, getElem?_ids, c.positions_iff]

theorem lt_size_of_position {c : Catalog} {id : Identifier} {i : Nat}
    (hfound : c.positions[id]? = some i) : i < c.tips.size := by
  obtain ⟨t, htip, -⟩ := Option.map_eq_some_iff.1 ((c.positions_iff id i).1 hfound)
  exact (Array.getElem?_eq_some_iff.1 htip).1

theorem nodup_ids (c : Catalog) : c.ids.Nodup := by
  rw [List.Nodup, List.pairwise_iff_getElem]
  intro i j hi hj hlt hid
  have hposi := (c.positions_iff c.ids[i] i).2 (by simp [← getElem?_ids, hi])
  have hposj := (c.positions_iff c.ids[j] j).2 (by simp [← getElem?_ids, hj])
  rw [hid, hposj] at hposi
  injection hposi
  omega

/-! ## Loading -/

/-- A tip that takes the place of one with its id changes no id. -/
theorem map_id_set {c : Catalog} {t : Tip} {i : Nat} (hfound : c.positions[t.id]? = some i) (j : Nat) :
    (c.tips.setIfInBounds i t)[j]?.map Tip.id = c.tips[j]?.map Tip.id := by
  have hold := (c.positions_iff t.id i).1 hfound
  rw [Array.getElem?_setIfInBounds]
  split
  · subst j
    rw [hold]
    split
    · rfl
    · rw [Array.getElem?_eq_none (by omega)] at hold
      contradiction
  · rfl

/-- The table stays right where a tip with a new id comes last. -/
theorem positions_iff_push {c : Catalog} {t : Tip} (hfresh : c.positions[t.id]? = none)
    (id : Identifier) (j : Nat) :
    (c.positions.insert t.id c.tips.size)[id]? = some j ↔
      (c.tips.push t)[j]?.map Tip.id = some id := by
  have hknown := c.positions_iff id j
  rw [Std.HashMap.getElem?_insert, Array.getElem?_push]
  by_cases hid : t.id = id
  · subst hid
    rw [hfresh] at hknown
    by_cases hlast : j = c.tips.size
    · simp [hlast]
    · simp only [reduceCtorEq, false_iff] at hknown
      simp [hlast, hknown, Ne.symm hlast]
  · by_cases hlast : j = c.tips.size
    · rw [hlast, Array.getElem?_eq_none (Nat.le_refl _)] at hknown
      simpa [hlast, hid] using hknown
    · simpa [hlast, hid] using hknown

/-- The catalog with a tip added, in the place of an earlier one with its id if there is one. -/
def put (c : Catalog) (t : Tip) : Catalog :=
  match hfound : c.positions[t.id]? with
  | some i =>
    { c with
      tips := c.tips.setIfInBounds i t
      positions_iff := fun id j => by rw [map_id_set hfound, c.positions_iff] }
  | none =>
    { c with
      tips := c.tips.push t
      positions := c.positions.insert t.id c.tips.size
      positions_iff := positions_iff_push hfound }

theorem ids_put (c : Catalog) (t : Tip) :
    (c.put t).ids = if t.id ∈ c.ids then c.ids else c.ids ++ [t.id] := by
  unfold put
  split
  · next i hfound =>
    rw [if_pos (mem_ids_iff.2 (by rw [hfound]; rfl))]
    apply List.ext_getElem?
    intro j
    rw [getElem?_ids, getElem?_ids]
    exact map_id_set hfound j
  · next hfound =>
    rw [if_neg (fun hknown => by simpa [hfound] using mem_ids_iff.1 hknown)]
    simp [ids, toList]

theorem toList_put_of_not_mem {c : Catalog} {t : Tip} (hfresh : t.id ∉ c.ids) :
    (c.put t).toList = c.toList ++ [t] := by
  unfold put
  split
  · next i hfound => exact absurd (mem_ids_iff.2 (by rw [hfound]; rfl)) hfresh
  · simp [toList]

theorem get?_put (c : Catalog) (t : Tip) (id : Identifier) :
    (c.put t).get? id = if id = t.id then some t else c.get? id := by
  unfold put
  split
  · next i hfound =>
    have hold := (c.positions_iff t.id i).1 hfound
    by_cases hid : id = t.id
    · subst hid
      simp [get?, hfound, lt_size_of_position hfound]
    · simp only [get?, if_neg hid]
      cases hpos : c.positions[id]? with
      | none => rfl
      | some j =>
        have hother := (c.positions_iff id j).1 hpos
        have hne : i ≠ j := by
          rintro rfl
          exact hid (Option.some.inj (hother.symm.trans hold))
        simp [hne]
  · next hfound =>
    by_cases hid : id = t.id
    · subst hid
      simp [get?]
    · simp only [get?, if_neg hid, Std.HashMap.getElem?_insert]
      cases hpos : c.positions[id]? with
      | none => simp [Ne.symm hid]
      | some j =>
        simp [Ne.symm hid, Array.getElem?_push, Nat.ne_of_lt (lt_size_of_position hpos)]

@[simp] theorem failures_put (c : Catalog) (t : Tip) : (c.put t).failures = c.failures := by
  unfold put
  split <;> rfl

/-- Add a tip, with a notice if it takes the place of an earlier one. -/
def insert (c : Catalog) (t : Tip) : Traced Catalog := do
  if (c.get? t.id).isSome then Traced.note (.tipReplaced t.id)
  pure (c.put t)

/-- The catalog after the reading of an entry, which gives a tip or an error. -/
def accept (c : Catalog) : Except TipError Tip → Traced Catalog
  | .ok t => c.insert t
  | .error e => do
    Traced.note (.tipFailed e.id)
    pure { c with failures := c.failures ++ [e] }

/-- The catalog after an entry, which is read only if its id is not ignored. -/
def addEntry (config : Config) (c : Catalog) (id : Identifier)
    (entry : TracedReading TipError Tip) : Traced Catalog :=
  if config.isIgnored id then do
    Traced.note (.tipIgnored id)
    pure c
  else do
    let result ← entry.run
    c.accept result

/-- The reader for a load: the title of the configuration stands in where the reader has none. -/
def readerFor (reader : TipReader) (config : Config) : TipReader :=
  { reader with defaultTitle := reader.defaultTitle.or config.defaultTitle }

/-- Load entries one after the other, each given with its id and the way to read it. -/
def loadEntries (config : Config) (entries : List (Identifier × TracedReading TipError Tip)) :
    Traced Catalog := do
  let c ← entries.foldlM (fun c e => c.addEntry config e.1 e.2) empty
  Traced.note (.tipsLoaded c.size c.failures.length)
  pure c

/-- Load JSON entries. -/
def load (reader : TipReader) (config : Config) (entries : List (Identifier × Json)) :
    Traced Catalog :=
  loadEntries config (entries.map fun e => (e.1, (readerFor reader config).read e.1 e.2))

/-! ## Showing -/

/-- The tips of a list that can be shown; every tip is asked about once, in order. -/
def displayableOf (ctx : DisplayContext) : List Tip → Traced (List Tip)
  | [] => pure []
  | t :: rest => do
    let shown ← t.canDisplay ctx
    let others ← displayableOf ctx rest
    pure (if shown then t :: others else others)

def displayable (c : Catalog) (ctx : DisplayContext) : Traced (List Tip) :=
  displayableOf ctx c.toList

/-- Choose one of the tips that can be shown. -/
def randomTip {ρ : Type} (c : Catalog) (ctx : DisplayContext) (chooser : Chooser ρ Tip) (s : ρ) :
    Traced (Option Tip × ρ) := do
  let tips ← c.displayable ctx
  pure (chooser.choose tips s)

end Catalog
end GameTips
