import GameTips.FileTree.Route
import Mathlib.Data.List.Basic

/-!
# What is at the places of a tree

What a tree shows at a place is a file with its content, or a folder, or nothing (`FileTree.view`). Its
folders are told apart by what is at the places below them, so setting a file or an empty folder, where no
folder is, changes what is shown at one place only (`view_set`).

The trees that stand for folders of files have entries with different names in a folder, and each name is
one that can be given (`FileTree.WellFormed`).
-/

namespace GameTips

/-! ## Names -/

namespace Route

/-- Whether a name can be given to an entry of a folder: it is one step of a route, downwards. -/
def IsStep (name : String) : Prop :=
  isBlank name = false ∧ name ≠ up ∧ '/' ∉ name.toList ∧ '\u0000' ∉ name.toList ∧ isName name = true

instance (name : String) : Decidable (IsStep name) := inferInstanceAs (Decidable (_ ∧ _))

end Route

namespace FileTree

/-! ## Well-formed trees -/

mutual

/-- Whether the entries of every folder have different names that can be given. -/
def WellFormed : FileTree → Prop
  | .file _ => True
  | .folder entries => (entries.map Prod.fst).Nodup ∧ WellFormedEntries entries

/-- Whether all entries have names that can be given, and well-formed trees. -/
def WellFormedEntries : List (String × FileTree) → Prop
  | [] => True
  | (name, t) :: rest => Route.IsStep name ∧ t.WellFormed ∧ WellFormedEntries rest

end

theorem wellFormedEntries_iff {entries : List (String × FileTree)} :
    WellFormedEntries entries ↔ ∀ e ∈ entries, Route.IsStep e.1 ∧ e.2.WellFormed := by
  induction entries with
  | nil => simp [WellFormedEntries]
  | cons e rest ih => rw [WellFormedEntries, ih, List.forall_mem_cons, and_assoc]

/-! ## Entries -/

theorem lookup_cons (k : String) (u : FileTree) (rest : List (String × FileTree)) (name : String) :
    ((k, u) :: rest).lookup name = if name = k then some u else rest.lookup name := by
  rw [List.lookup_cons]
  by_cases hname : name = k
  · rw [if_pos hname, beq_iff_eq.2 hname]
  · rw [if_neg hname, beq_eq_false_iff_ne.2 hname]

theorem mem_of_lookup {entries : List (String × FileTree)} {name : String} {t : FileTree}
    (h : entries.lookup name = some t) : (name, t) ∈ entries := by
  induction entries with
  | nil => cases h
  | cons e rest ih =>
    obtain ⟨k, u⟩ := e
    rw [lookup_cons] at h
    split at h
    · next hname =>
      obtain rfl := Option.some.inj h
      obtain rfl := hname
      exact List.mem_cons_self
    · exact List.mem_cons_of_mem _ (ih h)

theorem lookup_of_mem {entries : List (String × FileTree)} (hnodup : (entries.map Prod.fst).Nodup)
    {name : String} {t : FileTree} (h : (name, t) ∈ entries) : entries.lookup name = some t := by
  induction entries with
  | nil => cases h
  | cons e rest ih =>
    obtain ⟨k, u⟩ := e
    obtain ⟨hnew, hrest⟩ := List.nodup_cons.1 hnodup
    rw [lookup_cons]
    rcases List.mem_cons.1 h with heq | h
    · obtain ⟨rfl, rfl⟩ := Prod.mk.inj heq
      rw [if_pos rfl]
    · have hmem : name ∈ rest.map Prod.fst := List.mem_map.2 ⟨_, h, rfl⟩
      have hne : name ≠ k := fun heq => hnew (heq ▸ hmem)
      rw [if_neg hne]
      exact ih hrest h

theorem lookup_setEntry (name : String) (t : FileTree) (entries : List (String × FileTree)) (k : String) :
    (setEntry name t entries).lookup k = if k = name then some t else entries.lookup k := by
  induction entries with
  | nil => exact lookup_cons name t [] k
  | cons e rest ih =>
    obtain ⟨l, u⟩ := e
    unfold setEntry
    by_cases hl : l = name
    · subst hl
      rw [if_pos rfl, lookup_cons, lookup_cons]
      by_cases hk : k = l
      · rw [if_pos hk, if_pos hk]
      · rw [if_neg hk, if_neg hk, if_neg hk]
    · rw [if_neg hl, lookup_cons, lookup_cons, ih]
      by_cases hk : k = l
      · rw [if_pos hk, if_neg (hk ▸ hl), if_pos hk]
      · rw [if_neg hk, if_neg hk]

/-- An entry set to what it is. -/
theorem setEntry_of_lookup {entries : List (String × FileTree)} {name : String} {t : FileTree}
    (h : entries.lookup name = some t) : setEntry name t entries = entries := by
  induction entries with
  | nil => cases h
  | cons e rest ih =>
    obtain ⟨k, u⟩ := e
    rw [lookup_cons] at h
    unfold setEntry
    by_cases hk : k = name
    · rw [if_pos hk.symm] at h
      obtain rfl := Option.some.inj h
      rw [if_pos hk, hk]
    · rw [if_neg (Ne.symm hk)] at h
      rw [if_neg hk, ih h]

/-! ## Places -/

theorem get?_cons (entries : List (String × FileTree)) (name : String) (path : Path) :
    (folder entries).get? (name :: path) = (entries.lookup name).bind fun t => t.get? path := by
  rw [get?]
  cases entries.lookup name <;> rfl

theorem get?_append (t : FileTree) (path more : Path) :
    t.get? (path ++ more) = (t.get? path).bind fun u => u.get? more := by
  induction path generalizing t with
  | nil => rfl
  | cons name path ih =>
    cases t with
    | file content => rfl
    | folder entries =>
      rw [List.cons_append, get?_cons, get?_cons]
      cases entries.lookup name with
      | none => rfl
      | some u => exact ih u

theorem set_cons (entries : List (String × FileTree)) (name : String) (path : Path) (u : FileTree) :
    (folder entries).set (name :: path) u =
      folder (setEntry name (((entries.lookup name).getD (.folder [])).set path u) entries) := rfl

/-- A place set to what is there. -/
theorem set_of_get? {t : FileTree} {path : Path} {u : FileTree} (h : t.get? path = some u) :
    t.set path u = t := by
  induction path generalizing t with
  | nil => exact (Option.some.inj h).symm
  | cons name path ih =>
    cases t with
    | file content => rfl
    | folder entries =>
      rw [get?_cons] at h
      obtain ⟨v, hv, h⟩ := Option.bind_eq_some_iff.1 h
      rw [set_cons, hv, Option.getD_some, ih h, setEntry_of_lookup hv]

theorem WellFormed.get? {t : FileTree} (ht : t.WellFormed) {path : Path} {u : FileTree}
    (h : t.get? path = some u) : u.WellFormed := by
  induction path generalizing t with
  | nil =>
    obtain rfl := Option.some.inj h
    exact ht
  | cons name path ih =>
    cases t with
    | file content => cases h
    | folder entries =>
      rw [get?_cons] at h
      obtain ⟨v, hv, h⟩ := Option.bind_eq_some_iff.1 h
      exact ih (wellFormedEntries_iff.1 ht.2 _ (mem_of_lookup hv)).2 h

/-- Every name on the way to a place can be given. -/
theorem WellFormed.isStep {t : FileTree} (ht : t.WellFormed) {path : Path} {u : FileTree}
    (h : t.get? path = some u) : ∀ name ∈ path, Route.IsStep name := by
  induction path generalizing t with
  | nil => simp
  | cons name path ih =>
    cases t with
    | file content => cases h
    | folder entries =>
      rw [get?_cons] at h
      obtain ⟨v, hv, h⟩ := Option.bind_eq_some_iff.1 h
      obtain ⟨hname, hv⟩ := wellFormedEntries_iff.1 ht.2 _ (mem_of_lookup hv)
      exact List.forall_mem_cons.2 ⟨hname, ih hv h⟩

/-! ## Views -/

/-- The content of a file; nothing for a folder. -/
def content? : FileTree → Option ByteArray
  | .file content => some content
  | .folder _ => none

/-- What is shown at a place: the content of a file, or that there is a folder. -/
def view (t : FileTree) (path : Path) : Option (Option ByteArray) :=
  (t.get? path).map content?

theorem isSome_get?_iff {t : FileTree} {path : Path} : (t.get? path).isSome ↔ ∃ x, t.view path = some x := by
  rw [Option.isSome_iff_exists]
  simp [view]

theorem get?_eq_file_iff {t : FileTree} {path : Path} {content : ByteArray} :
    t.get? path = some (.file content) ↔ t.view path = some (some content) := by
  rw [view, Option.map_eq_some_iff]
  constructor
  · intro h
    exact ⟨_, h, rfl⟩
  · rintro ⟨u, hu, hcontent⟩
    cases u with
    | file x =>
      obtain rfl := Option.some.inj hcontent
      exact hu
    | folder entries => cases hcontent

theorem hasFolder_iff {t : FileTree} {path : Path} : t.hasFolder path = true ↔ t.view path = some none := by
  rw [hasFolder, view]
  cases t.get? path with
  | none => simp
  | some u => cases u <;> simp [isFolder, content?]

theorem exists_of_hasFolder {t : FileTree} {path : Path} (h : t.hasFolder path) :
    ∃ entries, t.get? path = some (.folder entries) := by
  obtain ⟨u, hu, hcontent⟩ := Option.map_eq_some_iff.1 (hasFolder_iff.1 h)
  cases u with
  | file content => cases hcontent
  | folder entries => exact ⟨entries, hu⟩

/-- Whether nothing is below a tree: it is a file or an empty folder. -/
def IsLeaf (t : FileTree) : Prop := ∀ name path, t.get? (name :: path) = none

theorem isLeaf_file (content : ByteArray) : (file content).IsLeaf := fun _ _ => rfl

theorem isLeaf_folder_nil : (folder []).IsLeaf := fun _ _ => rfl

theorem isLeaf_of_not_hasFolder {t u : FileTree} {path : Path} (h : ¬ t.hasFolder path)
    (hu : t.get? path = some u) : u.IsLeaf := by
  cases u with
  | file content => exact isLeaf_file content
  | folder entries => exact absurd (hasFolder_iff.2 (by rw [view, hu]; rfl)) h

theorem view_leaf {t : FileTree} (ht : t.IsLeaf) (path : Path) :
    t.view path = if path = [] then some t.content? else none := by
  cases path with
  | nil => rfl
  | cons name path => rw [view, ht, if_neg (List.cons_ne_nil _ _), Option.map_none]

theorem view_cons (entries : List (String × FileTree)) (name : String) (path : Path) :
    (folder entries).view (name :: path) = (entries.lookup name).bind fun t => t.view path := by
  rw [view, get?_cons]
  cases entries.lookup name <;> rfl

theorem view_setEntry (name : String) (u : FileTree) (entries : List (String × FileTree)) (k : String)
    (place : Path) : (folder (setEntry name u entries)).view (k :: place) =
      if k = name then u.view place else (folder entries).view (k :: place) := by
  rw [view_cons, lookup_setEntry, view_cons]
  split
  · rfl
  · rfl

/-- Nothing is below a place without a folder. -/
theorem view_append_of_not_hasFolder {t : FileTree} {path : Path} (h : ¬ t.hasFolder path) {more : Path}
    (hmore : more ≠ []) : t.view (path ++ more) = none := by
  obtain ⟨name, below, rfl⟩ := List.exists_cons_of_ne_nil hmore
  rw [view, get?_append]
  cases hget : t.get? path with
  | none => rfl
  | some u => rw [Option.bind_some, isLeaf_of_not_hasFolder h hget, Option.map_none]

theorem exists_lookup_of_hasFolder {entries : List (String × FileTree)} {first : String} {path : Path}
    (h : (folder entries).hasFolder (first :: path)) :
    ∃ v, entries.lookup first = some v ∧
      ∀ more, (folder entries).hasFolder (first :: more) = v.hasFolder more := by
  cases hfirst : entries.lookup first with
  | none =>
    rw [hasFolder_iff, view_cons, hfirst] at h
    cases h
  | some v =>
    refine ⟨v, rfl, fun more => ?_⟩
    rw [hasFolder, get?_cons, hfirst]
    rfl

/-- **Setting a leaf in a folder, where no folder is, changes what is shown at its place only.** -/
theorem view_set {t : FileTree} {path : Path} {name : String} (hfolder : t.hasFolder path)
    (hold : ¬ t.hasFolder (path ++ [name])) {u : FileTree} (hu : u.IsLeaf) (place : Path) :
    (t.set (path ++ [name]) u).view place =
      if place = path ++ [name] then some u.content? else t.view place := by
  induction path generalizing t place with
  | nil =>
    cases t with
    | file content => cases hfolder
    | folder entries =>
      cases place with
      | nil => rfl
      | cons k place =>
        rw [List.nil_append, set_cons, view_setEntry, FileTree.set, view_leaf hu]
        by_cases hk : k = name
        · subst hk
          by_cases hplace : place = []
          · simp [hplace]
          · have hnothing : (folder entries).view (k :: place) = none :=
              view_append_of_not_hasFolder hold hplace
            rw [if_pos rfl, if_neg hplace, if_neg (fun heq => hplace (List.cons.inj heq).2), hnothing]
        · rw [if_neg hk, if_neg (fun heq => hk (List.cons.inj heq).1)]
  | cons first path ih =>
    cases t with
    | file content => cases hfolder
    | folder entries =>
      obtain ⟨v, hv, hbelow⟩ := exists_lookup_of_hasFolder hfolder
      rw [List.cons_append, hbelow] at hold
      rw [hbelow] at hfolder
      rw [List.cons_append, set_cons, hv, Option.getD_some]
      cases place with
      | nil => rfl
      | cons k place =>
        rw [view_setEntry]
        by_cases hk : k = first
        · subst hk
          rw [if_pos rfl, ih hfolder hold, view_cons, hv, Option.bind_some]
          simp only [List.cons.injEq, true_and]
        · rw [if_neg hk, if_neg (fun heq => hk (List.cons.inj heq).1)]

end FileTree
end GameTips
