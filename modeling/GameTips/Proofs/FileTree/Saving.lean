import GameTips.Proofs.FileTree.Places
import GameTips.Proofs.FileTree.Routes

/-!
# Saving a file

A file is saved in two steps. Making the folders on its way keeps all that is shown in the tree, adds no
file, and leads to where following the same names then leads; making them again does nothing
(`FileTree.Made`). Writing the file changes what is shown at one place. What a save can come to is said by
`save_eq_true_iff` and `save_eq_false_iff`.

So a file that was written is found on its route, every other file is as it was, and saving the same again
does nothing (`save_true`). Where no file is written, all files are as they were, and saving fails again
without a change; there was and is no file on the route (`save_false`).
-/

namespace GameTips

namespace FileTree

variable {t t' : FileTree} {path place : Path} {name : String} {names : List String}

/-! ## Following names -/

theorem follow?_append (t : FileTree) (path : Path) (names more : List String) :
    t.follow? path (names ++ more) = (t.follow? path names).bind fun p => t.follow? p more := by
  induction names generalizing path with
  | nil => rfl
  | cons name names ih =>
    rw [List.cons_append, follow?, follow?]
    split
    · rfl
    · split
      · exact ih _
      · split
        · exact ih _
        · rfl

theorem follow?_down_iff (hname : name ≠ Route.up) :
    t.follow? path [name] = some place ↔
      t.hasFolder path ∧ (t.get? (path ++ [name])).isSome ∧ place = path ++ [name] := by
  rw [follow?, if_neg hname, follow?]
  cases t.hasFolder path with
  | false => simp
  | true => cases (t.get? (path ++ [name])).isSome <;> simp [eq_comm]

/-- Names that lead to a folder start from one. -/
theorem hasFolder_of_follow? (h : t.follow? path names = some place) (hplace : t.hasFolder place) :
    t.hasFolder path := by
  cases names with
  | nil =>
    obtain rfl := Option.some.inj h
    exact hplace
  | cons name names =>
    rw [follow?] at h
    split at h
    · cases h
    · next hfolder => simpa using hfolder

theorem locate?_eq_some_iff {s : String} :
    t.locate? s = some place ↔ ∃ r, Route.ofText? s = some r ∧ t.follow? [] r.names = some place ∧
      (r.toFolder = true → t.hasFolder place) := by
  simp only [locate?, Option.bind_eq_some_iff, Option.filter_eq_some_iff, Bool.or_eq_true,
    Bool.not_eq_true', ← Bool.not_eq_true, imp_iff_not_or]

/-- Where no route leads to the folder, none leads to what would be in it. -/
theorem find?_eq_none {s : String} (h : Route.ofParts? (Route.parentParts (Route.parts s)) = none) :
    t.find? s = none := by
  have hnone : Route.ofText? s = none := by
    cases hr : Route.ofText? s with
    | none => rfl
    | some r =>
      obtain ⟨parent, hparent⟩ := Route.exists_parent hr
      rw [h] at hparent
      cases hparent
  rw [find?, locate?, hnone]
  rfl

/-- Whether all places of a tree are in another one, and its folders are folders there. -/
structure Grows (t t' : FileTree) : Prop where
  folders : ∀ place, t.hasFolder place → t'.hasFolder place
  places : ∀ place, (t.get? place).isSome → (t'.get? place).isSome

/-- Names that can be followed lead to the same place in a tree with more places. -/
theorem Grows.follow? (h : t.Grows t') (hfollow : t.follow? path names = some place) :
    t'.follow? path names = some place := by
  induction names generalizing path with
  | nil => exact hfollow
  | cons name names ih =>
    rw [FileTree.follow?] at hfollow ⊢
    split at hfollow
    · cases hfollow
    · next hfolder =>
      rw [Bool.not_eq_true, Bool.not_eq_false'] at hfolder
      rw [h.folders path hfolder, Bool.not_true, if_neg Bool.false_ne_true]
      split at hfollow
      · next hup =>
        rw [if_pos hup]
        exact ih hfollow
      · next hup =>
        rw [if_neg hup]
        split at hfollow
        · next hsome =>
          rw [if_pos (h.places _ hsome)]
          exact ih hfollow
        · cases hfollow

/-! ## Making folders -/

theorem makeFolders_down (t : FileTree) (path : Path) (hname : name ≠ Route.up) (names : List String) :
    t.makeFolders path (name :: names) =
      if t.hasFolder (path ++ [name]) then t.makeFolders (path ++ [name]) names
      else if (t.get? (path ++ [name])).isNone ∧ Route.isName name then
        (t.set (path ++ [name]) (.folder [])).makeFolders (path ++ [name]) names
      else (t, none) := by
  rw [makeFolders, if_neg hname, hasFolder]
  cases hget : t.get? (path ++ [name]) with
  | none => simp
  | some u => cases u <;> simp [isFolder]

/-- Making folders that are there does nothing. -/
theorem makeFolders_of_follow? (h : t.follow? path names = some place) (hplace : t.hasFolder place) :
    t.makeFolders path names = (t, some place) := by
  induction names generalizing path with
  | nil => rw [makeFolders, ← h, follow?]
  | cons name names ih =>
    rw [follow?] at h
    split at h
    · cases h
    · split at h
      · next hup =>
        rw [makeFolders, if_pos hup]
        exact ih h
      · next hup =>
        split at h
        · rw [makeFolders_down _ _ hup, if_pos (hasFolder_of_follow? h hplace)]
          exact ih h
        · cases h

/-- What making folders on the way of names comes to: a tree, and the place where the names end if all
folders could be made. -/
structure Made (t : FileTree) (path : Path) (names : List String) (t' : FileTree) (place? : Option Path) :
    Prop where
  keeps : ∀ place x, t.view place = some x → t'.view place = some x
  files : ∀ place content, t'.view place = some (some content) → t.view place = some (some content)
  ends : ∀ place ∈ place?, t'.follow? path names = some place ∧ t'.hasFolder place
  again : t'.makeFolders path names = (t', place?)

namespace Made

variable {place? : Option Path}

theorem grows (h : Made t path names t' place?) : t.Grows t' where
  folders place hplace := hasFolder_iff.2 (h.keeps place _ (hasFolder_iff.1 hplace))
  places place hplace := by
    obtain ⟨x, hx⟩ := isSome_get?_iff.1 hplace
    exact isSome_get?_iff.2 ⟨x, h.keeps place x hx⟩

/-- Where the folders cannot be made, nothing is changed. -/
theorem stop (h : t.makeFolders path names = (t, none)) : Made t path names t none :=
  ⟨fun _ _ h => h, fun _ _ h => h, by simp, h⟩

theorem enter (hpath : t.hasFolder path) (hname : name ≠ Route.up)
    (hfolder : t.hasFolder (path ++ [name])) (h : Made t (path ++ [name]) names t' place?) :
    Made t path (name :: names) t' place? where
  keeps := h.keeps
  files := h.files
  ends place hplace := by
    obtain ⟨hfollow, hends⟩ := h.ends place hplace
    refine ⟨?_, hends⟩
    have hpath' := h.grows.folders path hpath
    have hsome := h.grows.places (path ++ [name]) (isSome_get?_iff.2 ⟨_, hasFolder_iff.1 hfolder⟩)
    rw [follow?, hpath', Bool.not_true, if_neg Bool.false_ne_true, if_neg hname, if_pos hsome, hfollow]
  again := by
    rw [makeFolders_down _ _ hname, if_pos (h.grows.folders _ hfolder), h.again]

theorem up (hpath : t.hasFolder path) (h : Made t path.dropLast names t' place?) :
    Made t path (Route.up :: names) t' place? where
  keeps := h.keeps
  files := h.files
  ends place hplace := by
    obtain ⟨hfollow, hends⟩ := h.ends place hplace
    refine ⟨?_, hends⟩
    have hpath' := h.grows.folders path hpath
    rw [follow?, hpath', Bool.not_true, if_neg Bool.false_ne_true, if_pos rfl, hfollow]
  again := by
    rw [makeFolders, if_pos rfl, h.again]

/-- An empty folder that was made first is kept like all that was there. -/
theorem make (hpath : t.hasFolder path) (hnone : (t.get? (path ++ [name])).isNone)
    (h : Made (t.set (path ++ [name]) (.folder [])) path names t' place?) :
    Made t path names t' place? := by
  rw [Option.isNone_iff_eq_none] at hnone
  have hnothing : t.view (path ++ [name]) = none := by rw [view, hnone]; rfl
  have hview := view_set hpath (fun hfolder => by rw [hasFolder_iff, hnothing] at hfolder; cases hfolder)
    isLeaf_folder_nil
  refine ⟨fun place x hx => h.keeps place x ?_, fun place content hcontent => ?_, h.ends, h.again⟩
  · rw [hview, if_neg, hx]
    rintro rfl
    rw [hnothing] at hx
    cases hx
  · have hset := h.files place content hcontent
    rw [hview] at hset
    split at hset
    · cases hset
    · exact hset

end Made

theorem hasFolder_dropLast (h : t.hasFolder path) : t.hasFolder path.dropLast := by
  rcases List.eq_nil_or_concat path with rfl | ⟨before, last, rfl⟩
  · exact h
  · rw [List.concat_eq_append] at h ⊢
    rw [List.dropLast_concat, hasFolder_iff, view]
    rw [hasFolder_iff, view, get?_append] at h
    cases hbefore : t.get? before with
    | none =>
      rw [hbefore] at h
      cases h
    | some u =>
      cases u with
      | file content =>
        rw [hbefore] at h
        cases h
      | folder entries => rfl

/-- **Making folders** keeps what is there, and leads to where the names then lead. -/
theorem made (hpath : t.hasFolder path) (names : List String) :
    Made t path names (t.makeFolders path names).1 (t.makeFolders path names).2 := by
  induction names generalizing t path with
  | nil => exact ⟨fun _ _ h => h, fun _ _ h => h, by rintro _ ⟨⟩; exact ⟨rfl, hpath⟩, rfl⟩
  | cons name names ih =>
    by_cases hup : name = Route.up
    · subst hup
      rw [makeFolders, if_pos rfl]
      exact (ih (hasFolder_dropLast hpath)).up hpath
    · have hdown := makeFolders_down t path hup names
      by_cases hfolder : t.hasFolder (path ++ [name])
      · rw [hdown, if_pos hfolder]
        exact (ih hfolder).enter hpath hup hfolder
      · by_cases hnew : (t.get? (path ++ [name])).isNone ∧ Route.isName name
        · have hview := view_set hpath hfolder isLeaf_folder_nil
          have hmade : (t.set (path ++ [name]) (.folder [])).hasFolder (path ++ [name]) := by
            rw [hasFolder_iff, hview, if_pos rfl]
            rfl
          have hkept : (t.set (path ++ [name]) (.folder [])).hasFolder path := by
            rw [hasFolder_iff, hview, if_neg (by simp), ← hasFolder_iff]
            exact hpath
          rw [hdown, if_neg hfolder, if_pos hnew]
          exact ((ih hmade).enter hkept hup hmade).make hpath hnew.1
        · rw [if_neg hfolder, if_neg hnew] at hdown
          rw [hdown]
          exact .stop hdown

/-! ## Writing files -/

theorem grows_set (hpath : t.hasFolder path) (hold : ¬ t.hasFolder (path ++ [name])) {u : FileTree}
    (hu : u.IsLeaf) : t.Grows (t.set (path ++ [name]) u) where
  folders place hplace := by
    have hne : place ≠ path ++ [name] := by
      rintro rfl
      exact hold hplace
    rw [hasFolder_iff, view_set hpath hold hu, if_neg hne]
    exact hasFolder_iff.1 hplace
  places place hplace := by
    rw [isSome_get?_iff, view_set hpath hold hu]
    split
    · exact ⟨_, rfl⟩
    · exact isSome_get?_iff.1 hplace

theorem write?_eq_some_iff {content : ByteArray} :
    t.write? path name content = some t' ↔ Route.isName name ∧ ¬ t.hasFolder (path ++ [name]) ∧
      t' = t.set (path ++ [name]) (.file content) := by
  rw [write?, Option.ite_none_right_eq_some, Option.some.injEq, Bool.not_eq_true', Bool.not_eq_true,
    and_assoc, @eq_comm _ t']

/-- The tree with a file written at the end of a route, if the folders on its way lead to a path. -/
def writeEnd? (t : FileTree) (s : String) (path : Path) (content : ByteArray) : Option FileTree := do
  let r ← Route.ofText? s
  let name ← r.names.getLast?
  if r.toFolder then none else t.write? path name content

/-- Whether a file can be written in a folder at the end of a route: its name can be given, and there is no
folder of that name. -/
def CanWrite (t : FileTree) (path : Path) (name : String) : Prop :=
  Route.isName name ∧ ¬ t.hasFolder (path ++ [name])

section Save

variable {s : String} {parent : Route} {content : ByteArray}
  (hparent : Route.ofParts? (Route.parentParts (Route.parts s)) = some parent)

theorem locate?_of_leadsToFile (hname : Route.LeadsToFile s parent name)
    (hfollow : t.follow? [] parent.names = some path) (hpath : t.hasFolder path)
    (hsome : (t.get? (path ++ [name])).isSome) : t.locate? s = some (path ++ [name]) := by
  obtain ⟨r, hr, hfile, hup, hnames⟩ := hname
  refine locate?_eq_some_iff.2 ⟨r, hr, ?_, by simp [hfile]⟩
  rw [hnames, follow?_append, hfollow, Option.bind_some, follow?_down_iff hup]
  exact ⟨hpath, hsome, rfl⟩

theorem find?_of_leadsToFile (hname : Route.LeadsToFile s parent name)
    (hfollow : t.follow? [] parent.names = some path) (hpath : t.hasFolder path) {x : ByteArray}
    (hget : t.get? (path ++ [name]) = some (.file x)) : t.find? s = some (.file x) := by
  have hplace := locate?_of_leadsToFile hname hfollow hpath (by rw [hget]; rfl)
  rw [find?, hplace, Option.bind_some, hget]

include hparent

/-- A file on a route is in the folder to which the route before its name leads. -/
theorem exists_of_find?_file {x : ByteArray} (h : t.find? s = some (.file x)) :
    ∃ name path, Route.LeadsToFile s parent name ∧ t.follow? [] parent.names = some path ∧
      t.hasFolder path ∧ t.get? (path ++ [name]) = some (.file x) := by
  obtain ⟨place, hplace, hget⟩ := Option.bind_eq_some_iff.1 h
  obtain ⟨r, hr, hfollow, hfolder⟩ := locate?_eq_some_iff.1 hplace
  have hfile : r.toFolder = false := by
    rw [← Bool.not_eq_true]
    intro htrue
    have hview := hasFolder_iff.1 (hfolder htrue)
    rw [get?_eq_file_iff.1 hget] at hview
    cases hview
  obtain ⟨name, hname⟩ := Route.exists_leadsToFile hr hparent hfile
  obtain ⟨r', hr', -, hup, hnames⟩ := hname
  obtain rfl := Option.some.inj (hr.symm.trans hr')
  rw [hnames, follow?_append] at hfollow
  obtain ⟨path, hpath, hdown⟩ := Option.bind_eq_some_iff.1 hfollow
  obtain ⟨hin, -, rfl⟩ := (follow?_down_iff hup).1 hdown
  exact ⟨name, path, ⟨r, hr, hfile, hup, hnames⟩, hpath, hin, hget⟩

theorem writeEnd?_eq_some_iff :
    t.writeEnd? s path content = some t' ↔ ∃ name, Route.LeadsToFile s parent name ∧ t.CanWrite path name ∧
      t' = t.set (path ++ [name]) (.file content) := by
  simp only [writeEnd?, Option.bind_eq_bind, Option.bind_eq_some_iff]
  constructor
  · rintro ⟨r, hr, name, hlast, hwrite⟩
    cases hfile : r.toFolder with
    | true =>
      rw [hfile] at hwrite
      cases hwrite
    | false =>
      rw [hfile, if_neg Bool.false_ne_true, write?_eq_some_iff, ← and_assoc] at hwrite
      obtain ⟨last, r', hr', -, hup, hnames⟩ := Route.exists_leadsToFile hr hparent hfile
      obtain rfl := Option.some.inj (hr.symm.trans hr')
      rw [hnames, List.getLast?_concat] at hlast
      obtain rfl := Option.some.inj hlast
      exact ⟨last, ⟨r, hr, hfile, hup, hnames⟩, hwrite⟩
  · rintro ⟨name, ⟨r, hr, hfile, -, hnames⟩, hwrite⟩
    refine ⟨r, hr, name, by rw [hnames, List.getLast?_concat], ?_⟩
    rw [hfile, if_neg Bool.false_ne_true, write?_eq_some_iff, ← and_assoc]
    exact hwrite

/-- Whether something can be written does not depend on what it is. -/
theorem writeEnd?_eq_none_iff :
    t.writeEnd? s path content = none ↔ ∀ name, Route.LeadsToFile s parent name → ¬ t.CanWrite path name := by
  simp only [Option.eq_none_iff_forall_ne_some, ne_eq, writeEnd?_eq_some_iff hparent]
  constructor
  · intro h name hname hwrite
    exact h _ ⟨name, hname, hwrite, rfl⟩
  · rintro h _ ⟨name, hname, hwrite, -⟩
    exact h name hname hwrite

theorem save_eq (t : FileTree) (content : ByteArray) :
    t.save s content = match t.makeFolders [] parent.names with
      | (t, none) => (t, false)
      | (t, some path) => ((t.writeEnd? s path content).getD t, (t.writeEnd? s path content).isSome) := by
  rw [save, hparent]
  rfl

theorem save_eq_true_iff :
    t.save s content = (t', true) ↔ ∃ u path name, t.makeFolders [] parent.names = (u, some path) ∧
      Route.LeadsToFile s parent name ∧ u.CanWrite path name ∧
      t' = u.set (path ++ [name]) (.file content) := by
  rw [save_eq hparent]
  obtain ⟨u, place?⟩ := t.makeFolders [] parent.names
  cases place? with
  | none => simp
  | some path =>
    constructor
    · intro h
      obtain ⟨hvalue, hsome⟩ := Prod.mk.inj h
      obtain ⟨v, hv⟩ := Option.isSome_iff_exists.1 hsome
      rw [hv, Option.getD_some] at hvalue
      obtain ⟨name, hname, hwrite, rfl⟩ := (writeEnd?_eq_some_iff hparent).1 hv
      exact ⟨u, path, name, rfl, hname, hwrite, hvalue.symm⟩
    · rintro ⟨_, _, name, ⟨⟩, hname, hwrite, rfl⟩
      dsimp only
      rw [(writeEnd?_eq_some_iff hparent).2 ⟨name, hname, hwrite, rfl⟩]
      rfl

theorem save_eq_false_iff :
    t.save s content = (t', false) ↔ ∃ place?, t.makeFolders [] parent.names = (t', place?) ∧
      ∀ path ∈ place?, ∀ name, Route.LeadsToFile s parent name → ¬ t'.CanWrite path name := by
  rw [save_eq hparent]
  obtain ⟨u, place?⟩ := t.makeFolders [] parent.names
  cases place? with
  | none => simp
  | some path =>
    constructor
    · intro h
      obtain ⟨hvalue, hnone⟩ := Prod.mk.inj h
      rw [Option.isSome_eq_false_iff, Option.isNone_iff_eq_none] at hnone
      rw [hnone] at hvalue
      obtain rfl : u = t' := hvalue
      refine ⟨some path, rfl, ?_⟩
      rintro _ ⟨⟩
      exact (writeEnd?_eq_none_iff hparent).1 hnone
    · rintro ⟨_, ⟨⟩, hfails⟩
      dsimp only
      rw [(writeEnd?_eq_none_iff hparent).2 (hfails path rfl)]
      rfl

end Save

/-! ## Saving -/

/-- The files of two trees agree at a place. -/
def SameFile (t t' : FileTree) (place : Path) : Prop :=
  ∀ x, t'.get? place = some (.file x) ↔ t.get? place = some (.file x)

theorem Made.sameFile {place? : Option Path} (h : Made t path names t' place?) (place : Path) :
    t.SameFile t' place := by
  intro x
  rw [get?_eq_file_iff, get?_eq_file_iff]
  exact ⟨h.files place x, h.keeps place _⟩

theorem sameFile_set (hpath : t.hasFolder path) (hold : ¬ t.hasFolder (path ++ [name])) {content : ByteArray}
    {other : Path} (hother : other ≠ path ++ [name]) :
    t.SameFile (t.set (path ++ [name]) (.file content)) other := by
  intro x
  rw [get?_eq_file_iff, view_set hpath hold (isLeaf_file content), if_neg hother, ← get?_eq_file_iff]

theorem get?_set_file (hpath : t.hasFolder path) (hold : ¬ t.hasFolder (path ++ [name]))
    (content : ByteArray) :
    (t.set (path ++ [name]) (.file content)).get? (path ++ [name]) = some (.file content) := by
  rw [get?_eq_file_iff, view_set hpath hold (isLeaf_file content), if_pos rfl]
  rfl

theorem not_hasFolder_of_file {x : ByteArray} (h : t.get? path = some (.file x)) : ¬ t.hasFolder path := by
  rw [hasFolder_iff, get?_eq_file_iff.1 h]
  rintro ⟨⟩

/-- **A file that was written** is found on its route, the other files are as they were, and writing the
same again does nothing. -/
theorem save_true {s : String} {content : ByteArray} (ht : t.hasFolder [])
    (h : t.save s content = (t', true)) :
    t'.find? s = some (.file content) ∧
      (∀ place, t'.locate? s ≠ some place → t.SameFile t' place) ∧ t'.save s content = (t', true) := by
  cases hparent : Route.ofParts? (Route.parentParts (Route.parts s)) with
  | none =>
    rw [save, hparent] at h
    cases h
  | some parent =>
    have hmade := made ht parent.names
    obtain ⟨u, path, name, hfolders, hname, ⟨hisName, hold⟩, rfl⟩ := (save_eq_true_iff hparent).1 h
    rw [hfolders] at hmade
    obtain ⟨hfollow, hpath⟩ := hmade.ends path rfl
    have hget := get?_set_file hpath hold content
    -- the folders are still there, and the file is set to what it is
    have hgrows := grows_set hpath hold (isLeaf_file content)
    have hfollow' := hgrows.follow? hfollow
    have hpath' := hgrows.folders path hpath
    refine ⟨find?_of_leadsToFile hname hfollow' hpath' hget, fun place hplace x => ?_, ?_⟩
    · have hother : place ≠ path ++ [name] := by
        rintro rfl
        exact hplace (locate?_of_leadsToFile hname hfollow' hpath' (by rw [hget]; rfl))
      rw [sameFile_set hpath hold hother x, hmade.sameFile place x]
    · refine (save_eq_true_iff hparent).2 ⟨_, path, name, makeFolders_of_follow? hfollow' hpath', hname,
        ⟨hisName, not_hasFolder_of_file hget⟩, ?_⟩
      rw [set_of_get? hget]

/-- **Where no file is written**, the files are as they were, and writing fails again. There was and is no
file on the route, so a file that is there can be written. -/
theorem save_false {s : String} {content : ByteArray} (ht : t.hasFolder []) (hwf : t.WellFormed)
    (h : t.save s content = (t', false)) :
    (∀ place, t.SameFile t' place) ∧ (∀ content, t'.save s content = (t', false)) ∧
      ∀ x, t.find? s ≠ some (.file x) ∧ t'.find? s ≠ some (.file x) := by
  cases hparent : Route.ofParts? (Route.parentParts (Route.parts s)) with
  | none =>
    rw [save, hparent] at h
    obtain ⟨rfl, -⟩ := Prod.mk.inj h
    have hnone : ∀ x, t.find? s ≠ some (.file x) := fun x => by simp [find?_eq_none hparent]
    exact ⟨fun _ _ => Iff.rfl, fun content => by rw [save, hparent], fun x => ⟨hnone x, hnone x⟩⟩
  | some parent =>
    have hmade := made ht parent.names
    obtain ⟨place?, hfolders, hfails⟩ := (save_eq_false_iff hparent).1 h
    rw [hfolders] at hmade
    have hnot : ∀ x, t'.find? s ≠ some (.file x) := by
      intro x hfind
      obtain ⟨name, path, hname, hfollow, hpath, hget⟩ := exists_of_find?_file hparent hfind
      -- the route leads to a file, so its folders are made, and the name of the file can be given
      obtain rfl : place? = some path :=
        (Prod.mk.inj (hmade.again.symm.trans (makeFolders_of_follow? hfollow hpath))).2
      have hisName : Route.isName name :=
        (hwf.isStep ((hmade.sameFile _ x).1 hget) name (by simp)).2.2.2.2
      exact hfails path rfl name hname ⟨hisName, not_hasFolder_of_file hget⟩
    refine ⟨hmade.sameFile, fun content => ?_, fun x => ⟨fun hfind => ?_, hnot x⟩⟩
    · exact (save_eq_false_iff hparent).2 ⟨place?, hmade.again, hfails⟩
    · obtain ⟨name, path, hname, hfollow, hpath, hget⟩ := exists_of_find?_file hparent hfind
      exact hnot x (find?_of_leadsToFile hname (hmade.grows.follow? hfollow) (hmade.grows.folders path hpath)
        ((hmade.sameFile _ x).2 hget))

end FileTree
end GameTips
