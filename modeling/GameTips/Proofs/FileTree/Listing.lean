import GameTips.Proofs.FileTree.Places
import Mathlib.Data.List.Nodup

/-!
# The files of a tree

A tree that is well formed lists each file once, under the path at which it is (`FileTree.mem_files_iff`,
`FileTree.nodup_paths`). So what is listed does not depend on the order in which the entries of its folders
stand: a tree whose folders are listed in another order (`FileTree.Relisted`) has the same at every place.
-/

namespace GameTips.FileTree

/-! ## What is listed -/

mutual

/-- What is listed below a path. -/
theorem mem_listing_iff {place : Path} {content : ByteArray} : ∀ {t : FileTree}, t.WellFormed → ∀ path : Path,
    (place, some content) ∈ t.listing path ↔
      ∃ below, place = path ++ below ∧ t.get? below = some (.file content)
  | .file x, _, path => by
    rw [listing, List.mem_singleton]
    constructor
    · intro h
      obtain ⟨rfl, hx⟩ := Prod.mk.inj h
      obtain rfl := Option.some.inj hx
      exact ⟨[], (List.append_nil _).symm, rfl⟩
    · rintro ⟨below, rfl, hget⟩
      cases below with
      | nil =>
        obtain rfl := file.inj (Option.some.inj hget)
        rw [List.append_nil]
      | cons name below => cases hget
  | .folder entries, ⟨hnodup, hentries⟩, path => by
    rw [listing, List.mem_cons, or_iff_right (by simp), mem_listingOf_iff hentries]
    constructor
    · rintro ⟨name, t, below, hmem, rfl, hget⟩
      exact ⟨name :: below, rfl, by rw [get?_cons, lookup_of_mem hnodup hmem, Option.bind_some, hget]⟩
    · rintro ⟨below, rfl, hget⟩
      cases below with
      | nil => cases hget
      | cons name below =>
        rw [get?_cons] at hget
        obtain ⟨t, ht, hget⟩ := Option.bind_eq_some_iff.1 hget
        exact ⟨name, t, below, mem_of_lookup ht, rfl, hget⟩

theorem mem_listingOf_iff {place : Path} {content : ByteArray} : ∀ {entries : List (String × FileTree)},
    WellFormedEntries entries → ∀ path : Path, (place, some content) ∈ listingOf path entries ↔
      ∃ name t below, (name, t) ∈ entries ∧ place = path ++ name :: below ∧
        t.get? below = some (.file content)
  | [], _, path => by simp [listingOf]
  | (k, u) :: rest, ⟨_, hu, hrest⟩, path => by
    rw [listingOf, List.mem_append, mem_listing_iff hu, mem_listingOf_iff hrest]
    constructor
    · rintro (⟨below, rfl, hget⟩ | ⟨name, t, below, hmem, rfl, hget⟩)
      · exact ⟨k, u, below, List.mem_cons_self, List.append_assoc _ _ _, hget⟩
      · exact ⟨name, t, below, List.mem_cons_of_mem _ hmem, rfl, hget⟩
    · rintro ⟨name, t, below, hmem, rfl, hget⟩
      rcases List.mem_cons.1 hmem with heq | hmem
      · obtain ⟨rfl, rfl⟩ := Prod.mk.inj heq
        exact .inl ⟨below, (List.append_assoc path [name] below).symm, hget⟩
      · exact .inr ⟨name, t, below, hmem, rfl, hget⟩

end

/-! ## Each file is listed once -/

mutual

theorem prefix_of_mem_listing {path : Path} {r : Path × Option ByteArray} :
    ∀ {t : FileTree}, r ∈ t.listing path → path <+: r.1
  | .file x, h => by
    obtain rfl := List.mem_singleton.1 h
    exact List.prefix_rfl
  | .folder entries, h => by
    rcases List.mem_cons.1 h with rfl | h
    · exact List.prefix_rfl
    · obtain ⟨name, -, hprefix⟩ := prefix_of_mem_listingOf h
      exact (List.prefix_append path [name]).trans hprefix

/-- What is listed for entries is below the path of one of them. -/
theorem prefix_of_mem_listingOf {path : Path} {r : Path × Option ByteArray} :
    ∀ {entries : List (String × FileTree)}, r ∈ listingOf path entries →
      ∃ name ∈ entries.map Prod.fst, path ++ [name] <+: r.1
  | [], h => by cases h
  | (k, u) :: rest, h => by
    rcases List.mem_append.1 h with h | h
    · exact ⟨k, List.mem_cons_self, prefix_of_mem_listing h⟩
    · obtain ⟨name, hname, hprefix⟩ := prefix_of_mem_listingOf h
      exact ⟨name, List.mem_cons_of_mem _ hname, hprefix⟩

end

theorem eq_of_prefix {path place : Path} {k name : String} (hk : path ++ [k] <+: place)
    (hname : path ++ [name] <+: place) : k = name := by
  have hlength : (path ++ [k]).length = (path ++ [name]).length := by simp
  have heq := (List.prefix_of_prefix_length_le hk hname (Nat.le_of_eq hlength)).eq_of_length hlength
  simpa using heq

mutual

theorem nodup_listing : ∀ {t : FileTree}, t.WellFormed → ∀ path : Path,
    ((t.listing path).map Prod.fst).Nodup
  | .file x, _, path => List.nodup_singleton path
  | .folder entries, ⟨hnodup, hentries⟩, path => by
    refine List.nodup_cons.2 ⟨fun hmem => ?_, nodup_listingOf hnodup hentries path⟩
    obtain ⟨r, hr, heq⟩ := List.mem_map.1 hmem
    obtain ⟨name, -, hprefix⟩ := prefix_of_mem_listingOf hr
    have hle := hprefix.length_le
    rw [heq, List.length_append, List.length_singleton] at hle
    exact Nat.not_succ_le_self _ hle

theorem nodup_listingOf : ∀ {entries : List (String × FileTree)}, (entries.map Prod.fst).Nodup →
    WellFormedEntries entries → ∀ path : Path, ((listingOf path entries).map Prod.fst).Nodup
  | [], _, _, _ => List.nodup_nil
  | (k, u) :: rest, hnodup, ⟨_, hu, hrest⟩, path => by
    obtain ⟨hnew, hnodup⟩ := List.nodup_cons.1 hnodup
    rw [listingOf, List.map_append, List.nodup_append]
    refine ⟨nodup_listing hu _, nodup_listingOf hnodup hrest path, ?_⟩
    intro place hplace other hother heq
    obtain ⟨r, hr, rfl⟩ := List.mem_map.1 hplace
    obtain ⟨r', hr', rfl⟩ := List.mem_map.1 hother
    obtain ⟨name, hname, hprefix⟩ := prefix_of_mem_listingOf hr'
    obtain rfl := eq_of_prefix (heq ▸ prefix_of_mem_listing hr) hprefix
    exact hnew hname

end

/-! ## Files -/

theorem mem_files_iff {t : FileTree} (ht : t.WellFormed) {place : Path} {content : ByteArray} :
    (place, content) ∈ t.files ↔ t.get? place = some (.file content) := by
  rw [files, List.mem_filterMap]
  constructor
  · rintro ⟨⟨path, x?⟩, hmem, hx⟩
    obtain ⟨x, rfl, heq⟩ := Option.map_eq_some_iff.1 hx
    obtain ⟨rfl, rfl⟩ := Prod.mk.inj heq
    obtain ⟨below, rfl, hget⟩ := (mem_listing_iff ht []).1 hmem
    exact hget
  · intro hget
    exact ⟨(place, some content), (mem_listing_iff ht []).2 ⟨place, rfl, hget⟩, rfl⟩

theorem nodup_paths {t : FileTree} (ht : t.WellFormed) : (t.files.map Prod.fst).Nodup := by
  have hpaths : (t.files.map Prod.fst).Sublist ((t.listing []).map Prod.fst) := by
    rw [files, List.map_filterMap]
    induction t.listing [] with
    | nil => exact .slnil
    | cons r rest ih =>
      obtain ⟨path, x?⟩ := r
      cases x? with
      | none => exact ih.cons path
      | some x => exact ih.cons_cons path
  exact (nodup_listing ht []).sublist hpaths

/-! ## Folders listed in another order -/

/-- Whether two trees differ only in the order in which the entries of their folders are listed. -/
inductive Relisted : FileTree → FileTree → Prop
  | refl (t : FileTree) : Relisted t t
  | trans {t u v : FileTree} : Relisted t u → Relisted u v → Relisted t v
  /-- The entries of a folder in another order. -/
  | perm {entries entries' : List (String × FileTree)} :
    entries.Perm entries' → Relisted (.folder entries) (.folder entries')
  /-- A folder with one of its entries listed in another order. -/
  | inside (before : List (String × FileTree)) (name : String) {t u : FileTree}
    (after : List (String × FileTree)) : Relisted t u →
    Relisted (.folder (before ++ (name, t) :: after)) (.folder (before ++ (name, u) :: after))

theorem wellFormed_folder_iff {entries : List (String × FileTree)} :
    (folder entries).WellFormed ↔
      (entries.map Prod.fst).Nodup ∧ ∀ e ∈ entries, Route.IsStep e.1 ∧ e.2.WellFormed := by
  rw [WellFormed, wellFormedEntries_iff]

theorem Relisted.wellFormed {t u : FileTree} (h : Relisted t u) (ht : t.WellFormed) : u.WellFormed := by
  induction h with
  | refl t => exact ht
  | trans _ _ ih ih' => exact ih' (ih ht)
  | perm hperm =>
    rw [wellFormed_folder_iff] at ht ⊢
    exact ⟨(hperm.map Prod.fst).nodup_iff.1 ht.1, fun e he => ht.2 e (hperm.mem_iff.2 he)⟩
  | inside before name after _ ih =>
    rw [wellFormed_folder_iff, List.map_append, List.map_cons, List.forall_mem_append, List.forall_mem_cons]
      at ht ⊢
    obtain ⟨hnodup, hbefore, ⟨hname, ht⟩, hafter⟩ := ht
    exact ⟨hnodup, hbefore, ⟨hname, ih ht⟩, hafter⟩

theorem lookup_append (before : List (String × FileTree)) (k name : String) (t : FileTree)
    (after : List (String × FileTree)) : (before ++ (k, t) :: after).lookup name =
      (before.lookup name).or (if name = k then some t else after.lookup name) := by
  induction before with
  | nil => rw [List.nil_append, lookup_cons, List.lookup_nil, Option.none_or]
  | cons e before ih =>
    obtain ⟨l, u⟩ := e
    rw [List.cons_append, lookup_cons, lookup_cons, ih]
    split
    · rfl
    · rfl

/-- **A tree shows the same at every place in whatever order its folders are listed.** -/
theorem Relisted.view_eq {t u : FileTree} (h : Relisted t u) (ht : t.WellFormed) (path : Path) :
    u.view path = t.view path := by
  induction h generalizing path with
  | refl t => rfl
  | trans htu _ ih ih' => rw [ih' (htu.wellFormed ht), ih ht]
  | @perm entries entries' hperm =>
    cases path with
    | nil => rfl
    | cons name path =>
      have hlookup : entries'.lookup name = entries.lookup name := by
        have hnodup := (hperm.map Prod.fst).nodup_iff.1 ht.1
        apply Option.ext
        intro v
        exact ⟨fun hv => lookup_of_mem ht.1 (hperm.mem_iff.2 (mem_of_lookup hv)),
          fun hv => lookup_of_mem hnodup (hperm.mem_iff.1 (mem_of_lookup hv))⟩
      rw [view_cons, view_cons, hlookup]
  | inside before k after _ ih =>
    obtain ⟨-, hentries⟩ := wellFormed_folder_iff.1 ht
    have hbelow := ih (hentries _ (List.mem_append_right _ List.mem_cons_self)).2
    cases path with
    | nil => rfl
    | cons name path =>
      rw [view_cons, view_cons, lookup_append, lookup_append]
      cases before.lookup name with
      | some v => rfl
      | none =>
        rw [Option.none_or, Option.none_or]
        split
        · exact hbelow path
        · rfl

end GameTips.FileTree
