import GameTips.Proofs.Catalog.FolderLoading

/-!
# The ids of tip files

The file `<namespace>/tips/<path>.json` should hold the tip `namespace:path` (`TipFile.StandsFor`). It does,
unless the name before the extension is a single point: such a file is loaded as if there were two points. So
two files can have the same id, and then the one that is loaded later takes the place of the other. They are
`..json` and `...json` in one folder, and no other two files share an id, because no name has a slash
(`TipFile.id_eq_iff`). Where no file is named `..json`, every file that can be read has its tip in the catalog
(`fileNames_spec`).
-/

namespace GameTips

/-! ## Joined names -/

theorem intercalate_inj {xs ys : List String} (hxs : ∀ x ∈ xs, '/' ∉ x.toList)
    (hys : ∀ y ∈ ys, '/' ∉ y.toList) (hxsne : xs ≠ []) (hysne : ys ≠ [])
    (h : String.intercalate "/" xs = String.intercalate "/" ys) : xs = ys := by
  have hsplit : ∀ {zs : List String}, (∀ z ∈ zs, '/' ∉ z.toList) → zs ≠ [] →
      (String.intercalate "/" zs).toList.splitOn '/' = zs.map String.toList := by
    intro zs hzs hne
    rw [String.toList_intercalate]
    refine List.splitOn_intercalate '/' ?_ (by simpa using hne)
    intro cs hcs
    obtain ⟨z, hz, rfl⟩ := List.mem_map.1 hcs
    exact hzs z hz
  have hlists : xs.map String.toList = ys.map String.toList := by
    rw [← hsplit hxs hxsne, ← hsplit hys hysne, h]
  exact List.map_injective_iff.2 (fun _ _ => String.toList_injective) hlists

/-- What is put behind the last name stands behind the whole. -/
theorem intercalate_concat_append (folders : List String) (name more : String) :
    String.intercalate "/" (folders ++ [name ++ more]) =
      String.intercalate "/" (folders ++ [name]) ++ more := by
  by_cases hnil : folders = []
  · simp [hnil]
  · rw [String.intercalate_append_of_ne_nil hnil (List.cons_ne_nil _ _),
      String.intercalate_append_of_ne_nil hnil (List.cons_ne_nil _ _), String.intercalate_singleton,
      String.intercalate_singleton]
    simp only [String.append_assoc]

namespace TipFile

/-! ## Names without extension -/

/-- The name of the files that are not loaded under the id of their place: a point before the extension. -/
def pointName : String := "..json"

theorem getLast?_eq_pointName_iff {folders : List String} {stem : String} :
    (folders ++ [stem ++ ".json"]).getLast? = some pointName ↔ stem = "." := by
  rw [List.getLast?_concat, Option.some.injEq]
  constructor
  · intro h
    exact (String.append_left_inj ".json").1 h
  · rintro rfl
    rfl

theorem nameOfStem_of_ne {stem : String} (h : stem ≠ ".") : nameOfStem stem = stem := if_neg h

theorem nameOfStem_point : nameOfStem "." = "." ++ "." := rfl

/-- Two names without extension are the same if the stems are, or one has a point and the other two. -/
theorem nameOfStem_eq_iff {stem stem' : String} :
    nameOfStem stem = nameOfStem stem' ↔
      stem = stem' ∨ (stem = "." ∧ stem' = "..") ∨ (stem = ".." ∧ stem' = ".") := by
  unfold nameOfStem
  by_cases h : stem = "."
  · subst h
    by_cases h' : stem' = "."
    · subst h'
      simp
    · simp [h', eq_comm]
  · by_cases h' : stem' = "."
    · subst h'
      simp [h]
    · simp [h, h']

theorem slash_not_mem_nameOfStem {stem : String} (h : '/' ∉ (stem ++ ".json").toList) :
    '/' ∉ (nameOfStem stem).toList := by
  unfold nameOfStem
  split
  · decide
  · intro hmem
    rw [String.toList_append] at h
    exact h (List.mem_append_left _ hmem)

/-! ## The id of a place -/

/-- Whether the place of a JSON file stands for a path: it is the path between slashes, with the
extension. -/
def StandsFor (place : FileTree.Path) (path : String) : Prop :=
  ∃ (folders : List String) (stem : String), place = folders ++ [stem ++ ".json"] ∧ stem ≠ "" ∧
    path = String.intercalate "/" (folders ++ [stem])

variable {tree : FileTree} {root : FileTree.Path} {f g : TipFile}

/-- A file whose place stands for a path is loaded, under that path unless its name has a single point. -/
theorem exists_isIn_of_standsFor {id : Identifier} {place : FileTree.Path} {content : ByteArray}
    (hfile : tree.get? (root ++ id.ns :: tipsFolder :: place) = some (.file content))
    (hpath : StandsFor place id.path) :
    ∃ f : TipFile, f.IsIn tree root ∧ f.id.ns = id.ns ∧ f.place = place ∧ f.content = content ∧
      (f.id = id ↔ place.getLast? ≠ some pointName) := by
  obtain ⟨folders, stem, rfl, hstem, hid⟩ := hpath
  by_cases hpoint : stem = "."
  · subst hpoint
    have hloaded : String.intercalate "/" (folders ++ [nameOfStem "."]) = id.path ++ "." := by
      rw [nameOfStem_point, intercalate_concat_append, hid]
    have hletters : isPath (id.path ++ ".") = true := by
      obtain ⟨hne, hall⟩ := isPath_iff.1 id.isPath_path
      refine isPath_iff.2 ⟨by simp [hne], fun c hc => ?_⟩
      rw [String.toList_append, List.mem_append] at hc
      rcases hc with hc | hc
      · exact hall c hc
      · obtain rfl : c = '.' := by simpa using hc
        decide
    refine ⟨⟨⟨id.ns, id.path ++ ".", id.isNamespace_ns, hletters⟩, _, content⟩, ⟨hfile, ?_⟩,
      rfl, rfl, rfl, ?_⟩
    · exact tipPath?_eq_some_iff.2 ⟨folders, ".", rfl, hstem, hloaded.symm⟩
    · rw [ne_eq, getLast?_eq_pointName_iff]
      simp only [not_true_eq_false, iff_false]
      intro heq
      have hlength := congrArg (fun i : Identifier => i.path.length) heq
      simp at hlength
  · refine ⟨⟨id, _, content⟩, ⟨hfile, ?_⟩, rfl, rfl, rfl, ?_⟩
    · refine tipPath?_eq_some_iff.2 ⟨folders, stem, rfl, hstem, ?_⟩
      rw [nameOfStem_of_ne hpoint]
      exact hid
    · rw [ne_eq, getLast?_eq_pointName_iff]
      exact ⟨fun _ => hpoint, fun _ => rfl⟩

/-! ## Files that share an id -/

/-- Whether two places are those of files with one and two points before the extension, in the same
folder. -/
def SharePoints (p q : FileTree.Path) : Prop :=
  ∃ folders : List String, p = folders ++ [pointName] ∧ q = folders ++ ["...json"]

theorem sharePoints_iff {folders folders' : List String} {stem stem' : String} :
    SharePoints (folders ++ [stem ++ ".json"]) (folders' ++ [stem' ++ ".json"]) ↔
      folders = folders' ∧ stem = "." ∧ stem' = ".." := by
  constructor
  · rintro ⟨shared, hp, hq⟩
    obtain ⟨rfl, hname⟩ := List.append_inj' hp rfl
    obtain ⟨rfl, hname'⟩ := List.append_inj' hq rfl
    exact ⟨rfl, (String.append_left_inj ".json").1 (List.singleton_inj.1 hname),
      (String.append_left_inj ".json").1 (List.singleton_inj.1 hname')⟩
  · rintro ⟨rfl, rfl, rfl⟩
    exact ⟨folders, rfl, rfl⟩

theorem IsIn.slash_not_mem (htree : tree.WellFormed) (hf : f.IsIn tree root) :
    ∀ name ∈ f.place, '/' ∉ name.toList := fun name hname =>
  (htree.isStep hf.file name (List.mem_append_right _ (by simp [hname]))).2.2.1

/-- **Two files have the same id** only if one has a point before its extension and the other two. -/
theorem id_eq_iff (htree : tree.WellFormed) (hf : f.IsIn tree root) (hg : g.IsIn tree root) :
    f.id = g.id ↔
      f = g ∨ f.id.ns = g.id.ns ∧ (SharePoints f.place g.place ∨ SharePoints g.place f.place) := by
  obtain ⟨folders, stem, hplace, hstem, hpath⟩ := tipPath?_eq_some_iff.1 hf.path
  obtain ⟨folders', stem', hplace', hstem', hpath'⟩ := tipPath?_eq_some_iff.1 hg.path
  have hslash := hf.slash_not_mem htree
  have hslash' := hg.slash_not_mem htree
  rw [hplace, List.forall_mem_append, List.forall_mem_singleton] at hslash
  rw [hplace', List.forall_mem_append, List.forall_mem_singleton] at hslash'
  rw [hplace, hplace', sharePoints_iff, sharePoints_iff]
  constructor
  · intro hid
    have hjoined : String.intercalate "/" (folders ++ [nameOfStem stem]) =
        String.intercalate "/" (folders' ++ [nameOfStem stem']) := by
      rw [← hpath, ← hpath', hid]
    have hnames := intercalate_inj
      (List.forall_mem_append.2 ⟨hslash.1, List.forall_mem_singleton.2 (slash_not_mem_nameOfStem hslash.2)⟩)
      (List.forall_mem_append.2 ⟨hslash'.1, List.forall_mem_singleton.2 (slash_not_mem_nameOfStem hslash'.2)⟩)
      (by simp) (by simp) hjoined
    obtain ⟨rfl, hname⟩ := List.append_inj' hnames rfl
    rcases nameOfStem_eq_iff.1 (List.singleton_inj.1 hname) with rfl | ⟨rfl, rfl⟩ | ⟨rfl, rfl⟩
    · exact .inl (IsIn.eq hf hg (by rw [hid]) (hplace.trans hplace'.symm))
    · exact .inr ⟨by rw [hid], .inl ⟨rfl, rfl, rfl⟩⟩
    · exact .inr ⟨by rw [hid], .inr ⟨rfl, rfl, rfl⟩⟩
  · rintro (rfl | ⟨hns, ⟨rfl, rfl, rfl⟩ | ⟨rfl, rfl, rfl⟩⟩)
    · rfl
    · exact Identifier.ext_parts hns (hpath.trans hpath'.symm)
    · exact Identifier.ext_parts hns (hpath.trans hpath'.symm)

/-- Files that have no single point before the extension have different ids. -/
theorem eq_of_id_eq (htree : tree.WellFormed) (hf : f.IsIn tree root) (hg : g.IsIn tree root)
    (hfname : f.place.getLast? ≠ some pointName) (hgname : g.place.getLast? ≠ some pointName)
    (hid : f.id = g.id) : f = g := by
  rcases (id_eq_iff htree hf hg).1 hid with heq | ⟨-, ⟨folders, hp, -⟩ | ⟨folders, hp, -⟩⟩
  · exact heq
  · exact absurd (by rw [hp, List.getLast?_concat]) hfname
  · exact absurd (by rw [hp, List.getLast?_concat]) hgname

end TipFile

namespace Catalog

open TipFile (pointName SharePoints StandsFor)

variable {reader : TipReader} {config : Config} {tree : FileTree} {root : FileTree.Path}

/-- Where ids are different, every live file that can be read has its tip in the catalog. -/
theorem get?_ofFiles {files : List TipFile} (hids : (files.map TipFile.id).Nodup) {f : TipFile}
    (hf : f ∈ files) (hlive : config.isIgnored f.id = false) {t : Tip}
    (ht : f.outcome reader config = .ok t) : (ofFiles reader config files).get? f.id = some t := by
  have hget : (ofFiles reader config files).get? f.id =
      ((TipFile.tips reader config files).filter (·.id == f.id)).getLast? := get?_ofOutcomes _ _
  -- any tip of the id is that of the same file
  have honly : ∀ u ∈ (TipFile.tips reader config files).filter (·.id == f.id), u = t := by
    intro u hu
    obtain ⟨hu, hid⟩ := List.mem_filter.1 hu
    obtain ⟨g, hg, -, hread⟩ := TipFile.mem_tips_iff.1 hu
    have hsame : g.id = f.id := by
      rw [← TipFile.id_of_outcome hread]
      exact eq_of_beq hid
    obtain rfl := List.inj_on_of_nodup_map hids hg hf hsame
    exact Except.ok.inj (hread.symm.trans ht)
  have hmem : t ∈ (TipFile.tips reader config files).filter (·.id == f.id) := by
    refine List.mem_filter.2 ⟨TipFile.mem_tips_iff.2 ⟨f, hf, hlive, ht⟩, ?_⟩
    rw [TipFile.id_of_outcome ht, beq_self_eq_true]
  obtain ⟨last, hlast⟩ := Option.isSome_iff_exists.1 (List.getLast?_isSome.2 (List.ne_nil_of_mem hmem))
  rw [hget, hlast, honly last (List.mem_of_getLast? hlast)]

/-- **The ids of tip files**: a file is loaded once, under the id of its place unless its name is `..json`;
only files with one and two points before the extension share an id; and where there is none of the former,
no tip takes the place of another. -/
theorem fileNames_spec (reader : TipReader) (config : Config) (htree : tree.WellFormed)
    (hroot : tree.hasFolder root) :
    ∃ (load : Traced Catalog) (files : List TipFile),
      loadFolder? reader config tree root = some load ∧
      load.value = (loadEntries config
        (files.map fun f => (f.id, (readerFor reader config).readFile f.id f.content))).value ∧
      (∀ f : TipFile, f ∈ files ↔ f.IsIn tree root) ∧
      -- a file whose place stands for the path of an id is loaded once, under this id or with a point more
      (∀ (id : Identifier) place content,
        tree.get? (root ++ id.ns :: TipFile.tipsFolder :: place) = some (.file content) →
        StandsFor place id.path →
        ∃ f ∈ files, f.id.ns = id.ns ∧ f.place = place ∧ f.content = content ∧
          (∀ g ∈ files, g.id.ns = id.ns → g.place = place → g = f) ∧
          (f.id = id ↔ place.getLast? ≠ some pointName)) ∧
      -- files share an id if the single point of one makes it the two points of the other
      (∀ f ∈ files, ∀ g ∈ files, f.id = g.id ↔
        f = g ∨ f.id.ns = g.id.ns ∧ (SharePoints f.place g.place ∨ SharePoints g.place f.place)) ∧
      -- otherwise ids are different, and the tips of all files are kept
      ((∀ f ∈ files, f.place.getLast? ≠ some pointName) →
        (files.map TipFile.id).Nodup ∧
        ∀ f ∈ files, config.isIgnored f.id = false → ∀ t,
          ((readerFor reader config).readFile f.id f.content).outcome = .ok t →
          load.value.get? f.id = some t) := by
  obtain ⟨entries, hentries⟩ := FileTree.exists_of_hasFolder hroot
  obtain ⟨load, hload, hvalue⟩ := @exists_loadFolder?_eq reader config _ _ _ hentries
  have hmem : ∀ f : TipFile, f ∈ (TipFile.ofEntries entries).value ↔ f.IsIn tree root := fun f =>
    TipFile.mem_ofEntries_iff htree hentries
  refine ⟨load, (TipFile.ofEntries entries).value, hload, ?_, hmem, ?_, ?_, ?_⟩
  · rw [hvalue, value_loadEntries_files]
  · intro id place content hfile hpath
    obtain ⟨f, hf, hns, hplace, hcontent, hid⟩ := TipFile.exists_isIn_of_standsFor hfile hpath
    refine ⟨f, (hmem f).2 hf, hns, hplace, hcontent, fun g hg hgns hgplace => ?_, hid⟩
    exact TipFile.IsIn.eq ((hmem g).1 hg) hf (hgns.trans hns.symm) (hgplace.trans hplace.symm)
  · intro f hf g hg
    exact TipFile.id_eq_iff htree ((hmem f).1 hf) ((hmem g).1 hg)
  · intro hnames
    have hids : ((TipFile.ofEntries entries).value.map TipFile.id).Nodup := by
      refine List.Nodup.map_on (fun f hf g hg hid => ?_) (TipFile.nodup_ofEntries (htree.get? hentries))
      exact TipFile.eq_of_id_eq htree ((hmem f).1 hf) ((hmem g).1 hg) (hnames f hf) (hnames g hg) hid
    refine ⟨hids, fun f hf hlive t ht => ?_⟩
    rw [hvalue]
    exact get?_ofFiles hids hf hlive ht

section Sample

/-- No file of the sample has a single point before its extension. -/
theorem getLast?_ne_pointName {f : TipFile} (hf : f.IsIn sampleFolder []) :
    f.place.getLast? ≠ some pointName := by
  have hfiles : sampleFolder.files = [(["advice", "tips", "beds.json"], sampleContent),
      (["advice", "tips", "broken.json"], "[".toByteArray), (["advice", "tips", "notes.txt"], .empty)] := rfl
  have hmem := (FileTree.mem_files_iff wellFormed_sampleFolder).2 hf.file
  simp only [List.nil_append, hfiles, List.mem_cons, Prod.mk.injEq, List.cons.injEq, List.not_mem_nil,
    or_false] at hmem
  rcases hmem with ⟨⟨-, -, h⟩, -⟩ | ⟨⟨-, -, h⟩, -⟩ | ⟨⟨-, -, h⟩, -⟩ <;> rw [h] <;> decide

theorem fileNames_sampleFolder :
    sampleFolder.WellFormed ∧ sampleFolder.hasFolder [] ∧ StandsFor ["beds.json"] "beds" ∧
    ∃ files : List TipFile,
      (∃ f ∈ files, f.id = ⟨"advice", "beds", by decide, by decide⟩ ∧ f.content = sampleContent) ∧
      (∀ f ∈ files, f.place.getLast? ≠ some pointName) ∧ (files.map TipFile.id).Nodup := by
  have hpath : StandsFor ["beds.json"] "beds" := ⟨[], "beds", rfl, by decide, rfl⟩
  obtain ⟨load, files, -, -, hmem, hloaded, -, hkept⟩ :=
    @fileNames_spec sampleFolder [] sampleReader .default wellFormed_sampleFolder rfl
  obtain ⟨f, hf, -, -, hcontent, -, hid⟩ :=
    hloaded ⟨"advice", "beds", by decide, by decide⟩ ["beds.json"] sampleContent rfl hpath
  have hnames : ∀ f ∈ files, f.place.getLast? ≠ some pointName := fun f hf =>
    getLast?_ne_pointName ((hmem f).1 hf)
  exact ⟨wellFormed_sampleFolder, rfl, hpath, files, ⟨f, hf, hid.2 (by decide), hcontent⟩, hnames,
    (hkept hnames).1⟩

/-- What is documented: every JSON file of a namespace whose place stands for the path of an id is loaded
under this id. -/
def IsLoadedByPlace (entries : List (String × FileTree)) : Prop :=
  ∀ (id : Identifier) place content,
    (FileTree.folder entries).get? (id.ns :: TipFile.tipsFolder :: place) = some (.file content) →
    StandsFor place id.path → ⟨id, place, content⟩ ∈ (TipFile.ofEntries entries).value

/-- Files with one and two points before the extension. -/
def pointsFolder : List (String × FileTree) :=
  [("a", .folder [("tips", .folder [("..json", .file sampleContent), ("...json", .file sampleContent)])])]

/-- The first file is loaded under the id of the second, and not under its own. -/
theorem not_isLoadedByPlace :
    ¬ IsLoadedByPlace pointsFolder ∧ ¬ ((TipFile.ofEntries pointsFolder).value.map TipFile.id).Nodup := by
  have hwf : (FileTree.folder pointsFolder).WellFormed := by
    simp only [pointsFolder, FileTree.WellFormed, FileTree.WellFormedEntries]
    decide
  have hmem : ∀ f : TipFile, f ∈ (TipFile.ofEntries pointsFolder).value ↔ f.IsIn (.folder pointsFolder) [] :=
    fun f => TipFile.mem_ofEntries_iff hwf rfl
  constructor
  · intro hdocumented
    have hone : TipFile.IsIn ⟨⟨"a", ".", by decide, by decide⟩, ["..json"], sampleContent⟩ _ _ :=
      (hmem _).1 (hdocumented _ _ _ rfl ⟨[], ".", rfl, by decide, rfl⟩)
    exact absurd hone.path (by decide)
  · intro hnodup
    have hone : TipFile.IsIn ⟨⟨"a", "..", by decide, by decide⟩, ["..json"], sampleContent⟩
        (.folder pointsFolder) [] := ⟨rfl, rfl⟩
    have htwo : TipFile.IsIn ⟨⟨"a", "..", by decide, by decide⟩, ["...json"], sampleContent⟩
        (.folder pointsFolder) [] := ⟨rfl, rfl⟩
    have hsame := List.inj_on_of_nodup_map hnodup ((hmem _).2 hone) ((hmem _).2 htwo) rfl
    have hplace : ["..json"] = ["...json"] := congrArg TipFile.place hsame
    exact absurd hplace (by decide)

end Sample

end Catalog
end GameTips
