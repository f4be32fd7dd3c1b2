import GameTips.Proofs.Catalog.Loading
import GameTips.Proofs.Catalog.TipFiles

/-!
# Loading a folder of tips

A folder is loaded like its tip files, one after the other in their order. Those whose content is JSON
text are read as entries of a load are (`TipFile.outcome_of_json`), and the others fail. Failures do not
bear on the tips (`Catalog.ofOutcomes_congr`), so the tips are those of a load of the JSON entries alone,
and their ids rise, as those of the files do. `loadFolder_spec` joins this with the independence from the
order in which folders are listed.
-/

namespace GameTips

namespace TipFile

/-- The entry in a file, if its content is JSON text. -/
def entry? (f : TipFile) : Option (Identifier × Json) :=
  (String.fromUTF8? f.content).bind fun s => (Json.read? s).map fun v => (f.id, v)

/-- The errors of a file when it is loaded: that of its content, or that of a load of its entry. -/
def faults (reader : TipReader) (config : Config) (f : TipFile) : List TipError :=
  match String.fromUTF8? f.content with
  | none => [⟨f.id, .unreadable⟩]
  | some s =>
    match Json.read? s with
    | none => [⟨f.id, .invalidJson⟩]
    | some v => (Catalog.load reader config [(f.id, v)]).value.failures

end TipFile

namespace Catalog

/-! ## Failures do not bear on the tips -/

theorem put_with_failures (c : Catalog) (t : Tip) (failures : List TipError) :
    ({ c with failures := failures } : Catalog).put t = { c.put t with failures := failures } := by
  unfold put
  split
  · next i hfound =>
    split
    · next j hfound' =>
      obtain rfl := Option.some.inj (hfound.symm.trans hfound')
      rfl
    · next hfound' =>
      cases hfound.symm.trans hfound'
  · next hfound =>
    split
    · next j hfound' =>
      cases hfound.symm.trans hfound'
    · rfl

theorem ofOutcomes_eq (rs : List (Except TipError Tip)) :
    ofOutcomes rs =
      { (rs.filterMap Except.toOption).foldl put empty with failures := rs.filterMap failure? } := by
  induction rs using List.reverseRecOn with
  | nil => rfl
  | append_singleton rs r ih =>
    rw [ofOutcomes_concat, ih, List.filterMap_append, List.filterMap_append, List.foldl_append]
    cases r with
    | error e => rfl
    | ok t =>
      have hfailures : [Except.ok t].filterMap failure? = [] := rfl
      rw [hfailures, List.append_nil]
      exact put_with_failures _ t _

/-- Outcomes with the same tips make the same catalog, up to the failures. -/
theorem ofOutcomes_congr {rs rs' : List (Except TipError Tip)}
    (h : rs.filterMap Except.toOption = rs'.filterMap Except.toOption) :
    ofOutcomes rs = { ofOutcomes rs' with failures := rs.filterMap failure? } := by
  rw [ofOutcomes_eq rs, ofOutcomes_eq rs', h]

end Catalog

/-! ## Reading files -/

namespace TipFile

variable {reader : TipReader} {config : Config}

open Catalog (readerFor)

/-- What reading a file in a load ends with. -/
def outcome (reader : TipReader) (config : Config) (f : TipFile) : Except TipError Tip :=
  ((readerFor reader config).readFile f.id f.content).outcome

section Outcome

variable {f : TipFile}

theorem outcome_of_unreadable (h : String.fromUTF8? f.content = none) :
    f.outcome reader config = .error ⟨f.id, .unreadable⟩ := by
  rw [outcome, TipReader.readFile, h]
  rfl

theorem outcome_of_invalidJson {s : String} (hs : String.fromUTF8? f.content = some s)
    (h : Json.read? s = none) : f.outcome reader config = .error ⟨f.id, .invalidJson⟩ := by
  rw [outcome, TipReader.readFile, hs]
  dsimp only
  rw [TipReader.readString, h]
  rfl

/-- A file with JSON text is read as an entry of a load is. -/
theorem outcome_of_json {s : String} {v : Json} (hs : String.fromUTF8? f.content = some s)
    (h : Json.read? s = some v) : f.outcome reader config = Catalog.outcome reader config (f.id, v) := by
  rw [outcome, TipReader.readFile, hs]
  dsimp only
  rw [TipReader.readString, h]
  rfl

/-- The ways in which a file can be read, by its content. -/
theorem content_cases (f : TipFile) :
    String.fromUTF8? f.content = none ∨
    (∃ s, String.fromUTF8? f.content = some s ∧ Json.read? s = none) ∨
    ∃ s v, String.fromUTF8? f.content = some s ∧ Json.read? s = some v := by
  cases hs : String.fromUTF8? f.content with
  | none => exact .inl rfl
  | some s =>
    cases hv : Json.read? s with
    | none => exact .inr (.inl ⟨s, rfl, hv⟩)
    | some v => exact .inr (.inr ⟨s, v, rfl, hv⟩)

theorem id_of_outcome {t : Tip} (h : f.outcome reader config = .ok t) : t.id = f.id := by
  rcases f.content_cases with hs | ⟨s, hs, hv⟩ | ⟨s, v, hs, hv⟩
  · rw [outcome_of_unreadable hs] at h
    cases h
  · rw [outcome_of_invalidJson hs hv] at h
    cases h
  · rw [outcome_of_json hs hv] at h
    exact Catalog.id_of_outcome h

theorem toOption_outcome (f : TipFile) :
    (f.outcome reader config).toOption =
      f.entry?.bind fun e => (Catalog.outcome reader config e).toOption := by
  rcases f.content_cases with hs | ⟨s, hs, hv⟩ | ⟨s, v, hs, hv⟩
  · rw [outcome_of_unreadable hs, entry?, hs]
    rfl
  · rw [outcome_of_invalidJson hs hv, entry?, hs, Option.bind_some, hv]
    rfl
  · rw [outcome_of_json hs hv, entry?, hs, Option.bind_some, hv]
    rfl

/-- The only errors of a load of one entry, which is not ignored, are those of reading it. -/
theorem faults_eq (hlive : config.isIgnored f.id = false) :
    f.faults reader config = (Catalog.failure? (f.outcome reader config)).toList := by
  unfold faults
  rcases f.content_cases with hs | ⟨s, hs, hv⟩ | ⟨s, v, hs, hv⟩
  · rw [outcome_of_unreadable hs, hs]
    rfl
  · rw [outcome_of_invalidJson hs hv, hs]
    dsimp only
    rw [hv]
    rfl
  · have hone : Catalog.live config [(f.id, v)] = [(f.id, v)] := by simp [Catalog.live, hlive]
    rw [outcome_of_json hs hv, hs]
    dsimp only
    rw [hv]
    dsimp only
    rw [Catalog.value_load, Catalog.failures_ofOutcomes, hone, List.map_singleton]
    cases Catalog.outcome reader config (f.id, v) <;> rfl

theorem id_of_entry? {e : Identifier × Json} (h : f.entry? = some e) : e.1 = f.id := by
  obtain ⟨s, -, h⟩ := Option.bind_eq_some_iff.1 h
  obtain ⟨v, -, rfl⟩ := Option.map_eq_some_iff.1 h
  rfl

end Outcome

/-- Whether a file is loaded: its id is not ignored. -/
def isLive (config : Config) (f : TipFile) : Bool := !config.isIgnored f.id

/-- The tips of the files that are loaded, in the order of the files. -/
def tips (reader : TipReader) (config : Config) (files : List TipFile) : List Tip :=
  ((files.filter (isLive config)).map (outcome reader config)).filterMap Except.toOption

/-- The tips of files are those of the entries in them. -/
theorem tips_eq (files : List TipFile) :
    tips reader config files =
      ((Catalog.live config (files.filterMap entry?)).map (Catalog.outcome reader config)).filterMap
        Except.toOption := by
  rw [tips, Catalog.live, List.filter_filterMap, List.filterMap_map, List.filterMap_map,
    List.filterMap_filterMap, List.filterMap_filter]
  congr 1
  funext f
  dsimp only [Function.comp]
  rw [toOption_outcome]
  cases hentry : f.entry? with
  | none => simp
  | some e =>
    rw [Option.filter_some, id_of_entry? hentry, isLive]
    split <;> rfl

/-- The ids of the tips of files stand in the order of the files. -/
theorem pairwise_tips {files : List TipFile} (hfiles : files.Pairwise Precedes) :
    (tips reader config files).Pairwise fun t u => t.id.Precedes u.id ∨ t.id = u.id := by
  rw [tips, List.filterMap_map]
  refine (hfiles.filter _).filterMap _ fun f g hfg t ht u hu => ?_
  rw [id_of_outcome (Except.toOption_eq_some_iff.1 ht), id_of_outcome (Except.toOption_eq_some_iff.1 hu)]
  exact hfg.imp_right And.left

theorem mem_tips_iff {files : List TipFile} {t : Tip} :
    t ∈ tips reader config files ↔
      ∃ f ∈ files, config.isIgnored f.id = false ∧ f.outcome reader config = .ok t := by
  simp only [tips, List.mem_filterMap, List.mem_map, List.mem_filter, isLive, Bool.not_eq_true',
    Except.toOption_eq_some_iff]
  constructor
  · rintro ⟨_, ⟨f, ⟨hf, hlive⟩, rfl⟩, hread⟩
    exact ⟨f, hf, hlive, hread⟩
  · rintro ⟨f, hf, hlive, hread⟩
    exact ⟨_, ⟨f, ⟨hf, hlive⟩, rfl⟩, hread⟩

end TipFile

namespace Catalog

variable {reader : TipReader} {config : Config} {tree : FileTree} {root : FileTree.Path}

/-- The catalog of tip files. -/
def ofFiles (reader : TipReader) (config : Config) (files : List TipFile) : Catalog :=
  ofOutcomes ((files.filter (TipFile.isLive config)).map (TipFile.outcome reader config))

theorem value_loadEntries_files (files : List TipFile) :
    (loadEntries config
      (files.map fun f => (f.id, (readerFor reader config).readFile f.id f.content))).value =
      ofFiles reader config files := by
  rw [value_loadEntries, ofFiles, live, List.filter_map, List.map_map]
  rfl

/-- A folder that is there is loaded, and gives the catalog of its tip files. -/
theorem exists_loadFolder?_eq {entries : List (String × FileTree)}
    (hroot : tree.get? root = some (.folder entries)) :
    ∃ load, loadFolder? reader config tree root = some load ∧
      load.value = ofFiles reader config (TipFile.ofEntries entries).value := by
  unfold loadFolder?
  rw [hroot]
  refine ⟨_, rfl, ?_⟩
  rw [Traced.value_bind, value_loadEntries_files]

/-- **The catalog of files** is that of their entries, up to the failures. -/
theorem ofFiles_eq (files : List TipFile) :
    ofFiles reader config files =
      { (load reader config (files.filterMap TipFile.entry?)).value with
        failures := (files.filter (TipFile.isLive config)).flatMap (TipFile.faults reader config) } := by
  have hfailures : ((files.filter (TipFile.isLive config)).map (TipFile.outcome reader config)).filterMap
      failure? = (files.filter (TipFile.isLive config)).flatMap (TipFile.faults reader config) := by
    rw [List.filterMap_map, List.filterMap_eq_flatMap_toList]
    refine List.flatMap_congr fun f hf => ?_
    have hlive : config.isIgnored f.id = false := by simpa [TipFile.isLive] using (List.mem_filter.1 hf).2
    exact (TipFile.faults_eq hlive).symm
  rw [ofFiles, ofOutcomes_congr (TipFile.tips_eq files), hfailures, value_load]

theorem pairwise_ids_ofFiles {files : List TipFile} (hfiles : files.Pairwise TipFile.Precedes) :
    (ofFiles reader config files).ids.Pairwise Identifier.Precedes := by
  have hnodup := (ofFiles reader config files).nodup_ids
  have htips := @TipFile.pairwise_tips reader config _ hfiles
  have hids : (ofFiles reader config files).ids.Pairwise fun a b => a.Precedes b ∨ a = b := by
    rw [ofFiles, ids_ofOutcomes]
    exact (List.pairwise_map.2 htips).sublist (List.eraseDups_sublist _)
  exact (hids.and hnodup).imp fun ⟨h, hne⟩ => h.resolve_right hne

/-! ## Loads of folders -/

/-- Folders with the same tip files give the same catalog. -/
theorem value_loadFolder?_congr {tree' : FileTree} (htree : tree.WellFormed) (hroot : tree.hasFolder root)
    (htree' : tree'.WellFormed) (hroot' : tree'.hasFolder root)
    (hsame : ∀ f : TipFile, f.IsIn tree' root ↔ f.IsIn tree root) :
    (loadFolder? reader config tree' root).map Traced.value =
      (loadFolder? reader config tree root).map Traced.value := by
  obtain ⟨entries, hentries⟩ := FileTree.exists_of_hasFolder hroot
  obtain ⟨entries', hentries'⟩ := FileTree.exists_of_hasFolder hroot'
  obtain ⟨load, hload, hvalue⟩ := @exists_loadFolder?_eq reader config _ _ _ hentries
  obtain ⟨load', hload', hvalue'⟩ := @exists_loadFolder?_eq reader config _ _ _ hentries'
  rw [hload, hload', Option.map_some, Option.map_some, hvalue, hvalue',
    TipFile.ofEntries_congr htree hentries htree' hentries' hsame]

theorem isIn_relisted_iff {tree' : FileTree} (h : FileTree.Relisted tree tree') (htree : tree.WellFormed)
    (f : TipFile) : f.IsIn tree' root ↔ f.IsIn tree root := by
  constructor
  · rintro ⟨hfile, hpath⟩
    rw [FileTree.get?_eq_file_iff, h.view_eq htree, ← FileTree.get?_eq_file_iff] at hfile
    exact ⟨hfile, hpath⟩
  · rintro ⟨hfile, hpath⟩
    rw [FileTree.get?_eq_file_iff, ← h.view_eq htree, ← FileTree.get?_eq_file_iff] at hfile
    exact ⟨hfile, hpath⟩

/-- **A folder is loaded as its tip files are**, in whatever order its folders are listed. -/
theorem loadFolder_spec (reader : TipReader) (config : Config) (htree : tree.WellFormed)
    (hroot : tree.hasFolder root) :
    ∃ (load : Traced Catalog) (files : List TipFile),
      loadFolder? reader config tree root = some load ∧
      -- the tip files, each of them once and in order
      (∀ f : TipFile, f ∈ files ↔ f.IsIn tree root) ∧ files.Pairwise TipFile.Precedes ∧
      -- the tips are those of a load of the entries in the files, the failures those of each file
      load.value = { (Catalog.load reader config (files.filterMap TipFile.entry?)).value with
        failures := (files.filter fun f => !config.isIgnored f.id).flatMap
          (TipFile.faults reader config) } ∧
      load.value.ids.Pairwise Identifier.Precedes ∧
      -- neither the order in which folders are listed nor any other file matters
      (∀ tree', FileTree.Relisted tree tree' →
        (loadFolder? reader config tree' root).map Traced.value = some load.value) ∧
      ∀ tree' : FileTree, tree'.WellFormed → tree'.hasFolder root →
        (∀ f : TipFile, f.IsIn tree' root ↔ f.IsIn tree root) →
        (loadFolder? reader config tree' root).map Traced.value = some load.value := by
  obtain ⟨entries, hentries⟩ := FileTree.exists_of_hasFolder hroot
  obtain ⟨load, hload, hvalue⟩ := @exists_loadFolder?_eq reader config _ _ _ hentries
  have hsorted := TipFile.pairwise_ofEntries htree hentries
  have hcongr : ∀ tree' : FileTree, tree'.WellFormed → tree'.hasFolder root →
      (∀ f : TipFile, f.IsIn tree' root ↔ f.IsIn tree root) →
      (loadFolder? reader config tree' root).map Traced.value = some load.value := by
    intro tree' htree' hroot' hsame
    rw [value_loadFolder?_congr htree hroot htree' hroot' hsame, hload, Option.map_some]
  refine ⟨load, _, hload, fun f => TipFile.mem_ofEntries_iff htree hentries, hsorted, ?_, ?_, ?_, hcongr⟩
  · rw [hvalue, ofFiles_eq]
    rfl
  · rw [hvalue]
    exact pairwise_ids_ofFiles hsorted
  · intro tree' hrelisted
    refine hcongr tree' (hrelisted.wellFormed htree) ?_ (isIn_relisted_iff hrelisted htree)
    rw [FileTree.hasFolder_iff, hrelisted.view_eq htree, ← FileTree.hasFolder_iff]
    exact hroot

section Sample

def sampleReader : TipReader := ⟨⟨"host", fun _ => true, fun _ => none⟩, none⟩

def sampleContent : ByteArray := "\x7b\"title\": \"Beds\", \"tip\": \"They explode.\"\x7d".toByteArray

/-- The tips of a namespace, which stand in a folder in two orders. -/
def sampleTips : List (String × FileTree) :=
  [("beds.json", .file sampleContent), ("broken.json", .file "[".toByteArray), ("notes.txt", .file .empty)]

def sampleFolder : FileTree := .folder [("advice", .folder [("tips", .folder sampleTips)])]

def relistedFolder : FileTree := .folder [("advice", .folder [("tips", .folder sampleTips.reverse)])]

theorem relisted_sampleFolder : FileTree.Relisted sampleFolder relistedFolder :=
  .inside [] "advice" [] (.inside [] "tips" [] (.perm (List.reverse_perm sampleTips).symm))

theorem wellFormed_sampleFolder : sampleFolder.WellFormed := by
  simp only [sampleFolder, sampleTips, FileTree.WellFormed, FileTree.WellFormedEntries]
  decide

theorem loadFolder_sampleFolder :
    sampleFolder.WellFormed ∧ sampleFolder.hasFolder [] ∧
    ∃ c : Catalog, (loadFolder? sampleReader .default sampleFolder []).map Traced.value = some c ∧
      (loadFolder? sampleReader .default relistedFolder []).map Traced.value = some c ∧
      c.ids.Pairwise Identifier.Precedes := by
  obtain ⟨load, files, hload, -, -, -, hids, hrelisted, -⟩ :=
    @loadFolder_spec sampleFolder [] sampleReader .default wellFormed_sampleFolder rfl
  exact ⟨wellFormed_sampleFolder, rfl, load.value, by rw [hload]; rfl,
    hrelisted _ relisted_sampleFolder, hids⟩

end Sample

end Catalog
end GameTips
