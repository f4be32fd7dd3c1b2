import GameTips.Config.File
import GameTips.Proofs.Config.Rereading
import GameTips.Proofs.FileTree.Saving

/-!
# The configuration stays as it is loaded

A load gives the configuration of the file, or the default where the file has none, and saves it
(`Config.value_loadOrDefault`). Loading again then gives the same and changes nothing: either the file was
written, and its text is read back, or it was not, and then loading goes as before
(`Config.loadOrDefault_again`). `loadOrDefault_spec` joins this with what happens to the other files.
-/

namespace GameTips.Config

open FileTree (SameFile)

/-- Whether the file at the end of a route has the text of a configuration. -/
def IsIn (c : Config) (tree : FileTree) (route : String) : Prop :=
  ∃ content s, tree.find? route = some (.file content) ∧ String.fromUTF8? content = some s ∧ read s = .ok c

/-- The configuration that a load gives. -/
def loaded (tree : FileTree) (route : String) : Config :=
  ((tree.find? route).bind ofFile?).getD .default

variable {tree tree' : FileTree} {route : String} {c : Config}

theorem ofFile?_eq_some_iff {t : FileTree} :
    ofFile? t = some c ↔
      ∃ content s, t = .file content ∧ String.fromUTF8? content = some s ∧ read s = .ok c := by
  rw [ofFile?, Option.bind_eq_some_iff]
  constructor
  · rintro ⟨s, hs, hread⟩
    cases t with
    | folder entries => cases hs
    | file content =>
      exact ⟨content, s, rfl, hs, Except.toOption_eq_some_iff.1 hread⟩
  · rintro ⟨content, s, rfl, hs, hread⟩
    exact ⟨s, hs, Except.toOption_eq_some_iff.2 hread⟩

theorem bind_ofFile?_eq_some_iff : (tree.find? route).bind ofFile? = some c ↔ c.IsIn tree route := by
  simp only [Option.bind_eq_some_iff, ofFile?_eq_some_iff, IsIn]
  constructor
  · rintro ⟨t, ht, content, s, rfl, hs, hread⟩
    exact ⟨content, s, ht, hs, hread⟩
  · rintro ⟨content, s, ht, hs, hread⟩
    exact ⟨_, ht, content, s, rfl, hs, hread⟩

theorem loaded_eq_of_isIn (h : c.IsIn tree route) : loaded tree route = c := by
  rw [loaded, bind_ofFile?_eq_some_iff.2 h, Option.getD_some]

theorem loaded_eq_default (h : ∀ c : Config, ¬ c.IsIn tree route) : loaded tree route = .default := by
  have hnone : (tree.find? route).bind ofFile? = none :=
    Option.eq_none_iff_forall_ne_some.2 fun c hc => h c (bind_ofFile?_eq_some_iff.1 hc)
  rw [loaded, hnone, Option.getD_none]

theorem titleFits_loaded (tree : FileTree) (route : String) : (loaded tree route).TitleFits := by
  by_cases h : ∃ c : Config, c.IsIn tree route
  · obtain ⟨c, hc⟩ := h
    rw [loaded_eq_of_isIn hc]
    obtain ⟨content, s, -, -, hread⟩ := hc
    exact titleFits_of_read hread
  · rw [loaded_eq_default fun c hc => h ⟨c, hc⟩]
    exact titleFits_of_eq_none rfl

/-- **A configuration that was read comes back**, if there is no binary64 number in its default title. -/
theorem reread_text {s : String} (hread : read s = .ok c)
    (hfloat : ∀ title ∈ c.defaultTitle, title.toJson.FloatFree) : read c.text = .ok c :=
  read_text fun title htitle =>
    ⟨hfloat title htitle, (titleFits_of_read hread title htitle).1, (titleFits_of_read hread title htitle).2⟩

theorem isReread_loaded (hfloat : ∀ title ∈ (loaded tree route).defaultTitle, title.toJson.FloatFree) :
    ∀ title ∈ (loaded tree route).defaultTitle, IsReread title := fun title htitle =>
  have hfits := titleFits_loaded tree route title htitle
  ⟨hfloat title htitle, hfits.1, hfits.2⟩

/-! ## Loading -/

/-- What a load does with its configuration: it saves it, and says so if that failed. -/
def keep (c : Config) (tree : FileTree) (route : String) : Traced (Config × FileTree) := do
  let (tree, isSaved) := c.save tree route
  if isSaved then pure (c, tree)
  else do
    Traced.note .configUnwritable
    pure (c, tree)

theorem exists_loadOrDefault_eq (tree : FileTree) (route : String) :
    ∃ found, found ≠ Notice.configUnwritable ∧
      loadOrDefault tree route = Traced.note found >>= fun _ => (loaded tree route).keep tree route := by
  unfold loadOrDefault loaded keep
  cases tree.find? route with
  | none => exact ⟨.configMissing, by decide, by simp⟩
  | some file =>
    cases hfile : ofFile? file with
    | none => exact ⟨.configUnreadable, by decide, by simp [hfile]⟩
    | some c => exact ⟨.configLoaded, by decide, by simp [hfile]⟩

theorem value_loadOrDefault (tree : FileTree) (route : String) :
    (loadOrDefault tree route).value =
      (loaded tree route, ((loaded tree route).save tree route).1) := by
  obtain ⟨found, -, heq⟩ := exists_loadOrDefault_eq tree route
  rw [heq, Traced.value_bind, keep]
  obtain ⟨tree', isSaved⟩ := (loaded tree route).save tree route
  cases isSaved <;> rfl

/-- A load says that the file could not be written where it was not. -/
theorem configUnwritable_mem_notices_iff :
    Notice.configUnwritable ∈ (loadOrDefault tree route).notices ↔
      ((loaded tree route).save tree route).2 = false := by
  obtain ⟨found, hfound, heq⟩ := exists_loadOrDefault_eq tree route
  rw [heq, Traced.notices, Traced.events_bind, Traced.events_note, List.cons_append, List.nil_append,
    List.filterMap_cons_some (f := Event.notice?) (b := found) rfl, List.mem_cons,
    or_iff_right hfound.symm, keep]
  obtain ⟨tree', isSaved⟩ := (loaded tree route).save tree route
  cases isSaved <;> simp [Event.notice?]

theorem fromUTF8?_toByteArray (s : String) : String.fromUTF8? s.toByteArray = some s :=
  dif_pos s.isValidUTF8

theorem isIn_of_find? (hc : read c.text = .ok c)
    (h : tree.find? route = some (.file c.text.toByteArray)) : c.IsIn tree route :=
  ⟨_, c.text, h, fromUTF8?_toByteArray _, hc⟩

theorem loaded_eq_default_of_noFile (h : ∀ x, tree.find? route ≠ some (.file x)) :
    loaded tree route = .default :=
  loaded_eq_default fun _ ⟨content, _, hfind, _⟩ => h content hfind

/-- **Loading again** gives the same, and changes nothing. -/
theorem loadOrDefault_again (hroot : tree.isFolder) (hwf : tree.WellFormed)
    (hfloat : ∀ title ∈ (loaded tree route).defaultTitle, title.toJson.FloatFree) :
    (loadOrDefault (loadOrDefault tree route).value.2 route).value = (loadOrDefault tree route).value := by
  have hreread : read (loaded tree route).text = .ok (loaded tree route) :=
    read_text (isReread_loaded hfloat)
  rw [value_loadOrDefault, value_loadOrDefault]
  cases hsave : (loaded tree route).save tree route with
  | mk tree' isSaved =>
    dsimp only
    cases isSaved with
    | true =>
      obtain ⟨hfind, -, hagain⟩ := FileTree.save_true hroot hsave
      rw [loaded_eq_of_isIn (isIn_of_find? hreread hfind), save, hagain]
    | false =>
      obtain ⟨-, hagain, hnoFile⟩ := FileTree.save_false hroot hwf hsave
      rw [loaded_eq_default_of_noFile fun x => (hnoFile x).1,
        loaded_eq_default_of_noFile fun x => (hnoFile x).2, save, hagain]

/-- **The configuration is kept**: its text is read back, and loading it twice is loading it once. Only the
file of the configuration is written, and where it cannot be written, no file is. A file that is there can
be written. -/
theorem loadOrDefault_spec :
    (∀ (s : String) (c : Config), read s = .ok c →
      (∀ title ∈ c.defaultTitle, title.toJson.FloatFree) → read c.text = .ok c) ∧
    read default.text = .ok .default ∧
    ∀ (tree : FileTree) (route : String), tree.isFolder → tree.WellFormed →
      let first := loadOrDefault tree route
      let config := first.value.1
      let tree' := first.value.2
      let again := loadOrDefault tree' route
      -- the first load gives what is in the file, or the default
      (∀ c : Config, c.IsIn tree route → config = c) ∧
      ((∀ c : Config, ¬ c.IsIn tree route) → config = .default) ∧
      -- loading again gives the same and leaves the tree as it is
      ((∀ title ∈ config.defaultTitle, title.toJson.FloatFree) → again.value = (config, tree')) ∧
      -- the text of the configuration is in the file exactly if it could be written, and it could if
      -- there was a file
      (.configUnwritable ∉ first.notices ↔
        tree'.find? route = some (.file config.text.toByteArray)) ∧
      (∀ content, tree.find? route = some (.file content) → .configUnwritable ∉ first.notices) ∧
      -- other files are as they were, and all files are if it could not
      (∀ place, tree'.locate? route ≠ some place → SameFile tree tree' place) ∧
      (.configUnwritable ∈ first.notices → ∀ place, SameFile tree tree' place) := by
  have hdefault : ∀ title ∈ Config.default.defaultTitle, IsReread title := by rintro title ⟨⟩
  refine ⟨fun s c => reread_text, read_text hdefault, fun tree route hroot hwf => ?_⟩
  have hvalue := value_loadOrDefault tree route
  have hunwritable := @configUnwritable_mem_notices_iff tree route
  have hagain := @loadOrDefault_again tree route hroot hwf
  dsimp only
  rw [hvalue] at hagain ⊢
  cases hsave : (loaded tree route).save tree route with
  | mk tree' isSaved =>
    rw [hsave] at hunwritable hagain
    refine ⟨fun c => loaded_eq_of_isIn, loaded_eq_default, hagain, ?_⟩
    cases isSaved with
    | true =>
      obtain ⟨hfind, hothers, -⟩ := FileTree.save_true hroot hsave
      have hwritten : Notice.configUnwritable ∉ (loadOrDefault tree route).notices := by
        simp [hunwritable]
      exact ⟨iff_of_true hwritten hfind, fun _ _ => hwritten, hothers, fun h => absurd h hwritten⟩
    | false =>
      obtain ⟨hsame, -, hnoFile⟩ := FileTree.save_false hroot hwf hsave
      have hunwritten : ¬ Notice.configUnwritable ∉ (loadOrDefault tree route).notices :=
        not_not_intro (hunwritable.2 rfl)
      exact ⟨iff_of_false hunwritten (hnoFile _).2, fun x hfind => absurd hfind (hnoFile x).1,
        fun other _ => hsame other, fun _ => hsame⟩

/-- A configuration as an array, below which a tree holds it next to another file. -/
def sampleText : String := "[7000, [\"mine\"], [\"a:b\"], [\"Hint\"]]"

def sampleConfig : Config :=
  ⟨7000, ["mine"], (Identifier.parse "a:b").toOption.toList, some ⟨.arr [.str "Hint"], rfl⟩⟩

def sampleTree : FileTree :=
  .folder [("config", .folder [("tips.json", .file sampleText.toByteArray)]), ("notes", .file .empty)]

def sampleRoute : String := "config//./tips.json"

theorem find?_sampleTree : sampleTree.find? sampleRoute = some (.file sampleText.toByteArray) := by
  have hparts : Route.parts sampleRoute = ["config", "", ".", "tips.json"] := by decide
  have htext : String.intercalate "/" ["config", "", ".", "tips.json"] = sampleRoute := by decide
  have hroute : Route.ofText? sampleRoute = some ⟨["config", "tips.json"], false⟩ := by
    rw [Route.ofText?, hparts, Route.ofParts?, htext]
    exact if_pos ⟨by decide, by simp [sampleRoute]⟩
  rw [FileTree.find?, FileTree.locate?, hroute]
  rfl

/-- The configuration is read from the array, and its file then holds the text with all settings. -/
theorem loadOrDefault_sampleTree :
    read sampleText = .ok sampleConfig ∧ (∀ title ∈ sampleConfig.defaultTitle, title.toJson.FloatFree) ∧
    read sampleConfig.text = .ok sampleConfig ∧
    sampleTree.isFolder ∧ sampleTree.WellFormed ∧ sampleConfig.IsIn sampleTree sampleRoute ∧
    sampleTree.find? sampleRoute = some (.file sampleText.toByteArray) ∧
    .configUnwritable ∉ (loadOrDefault sampleTree sampleRoute).notices ∧
    (loadOrDefault sampleTree sampleRoute).value.2.find? sampleRoute =
      some (.file sampleConfig.text.toByteArray) ∧
    sampleText ≠ sampleConfig.text ∧
    (loadOrDefault (loadOrDefault sampleTree sampleRoute).value.2 sampleRoute).value =
      (sampleConfig, (loadOrDefault sampleTree sampleRoute).value.2) := by
  have hread : read sampleText = .ok sampleConfig := rfl
  have hfloat : ∀ title ∈ sampleConfig.defaultTitle, title.toJson.FloatFree := by
    rintro _ ⟨⟩
    exact ⟨trivial, trivial⟩
  have hwf : sampleTree.WellFormed := by
    simp only [sampleTree, FileTree.WellFormed, FileTree.WellFormedEntries]
    decide
  have hin : sampleConfig.IsIn sampleTree sampleRoute :=
    ⟨_, sampleText, find?_sampleTree, fromUTF8?_toByteArray _, hread⟩
  obtain ⟨hreread, -, hload⟩ := loadOrDefault_spec
  obtain ⟨hfirst, -, hagain, htext, hwritten, -, -⟩ := hload sampleTree sampleRoute rfl hwf
  have hconfig := hfirst sampleConfig hin
  have hwritten := hwritten _ find?_sampleTree
  have htext := htext.1 hwritten
  rw [hconfig] at hagain htext
  exact ⟨hread, hfloat, hreread sampleText sampleConfig hread hfloat, rfl, hwf, hin, find?_sampleTree,
    hwritten, htext, by decide +kernel, hagain hfloat⟩

end GameTips.Config
