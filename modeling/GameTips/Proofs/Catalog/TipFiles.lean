import GameTips.Catalog.Folder
import GameTips.Proofs.FileTree.Listing
import GameTips.Proofs.Identifier.Grammar
import GameTips.Proofs.Trace
import Mathlib.Data.List.TakeWhile

/-!
# The tip files of a folder

The files that are loaded from a folder are the JSON files whose places make an identifier
(`TipFile.IsIn`, `TipFile.mem_ofEntries_iff`), each of them once and in a strict order
(`TipFile.Precedes`, `TipFile.pairwise_ofEntries`). A strict order leaves one way to list them, so folders
with the same tip files give the same list (`TipFile.ofEntries_congr`).
-/

namespace GameTips

/-! ## Order -/

/-- Whether the namespace of an identifier comes first, or its path does where the namespaces are the
same. -/
def Identifier.Precedes (a b : Identifier) : Prop :=
  a.ns < b.ns ∨ a.ns = b.ns ∧ a.path < b.path

namespace Identifier

instance : Std.TransOrd Identifier :=
  inferInstanceAs (Std.TransCmp (compareLex (compareOn Identifier.ns) (compareOn Identifier.path)))

theorem ext_parts {a b : Identifier} (hns : a.ns = b.ns) (hpath : a.path = b.path) : a = b := by
  cases a
  cases b
  cases hns
  cases hpath
  rfl

theorem compare_eq_then (a b : Identifier) :
    Ord.compare a b = (Ord.compare a.ns b.ns).then (Ord.compare a.path b.path) := rfl

instance : Std.LawfulEqOrd Identifier where
  eq_of_compare {a b} h := by
    rw [compare_eq_then, Ordering.then_eq_eq] at h
    exact ext_parts (Std.LawfulEqOrd.eq_of_compare h.1) (Std.LawfulEqOrd.eq_of_compare h.2)

theorem compare_eq_lt_iff {a b : Identifier} : Ord.compare a b = .lt ↔ a.Precedes b := by
  rw [compare_eq_then, Ordering.then_eq_lt, Std.compare_eq_iff_eq, Precedes]
  exact or_congr compareOfLessAndEq_eq_lt (and_congr_right' compareOfLessAndEq_eq_lt)

end Identifier

namespace TipFile

/-- Whether a file is loaded before another: its id comes first, or its place does where the ids are the
same. -/
def Precedes (a b : TipFile) : Prop :=
  a.id.Precedes b.id ∨ a.id = b.id ∧ compare a.place b.place = .lt

theorem le_iff {a b : TipFile} :
    le a b = true ↔ a.Precedes b ∨ a.id = b.id ∧ a.place = b.place := by
  rw [le, Ordering.isLE_iff_eq_lt_or_eq_eq, Ordering.then_eq_lt, Ordering.then_eq_eq,
    Std.compare_eq_iff_eq, Std.compare_eq_iff_eq, Identifier.compare_eq_lt_iff, Precedes]

/-- The order of files as a comparison, which is transitive and total part by part. -/
def cmp : TipFile → TipFile → Ordering :=
  compareLex (compareOn TipFile.id) (compareOn TipFile.place)

instance : Std.TransCmp cmp :=
  inferInstanceAs (Std.TransCmp (compareLex (compareOn TipFile.id) (compareOn TipFile.place)))

theorem le_eq (a b : TipFile) : le a b = (cmp a b).isLE := rfl

theorem le_trans (a b c : TipFile) (hab : le a b = true) (hbc : le b c = true) : le a c = true := by
  rw [le_eq] at hab hbc ⊢
  exact Std.TransCmp.isLE_trans hab hbc

theorem le_total (a b : TipFile) : (le a b || le b a) = true := by
  have hswap : cmp b a = (cmp a b).swap := Std.OrientedCmp.eq_swap
  rw [le_eq, le_eq, hswap]
  cases cmp a b <;> rfl

theorem same_of_le {a b : TipFile} (hab : le a b = true) (hba : le b a = true) :
    a.id = b.id ∧ a.place = b.place := by
  have heq : cmp a b = .eq := Std.OrientedCmp.isLE_antisymm hab hba
  obtain ⟨hid, hplace⟩ := Ordering.then_eq_eq.1 heq
  exact ⟨Std.LawfulEqOrd.eq_of_compare hid, Std.LawfulEqOrd.eq_of_compare hplace⟩

/-! ## Places -/

/-- A name with a point in it is split at its last one, if there is something before. -/
theorem splitExtension?_eq_some_iff {name stem ext : String} :
    splitExtension? name = some (stem, ext) ↔
      name = stem ++ "." ++ ext ∧ stem ≠ "" ∧ '.' ∉ ext.toList := by
  have hsplit := @List.takeWhile_append_dropWhile _ (fun c : Char => decide (c ≠ '.')) name.toList.reverse
  unfold splitExtension?
  dsimp only
  constructor
  · intro h
    split at h
    · next back hback =>
      rw [hback] at hsplit
      split at h
      · cases h
      · next hstem =>
        obtain ⟨rfl, rfl⟩ := Prod.mk.inj (Option.some.inj h)
        refine ⟨String.toList_injective ?_, ?_, ?_⟩
        · have hname := congrArg List.reverse hsplit
          rw [List.reverse_reverse] at hname
          exact hname.symm.trans (by simp)
        · intro hempty
          apply hstem
          simpa using congrArg String.toList hempty
        · intro hpoint
          rw [String.toList_ofList, List.mem_reverse] at hpoint
          simpa using List.mem_takeWhile_imp hpoint
    · cases h
  · rintro ⟨rfl, hstem, hext⟩
    have hlist : (stem ++ "." ++ ext).toList.reverse = ext.toList.reverse ++ '.' :: stem.toList.reverse := by
      simp
    have hall : ∀ c ∈ ext.toList.reverse, decide (c ≠ '.') = true := by
      intro c hc
      rw [decide_eq_true_eq]
      rintro rfl
      exact hext (List.mem_reverse.1 hc)
    have hne : stem.toList.reverse.isEmpty = false := by simpa using hstem
    rw [hlist, List.dropWhile_append_of_pos hall, List.takeWhile_append_of_pos hall]
    simp [hne]

/-- The place of a JSON file stands for a path that ends with the name without its extension. -/
theorem tipPath?_eq_some_iff {place : FileTree.Path} {path : String} :
    tipPath? place = some path ↔ ∃ (folders : List String) (stem : String),
      place = folders ++ [stem ++ ".json"] ∧ stem ≠ "" ∧
        path = String.intercalate "/" (folders ++ [nameOfStem stem]) := by
  have hjson : ∀ stem : String, stem ++ "." ++ "json" = stem ++ ".json" := fun stem => by
    rw [String.append_assoc]
    rfl
  rcases List.eq_nil_or_concat place with rfl | ⟨folders, name, rfl⟩
  · simp [tipPath?]
  · rw [List.concat_eq_append]
    unfold tipPath?
    rw [List.getLast?_concat, Option.bind_some, List.dropLast_concat]
    constructor
    · intro h
      split at h
      · next stem hname =>
        obtain ⟨hname, hstem, -⟩ := splitExtension?_eq_some_iff.1 hname
        rw [hjson] at hname
        exact ⟨folders, stem, by rw [hname], hstem, (Option.some.inj h).symm⟩
      · cases h
    · rintro ⟨folders', stem, heq, hstem, rfl⟩
      obtain ⟨rfl, hname⟩ := List.append_inj' heq rfl
      obtain rfl := List.singleton_inj.1 hname
      have hsplit : splitExtension? (stem ++ ".json") = some (stem, "json") :=
        splitExtension?_eq_some_iff.2 ⟨(hjson stem).symm, hstem, by decide⟩
      rw [hsplit]
      rfl

/-! ## Membership -/

/-- Whether a file is in a tree, where a tip file has to be: it is a JSON file below the folder of tips of a
namespace, and the namespace and its place are the parts of its id. -/
structure IsIn (f : TipFile) (tree : FileTree) (root : FileTree.Path) : Prop where
  file : tree.get? (root ++ f.id.ns :: tipsFolder :: f.place) = some (.file f.content)
  path : tipPath? f.place = some f.id.path

theorem mem_ofFile_iff {f : TipFile} {ns : String} {place : FileTree.Path} {content : ByteArray} :
    f ∈ (ofFile ns place content).value ↔
      f.id.ns = ns ∧ f.place = place ∧ f.content = content ∧ tipPath? f.place = some f.id.path := by
  obtain ⟨id, place', content'⟩ := f
  unfold ofFile
  cases hpath : tipPath? place with
  | none =>
    simp only [Traced.value_pure, List.not_mem_nil, false_iff]
    rintro ⟨-, rfl, -, hsome⟩
    rw [hpath] at hsome
    cases hsome
  | some path =>
    dsimp only
    cases hid : Identifier.ofTexts ns path with
    | error e =>
      simp only [Traced.value_bind, Traced.value_pure, List.not_mem_nil, false_iff]
      rintro ⟨hns, rfl, -, hsome⟩
      rw [hpath] at hsome
      rw [Identifier.ofTexts_eq_ok_iff.2 ⟨hns, (Option.some.inj hsome).symm⟩] at hid
      cases hid
    | ok found =>
      obtain ⟨rfl, rfl⟩ := Identifier.ofTexts_eq_ok_iff.1 hid
      simp only [Traced.value_pure, List.mem_singleton, mk.injEq]
      constructor
      · rintro ⟨rfl, rfl, rfl⟩
        exact ⟨rfl, rfl, rfl, hpath⟩
      · rintro ⟨hns, rfl, rfl, hsome⟩
        rw [hpath] at hsome
        exact ⟨Identifier.ext_parts hns (Option.some.inj hsome).symm, rfl, rfl⟩

/-- The tip files of a namespace in the order in which they are listed. -/
theorem value_ofNamespace (ns : String) (t : FileTree) :
    (ofNamespace ns t).value = match t.get? [tipsFolder] with
      | some (.folder entries) => (FileTree.folder entries).files.flatMap fun r => (ofFile ns r.1 r.2).value
      | _ => [] := by
  unfold ofNamespace
  cases t.get? [tipsFolder] with
  | none => rfl
  | some u =>
    cases u with
    | file content => rfl
    | folder entries =>
      dsimp only
      rw [Traced.value_bind, Traced.value_mapM]
      rfl

theorem mem_ofNamespace_iff {f : TipFile} {ns : String} {t : FileTree} (ht : t.WellFormed) :
    f ∈ (ofNamespace ns t).value ↔ f.id.ns = ns ∧
      t.get? (tipsFolder :: f.place) = some (.file f.content) ∧ tipPath? f.place = some f.id.path := by
  have hplace : t.get? (tipsFolder :: f.place) = (t.get? [tipsFolder]).bind fun u => u.get? f.place :=
    FileTree.get?_append t [tipsFolder] f.place
  rw [value_ofNamespace, hplace]
  cases htips : t.get? [tipsFolder] with
  | none => simp
  | some u =>
    cases u with
    | file content =>
      simp only [List.not_mem_nil, Option.bind_some, false_iff]
      rintro ⟨-, hfile, hpath⟩
      cases hnil : f.place with
      | nil =>
        rw [hnil] at hpath
        cases hpath
      | cons name place =>
        rw [hnil] at hfile
        cases hfile
    | folder entries =>
      simp only [List.mem_flatMap, mem_ofFile_iff, Option.bind_some]
      constructor
      · rintro ⟨r, hr, hns, hplace, hcontent, hpath⟩
        rw [hplace, hcontent, ← FileTree.mem_files_iff (ht.get? htips)]
        exact ⟨hns, hr, hplace ▸ hpath⟩
      · rintro ⟨hns, hfile, hpath⟩
        exact ⟨_, (FileTree.mem_files_iff (ht.get? htips)).2 hfile, hns, rfl, rfl, hpath⟩

/-- The tip files below a folder before they are put in order. -/
theorem value_ofEntries (entries : List (String × FileTree)) :
    (ofEntries entries).value = (entries.flatMap fun e => (ofNamespace e.1 e.2).value).mergeSort le := by
  rw [ofEntries, Traced.value_bind, Traced.value_mapM]
  rfl

variable {tree : FileTree} {root : FileTree.Path} {entries : List (String × FileTree)}

theorem mem_ofEntries_iff (htree : tree.WellFormed) (hroot : tree.get? root = some (.folder entries))
    {f : TipFile} : f ∈ (ofEntries entries).value ↔ f.IsIn tree root := by
  have hwf : (FileTree.folder entries).WellFormed := htree.get? hroot
  obtain ⟨hnodup, hentries⟩ := FileTree.wellFormed_folder_iff.1 hwf
  have hfile : tree.get? (root ++ f.id.ns :: tipsFolder :: f.place) =
      (entries.lookup f.id.ns).bind fun t => t.get? (tipsFolder :: f.place) := by
    rw [FileTree.get?_append, hroot, Option.bind_some, FileTree.get?_cons]
  rw [value_ofEntries, List.mem_mergeSort, List.mem_flatMap]
  constructor
  · rintro ⟨⟨ns, t⟩, he, hf⟩
    obtain ⟨rfl, hget, hpath⟩ := (mem_ofNamespace_iff (hentries _ he).2).1 hf
    exact ⟨by rw [hfile, FileTree.lookup_of_mem hnodup he, Option.bind_some, hget], hpath⟩
  · rintro ⟨hget, hpath⟩
    rw [hfile] at hget
    obtain ⟨t, ht, hget⟩ := Option.bind_eq_some_iff.1 hget
    have he := FileTree.mem_of_lookup ht
    exact ⟨_, he, (mem_ofNamespace_iff (hentries _ he).2).2 ⟨rfl, hget, hpath⟩⟩

/-! ## Each tip file once, in order -/

theorem nodup_ofFile (ns : String) (place : FileTree.Path) (content : ByteArray) :
    (ofFile ns place content).value.Nodup := by
  unfold ofFile
  split
  · exact List.nodup_nil
  · split
    · exact List.nodup_singleton _
    · exact List.nodup_nil

theorem nodup_ofNamespace (ns : String) {t : FileTree} (ht : t.WellFormed) :
    (ofNamespace ns t).value.Nodup := by
  rw [value_ofNamespace]
  split
  · next entries hget =>
    refine List.nodup_flatMap.2 ⟨fun r _ => nodup_ofFile ns r.1 r.2, ?_⟩
    have hpaths := List.pairwise_map.1 (FileTree.nodup_paths (ht.get? hget))
    refine hpaths.imp fun hne f hf hf' => ?_
    exact hne ((mem_ofFile_iff.1 hf).2.1.symm.trans (mem_ofFile_iff.1 hf').2.1)
  · exact List.nodup_nil

theorem nodup_ofEntries (hwf : (FileTree.folder entries).WellFormed) : (ofEntries entries).value.Nodup := by
  obtain ⟨hnodup, hentries⟩ := FileTree.wellFormed_folder_iff.1 hwf
  rw [value_ofEntries, (List.mergeSort_perm _ _).nodup_iff, List.nodup_flatMap]
  refine ⟨fun e he => nodup_ofNamespace e.1 (hentries e he).2, ?_⟩
  refine (List.pairwise_map.1 hnodup).imp_of_mem fun he he' hne f hf hf' => ?_
  exact hne (((mem_ofNamespace_iff (hentries _ he).2).1 hf).1.symm.trans
    ((mem_ofNamespace_iff (hentries _ he').2).1 hf').1)

/-- A place in a namespace has one tip file. -/
theorem IsIn.eq {f g : TipFile} (hf : f.IsIn tree root) (hg : g.IsIn tree root) (hns : f.id.ns = g.id.ns)
    (hplace : f.place = g.place) : f = g := by
  obtain ⟨hfile, hpath⟩ := hf
  rw [hns, hplace, hg.file] at hfile
  rw [hplace, hg.path] at hpath
  have hid : f.id = g.id := Identifier.ext_parts hns (Option.some.inj hpath).symm
  have hcontent : g.content = f.content := FileTree.file.inj (Option.some.inj hfile)
  cases f
  cases g
  cases hid
  cases hplace
  cases hcontent
  rfl

theorem pairwise_le_ofEntries (entries : List (String × FileTree)) :
    (ofEntries entries).value.Pairwise fun a b => le a b = true := by
  rw [value_ofEntries]
  exact List.pairwise_mergeSort le_trans le_total _

theorem pairwise_ofEntries (htree : tree.WellFormed) (hroot : tree.get? root = some (.folder entries)) :
    (ofEntries entries).value.Pairwise Precedes := by
  refine ((pairwise_le_ofEntries entries).and (nodup_ofEntries (htree.get? hroot))).imp_of_mem ?_
  rintro f g hf hg ⟨hle, hne⟩
  rcases le_iff.1 hle with hbefore | ⟨hid, hplace⟩
  · exact hbefore
  · exact absurd (IsIn.eq ((mem_ofEntries_iff htree hroot).1 hf) ((mem_ofEntries_iff htree hroot).1 hg)
      (by rw [hid]) hplace) hne

/-- **Folders with the same tip files** give the same list of them. -/
theorem ofEntries_congr {tree' : FileTree} {entries' : List (String × FileTree)} (htree : tree.WellFormed)
    (hroot : tree.get? root = some (.folder entries)) (htree' : tree'.WellFormed)
    (hroot' : tree'.get? root = some (.folder entries'))
    (hsame : ∀ f : TipFile, f.IsIn tree' root ↔ f.IsIn tree root) :
    (ofEntries entries').value = (ofEntries entries).value := by
  have hperm : (ofEntries entries').value.Perm (ofEntries entries).value := by
    rw [List.perm_ext_iff_of_nodup (nodup_ofEntries (htree'.get? hroot'))
      (nodup_ofEntries (htree.get? hroot))]
    intro f
    rw [mem_ofEntries_iff htree' hroot', mem_ofEntries_iff htree hroot, hsame]
  refine hperm.eq_of_pairwise (fun f g hf hg hle hge => ?_) (pairwise_le_ofEntries entries')
    (pairwise_le_ofEntries entries)
  obtain ⟨hid, hplace⟩ := same_of_le hle hge
  exact IsIn.eq ((hsame f).1 ((mem_ofEntries_iff htree' hroot').1 hf)) ((mem_ofEntries_iff htree hroot).1 hg)
    (by rw [hid]) hplace

end TipFile
end GameTips
