import GameTips.FileTree.Route
import Mathlib.Data.List.Basic
import Mathlib.Data.List.Induction

/-!
# Routes to files

A route to a file ends with a name, and what is written before the name is a route to its folder
(`Route.exists_leadsToFile`). What is cut off around the name takes no step, so nothing is lost but the
name; and as the rest is a first part of the text, the folder has a route where the file has one
(`Route.exists_parent`).
-/

namespace GameTips.Route

theorem eq_of_ofParts? {ps : List String} {r : Route} (h : ofParts? ps = some r) :
    r = ⟨ps.filter (!isBlank ·), (ps.getLast?.map fun name => isBlank name || name = up).getD true⟩ := by
  unfold ofParts? at h
  dsimp only at h
  split at h
  · exact (Option.some.inj h).symm
  · cases h

theorem trimmed_concat {name : String} (hname : isBlank name = false) (ps : List String) :
    trimmed (ps ++ [name]) = ps ++ [name] := by
  simp [trimmed, hname]

/-- What is cut off takes no step. -/
theorem filter_trimmed (ps : List String) :
    (trimmed ps).filter (!isBlank ·) = ps.filter (!isBlank ·) := by
  induction ps using List.reverseRecOn with
  | nil => rfl
  | append_singleton ps name ih =>
    cases hname : isBlank name with
    | false => rw [trimmed_concat hname]
    | true =>
      have hcut : trimmed (ps ++ [name]) = trimmed ps := by simp [trimmed, hname]
      rw [hcut, ih, List.filter_append]
      simp [hname]

theorem trimmed_prefix_self (ps : List String) : trimmed ps <+: ps := by
  rw [trimmed, ← List.reverse_suffix, List.reverse_reverse]
  exact List.dropWhile_suffix _

theorem parentParts_prefix_self (ps : List String) : parentParts ps <+: ps :=
  (trimmed_prefix_self _).trans ((List.dropLast_prefix _).trans (trimmed_prefix_self ps))

/-- Whether parts make a route is told by the text. -/
theorem isSome_ofParts?_iff {ps : List String} :
    (ofParts? ps).isSome ↔ (String.intercalate "/" ps).utf8ByteSize ≤ maxSize ∧
      '\u0000' ∉ (String.intercalate "/" ps).toList := by
  unfold ofParts?
  dsimp only
  split
  · next h => simpa using h
  · next h => simpa using h

/-- The first parts of a route make a route. -/
theorem isSome_ofParts?_mono {ps qs : List String} (h : ps <+: qs) (hqs : (ofParts? qs).isSome) :
    (ofParts? ps).isSome := by
  obtain ⟨rest, rfl⟩ := h
  rw [isSome_ofParts?_iff] at hqs ⊢
  obtain ⟨more, hmore⟩ : ∃ more, String.intercalate "/" (ps ++ rest) =
      String.intercalate "/" ps ++ more := by
    by_cases hps : ps = []
    · exact ⟨_, by rw [hps, List.nil_append, String.intercalate_nil, String.empty_append]⟩
    · by_cases hrest : rest = []
      · exact ⟨"", by rw [hrest, List.append_nil, String.append_empty]⟩
      · exact ⟨_, by rw [String.intercalate_append_of_ne_nil hps hrest, String.append_assoc]⟩
  rw [hmore, String.utf8ByteSize_append, String.toList_append, List.mem_append, not_or] at hqs
  exact ⟨Nat.le_trans (Nat.le_add_right _ _) hqs.1, hqs.2.1⟩

/-- Where a text writes a route, there is one to its folder. -/
theorem exists_parent {s : String} {r : Route} (hr : ofText? s = some r) :
    ∃ parent, ofParts? (parentParts (parts s)) = some parent :=
  Option.isSome_iff_exists.1
    (isSome_ofParts?_mono (parentParts_prefix_self _) (Option.isSome_of_eq_some hr))

/-- Whether a text writes a route to a file: that to its folder, and the name of the file. -/
def LeadsToFile (s : String) (parent : Route) (name : String) : Prop :=
  ∃ r, ofText? s = some r ∧ r.toFolder = false ∧ name ≠ up ∧ r.names = parent.names ++ [name]

/-- A route to a file ends with a name, and the parts before the name lead to its folder. -/
theorem exists_leadsToFile {s : String} {r parent : Route} (hr : ofText? s = some r)
    (hparent : ofParts? (parentParts (parts s)) = some parent) (hfile : r.toFolder = false) :
    ∃ name, LeadsToFile s parent name := by
  have hnames := eq_of_ofParts? hr
  obtain rfl := eq_of_ofParts? hparent
  rcases List.eq_nil_or_concat (parts s) with hparts | ⟨before, last, hparts⟩
  · rw [hnames, hparts] at hfile
    cases hfile
  · rw [hnames, hparts] at hfile
    simp only [List.concat_eq_append, List.getLast?_concat, Option.map_some, Option.getD_some,
      Bool.or_eq_false_iff, decide_eq_false_iff_not] at hfile
    obtain ⟨hblank, hup⟩ := hfile
    have hbefore : parentParts (before ++ [last]) = trimmed before := by
      rw [parentParts, trimmed_concat hblank, List.dropLast_concat]
    refine ⟨last, r, hr, ?_, hup, ?_⟩
    · rw [hnames, hparts]
      simp [hblank, hup]
    · rw [hnames, hparts, List.concat_eq_append, hbefore]
      simp [filter_trimmed, hblank]

end GameTips.Route
