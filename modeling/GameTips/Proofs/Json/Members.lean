import GameTips.Json.Basic
import Mathlib.Data.List.Sort

/-!
# The members of an object

An object whose keys rise is known by what its keys lead to (`Json.eq_of_get?_eq`). The members that
`Json.ofMembers` puts into an object rise, and lead each key to its value if no key is given twice
(`Json.get?_collected`).
-/

namespace GameTips.Json

variable {members : List (String × Json)} {k : String} {v : Json}

/-- The members of the object that is built from given ones. -/
def collected (members : List (String × Json)) : List (String × Json) :=
  members.foldl (fun obj m => insert m.1 m.2 obj) []

theorem mem_of_get?_eq_some (h : get? k members = some v) : (k, v) ∈ members := by
  obtain ⟨before, after, rfl, -⟩ := List.lookup_eq_some_iff.1 h
  simp

theorem get?_eq_none_iff : get? k members = none ↔ k ∉ members.map Prod.fst := by
  induction members with
  | nil => simp [get?]
  | cons m rest ih =>
    obtain ⟨l, v⟩ := m
    rw [get?_cons, List.map_cons, List.mem_cons, not_or, ← ih]
    split
    · next h => simp [h]
    · next h => simp [h]

theorem get?_eq_some_iff (h : (members.map Prod.fst).Nodup) :
    get? k members = some v ↔ (k, v) ∈ members := by
  refine ⟨mem_of_get?_eq_some, ?_⟩
  intro hm
  induction members with
  | nil => cases hm
  | cons m rest ih =>
    obtain ⟨l, w⟩ := m
    obtain ⟨hl, hrest⟩ := List.nodup_cons.1 h
    rw [get?_cons]
    rcases List.mem_cons.1 hm with heq | hlater
    · obtain ⟨rfl, rfl⟩ := Prod.mk.inj heq
      exact if_pos rfl
    · have hne : k ≠ l := by
        rintro rfl
        exact hl (List.mem_map.2 ⟨(k, v), hlater, rfl⟩)
      rw [if_neg hne, ih hrest hlater]

theorem nodup_of_rising (h : (members.map Prod.fst).Pairwise (· < ·)) :
    (members.map Prod.fst).Nodup :=
  h.imp fun {k l} (hlt : k < l) (heq : k = l) => String.lt_irrefl l (heq ▸ hlt)

theorem get?_append (k : String) (xs ys : List (String × Json)) :
    get? k (xs ++ ys) = (get? k xs).or (get? k ys) :=
  List.lookup_append

/-- An object has a member that may be missing under its key, if it is there. -/
theorem get?_toList (k : String) (m : Option (String × Json)) :
    get? k m.toList = m.bind fun m => if k = m.1 then some m.2 else none := by
  cases m with
  | none => rfl
  | some m =>
    rw [Option.toList_some, get?_cons]
    rfl

/-- **An object is known by its look-ups.** -/
theorem eq_of_get?_eq {xs ys : List (String × Json)}
    (hx : (xs.map Prod.fst).Pairwise (· < ·)) (hy : (ys.map Prod.fst).Pairwise (· < ·))
    (h : ∀ k, get? k xs = get? k ys) : xs = ys := by
  have hmem : ∀ m, m ∈ xs ↔ m ∈ ys := by
    rintro ⟨k, v⟩
    rw [← get?_eq_some_iff (nodup_of_rising hx), h k, get?_eq_some_iff (nodup_of_rising hy)]
  let before : String × Json → String × Json → Prop := fun m n => m.1 < n.1
  have : Std.Irrefl before := ⟨fun m => String.lt_irrefl m.1⟩
  have : Std.Antisymm before := ⟨fun m n hmn hnm => absurd hnm (String.lt_asymm hmn)⟩
  exact List.Pairwise.eq_of_mem_iff (r := before) (List.pairwise_map.1 hx) (List.pairwise_map.1 hy)
    hmem

theorem pairwise_keys_foldl {obj : List (String × Json)} (members : List (String × Json))
    (h : (obj.map Prod.fst).Pairwise (· < ·)) :
    ((members.foldl (fun obj m => insert m.1 m.2 obj) obj).map Prod.fst).Pairwise (· < ·) := by
  induction members generalizing obj with
  | nil => exact h
  | cons m rest ih => exact ih (pairwise_keys_insert m.1 m.2 h)

theorem pairwise_keys_collected (members : List (String × Json)) :
    ((collected members).map Prod.fst).Pairwise (· < ·) :=
  pairwise_keys_foldl members List.Pairwise.nil

theorem get?_foldl (h : (members.map Prod.fst).Nodup) (obj : List (String × Json)) (k : String) :
    get? k (members.foldl (fun obj m => insert m.1 m.2 obj) obj) =
      (get? k members).or (get? k obj) := by
  induction members generalizing obj with
  | nil => rfl
  | cons m rest ih =>
    obtain ⟨l, v⟩ := m
    obtain ⟨hl, hrest⟩ := List.nodup_cons.1 h
    rw [List.foldl_cons, ih hrest, get?_insert, get?_cons]
    by_cases hk : k = l
    · subst hk
      rw [if_pos rfl, if_pos rfl, get?_eq_none_iff.2 hl]
      rfl
    · rw [if_neg hk, if_neg hk]

theorem get?_collected (h : (members.map Prod.fst).Nodup) (k : String) :
    get? k (collected members) = get? k members := by
  rw [collected, get?_foldl h]
  exact Option.or_none

end GameTips.Json
