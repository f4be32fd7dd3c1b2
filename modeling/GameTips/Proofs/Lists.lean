/-!
# Lists without repetition, and results

`List.eraseDups` keeps the first of equal items. What it keeps is without repetition, and a list
without repetition is kept whole. The items that are kept stand in the same order, and one more item at the
end is kept if it is new.

`List.throughFirst` keeps the items up to the first that has a property, with it: those that a search
looks at. A filter whose test has effects asks about each item in turn (`List.filterM_cons`).

A result is a value or an error, and as an option it is the value (`Except.toOption_eq_some_iff`) or,
the other way round, the error (`Except.error?`).
-/

theorem Except.toOption_eq_some_iff {ε α : Type} {r : Except ε α} {a : α} :
    r.toOption = some a ↔ r = .ok a := by
  cases r <;> simp [Except.toOption]

namespace Except

universe u v

variable {ε : Type u} {α β : Type v}

/-- The error that a result is, if it is one. -/
def error? : Except ε α → Option ε
  | .error e => some e
  | .ok _ => none

theorem error?_eq_some_iff {r : Except ε α} {e : ε} : r.error? = some e ↔ r = .error e := by
  cases r <;> simp [error?]

theorem error?_eq_none_iff {r : Except ε α} : r.error? = none ↔ ∃ a, r = .ok a := by
  cases r <;> simp [error?]

/-- Where the errors of what follows do not depend on the value, they count if there is no earlier. -/
theorem error?_bind {x : Except ε α} {f : α → Except ε β} {later : Option ε}
    (h : ∀ a, (f a).error? = later) : (x >>= f).error? = x.error?.or later := by
  cases x with
  | error e => rfl
  | ok a => exact h a

theorem error?_mapError {ε' : Type u} (f : ε → ε') (r : Except ε α) :
    (r.mapError f).error? = r.error?.map f := by
  cases r <;> rfl

/-- Results agree after maps if they have the same error, and the values are mapped to the same. -/
theorem map_eq_map {γ : Type v} {r : Except ε α} {r' : Except ε β} {f : α → γ} {g : β → γ}
    (herror : r.error? = r'.error?) (hvalue : ∀ a b, r = .ok a → r' = .ok b → f a = g b) :
    r.map f = r'.map g := by
  cases r with
  | error e =>
    rw [error?_eq_some_iff.1 herror.symm]
    rfl
  | ok a =>
    obtain ⟨b, rfl⟩ := error?_eq_none_iff.1 herror.symm
    exact congrArg Except.ok (hvalue a b rfl rfl)

theorem map_unit_eq_iff {r : Except ε α} {r' : Except ε β} :
    (r.map fun _ => ()) = (r'.map fun _ => ()) ↔ r.error? = r'.error? := by
  cases r <;> cases r' <;> simp [error?, Except.map]

end Except

namespace List

universe u v

variable {α : Type} [BEq α] [LawfulBEq α]

theorem nodup_eraseDups (xs : List α) : xs.eraseDups.Nodup := by
  match xs with
  | [] => simp
  | x :: xs =>
    rw [eraseDups_cons, nodup_cons]
    refine ⟨?_, nodup_eraseDups (xs.filter fun y => !y == x)⟩
    intro hx
    simpa using (mem_filter.1 (mem_eraseDups.1 hx)).2
termination_by xs.length
decreasing_by exact Nat.lt_succ_of_le (length_filter_le _ _)

omit [LawfulBEq α] in
theorem eraseDups_sublist (xs : List α) : xs.eraseDups.Sublist xs := by
  match xs with
  | [] => exact .slnil
  | x :: xs =>
    rw [eraseDups_cons]
    exact ((eraseDups_sublist _).trans filter_sublist).cons_cons x
termination_by xs.length
decreasing_by exact Nat.lt_succ_of_le (length_filter_le _ _)

theorem eraseDups_of_nodup {xs : List α} (h : xs.Nodup) : xs.eraseDups = xs := by
  induction xs with
  | nil => rfl
  | cons x xs ih =>
    obtain ⟨hx, hxs⟩ := nodup_cons.1 h
    have hkept : (xs.filter fun y => !y == x) = xs := by
      rw [filter_eq_self]
      intro y hy
      have hne : y ≠ x := fun he => hx (he ▸ hy)
      simpa using hne
    rw [eraseDups_cons, hkept, ih hxs]

theorem eraseDups_concat (xs : List α) (x : α) [Decidable (x ∈ xs)] :
    (xs ++ [x]).eraseDups = if x ∈ xs then xs.eraseDups else xs.eraseDups ++ [x] := by
  rw [eraseDups_append, removeAll]
  by_cases hx : x ∈ xs <;> simp [hx, eraseDups_cons]

section Search

variable {α : Type u} {p : α → Bool}

theorem findIdx?_eq_some_iff_append {xs : List α} {i : Nat} :
    xs.findIdx? p = some i ↔
      ∃ before x after, xs = before ++ x :: after ∧ i = before.length ∧ p x = true ∧
        ∀ y ∈ before, p y = false := by
  constructor
  · intro h
    obtain ⟨hi, hx, hbefore⟩ := findIdx?_eq_some_iff_getElem.1 h
    refine ⟨xs.take i, xs[i], xs.drop (i + 1), ?_, ?_, hx, ?_⟩
    · rw [← drop_eq_getElem_cons hi, take_append_drop]
    · rw [length_take]
      omega
    · intro y hy
      obtain ⟨j, hj, rfl⟩ := mem_take_iff_getElem.1 hy
      simpa using hbefore j (by omega)
  · rintro ⟨before, x, after, rfl, rfl, hx, hbefore⟩
    have hnone : before.findIdx? p = none := findIdx?_eq_none_iff.2 hbefore
    rw [findIdx?_append, findIdx?_cons, hnone, hx]
    simp

/-- The items up to the first that has a property, with it; all items if none has it. -/
def throughFirst (p : α → Bool) (xs : List α) : List α :=
  xs.takeWhile (fun x => !p x) ++ (xs.find? p).toList

theorem throughFirst_cons (x : α) (xs : List α) :
    throughFirst p (x :: xs) = x :: if p x then [] else throughFirst p xs := by
  unfold throughFirst
  cases h : p x <;> simp [h]

theorem throughFirst_map {β : Type v} (f : β → α) (xs : List β) :
    throughFirst p (xs.map f) = (throughFirst (fun x => p (f x)) xs).map f := by
  induction xs with
  | nil => rfl
  | cons x xs ih =>
    rw [map_cons, throughFirst_cons, throughFirst_cons, map_cons, ih]
    split <;> rfl

theorem throughFirst_sublist (xs : List α) : (throughFirst p xs).Sublist xs := by
  induction xs with
  | nil => exact Sublist.slnil
  | cons x xs ih =>
    rw [throughFirst_cons]
    apply Sublist.cons_cons
    split
    · exact nil_sublist xs
    · exact ih

theorem throughFirst_congr {q : α → Bool} {xs : List α} (h : ∀ x ∈ xs, p x = q x) :
    throughFirst p xs = throughFirst q xs := by
  induction xs with
  | nil => rfl
  | cons x xs ih =>
    have hx : p x = q x := h x mem_cons_self
    have hxs : ∀ y ∈ xs, p y = q y := fun y hy => h y (mem_cons_of_mem x hy)
    rw [throughFirst_cons, throughFirst_cons, hx, ih hxs]

end Search

section Filter

variable {m : Type → Type v} [Monad m] [LawfulMonad m] {α : Type}

theorem filterAuxM_eq_filterM (p : α → m Bool) (xs acc : List α) :
    xs.filterAuxM p acc = (fun kept => kept.reverse ++ acc) <$> xs.filterM p := by
  -- the filter starts with nothing kept, so the list that is there already is moved out first
  have hacc : ∀ acc, xs.filterAuxM p acc = (· ++ acc) <$> xs.filterAuxM p [] := by
    induction xs with
    | nil => simp [filterAuxM]
    | cons x xs ih =>
      intro acc
      simp only [filterAuxM, map_bind]
      congr 1
      funext keep
      rw [ih, ih (cond keep [x] []), Functor.map_map]
      cases keep <;> simp
  rw [hacc, filterM]
  simp

theorem filterM_cons (p : α → m Bool) (x : α) (xs : List α) :
    (x :: xs).filterM p = (do
      let keep ← p x
      let kept ← xs.filterM p
      pure (if keep then x :: kept else kept)) := by
  rw [filterM, filterAuxM, bind_assoc]
  congr 1
  funext keep
  rw [filterAuxM_eq_filterM]
  cases keep <;> simp

end Filter

end List
