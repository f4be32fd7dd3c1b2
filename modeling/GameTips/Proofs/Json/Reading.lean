import GameTips.Proofs.Json.Members
import GameTips.Proofs.Json.Tokens
import Mathlib.Data.List.Induction

/-!
# What is read from a text

Whatever the text, a value that is read from it has the members of every object in the order of their
keys, each key once (`Json.sorted_of_read?`), its integers have 64 bits, and it takes no more levels
than are allowed (`Json.isKept_fits`). A reader of entries gives entries of a kind if each of them is
read as one (`Reader.Gives`), so a property that is kept where a value is put together holds of
everything that is read (`IsKept.readValue_gives`).
-/

namespace GameTips.Json

/-! ## Sorted values -/

theorem sortedItems_iff {xs : List Json} : SortedItems xs ↔ ∀ x ∈ xs, x.Sorted := by
  induction xs with
  | nil => simp [SortedItems]
  | cons x xs ih => rw [SortedItems, ih, List.forall_mem_cons]

theorem sortedMembers_iff {members : List (String × Json)} :
    SortedMembers members ↔ ∀ m ∈ members, m.2.Sorted := by
  induction members with
  | nil => simp [SortedMembers]
  | cons m rest ih => rw [SortedMembers, ih, List.forall_mem_cons]

theorem eq_or_mem_of_mem_insert {key : String} {value : Json} {members : List (String × Json)}
    {m : String × Json} (h : m ∈ insert key value members) : m = (key, value) ∨ m ∈ members := by
  induction members with
  | nil => exact .inl (List.mem_singleton.1 h)
  | cons n rest ih =>
    obtain ⟨l, v⟩ := n
    unfold insert at h
    split at h
    · exact List.mem_cons.1 h
    · split at h
      · rcases List.mem_cons.1 h with rfl | h
        · exact .inl rfl
        · exact .inr (List.mem_cons_of_mem _ h)
      · rcases List.mem_cons.1 h with rfl | h
        · exact .inr List.mem_cons_self
        · exact (ih h).imp_right (List.mem_cons_of_mem _)

theorem mem_of_mem_collected {members : List (String × Json)} {m : String × Json}
    (h : m ∈ collected members) : m ∈ members := by
  induction members using List.reverseRecOn with
  | nil => cases h
  | append_singleton members n ih =>
    rw [collected, List.foldl_append] at h
    rcases eq_or_mem_of_mem_insert h with rfl | h
    · simp
    · exact List.mem_append_left _ (ih h)

theorem sorted_ofMembers {members : List (String × Json)} (h : ∀ m ∈ members, m.2.Sorted) :
    (ofMembers members).Sorted :=
  ⟨pairwise_keys_collected members, sortedMembers_iff.2 fun m hm => h m (mem_of_mem_collected hm)⟩

/-! ## Readers -/

/-- Whatever is read is of a kind. -/
def Reader.Gives {α : Type} (r : Reader α) (P : α → Prop) : Prop :=
  ∀ ⦃cs x rest⦄, r cs = .ok (x, rest) → P x

section Gives

variable {α β : Type} {r : Reader α} {P : α → Prop}

theorem exists_of_bind_eq_ok {x : Except ReadError α} {f : α → Except ReadError β} {y : β}
    (h : x >>= f = .ok y) : ∃ a, x = .ok a ∧ f a = .ok y := by
  cases x with
  | error e => cases h
  | ok a => exact ⟨a, rfl, h⟩

theorem readEntries_gives (hr : r.Gives P) (closing : Char) (fuel : Nat) :
    (readEntries r closing fuel).Gives fun xs => ∀ x ∈ xs, P x := by
  induction fuel with
  | zero =>
    intro cs xs rest h
    cases h
  | succ fuel ih =>
    intro cs xs rest h
    obtain ⟨⟨x, mid⟩, hx, h⟩ := exists_of_bind_eq_ok h
    dsimp only at h
    split at h
    · split at h
      · obtain ⟨rfl, -⟩ := Prod.mk.inj (Except.ok.inj h)
        simpa using hr hx
      · split at h
        · obtain ⟨⟨more, after⟩, hmore, h⟩ := exists_of_bind_eq_ok h
          obtain ⟨rfl, -⟩ := Prod.mk.inj (Except.ok.inj h)
          exact List.forall_mem_cons.2 ⟨hr hx, ih hmore⟩
        · cases h
    · cases h

theorem readBlock_gives (hr : r.Gives P) (closing : Char) :
    (readBlock r closing).Gives fun xs => ∀ x ∈ xs, P x := by
  intro cs xs rest h
  unfold readBlock at h
  split at h
  · split at h
    · obtain ⟨rfl, -⟩ := Prod.mk.inj (Except.ok.inj h)
      simp
    · exact readEntries_gives hr closing _ h
  · cases h

end Gives

theorem readMember_gives {lenient : Bool} {value : Reader Json} {P : Json → Prop}
    (hv : value.Gives P) : (readMember lenient value).Gives fun m => P m.2 := by
  intro cs m rest h
  obtain ⟨⟨key, mid⟩, -, h⟩ := exists_of_bind_eq_ok h
  obtain ⟨⟨v, after⟩, hvalue, h⟩ := exists_of_bind_eq_ok h
  obtain ⟨rfl, -⟩ := Prod.mk.inj (Except.ok.inj h)
  exact hv hvalue

/-- A property of values with a number of levels that every way of putting a value together keeps. -/
structure IsKept (P : Nat → Json → Prop) : Prop where
  null : ∀ d, P d .null
  bool : ∀ d b, P d (.bool b)
  str : ∀ d s, P d (.str s)
  number : ∀ d {t v}, NumberText.value? t = some v → P d v
  arr : ∀ d {items}, (∀ x ∈ items, P d x) → P (d + 1) (.arr items)
  obj : ∀ d {members : List (String × Json)}, (∀ m ∈ members, P d m.2) → P (d + 1) (ofMembers members)

namespace IsKept

variable {P : Nat → Json → Prop} (hP : IsKept P) (lenient : Bool)

include hP

theorem readNumber_gives (d : Nat) : (readNumber lenient).Gives (P d) := by
  intro cs v rest h
  unfold readNumber Reader.ofOption at h
  dsimp only at h
  cases hnumber : numberText cs with
  | none =>
    rw [hnumber] at h
    cases h
  | some r =>
    obtain ⟨t, after⟩ := r
    rw [hnumber] at h
    dsimp only at h
    cases hvalue : t.value? with
    | some w =>
      rw [hvalue] at h
      obtain ⟨rfl, -⟩ := Prod.mk.inj (Except.ok.inj h)
      exact hP.number d hvalue
    | none =>
      rw [hvalue] at h
      cases lenient with
      | true =>
        obtain ⟨rfl, -⟩ := Prod.mk.inj (Except.ok.inj h)
        exact hP.null d
      | false => cases h

/-- An array or an object has the property if the values that are nested less deep have it. -/
theorem readValue_gives_of_nested {depth : Nat}
    (hnested : ∀ d, depth = d + 1 → (readValue lenient d).Gives (P d)) :
    (readValue lenient depth).Gives (P depth) := by
  intro cs v rest h
  unfold readValue at h
  split at h
  · obtain ⟨rfl, -⟩ := Prod.mk.inj (Except.ok.inj h)
    exact hP.null depth
  · obtain ⟨rfl, -⟩ := Prod.mk.inj (Except.ok.inj h)
    exact hP.bool depth true
  · obtain ⟨rfl, -⟩ := Prod.mk.inj (Except.ok.inj h)
    exact hP.bool depth false
  · split at h
    · obtain ⟨rfl, -⟩ := Prod.mk.inj (Except.ok.inj h)
      exact hP.str depth _
    · cases h
  · cases depth with
    | zero => cases h
    | succ d =>
      obtain ⟨⟨items, after⟩, hitems, h⟩ := exists_of_bind_eq_ok h
      obtain ⟨rfl, -⟩ := Prod.mk.inj (Except.ok.inj h)
      exact hP.arr d (readBlock_gives (hnested d rfl) _ hitems)
  · cases depth with
    | zero => cases h
    | succ d =>
      obtain ⟨⟨members, after⟩, hmembers, h⟩ := exists_of_bind_eq_ok h
      obtain ⟨rfl, -⟩ := Prod.mk.inj (Except.ok.inj h)
      exact hP.obj d (readBlock_gives (readMember_gives (hnested d rfl)) _ hmembers)
  · exact hP.readNumber_gives lenient depth h

theorem readValue_gives (depth : Nat) : (readValue lenient depth).Gives (P depth) := by
  induction depth with
  | zero => exact hP.readValue_gives_of_nested lenient fun d hd => by cases hd
  | succ depth ih =>
    refine hP.readValue_gives_of_nested lenient fun d hd => ?_
    obtain rfl := Nat.succ.inj hd
    exact ih

end IsKept

/-! ## Sorted values are read -/

theorem sorted_of_value? {t : NumberText} {v : Json} (h : t.value? = some v) : v.Sorted := by
  unfold NumberText.value? at h
  dsimp only at h
  split at h
  · obtain rfl := Option.some.inj h
    trivial
  · obtain ⟨x, -, rfl⟩ := Option.map_eq_some_iff.1 h
    trivial

theorem isKept_sorted : IsKept fun _ => Sorted where
  null _ := trivial
  bool _ _ := trivial
  str _ _ := trivial
  number _ _ _ h := sorted_of_value? h
  arr _ _ h := sortedItems_iff.2 h
  obj _ _ h := sorted_ofMembers h

/-- **Every value that is read from a text is sorted.** -/
theorem sorted_of_read? {s : String} {v : Json} (h : read? s = some v) : v.Sorted := by
  unfold read? readAll at h
  cases hv : readValue false maxDepth s.toList with
  | error e =>
    rw [hv] at h
    cases h
  | ok r =>
    obtain ⟨w, rest⟩ := r
    rw [hv] at h
    change (if (skipBlanks rest).isEmpty then Except.ok w else Except.error ReadError.malformed).toOption
      = some v at h
    split at h
    · obtain rfl := Option.some.inj h
      exact isKept_sorted.readValue_gives false maxDepth hv
    · cases h

/-! ## Values that are read fit their text -/

mutual

/-- Whether integers have 64 bits, and arrays and objects take no more than some levels. -/
def Fits (levels : Nat) : Json → Prop
  | .int n => IsWord64 n
  | .arr items => 0 < levels ∧ FitsItems (levels - 1) items
  | .obj members => 0 < levels ∧ FitsMembers (levels - 1) members
  | _ => True

def FitsItems (levels : Nat) : List Json → Prop
  | [] => True
  | x :: xs => x.Fits levels ∧ FitsItems levels xs

/-- Whether the value of every member fits. -/
def FitsMembers (levels : Nat) : List (String × Json) → Prop
  | [] => True
  | (_, x) :: xs => x.Fits levels ∧ FitsMembers levels xs

end

theorem fitsItems_iff {levels : Nat} {xs : List Json} :
    FitsItems levels xs ↔ ∀ x ∈ xs, x.Fits levels := by
  induction xs with
  | nil => simp [FitsItems]
  | cons x xs ih => rw [FitsItems, ih, List.forall_mem_cons]

theorem fitsMembers_iff {levels : Nat} {members : List (String × Json)} :
    FitsMembers levels members ↔ ∀ m ∈ members, m.2.Fits levels := by
  induction members with
  | nil => simp [FitsMembers]
  | cons m rest ih => rw [FitsMembers, ih, List.forall_mem_cons]

theorem extendSignificand_lt {significand : Nat} (h : significand < significandLimit)
    (ds : List Char) : (extendSignificand significand ds).1 < significandLimit := by
  induction ds generalizing significand with
  | nil => exact h
  | cons d ds ih =>
    rw [extendSignificand]
    split
    · next hnext => exact ih hnext
    · exact h

theorem fits_of_value? {t : NumberText} {v : Json} (h : t.value? = some v) (levels : Nat) :
    v.Fits levels := by
  have hlimit := extendSignificand_lt (show 0 < significandLimit by decide) t.whole
  unfold NumberText.value? at h
  dsimp only at h
  split at h
  · next hplain =>
    obtain ⟨-, -, hsign⟩ := hplain
    obtain rfl := Option.some.inj h
    show IsWord64 _
    unfold IsWord64
    cases hnegative : t.negative with
    | false =>
      rw [if_neg Bool.false_ne_true]
      omega
    | true =>
      simp only [hnegative, Bool.not_true, Bool.false_or, Bool.and_eq_true, decide_eq_true_eq] at hsign
      rw [if_pos rfl]
      omega
  · obtain ⟨x, -, rfl⟩ := Option.map_eq_some_iff.1 h
    trivial

theorem isKept_fits : IsKept Fits where
  null _ := trivial
  bool _ _ := trivial
  str _ _ := trivial
  number d _ _ h := fits_of_value? h d
  arr d _ h := ⟨Nat.succ_pos d, fitsItems_iff.2 h⟩
  obj d _ h := ⟨Nat.succ_pos d, fitsMembers_iff.2 fun m hm => h m (mem_of_mem_collected hm)⟩

end GameTips.Json
