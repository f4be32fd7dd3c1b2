import GameTips.Random
import Mathlib.Algebra.BigOperators.Fin
import Mathlib.Data.List.Induction
import Mathlib.Data.Nat.Factorial.BigOperators
import Mathlib.SetTheory.Cardinal.Finite

/-!
# The choice in one walk is uniform

What the walk through a list keeps depends on the source only through the numbers it draws, one for
each item, each up to the place of the item (`Draws.drawn`, `fst_choose_congr`): the last item for
which 0 was drawn (`fst_choose_concat`). All that a source may draw for `n` items are the
`DrawSequence n`, of which there are `n!` (`card_drawSequence`).

`card_choose` says that of these each item of a list is chosen by `(n - 1)!`. One more item at the end
is chosen by those with 0 at the end, and any other by those that choose it without the end and do not
have 0 there.
-/

namespace GameTips

open scoped Nat

namespace Draws

variable {ρ ρ' α : Type} {draws : Draws ρ} {draws' : Draws ρ'} {s : ρ} {s' : ρ'}

/-- The state of a source after it has drawn for a number of items. -/
def stateAfter (draws : Draws ρ) (s : ρ) : Nat → ρ
  | 0 => s
  | k + 1 => (draws.below k (draws.stateAfter s k)).2

/-- The number that a source draws for the item at a place. -/
def drawn (draws : Draws ρ) (s : ρ) (k : Nat) : Fin (k + 1) :=
  (draws.below k (draws.stateAfter s k)).1

theorem chooseFrom_append (draws : Draws ρ) (xs ys : List α) (k : Nat) (kept : Option α) (s : ρ) :
    draws.chooseFrom k kept (xs ++ ys) s =
      draws.chooseFrom (k + xs.length) (draws.chooseFrom k kept xs s).1 ys
        (draws.chooseFrom k kept xs s).2 := by
  induction xs generalizing k kept s with
  | nil => rfl
  | cons x rest ih =>
    have hcons : ∀ ys, draws.chooseFrom k kept (x :: ys) s =
        draws.chooseFrom (k + 1) (if (draws.below k s).1.val = 0 then some x else kept) ys
          (draws.below k s).2 := fun _ => rfl
    rw [List.cons_append, hcons, hcons, ih, List.length_cons, Nat.add_right_comm, Nat.add_assoc]

theorem choose_concat (draws : Draws ρ) (xs : List α) (x : α) (s : ρ) :
    draws.choose (xs ++ [x]) s =
      ((if (draws.below xs.length (draws.choose xs s).2).1.val = 0 then some x
        else (draws.choose xs s).1), (draws.below xs.length (draws.choose xs s).2).2) := by
  unfold choose
  rw [chooseFrom_append, Nat.zero_add]
  rfl

/-- A number is drawn for each item, and none beside these. -/
theorem snd_choose (draws : Draws ρ) (xs : List α) (s : ρ) :
    (draws.choose xs s).2 = draws.stateAfter s xs.length := by
  induction xs using List.reverseRecOn with
  | nil => rfl
  | append_singleton xs x ih =>
    rw [choose_concat, ih, List.length_append]
    rfl

/-- One more item is chosen if the number drawn for it is 0. -/
theorem fst_choose_concat (draws : Draws ρ) (xs : List α) (x : α) (s : ρ) :
    (draws.choose (xs ++ [x]) s).1 =
      if (draws.drawn s xs.length).val = 0 then some x else (draws.choose xs s).1 := by
  rw [choose_concat, snd_choose]
  rfl

/-- Sources that draw the same numbers choose the same item. -/
theorem fst_choose_congr {xs : List α}
    (h : ∀ k < xs.length, draws.drawn s k = draws'.drawn s' k) :
    (draws.choose xs s).1 = (draws'.choose xs s').1 := by
  induction xs using List.reverseRecOn with
  | nil => rfl
  | append_singleton xs x ih =>
    rw [List.length_append] at h
    rw [fst_choose_concat, fst_choose_concat, h xs.length (Nat.lt_succ_self _),
      ih fun k hk => h k (Nat.lt_succ_of_lt hk)]

end Draws

/-- What may be drawn for a number of items: for each a number up to its place. -/
abbrev DrawSequence (n : Nat) := (k : Fin n) → Fin (k.val + 1)

namespace DrawSequence

variable {α : Type} {n : Nat}

/-- The source that draws the numbers of a sequence. -/
def source (d : DrawSequence n) : Draws Unit where
  below k s := (if h : k < n then d ⟨k, h⟩ else ⟨0, k.succ_pos⟩, s)

theorem drawn_source (d : DrawSequence n) {k : Nat} (h : k < n) : d.source.drawn () k = d ⟨k, h⟩ :=
  dif_pos h

theorem card_drawSequence (n : Nat) : Nat.card (DrawSequence n) = n ! := by
  rw [Nat.card_pi]
  simp only [Nat.card_eq_fintype_card, Fintype.card_fin]
  rw [Fin.prod_univ_eq_prod_range (fun k => k + 1) n, Finset.prod_range_add_one_eq_factorial]

/-- The sequence without its last number. -/
def init (d : DrawSequence (n + 1)) : DrawSequence n := fun k => d k.castSucc

/-- What is chosen from a list depends on its last item and on the last number only. -/
theorem fst_choose_concat_source {xs : List α} (hxs : xs.length = n) (x : α)
    (d : DrawSequence (n + 1)) :
    (d.source.choose (xs ++ [x]) ()).1 =
      if (d (Fin.last n)).val = 0 then some x else (d.init.source.choose xs ()).1 := by
  subst hxs
  rw [Draws.fst_choose_concat, drawn_source d (Nat.lt_succ_self _)]
  congr 1
  refine Draws.fst_choose_congr fun k hk => ?_
  rw [drawn_source d (Nat.lt_succ_of_lt hk), drawn_source d.init hk]
  rfl

/-- The last number is drawn independently of those before. -/
theorem card_last_and_init (p : Fin (n + 1) → Prop) (q : DrawSequence n → Prop) :
    Nat.card {d : DrawSequence (n + 1) // p (d (Fin.last n)) ∧ q d.init} =
      Nat.card {i // p i} * Nat.card {d // q d} := by
  let last_init : DrawSequence (n + 1) ≃ Fin (n + 1) × DrawSequence n :=
    (Fin.snocEquiv fun k : Fin (n + 1) => Fin (k.val + 1)).symm
  rw [← Nat.card_prod, ← Nat.card_congr Equiv.subtypeProdEquivProd]
  exact Nat.card_congr (last_init.subtypeEquiv fun _ => Iff.rfl)

theorem card_zero (n : Nat) : Nat.card {i : Fin (n + 1) // i.val = 0} = 1 := by
  simp

theorem card_ne_zero (n : Nat) : Nat.card {i : Fin (n + 1) // ¬ i.val = 0} = n := by
  simp

section Concat

variable {xs : List α} {x y : α} {d : DrawSequence (xs.length + 1)}

/-- The last item is chosen by the sequences that end in 0. -/
theorem choose_concat_eq_last_iff (hx : x ∉ xs) :
    (d.source.choose (xs ++ [x]) ()).1 = some x ↔ (d (Fin.last xs.length)).val = 0 := by
  rw [fst_choose_concat_source rfl]
  split
  · next hzero => exact iff_of_true rfl hzero
  · next hzero => exact iff_of_false (fun h => hx (d.init.source.chooser.mem_of_choose h)) hzero

/-- Any other item is chosen by the sequences that do not, and choose it among the others. -/
theorem choose_concat_eq_some_iff (hxy : x ≠ y) :
    (d.source.choose (xs ++ [y]) ()).1 = some x ↔
      ¬ (d (Fin.last xs.length)).val = 0 ∧ (d.init.source.choose xs ()).1 = some x := by
  rw [fst_choose_concat_source rfl]
  split
  · next hzero =>
    exact iff_of_false (fun h => hxy (Option.some.inj h).symm) fun h => h.1 hzero
  · next hzero => exact (and_iff_right hzero).symm

end Concat

/-- **The choice is uniform**: of all that may be drawn for the items of a list without repetition,
each item is chosen by as many sequences. -/
theorem card_choose {xs : List α} (hnodup : xs.Nodup) (hxs : xs.length = n) {x : α} (hx : x ∈ xs) :
    Nat.card {d : DrawSequence n // (d.source.choose xs ()).1 = some x} = (n - 1)! := by
  induction xs using List.reverseRecOn generalizing n with
  | nil => cases hx
  | append_singleton xs y ih =>
    obtain rfl : xs.length + 1 = n := by simpa using hxs
    rw [Nat.add_sub_cancel]
    obtain ⟨hxs, -, hdisjoint⟩ := List.nodup_append.1 hnodup
    obtain rfl | hxy := eq_or_ne x y
    · -- the last item: the numbers before do not count
      have hlast : x ∉ xs := fun hmem => hdisjoint x hmem x List.mem_cons_self rfl
      have hcard := card_last_and_init (n := xs.length) (fun i => i.val = 0) fun _ => True
      rw [card_zero, Nat.card_congr (Equiv.subtypeUnivEquiv fun _ => trivial), card_drawSequence,
        Nat.one_mul] at hcard
      simpa only [choose_concat_eq_last_iff hlast, and_true] using hcard
    · -- an item before it: `n - 1` last numbers, and `(n - 2)!` ways to choose it until then
      have hmem : x ∈ xs := by simpa [hxy] using hx
      have hcard := card_last_and_init (fun i => ¬ i.val = 0)
        fun d : DrawSequence xs.length => (d.source.choose xs ()).1 = some x
      rw [card_ne_zero, ih hxs rfl hmem,
        Nat.mul_factorial_pred (List.length_pos_of_mem hmem).ne'] at hcard
      simpa only [choose_concat_eq_some_iff hxy] using hcard

end DrawSequence

/-- The numbers that a source draws for so many items. -/
def Draws.sequence {ρ : Type} (draws : Draws ρ) (s : ρ) (n : Nat) : DrawSequence n :=
  fun k => draws.drawn s k

/-- What a source chooses, the sequence of the numbers that it draws chooses as well. -/
theorem Draws.fst_choose_sequence {ρ α : Type} (draws : Draws ρ) (s : ρ) (xs : List α) :
    ((draws.sequence s xs.length).source.choose xs ()).1 = (draws.choose xs s).1 :=
  fst_choose_congr fun _ hk => DrawSequence.drawn_source _ hk

end GameTips
