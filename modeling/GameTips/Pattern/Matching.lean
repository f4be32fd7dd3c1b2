import GameTips.Pattern.Basic

/-!
# Matching is exact

The search for matches finds what the relation `Pattern.Matches` says, for every pattern and text:

* `Pattern.mem_advance`: the places found are those where matches end;
* `Pattern.occursIn_iff` and `Pattern.matchesAll_iff` say so of the two questions asked.

A repetition is a number of matches in a row (`Pattern.matches_rep_iff`). No more of them are needed
than there are characters between its ends, because a match goes forward and those that take nothing
can be left out (`Pattern.Repeats.shorten`).
-/

namespace GameTips.Pattern

open GameTips.Text (CharSet)

variable {t : List Char} {p : Pattern} {s : Places} {i j k : Nat}

theorem Matches.start_le (hfound : Matches t p i j) : i ≤ t.length := by
  induction hfound with
  | empty hbound | check hbound | repDone hbound => exact hbound
  | chars hat => exact Nat.le_of_lt (List.getElem?_eq_some_iff.1 hat).1
  | seq _ _ hfirst | repMore _ _ _ hfirst => exact hfirst
  | altLeft _ hbound | altRight _ hbound | group _ hbound => exact hbound

theorem Matches.end_le (hfound : Matches t p i j) : j ≤ t.length := by
  induction hfound with
  | empty hbound | check hbound | repDone hbound => exact hbound
  | chars hat => exact (List.getElem?_eq_some_iff.1 hat).1
  | seq _ _ _ hlast | repMore _ _ _ _ hlast => exact hlast
  | altLeft _ hbound | altRight _ hbound | group _ hbound => exact hbound

/-- A match goes forward. -/
theorem Matches.le (hfound : Matches t p i j) : i ≤ j := by
  induction hfound with
  | empty | check | repDone => exact Nat.le_refl _
  | chars => exact Nat.le_succ _
  | seq _ _ hfirst hlast | repMore _ _ _ hfirst hlast => exact Nat.le_trans hfirst hlast
  | altLeft _ hforward | altRight _ hforward | group _ hforward => exact hforward

/-! ## Steps in a row -/

/-- A number of steps of a relation in a row. -/
inductive Repeats (R : Nat → Nat → Prop) : Nat → Nat → Nat → Prop where
  | none {a : Nat} : Repeats R 0 a a
  | more {n a b c : Nat} : R a b → Repeats R n b c → Repeats R (n + 1) a c

theorem repeats_add {R : Nat → Nat → Prop} (m n : Nat) :
    Repeats R (m + n) i k ↔ ∃ j, Repeats R m i j ∧ Repeats R n j k := by
  constructor
  · intro hsteps
    induction m generalizing i with
    | zero => exact ⟨i, .none, by simpa using hsteps⟩
    | succ m ih =>
      rw [Nat.add_right_comm] at hsteps
      cases hsteps with
      | more hfirst hrest =>
        obtain ⟨j, hbefore, hafter⟩ := ih hrest
        exact ⟨j, .more hfirst hbefore, hafter⟩
  · rintro ⟨j, hbefore, hafter⟩
    induction hbefore with
    | none => simpa using hafter
    | more hfirst _ ih =>
      rw [Nat.add_right_comm]
      exact .more hfirst (ih hafter)

theorem Repeats.end_le {R : Nat → Nat → Prop} {bound n : Nat}
    (hbounded : ∀ {i j}, R i j → j ≤ bound) (hsteps : Repeats R n i j) (hstart : i ≤ bound) : j ≤ bound := by
  induction hsteps with
  | none => exact hstart
  | more hfirst _ ih => exact ih (hbounded hfirst)

/-- Steps forward that do not move can be left out of a row. -/
theorem Repeats.shorten {R : Nat → Nat → Prop} (hforward : ∀ i j, R i j → i ≤ j) {n : Nat}
    (hsteps : Repeats R n i j) : i ≤ j ∧ ∃ m ≤ j - i, Repeats R m i j := by
  induction hsteps with
  | none => exact ⟨Nat.le_refl _, 0, Nat.zero_le _, .none⟩
  | @more n a b c hfirst _ ih =>
    obtain ⟨hle, m, hfew, hrest⟩ := ih
    have hstep := hforward _ _ hfirst
    refine ⟨Nat.le_trans hstep hle, ?_⟩
    by_cases hstill : a = b
    · subst hstill
      exact ⟨m, hfew, hrest⟩
    · exact ⟨m + 1, by omega, .more hfirst hrest⟩

theorem matches_rep_iff {min : Nat} {max : Option Nat} {l : Bool} :
    Matches t (.rep p min max l) i j ↔
      i ≤ t.length ∧ ∃ n, min ≤ n ∧ (∀ m, max = some m → n ≤ m) ∧ Repeats (Matches t p) n i j := by
  constructor
  · intro hfound
    refine ⟨hfound.start_le, ?_⟩
    generalize hrep : Pattern.rep p min max l = q at hfound
    induction hfound generalizing min max with
    | repDone =>
      obtain ⟨rfl, rfl, rfl, rfl⟩ := by simpa using hrep
      exact ⟨0, Nat.le_refl _, fun _ _ => Nat.zero_le _, .none⟩
    | repMore hopen hfirst _ _ ih =>
      obtain ⟨rfl, rfl, rfl, rfl⟩ := by simpa using hrep
      obtain ⟨n, hlow, hhigh, hsteps⟩ := ih rfl
      refine ⟨n + 1, by omega, ?_, .more hfirst hsteps⟩
      rintro m rfl
      have := hhigh (m - 1) rfl
      have : m ≠ 0 := fun hzero => hopen (by rw [hzero])
      omega
    | _ => contradiction
  · rintro ⟨hbound, n, hlow, hhigh, hsteps⟩
    induction hsteps generalizing min max with
    | none =>
      obtain rfl : min = 0 := by omega
      exact .repDone hbound
    | more hfirst _ ih =>
      refine .repMore ?_ hfirst (ih hfirst.end_le (by omega) ?_)
      · rintro rfl
        exact absurd (hhigh 0 rfl) (by omega)
      · intro m hless
        obtain ⟨l, rfl, rfl⟩ := Option.map_eq_some_iff.1 hless
        have := hhigh l rfl
        omega

/-! ## Iteration -/

variable {step : Places → Places} {R : Nat → Nat → Prop} {bound : Nat}

theorem iterate_of_fixed (hfixed : step s = s) (n : Nat) : iterate step n s = s := by
  cases n with
  | zero => rfl
  | succ n => simp [iterate, hfixed]

theorem iterate_succ (n : Nat) : iterate step (n + 1) s = iterate step n (step s) := by
  by_cases hfixed : step s = s
  · rw [hfixed, iterate_of_fixed hfixed, iterate_of_fixed hfixed]
  · simp [iterate, hfixed]

/-- A step follows a relation, from places that a text has to places that it has. -/
structure Follows (bound : Nat) (R : Nat → Nat → Prop) (step : Places → Places) : Prop where
  mem_step : ∀ {s j}, (∀ i ∈ s, i ≤ bound) → (j ∈ step s ↔ ∃ i ∈ s, R i j)
  end_le : ∀ {i j}, R i j → j ≤ bound

namespace Follows

theorem le_of_mem_step (hfollows : Follows bound R step) (hwithin : ∀ i ∈ s, i ≤ bound) :
    ∀ j ∈ step s, j ≤ bound := by
  intro j hfound
  obtain ⟨i, -, hfirst⟩ := (hfollows.mem_step hwithin).1 hfound
  exact hfollows.end_le hfirst

theorem mem_iterate (hfollows : Follows bound R step) (n : Nat) (hwithin : ∀ i ∈ s, i ≤ bound) :
    j ∈ iterate step n s ↔ ∃ i ∈ s, Repeats R n i j := by
  induction n generalizing s with
  | zero =>
    constructor
    · exact fun hknown => ⟨j, hknown, .none⟩
    · rintro ⟨i, hknown, hsteps⟩
      cases hsteps
      exact hknown
  | succ n ih =>
    rw [iterate_succ, ih (hfollows.le_of_mem_step hwithin)]
    constructor
    · rintro ⟨k, hknown, hsteps⟩
      obtain ⟨i, hknown, hfirst⟩ := (hfollows.mem_step hwithin).1 hknown
      exact ⟨i, hknown, .more hfirst hsteps⟩
    · rintro ⟨i, hknown, hsteps⟩
      cases hsteps with
      | more hfirst hrest => exact ⟨_, (hfollows.mem_step hwithin).2 ⟨i, hknown, hfirst⟩, hrest⟩

theorem mem_iterate_widen (hfollows : Follows bound R step) (n : Nat)
    (hwithin : ∀ i ∈ s, i ≤ bound) :
    j ∈ iterate (widen step) n s ↔ ∃ i ∈ s, ∃ m ≤ n, Repeats R m i j := by
  induction n generalizing s with
  | zero =>
    constructor
    · exact fun hknown => ⟨j, hknown, 0, Nat.le_refl _, .none⟩
    · rintro ⟨i, hknown, m, hzero, hsteps⟩
      obtain rfl := Nat.le_zero.1 hzero
      cases hsteps
      exact hknown
  | succ n ih =>
    have hnext : ∀ i ∈ widen step s, i ≤ bound := fun i hfound =>
      (Places.mem_union.1 hfound).elim (hwithin i) (hfollows.le_of_mem_step hwithin i)
    rw [iterate_succ, ih hnext]
    simp only [widen, Places.mem_union]
    constructor
    · rintro ⟨k, hknown | hknown, m, hfew, hsteps⟩
      · exact ⟨k, hknown, m, by omega, hsteps⟩
      · obtain ⟨i, hknown, hfirst⟩ := (hfollows.mem_step hwithin).1 hknown
        exact ⟨i, hknown, m + 1, by omega, .more hfirst hsteps⟩
    · rintro ⟨i, hknown, m, hfew, hsteps⟩
      cases hsteps with
      | none => exact ⟨_, .inl hknown, 0, Nat.zero_le _, .none⟩
      | more hfirst hrest =>
        exact ⟨_, .inr ((hfollows.mem_step hwithin).2 ⟨i, hknown, hfirst⟩), _, by omega, hrest⟩

/-- Widening a number of times that is the largest place is enough for any number of steps. -/
theorem mem_iterate_widen_bound (hfollows : Follows bound R step) (hforward : ∀ i j, R i j → i ≤ j)
    (hwithin : ∀ i ∈ s, i ≤ bound) :
    j ∈ iterate (widen step) bound s ↔ ∃ i ∈ s, ∃ n, Repeats R n i j := by
  rw [hfollows.mem_iterate_widen _ hwithin]
  constructor
  · rintro ⟨i, hknown, n, _, hsteps⟩
    exact ⟨i, hknown, n, hsteps⟩
  · rintro ⟨i, hknown, n, hsteps⟩
    have hend := hsteps.end_le hfollows.end_le (hwithin i hknown)
    obtain ⟨-, m, hfew, hsteps⟩ := hsteps.shorten hforward
    exact ⟨i, hknown, m, by omega, hsteps⟩

end Follows

/-! ## The search -/

theorem Assertion.getElem?_answers (a : Assertion) (before : Option Char) (u : List Char) :
    (a.answers before u)[i]? = some true ↔
      i ≤ u.length ∧ a.holdsBetween (if i = 0 then before else u[i - 1]?) u[i]? = true := by
  induction u generalizing before i with
  | nil => cases i <;> simp [answers]
  | cons c u ih =>
    cases i with
    | zero => simp [answers]
    | succ i =>
      rw [answers, List.getElem?_cons_succ, ih]
      cases i <;> simp

theorem mem_placesOf {cs : CharSet} {standing : List (Char × Places)} :
    i ∈ placesOf cs standing ↔ ∃ c places, (c, places) ∈ standing ∧ cs.mem c = true ∧ i ∈ places := by
  induction standing with
  | nil => simp [placesOf]
  | cons e rest ih =>
    obtain ⟨c, places⟩ := e
    rw [placesOf, List.foldr_cons, ← placesOf]
    split
    · next htaken =>
      rw [Places.mem_union, ih]
      constructor
      · rintro (hhere | ⟨d, there, hknown, haccepted, hfound⟩)
        · exact ⟨c, places, List.mem_cons_self, htaken, hhere⟩
        · exact ⟨d, there, List.mem_cons_of_mem _ hknown, haccepted, hfound⟩
      · rintro ⟨d, there, hknown, haccepted, hfound⟩
        rcases List.mem_cons.1 hknown with hsame | hknown
        · obtain ⟨rfl, rfl⟩ := Prod.mk.inj hsame
          exact .inl hfound
        · exact .inr ⟨d, there, hknown, haccepted, hfound⟩
    · next hrefused =>
      rw [ih]
      constructor
      · rintro ⟨d, there, hknown, haccepted, hfound⟩
        exact ⟨d, there, List.mem_cons_of_mem _ hknown, haccepted, hfound⟩
      · rintro ⟨d, there, hknown, haccepted, hfound⟩
        rcases List.mem_cons.1 hknown with hsame | hknown
        · obtain ⟨rfl, rfl⟩ := Prod.mk.inj hsame
          exact absurd haccepted hrefused
        · exact ⟨d, there, hknown, haccepted, hfound⟩

/-- Taking a character of a set is possible where the next character is one. -/
theorem mem_placesOf_standing {cs : CharSet} :
    i ∈ placesOf cs (standing t) ↔ ∃ c, t[i]? = some c ∧ cs.mem c = true := by
  simp only [mem_placesOf, standing, List.mem_map, Prod.mk.injEq, List.mem_eraseDups]
  constructor
  · rintro ⟨c, places, ⟨d, -, rfl, rfl⟩, haccepted, hfound⟩
    rw [Places.mem_ofAnswers, List.getElem?_map, Option.map_eq_some_iff] at hfound
    obtain ⟨e, hat, hsame⟩ := hfound
    exact ⟨e, hat, (beq_iff_eq.1 hsame).symm ▸ haccepted⟩
  · rintro ⟨c, hat, haccepted⟩
    refine ⟨c, _, ⟨c, List.mem_of_getElem? hat, rfl, rfl⟩, haccepted, ?_⟩
    rw [Places.mem_ofAnswers, List.getElem?_map, hat]
    simp

/-- The places found are those where matches end. -/
theorem mem_advance (hwithin : ∀ i ∈ s, i ≤ t.length) :
    j ∈ (p.on t).advance s ↔ ∃ i ∈ s, Matches t p i j := by
  rw [on]
  induction p generalizing s j with
  | empty =>
    simp only [plan, Plan.advance, Places.mem_inter, Places.mem_upTo]
    constructor
    · rintro ⟨hknown, hbound⟩
      exact ⟨j, hknown, .empty hbound⟩
    · rintro ⟨i, hknown, hfound⟩
      cases hfound with
      | empty hbound => exact ⟨hknown, hbound⟩
  | chars cs =>
    simp only [plan, Plan.advance, Places.mem_next, Places.mem_inter, mem_placesOf_standing]
    constructor
    · rintro ⟨i, ⟨hknown, c, hat, haccepted⟩, rfl⟩
      exact ⟨i, hknown, .chars hat haccepted⟩
    · rintro ⟨i, hknown, hfound⟩
      cases hfound with
      | chars hat haccepted => exact ⟨i, ⟨hknown, _, hat, haccepted⟩, rfl⟩
  | check a =>
    simp only [plan, Plan.advance, Places.mem_inter, Places.mem_ofAnswers,
      Assertion.getElem?_answers]
    constructor
    · rintro ⟨hknown, hbound, hholds⟩
      exact ⟨j, hknown, .check hbound hholds⟩
    · rintro ⟨i, hknown, hfound⟩
      cases hfound with
      | check hbound hholds => exact ⟨hknown, hbound, hholds⟩
  | seq p q ihp ihq =>
    have hnext : ∀ k ∈ (p.plan t (standing t)).advance s, k ≤ t.length := by
      intro k hknown
      obtain ⟨i, -, hfound⟩ := (ihp hwithin).1 hknown
      exact hfound.end_le
    rw [plan, Plan.advance, ihq hnext]
    constructor
    · rintro ⟨k, hknown, hlast⟩
      obtain ⟨i, hknown, hfirst⟩ := (ihp hwithin).1 hknown
      exact ⟨i, hknown, .seq hfirst hlast⟩
    · rintro ⟨i, hknown, hfound⟩
      cases hfound with
      | seq hfirst hlast => exact ⟨_, (ihp hwithin).2 ⟨i, hknown, hfirst⟩, hlast⟩
  | alt p q ihp ihq =>
    rw [plan, Plan.advance, Places.mem_union, ihp hwithin, ihq hwithin]
    constructor
    · rintro (⟨i, hknown, hfound⟩ | ⟨i, hknown, hfound⟩)
      · exact ⟨i, hknown, .altLeft hfound⟩
      · exact ⟨i, hknown, .altRight hfound⟩
    · rintro ⟨i, hknown, hfound⟩
      cases hfound with
      | altLeft hfound => exact .inl ⟨i, hknown, hfound⟩
      | altRight hfound => exact .inr ⟨i, hknown, hfound⟩
  | rep p min max l ih =>
    have hfollows : Follows t.length (Matches t p) (p.plan t (standing t)).advance :=
      ⟨ih, Matches.end_le⟩
    have hrequired (k : Nat) : k ∈ iterate (p.plan t (standing t)).advance min s ↔
        ∃ i ∈ s, Repeats (Matches t p) min i k := hfollows.mem_iterate min hwithin
    have hinside : ∀ k ∈ iterate (p.plan t (standing t)).advance min s, k ≤ t.length := by
      intro k hknown
      obtain ⟨i, hknown, hsteps⟩ := (hrequired k).1 hknown
      exact hsteps.end_le Matches.end_le (hwithin i hknown)
    simp only [matches_rep_iff]
    cases max with
    | none =>
      simp only [plan, Plan.advance, hfollows.mem_iterate_widen_bound (fun _ _ => Matches.le)
        hinside, hrequired]
      constructor
      · rintro ⟨k, ⟨i, hknown, hbefore⟩, n, hafter⟩
        exact ⟨i, hknown, hwithin i hknown, min + n, by omega, by simp,
          (repeats_add _ _).2 ⟨k, hbefore, hafter⟩⟩
      · rintro ⟨i, hknown, -, n, hlow, -, hsteps⟩
        obtain ⟨n, rfl⟩ := Nat.exists_eq_add_of_le hlow
        obtain ⟨k, hbefore, hafter⟩ := (repeats_add _ _).1 hsteps
        exact ⟨k, ⟨i, hknown, hbefore⟩, n, hafter⟩
    | some max =>
      simp only [plan]
      split
      · next hshort =>
        simp only [Plan.advance, Places.mem_inter, Places.not_mem_empty, and_false, false_iff]
        rintro ⟨i, hknown, hbound, n, hlow, hhigh, hsteps⟩
        have := hhigh max rfl
        omega
      · simp only [Plan.advance, hfollows.mem_iterate_widen _ hinside, hrequired]
        constructor
        · rintro ⟨k, ⟨i, hknown, hbefore⟩, n, hfew, hafter⟩
          refine ⟨i, hknown, hwithin i hknown, min + n, by omega, ?_,
            (repeats_add _ _).2 ⟨k, hbefore, hafter⟩⟩
          intro m hsame
          obtain rfl := Option.some.inj hsame
          omega
        · rintro ⟨i, hknown, -, n, hlow, hhigh, hsteps⟩
          obtain ⟨n, rfl⟩ := Nat.exists_eq_add_of_le hlow
          obtain ⟨k, hbefore, hafter⟩ := (repeats_add _ _).1 hsteps
          have := hhigh max rfl
          exact ⟨k, ⟨i, hknown, hbefore⟩, n, by omega, hafter⟩
  | group b p ih =>
    rw [plan, ih hwithin]
    constructor
    · rintro ⟨i, hknown, hfound⟩
      exact ⟨i, hknown, .group hfound⟩
    · rintro ⟨i, hknown, hfound⟩
      cases hfound with
      | group hfound => exact ⟨i, hknown, hfound⟩

theorem occursIn_iff : p.occursIn t = true ↔ ∃ i j, Matches t p i j := by
  rw [occursIn, bne_iff_ne, ne_eq, Places.eq_empty_iff]
  simp only [mem_advance (fun i => Places.mem_upTo.1), Places.mem_upTo,
    Classical.not_forall, Classical.not_not]
  constructor
  · rintro ⟨j, i, _, hfound⟩
    exact ⟨i, j, hfound⟩
  · rintro ⟨i, j, hfound⟩
    exact ⟨j, i, hfound.start_le, hfound⟩

theorem matchesAll_iff : p.matchesAll t = true ↔ Matches t p 0 t.length := by
  have hwithin : ∀ i ∈ Places.single 0, i ≤ t.length := fun i hfirst => by
    rw [Places.mem_single.1 hfirst]
    exact Nat.zero_le _
  rw [matchesAll, Places.mem_eq_true, mem_advance hwithin]
  simp

end GameTips.Pattern
