import GameTips.Pattern.Token

/-!
# Readers do not see what comes after

A pattern rule stands between `^(?:` and `)$`. A reader that takes its part off the front of a text
takes the same part where `)$` follows the text: it is *stable*. What it leaves is then followed by
`)$` as well, unless a comment runs on over the end of the text (`Joined`).

Stability is kept by the ways to put readers together (`Stable.bind`, `Stable.cons`, …), so that for
each reader it follows the shape of its definition. Readers that take characters of a class need that
the parenthesis is none of them, or that they do not stop at the end of the text
(`collectAll_joined`).
-/

namespace GameTips.Pattern

open GameTips.Text (isBlank)

/-- What follows the pattern of a rule. -/
def closing : List Char := [')', '$']

/-- What a reader leaves of a text, and what it leaves where `)$` follows the text. -/
def Joined (cs cs' : List Char) : Prop :=
  cs' = cs ++ closing ∨ cs' = cs

namespace Joined

variable {cs cs' : List Char} {c : Char}

theorem append (cs : List Char) : Joined cs (cs ++ closing) :=
  .inl rfl

theorem refl (cs : List Char) : Joined cs cs :=
  .inr rfl

theorem cons (c : Char) (h : Joined cs cs') : Joined (c :: cs) (c :: cs') := by
  rcases h with rfl | rfl
  · exact .append _
  · exact .refl _

theorem of_cons (h : Joined (c :: cs) cs') : ∃ rest, cs' = c :: rest ∧ Joined cs rest := by
  rcases h with rfl | rfl
  · exact ⟨_, rfl, .append _⟩
  · exact ⟨_, rfl, .refl _⟩

theorem length_le (h : Joined cs cs') : cs.length ≤ cs'.length := by
  rcases h with rfl | rfl <;> simp

/-- The same characters are dropped if a parenthesis is none of them. -/
theorem dropWhile {p : Char → Bool} (hp : p ')' = false) (h : Joined cs cs') :
    Joined (cs.dropWhile p) (cs'.dropWhile p) := by
  rcases h with rfl | rfl
  · induction cs with
    | nil => simp [closing, hp, Joined]
    | cons c cs ih =>
      cases hc : p c with
      | true => simpa [List.dropWhile_cons, hc] using ih
      | false => simpa [List.dropWhile_cons, hc] using Joined.append (c :: cs)
  · exact .refl _

theorem dropBlanks (h : Joined cs cs') (inComment : Bool) :
    Joined (dropBlanks inComment cs) (Pattern.dropBlanks inComment cs') := by
  rcases h with rfl | rfl
  · induction cs generalizing inComment with
    | nil =>
      cases inComment with
      | true => exact .inr rfl
      | false => exact .inl rfl
    | cons c cs ih =>
      rw [List.cons_append, Pattern.dropBlanks, Pattern.dropBlanks]
      split
      · exact ih _
      · split
        · exact ih _
        · split
          · exact ih _
          · exact .append _
  · exact .refl _

theorem skip (h : Joined cs cs') (fs : Flags) : Joined (skip fs cs) (Pattern.skip fs cs') := by
  unfold Pattern.skip
  split
  · exact h.dropBlanks false
  · exact h

end Joined

/-- What stops a row of characters stops it too where more text follows. -/
theorem dropWhile_append_of_eq_cons {p : Char → Bool} {cs rest : List Char} {c : Char}
    (suffix : List Char) (h : cs.dropWhile p = c :: rest) :
    (cs ++ suffix).dropWhile p = c :: (rest ++ suffix) ∧
      (cs ++ suffix).takeWhile p = cs.takeWhile p := by
  have hlen : (cs.takeWhile p).length ≠ cs.length := by
    intro heq
    have hsplit : cs.takeWhile p ++ cs.dropWhile p = cs := List.takeWhile_append_dropWhile
    have hsum := congrArg List.length hsplit
    rw [h, List.length_append, List.length_cons] at hsum
    omega
  rw [List.dropWhile_append, List.takeWhile_append, if_neg hlen, h]
  exact ⟨rfl, rfl⟩

/-- Where `)$` follows the text, the reader takes the same. -/
def Stable {α : Type} (r : List Char → Option (α × List Char)) : Prop :=
  ∀ ⦃cs cs' x rest⦄, Joined cs cs' → r cs = some (x, rest) →
    ∃ rest', r cs' = some (x, rest') ∧ Joined rest rest'

namespace Stable

variable {α β : Type} {r : List Char → Option (α × List Char)} {fs : Flags}

theorem fail : Stable fun _ => (none : Option (α × List Char)) := by
  intro cs cs' x rest _ h
  cases h

theorem done (x : α) : Stable fun cs => some (x, cs) := by
  intro cs cs' y rest hj h
  obtain ⟨rfl, rfl⟩ := Prod.mk.inj (Option.some.inj h)
  exact ⟨cs', rfl, hj⟩

theorem bind {k : α × List Char → Option (β × List Char)} (hr : Stable r)
    (hk : ∀ x, Stable fun rest => k (x, rest)) : Stable fun cs => r cs >>= k := by
  intro cs cs' y rest hj h
  obtain ⟨⟨x, mid⟩, hx, hy⟩ := Option.bind_eq_some_iff.1 h
  obtain ⟨mid', hx', hmid⟩ := hr hj hx
  obtain ⟨rest', hy', hrest⟩ := hk x hmid hy
  exact ⟨rest', Option.bind_eq_some_iff.2 ⟨_, hx', hy'⟩, hrest⟩

/-- What is not read from the text does not bear on stability. -/
theorem bindValue {o : Option α} {k : α → List Char → Option (β × List Char)}
    (hk : ∀ x, Stable (k x)) : Stable fun cs => o >>= fun x => k x cs := by
  cases o with
  | none => exact fail
  | some x => exact hk x

theorem mapValue {o : Option α} (f : α → β) : Stable fun cs => o.map fun x => (f x, cs) := by
  cases o with
  | none => exact fail
  | some x => exact done (f x)

theorem map {f : α → β} (hr : Stable r) :
    Stable fun cs => (r cs).map fun p => (f p.1, p.2) := by
  intro cs cs' y rest hj h
  obtain ⟨⟨x, mid⟩, hx, he⟩ := Option.map_eq_some_iff.1 h
  obtain ⟨rfl, rfl⟩ := Prod.mk.inj he
  obtain ⟨mid', hx', hmid⟩ := hr hj hx
  exact ⟨mid', Option.map_eq_some_iff.2 ⟨_, hx', rfl⟩, hmid⟩

theorem ite {r' : List Char → Option (α × List Char)} {P : Prop} [Decidable P] (hr : Stable r)
    (hr' : Stable r') : Stable fun cs => if P then r cs else r' cs := by
  by_cases h : P
  · simpa only [if_pos h] using hr
  · simpa only [if_neg h] using hr'

theorem afterSkip (hr : Stable r) : Stable fun cs => r (skip fs cs) :=
  fun _ _ _ _ hj h => hr (hj.skip fs) h

/-- What is read after blanks, if it is no empty text. -/
theorem afterSkipCons {k : Char → List Char → Option (α × List Char)} (hk : ∀ c, Stable (k c)) :
    Stable fun cs => match skip fs cs with
      | [] => none
      | c :: rest => k c rest := by
  intro cs cs' x rest hj h
  have hskip := hj.skip fs
  dsimp only at h ⊢
  cases hu : skip fs cs with
  | nil =>
    rw [hu] at h
    cases h
  | cons c u =>
    rw [hu] at h hskip
    obtain ⟨u', hu', hmid⟩ := hskip.of_cons
    rw [hu']
    exact hk c hmid h

theorem afterChar (hr : Stable r) (c : Char) : Stable fun cs => r (c :: cs) :=
  fun _ _ _ _ hj h => hr (hj.cons c) h

/-- A reader is stable if it takes nothing from an empty text that it does not take before a
parenthesis, and is stable after every first character. -/
theorem cons (hnil : ∀ x rest, r [] = some (x, rest) → ∃ rest', r closing = some (x, rest') ∧
    Joined rest rest') (hcons : ∀ c, Stable fun cs => r (c :: cs)) : Stable r := by
  intro cs cs' x rest hj h
  cases cs with
  | nil =>
    rcases hj with rfl | rfl
    · exact hnil x rest h
    · exact ⟨rest, h, .refl _⟩
  | cons c cs =>
    obtain ⟨cs', rfl, hj'⟩ := hj.of_cons
    exact hcons c hj' h

/-- A reader that takes nothing from an empty text is stable if it is stable after every first
character. -/
theorem cons_of_none (hnil : r [] = none) (hcons : ∀ c, Stable fun cs => r (c :: cs)) :
    Stable r := by
  refine cons (fun x rest h => ?_) hcons
  rw [hnil] at h
  cases h

end Stable

/-! ## Characters of a class -/

section Collect

variable {fs : Flags} {p : Char → Bool}

theorem length_dropBlanks_le (inComment : Bool) (cs : List Char) :
    (dropBlanks inComment cs).length ≤ cs.length := by
  induction cs generalizing inComment with
  | nil => simp [dropBlanks]
  | cons c cs ih =>
    have hrest := fun b => Nat.le_succ_of_le (ih b)
    rw [dropBlanks]
    split
    · exact hrest _
    · split
      · exact hrest _
      · split
        · exact hrest _
        · exact Nat.le_refl _

theorem length_skip_le (fs : Flags) (cs : List Char) : (skip fs cs).length ≤ cs.length := by
  unfold skip
  split
  · exact length_dropBlanks_le _ _
  · exact Nat.le_refl _

theorem collect_nil (n : Nat) : collect fs p n [] = ([], []) := by
  cases n <;> rfl

theorem collect_stop {c : Char} (hc : p c = false) (n : Nat) (cs : List Char) :
    collect fs p n (c :: cs) = ([], c :: cs) := by
  cases n with
  | zero => rfl
  | succ n => simp [collect, hc]

theorem collect_end {m : Nat} {cs' : List Char} (hj : Joined [] cs') (hp : p ')' = false) :
    ∃ rest', collect fs p m cs' = ([], rest') ∧ Joined [] rest' := by
  rcases hj with rfl | rfl
  · exact ⟨_, collect_stop hp m _, .append _⟩
  · exact ⟨_, collect_nil m, .refl _⟩

/-- Where the characters stop before the end of the text or cannot go on with a parenthesis, the same
ones are taken, whatever the fuel is as long as it is enough. -/
theorem collect_joined {n m : Nat} {cs cs' taken rest : List Char} (hj : Joined cs cs')
    (hn : cs.length ≤ n) (hm : cs'.length ≤ m) (h : collect fs p n cs = (taken, rest))
    (hstop : p ')' = false ∨ rest ≠ []) :
    ∃ rest', collect fs p m cs' = (taken, rest') ∧ Joined rest rest' := by
  induction n generalizing m cs cs' taken with
  | zero =>
    obtain rfl := List.length_eq_zero_iff.1 (Nat.le_zero.1 hn)
    obtain ⟨rfl, rfl⟩ := Prod.mk.inj h
    exact collect_end hj (hstop.resolve_right (absurd rfl))
  | succ n ih =>
    cases cs with
    | nil =>
      obtain ⟨rfl, rfl⟩ := Prod.mk.inj h
      exact collect_end hj (hstop.resolve_right (absurd rfl))
    | cons c cs =>
      obtain ⟨cs', rfl, hj'⟩ := hj.of_cons
      cases hc : p c with
      | false =>
        rw [collect_stop hc] at h
        obtain ⟨rfl, rfl⟩ := Prod.mk.inj h
        exact ⟨_, collect_stop hc m cs', hj⟩
      | true =>
        obtain ⟨m, rfl⟩ := Nat.exists_eq_succ_of_ne_zero (Nat.ne_zero_of_lt hm)
        have hbound := Nat.le_trans (length_skip_le fs cs) (Nat.le_of_succ_le_succ hn)
        have hbound' := Nat.le_trans (length_skip_le fs cs') (Nat.le_of_succ_le_succ hm)
        cases hmore : collect fs p n (skip fs cs) with
        | mk more left =>
          rw [collect, if_pos hc, hmore] at h
          obtain ⟨rfl, rfl⟩ := Prod.mk.inj h
          obtain ⟨rest', hmore', hrest⟩ := ih (hj'.skip fs) hbound hbound' hmore
          refine ⟨rest', ?_, hrest⟩
          rw [collect, if_pos hc, hmore']

theorem collectAll_joined (fs : Flags) (p : Char → Bool) {cs cs' : List Char} (hj : Joined cs cs')
    (hstop : p ')' = false ∨ (collectAll fs p cs).2 ≠ []) :
    ∃ rest', collectAll fs p cs' = ((collectAll fs p cs).1, rest') ∧
      Joined (collectAll fs p cs).2 rest' :=
  collect_joined hj (Nat.le_refl _) (Nat.le_refl _) rfl hstop

end Collect

/-! ## Tokens -/

section Tokens

variable {fs : Flags}

theorem isBlank_parenthesis : isBlank ')' = false := by decide

theorem stable_readCount : Stable (readCount fs) := by
  intro cs cs' x rest hj h
  obtain ⟨mid', hdigits, hmid⟩ := collectAll_joined fs Char.isDigit (hj.dropWhile isBlank_parenthesis)
    (.inl (by decide))
  obtain ⟨rest', hblanks, hrest⟩ := collectAll_joined fs isBlank hmid (.inl isBlank_parenthesis)
  unfold readCount at h ⊢
  rw [hdigits]
  dsimp only at h ⊢
  rw [hblanks]
  dsimp only
  split at h
  · cases h
  · next hvalid =>
    obtain ⟨rfl, rfl⟩ := Prod.mk.inj (Option.some.inj h)
    exact ⟨rest', if_neg hvalid, hrest⟩

theorem stable_readHexDigits (k n : Nat) : Stable (readHexDigits fs k n) := by
  induction k generalizing n with
  | zero => exact Stable.done n
  | succ k ih =>
    refine Stable.cons_of_none rfl fun c => ?_
    unfold readHexDigits
    split
    · exact (ih _).afterSkip
    · exact Stable.fail

theorem stable_readBraced : Stable (readBraced fs) := by
  intro cs cs' text rest hj h
  unfold readBraced at h ⊢
  cases hu : collectAll fs (· ≠ '}') (skip fs cs) with
  | mk taken mid =>
    rw [hu] at h
    cases mid with
    | nil => cases h
    | cons c mid =>
      obtain ⟨rfl, rfl⟩ := Prod.mk.inj (Option.some.inj h)
      obtain ⟨mid', hu', hmid⟩ := collectAll_joined fs (· ≠ '}') (hj.skip fs)
        (.inr (by rw [hu]; simp))
      rw [hu] at hu' hmid
      obtain ⟨rest', rfl, hrest⟩ := hmid.of_cons
      exact ⟨rest', by rw [hu'], hrest⟩

theorem stable_readHex (digits : Nat) : Stable (readHex fs digits) := by
  refine Stable.afterSkipCons fun c => Stable.ite ?_ ?_
  · refine stable_readBraced.bind fun ds => Stable.ite Stable.fail ?_
    refine Stable.bindValue fun n => Stable.bindValue fun c => ?_
    exact (Stable.done _).afterSkip
  · refine Stable.bind ((stable_readHexDigits digits 0).afterChar c) fun n => ?_
    exact Stable.bindValue fun c => Stable.done _

theorem stable_readProperty (negated : Bool) : Stable (readProperty fs negated) := by
  refine Stable.afterSkipCons fun c => Stable.ite ?_ (Stable.ite Stable.fail ?_)
  · refine stable_readBraced.bind fun name => ?_
    refine Stable.bindValue fun s => Stable.bindValue fun x => ?_
    exact Stable.done x
  · refine Stable.bindValue fun s => Stable.bindValue fun x => ?_
    exact (Stable.done x).afterSkip

theorem stable_readBoundaryName : Stable (readBoundaryName fs) := by
  intro cs cs' x rest hj h
  obtain ⟨mid', hu', hmid⟩ := collectAll_joined fs isBoundaryChar hj (.inl (by decide))
  unfold readBoundaryName at h ⊢
  rw [hu']
  cases hu : collectAll fs isBoundaryChar cs with
  | mk name mid =>
    rw [hu] at h hmid
    cases mid with
    | nil => cases h
    | cons c mid =>
      obtain ⟨mid', rfl, hmid'⟩ := hmid.of_cons
      exact (Stable.ite (Stable.mapValue _) Stable.fail) hmid' h

theorem readBoundary_of_ne {c : Char} (hc : c ≠ '{') (cs : List Char) :
    readBoundary fs (c :: cs) = some (.check .wordBoundary, c :: cs) := by
  unfold readBoundary
  split
  · next heq => exact absurd (List.cons.inj heq).1 hc
  · rfl

theorem readBoundary_brace (cs : List Char) :
    readBoundary fs ('{' :: cs) =
      match skip fs cs with
      | [] => none
      | c :: inside =>
        if isBoundaryChar c then readBoundaryName fs (c :: inside)
        else some (.check .wordBoundary, '{' :: cs) := rfl

/-- Within braces that hold no name, nothing is taken, so the brace is left. -/
theorem stable_readBoundary : Stable (readBoundary fs) := by
  refine Stable.cons (fun x rest h => ?_) fun c => ?_
  · obtain ⟨rfl, rfl⟩ := Prod.mk.inj (Option.some.inj h)
    exact ⟨closing, rfl, .append _⟩
  by_cases hc : c = '{'
  · subst hc
    intro cs cs' x rest hj h
    have hskip := hj.skip fs
    dsimp only at h ⊢
    rw [readBoundary_brace] at h ⊢
    cases hu : skip fs cs with
    | nil =>
      rw [hu] at h
      cases h
    | cons c u =>
      rw [hu] at h hskip
      obtain ⟨u', hu', hmid⟩ := hskip.of_cons
      rw [hu']
      dsimp only at h ⊢
      split at h
      · next hname =>
        rw [if_pos hname]
        exact stable_readBoundaryName (hmid.cons c) h
      · next hname =>
        rw [if_neg hname]
        obtain ⟨rfl, rfl⟩ := Prod.mk.inj (Option.some.inj h)
        exact ⟨_, rfl, hj.cons _⟩
  · simp only [readBoundary_of_ne hc]
    exact (Stable.done _).afterChar c

theorem stable_readEscape : Stable (readEscape fs) := by
  refine Stable.cons_of_none rfl fun c => ?_
  unfold readEscape
  refine Stable.ite (stable_readHex 2) ?_
  refine Stable.ite (stable_readHex 4) ?_
  refine Stable.ite (stable_readHex 8) ?_
  refine Stable.ite (stable_readProperty false) ?_
  refine Stable.ite (stable_readProperty true) ?_
  refine Stable.ite stable_readBoundary ?_
  cases classLetter? fs c with
  | some entry =>
    cases entry with
    | none => exact Stable.fail
    | some x => exact Stable.done x
  | none =>
    refine Stable.ite (Stable.done _) ?_
    cases controlEscape? c with
    | some x => exact Stable.done _
    | none =>
      cases assertionEscape? c with
      | some a => exact Stable.done _
      | none => exact Stable.fail

end Tokens
end GameTips.Pattern
