import GameTips.Pattern.Class
import GameTips.Proofs.Pattern.Stability
import Mathlib.Data.List.TakeWhile

/-!
# Bracketed classes do not see what comes after

A class ends at the bracket that closes it, so it is read the same where `)$` follows the text
(`stable_readClass`). Some steps of the reading look further than they take: a class of ASCII
characters is looked for up to its end before it is taken for a class of its own (`exact_readAsciiClass`
says that it is not found in what follows), and a hyphen is a range or not by what comes after it
(`peekPast_joined`).
-/

namespace GameTips.Pattern

open GameTips.Text (isBlank)

variable {fs : Flags}

/-! ## Classes of ASCII characters -/

/-- Where `)$` follows the text, the reader takes the same or as before nothing. -/
def Exact {α : Type} (r : List Char → Option (α × List Char)) : Prop :=
  ∀ cs, r (cs ++ closing) = (r cs).map fun p => (p.1, p.2 ++ closing)

theorem exact_readAsciiName (negated : Bool) : Exact (readAsciiName negated) := by
  intro cs
  unfold readAsciiName
  cases h : cs.dropWhile (· ≠ ':') with
  | nil =>
    have h' : (cs ++ closing).dropWhile (· ≠ ':') = [] := by
      rw [List.dropWhile_append, h]
      rfl
    rw [h']
    rfl
  | cons d rest =>
    obtain ⟨h', htake⟩ := dropWhile_append_of_eq_cons closing h
    rw [h', htake]
    split
    · next after heq =>
      obtain ⟨rfl, htail⟩ := List.cons.inj heq
      cases rest with
      | nil => cases htail
      | cons e rest =>
        obtain ⟨rfl, rfl⟩ := List.cons.inj htail
        cases asciiClass? (cs.takeWhile (· ≠ ':')) <;> rfl
    · next hne =>
      split
      · next heq =>
        obtain ⟨rfl, rfl⟩ := List.cons.inj heq
        exact absurd rfl (hne _)
      · rfl

theorem readAsciiClass_of_ne_colon {c : Char} (hc : c ≠ ':') (cs : List Char) :
    readAsciiClass (c :: cs) = none := by
  unfold readAsciiClass
  split
  · next heq => exact absurd (List.cons.inj heq).1 hc
  · next heq => exact absurd (List.cons.inj heq).1 hc
  · rfl

theorem readAsciiClass_of_ne_caret {c : Char} (hc : c ≠ '^') (cs : List Char) :
    readAsciiClass (':' :: c :: cs) = readAsciiName false (c :: cs) := by
  unfold readAsciiClass
  split
  · next heq => exact absurd (List.cons.inj (List.cons.inj heq).2).1 hc
  · next heq => rw [(List.cons.inj heq).2]
  · next hne => exact absurd rfl (hne _)

theorem exact_readAsciiClass : Exact readAsciiClass := by
  intro cs
  match cs with
  | [] => rfl
  | c :: cs =>
    by_cases hc : c = ':'
    · subst hc
      match cs with
      | [] => rfl
      | d :: cs =>
        by_cases hd : d = '^'
        · subst hd
          exact exact_readAsciiName true cs
        · simp only [List.cons_append, readAsciiClass_of_ne_caret hd]
          exact exact_readAsciiName false (d :: cs)
    · simp only [List.cons_append, readAsciiClass_of_ne_colon hc]
      rfl

/-! ## Opening a class -/

theorem stable_openList (negated : Bool) : Stable (openList fs negated) := by
  intro cs cs' x rest hj h
  obtain ⟨mid', hu', hmid⟩ := collectAll_joined fs (· == '-') hj (.inl (by decide))
  unfold openList at h ⊢
  rw [hu']
  generalize collectAll fs (· == '-') cs = u at h hmid
  obtain ⟨hyphens, mid⟩ := u
  cases mid with
  | nil => cases h
  | cons c mid =>
    obtain ⟨mid', rfl, hmid'⟩ := hmid.of_cons
    dsimp only at h ⊢
    split at h
    · next hbracket =>
      rw [if_pos hbracket]
      split at h
      · cases h
      · next hne =>
        obtain ⟨rfl, rfl⟩ := Prod.mk.inj (Option.some.inj h)
        have hskip := hmid'.skip fs
        refine ⟨_, if_neg fun hempty => hne ?_, hskip⟩
        have hle := hskip.length_le
        simp only [List.isEmpty_iff, ← List.length_eq_zero_iff] at hempty ⊢
        omega
    · next hbracket =>
      rw [if_neg hbracket]
      obtain ⟨rfl, rfl⟩ := Prod.mk.inj (Option.some.inj h)
      exact ⟨_, rfl, hmid'.cons c⟩

theorem stable_openClass : Stable (openClass fs) :=
  Stable.afterSkipCons fun c =>
    Stable.ite (stable_openList true).afterSkip ((stable_openList false).afterChar c)

/-! ## Items -/

theorem stable_readClassPrimitive : Stable (readClassPrimitive fs) :=
  Stable.cons_of_none rfl fun _ => Stable.ite stable_readEscape (Stable.done _)

/-! ## Ranges -/

theorem dropBlanks_of_blank {cs : List Char} (h : ∀ c ∈ cs, isBlank c = true) (inComment : Bool) :
    dropBlanks inComment cs = [] := by
  induction cs generalizing inComment with
  | nil => rfl
  | cons c cs ih =>
    have hrest := ih fun d hd => h d (List.mem_cons_of_mem c hd)
    unfold dropBlanks
    split
    · exact hrest _
    · rw [if_pos (h c List.mem_cons_self)]
      exact hrest _

theorem dropBlanks_dropWhile (cs : List Char) :
    dropBlanks false (cs.dropWhile isBlank) = dropBlanks false cs := by
  induction cs with
  | nil => rfl
  | cons c cs ih =>
    cases hc : isBlank c with
    | true => rw [List.dropWhile_cons, if_pos hc, ih, dropBlanks, if_neg Bool.false_ne_true, if_pos hc]
    | false => rw [List.dropWhile_cons, if_neg (by rw [hc]; exact Bool.false_ne_true)]

theorem peekBeyond?_append {cs : List Char} {c : Char} (h : peekBeyond? cs = some c) :
    peekBeyond? (cs ++ closing) = some c := by
  unfold peekBeyond? at h ⊢
  rw [List.dropWhile_append]
  cases hu : cs.dropWhile isBlank with
  | nil =>
    rw [hu] at h
    cases h
  | cons d u =>
    rw [hu] at h
    dsimp only [List.isEmpty_cons, List.cons_append] at h ⊢
    rw [if_neg Bool.false_ne_true]
    split at h
    · next hd =>
      dsimp only
      rw [if_pos hd, List.dropWhile_append]
      cases hv : u.dropWhile isBlank with
      | nil =>
        rw [hv] at h
        cases h
      | cons e v =>
        rw [hv] at h
        exact h
    · next hd =>
      dsimp only
      rw [if_neg hd]
      exact h

/-- Where nothing is found beyond blanks and a comment sign, the text is nothing else. -/
theorem of_peekBeyond?_eq_none {cs : List Char} (h : peekBeyond? cs = none) :
    dropBlanks false cs = [] ∧ ∀ c, cs.head? = some c → isBlank c = true ∨ c = '#' := by
  unfold peekBeyond? at h
  rw [← dropBlanks_dropWhile]
  cases hu : cs.dropWhile isBlank with
  | nil =>
    refine ⟨rfl, fun c hc => .inl ?_⟩
    exact List.dropWhile_eq_nil_iff.1 hu c (List.mem_of_head? hc)
  | cons d u =>
    rw [hu] at h
    dsimp only at h
    split at h
    · next hd =>
      subst hd
      have hblank := List.dropWhile_eq_nil_iff.1 (List.head?_eq_none_iff.1 h)
      refine ⟨?_, fun c hc => ?_⟩
      · rw [dropBlanks, if_neg Bool.false_ne_true, if_neg (by decide), if_pos rfl]
        exact dropBlanks_of_blank hblank true
      · cases cs with
        | nil => cases hc
        | cons d cs =>
          obtain rfl := Option.some.inj hc
          cases hd : isBlank d with
          | true => exact .inl rfl
          | false =>
            rw [List.dropWhile_cons, if_neg (by rw [hd]; exact Bool.false_ne_true)] at hu
            exact .inr (List.cons.inj hu).1
    · cases h

/-- Looking beyond blanks finds the same, unless nothing but blanks and a comment sign is left. -/
theorem peekPast_joined {cs cs' : List Char} (hj : Joined cs cs') :
    peekPast fs cs' = peekPast fs cs ∨
      skip fs cs = [] ∧ peekPast fs cs ≠ some ']' ∧ peekPast fs cs ≠ some '-' := by
  rcases hj with rfl | rfl
  · unfold peekPast skip
    split
    · cases hc : peekBeyond? cs with
      | some c =>
        rw [peekBeyond?_append hc]
        exact .inl rfl
      | none =>
        obtain ⟨hend, hhead⟩ := of_peekBeyond?_eq_none hc
        refine .inr ⟨hend, ?_, ?_⟩
        · intro h
          exact absurd (hhead _ h) (by decide)
        · intro h
          exact absurd (hhead _ h) (by decide)
    · cases cs with
      | nil => exact .inr ⟨rfl, by simp, by simp⟩
      | cons c cs => exact .inl rfl
  · exact .inl rfl

/-- A reader that depends on what a hyphen is followed by. -/
theorem stable_hyphen {α : Type} {r r' : List Char → Option (α × List Char)} (hr : Stable r)
    (hend : ∀ cs, skip fs cs = [] → r cs = none) (hr' : Stable r') :
    Stable fun cs =>
      if peekPast fs cs ≠ some ']' ∧ peekPast fs cs ≠ some '-' then r cs else r' cs := by
  intro cs cs' x rest hj h
  dsimp only at h ⊢
  rcases @peekPast_joined fs cs cs' hj with hpeek | ⟨hskip, hpeek⟩
  · rw [hpeek]
    split at h
    · next hrange =>
      rw [if_pos hrange]
      exact hr hj h
    · next hrange =>
      rw [if_neg hrange]
      exact hr' hj h
  · rw [if_pos hpeek, hend cs hskip] at h
    cases h

theorem stable_readClassItem : Stable (readClassItem fs) := by
  refine stable_readClassPrimitive.bind fun low => Stable.afterSkipCons fun c => ?_
  by_cases hc : c = '-'
  · simp only [hc, true_and]
    refine stable_hyphen ?_ ?_ ?_
    · refine Stable.bind stable_readClassPrimitive.afterSkip fun high => ?_
      dsimp only
      refine Stable.bindValue fun lo => Stable.bindValue fun hi => ?_
      exact Stable.ite (Stable.done _) Stable.fail
    · intro cs hcs
      rw [hcs]
      rfl
    · exact Stable.bindValue fun s => (Stable.done s).afterChar '-'
  · simp only [hc, false_and, if_false]
    exact Stable.bindValue fun s => (Stable.done s).afterChar c

/-! ## Whole classes -/

theorem Exact.stable {α : Type} {r : List Char → Option (α × List Char)} (h : Exact r) :
    Stable r := by
  intro cs cs' x rest hj hx
  rcases hj with rfl | rfl
  · exact ⟨rest ++ closing, by rw [h, hx]; rfl, .append _⟩
  · exact ⟨rest, hx, .refl _⟩

theorem Exact.eq_none {α : Type} {r : List Char → Option (α × List Char)} (h : Exact r)
    {cs cs' : List Char} (hj : Joined cs cs') (hnone : r cs = none) : r cs' = none := by
  rcases hj with rfl | rfl
  · rw [h, hnone]
    rfl
  · exact hnone

theorem stable_readNested (st : ClassState) : Stable (st.readNested fs) := by
  intro cs cs' x rest hj h
  unfold ClassState.readNested at h ⊢
  cases hascii : readAsciiClass cs with
  | some r =>
    obtain ⟨⟨ranges, negated⟩, mid⟩ := r
    obtain ⟨mid', hascii', hmid⟩ := exact_readAsciiClass.stable hj hascii
    rw [hascii] at h
    rw [hascii']
    exact (Stable.bindValue fun s => Stable.done (st.addSet s)) hmid h
  | none =>
    rw [hascii] at h
    rw [exact_readAsciiClass.eq_none hj hascii]
    exact stable_openClass.map (f := fun l => ClassState.mk l (st.level :: st.outer)) hj h

theorem readClassItem_singleton (c : Char) : readClassItem fs [c] = none := by
  unfold readClassItem
  by_cases hc : c = '\\'
  · rw [readClassPrimitive, if_pos hc]
    rfl
  · rw [readClassPrimitive, if_neg hc]
    unfold skip
    cases fs.verbose <;> rfl

/-- At the end of the text nothing can be read but a closing bracket; before it, the next character
tells whether there is an operation. -/
theorem stable_classStep (st : ClassState) : Stable (st.step fs) := by
  refine Stable.cons_of_none rfl fun c => ?_
  refine Stable.ite (stable_readNested st).map (Stable.ite (Stable.mapValue id) ?_)
  refine Stable.cons_of_none ?_ fun d => ?_
  · rw [readClassItem_singleton]
    rfl
  · dsimp only [List.head?_cons, Option.bind_some, List.tail_cons]
    cases SetOp.ofChars? c d with
    | some op => exact Stable.done _
    | none =>
      have hitem : Stable fun cs => readClassItem fs (c :: d :: cs) :=
        (stable_readClassItem.afterChar c).afterChar d
      exact hitem.map (f := fun s => (.inr (st.addSet s) : ClassPart ⊕ ClassState))

theorem stable_classRun {n m : Nat} (hnm : n ≤ m) {st : ClassState} {cs cs' rest : List Char}
    {p : ClassPart} (hj : Joined cs cs') (h : ClassState.run fs n st cs = some (p, rest)) :
    ∃ rest', ClassState.run fs m st cs' = some (p, rest') ∧ Joined rest rest' := by
  induction n generalizing m st cs cs' with
  | zero => cases h
  | succ n ih =>
    obtain ⟨m, rfl⟩ := Nat.exists_eq_succ_of_ne_zero (Nat.ne_zero_of_lt hnm)
    unfold ClassState.run at h ⊢
    cases hstep : st.step fs (skip fs cs) with
    | none =>
      rw [hstep] at h
      cases h
    | some r =>
      obtain ⟨next, mid⟩ := r
      obtain ⟨mid', hstep', hmid⟩ := stable_classStep st (hj.skip fs) hstep
      rw [hstep] at h
      rw [hstep']
      cases next with
      | inl p =>
        obtain ⟨rfl, rfl⟩ := Prod.mk.inj (Option.some.inj h)
        exact ⟨mid', rfl, hmid⟩
      | inr st => exact ih (Nat.le_of_succ_le_succ hnm) hmid h

/-- **A class that is read is read in the same way where `)$` follows the text.** -/
theorem stable_readClass : Stable (readClass fs) := by
  intro cs cs' p rest hj h
  obtain ⟨⟨level, mid⟩, hopen, hrun⟩ := Option.bind_eq_some_iff.1 h
  obtain ⟨mid', hopen', hmid⟩ := stable_openClass hj hopen
  obtain ⟨rest', hrun', hrest⟩ := stable_classRun hj.length_le hmid hrun
  exact ⟨rest', Option.bind_eq_some_iff.2 ⟨_, hopen', hrun'⟩, hrest⟩

end GameTips.Pattern
