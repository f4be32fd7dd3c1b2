import GameTips.Pattern.Reader
import GameTips.Proofs.Pattern.ClassStability

/-!
# Patterns between anchors

A text that is a pattern by itself is, between `^(?:` and `)$`, the same pattern in a group between the
two assertions, or no pattern, since a comment of the text may take the closing parenthesis
(`parse?_anchored`).

The reading of the text is followed within the open group: each step is stable
(`stable_step`), and a group further out does not bear on it as long as it stays open
(`step_within`). Together they take the reading to the end of the text (`run_within`), where the group
and the last assertion are read (`run_closing`).
-/

namespace GameTips.Pattern

/-! ## Steps do not see what comes after -/

theorem readFlags_append {cs suffix rest : List Char} {seen : List Flag} {cleared dangling : Bool}
    {x : List (Flag × Bool) × Char} (h : readFlags seen cleared dangling cs = some (x, rest)) :
    readFlags seen cleared dangling (cs ++ suffix) = some (x, rest ++ suffix) := by
  induction cs generalizing seen cleared dangling x with
  | nil => cases h
  | cons c cs ih =>
    rw [readFlags] at h
    rw [List.cons_append, readFlags]
    split at h
    · next hlast =>
      rw [if_pos hlast]
      split at h
      · cases h
      · next hdangling =>
        obtain ⟨rfl, rfl⟩ := Prod.mk.inj (Option.some.inj h)
        rw [if_neg hdangling]
    · next hlast =>
      rw [if_neg hlast]
      split at h
      · next hhyphen =>
        rw [if_pos hhyphen]
        split at h
        · cases h
        · next hcleared =>
          rw [if_neg hcleared]
          exact ih h
      · next hhyphen =>
        rw [if_neg hhyphen]
        cases hf : Flag.ofChar? c with
        | none =>
          rw [hf] at h
          cases h
        | some f =>
          rw [hf] at h
          dsimp only at h ⊢
          split at h
          · cases h
          · next hseen =>
            obtain ⟨⟨y, mid⟩, hy, heq⟩ := Option.map_eq_some_iff.1 h
            obtain ⟨rfl, rfl⟩ := Prod.mk.inj heq
            rw [if_neg hseen, ih hy]
            rfl

theorem stable_readFlags (seen : List Flag) (cleared dangling : Bool) :
    Stable (readFlags seen cleared dangling) := by
  intro cs cs' x rest hj h
  rcases hj with rfl | rfl
  · exact ⟨_, readFlags_append h, .append _⟩
  · exact ⟨_, h, .refl _⟩

namespace ReadState

variable {st : ReadState} {fs : Flags}

theorem stable_readUpper (low : Nat) : Stable (readUpper fs low) := by
  refine Stable.cons_of_none rfl fun c => Stable.ite ?_ ((Stable.done _).afterChar c)
  refine Stable.afterSkipCons fun d => Stable.ite ((Stable.done _).afterChar d) ?_
  exact (stable_readCount.afterChar d).map

theorem stable_closeCounts (low : Nat) (high : Option Nat) : Stable (closeCounts fs low high) :=
  Stable.cons_of_none rfl fun _ => Stable.ite (Stable.done _).afterSkip Stable.fail

theorem stable_readCounts : Stable (readCounts fs) :=
  Stable.bind stable_readCount.afterSkip fun low =>
    (stable_readUpper low).bind fun high => stable_closeCounts low high

theorem stable_openNamed : Stable st.openNamed := by
  intro cs cs' x rest hj h
  rcases hj with rfl | rfl
  · unfold openNamed at h ⊢
    cases hdrop : cs.dropWhile (· ≠ '>') with
    | nil =>
      rw [hdrop] at h
      split at h
      · next heq => cases heq
      · cases h
    | cons d after =>
      obtain ⟨hdrop', htake⟩ := dropWhile_append_of_eq_cons closing hdrop
      rw [hdrop] at h
      rw [hdrop', htake]
      cases hname : cs.takeWhile (· ≠ '>') with
      | nil =>
        rw [hname] at h
        cases h
      | cons c name =>
        rw [hname] at h
        dsimp only at h ⊢
        split at h
        · next hvalid =>
          obtain ⟨rfl, rfl⟩ := Prod.mk.inj (Option.some.inj h)
          exact ⟨_, if_pos hvalid, .append _⟩
        · cases h
  · exact ⟨rest, h, .refl _⟩

theorem stable_readFlagged : Stable st.readFlagged := by
  refine (stable_readFlags _ _ _).bind fun x => ?_
  exact Stable.ite (Stable.done _) (Stable.ite Stable.fail (Stable.done _))

theorem readMarked_of_ne {c : Char} (hname : c ≠ '<') (hp : c ≠ 'P') (cs : List Char) :
    st.readMarked (c :: cs) = st.readFlagged (c :: cs) := by
  unfold readMarked
  split
  · next heq => exact absurd (List.cons.inj heq).1 hp
  · next heq => exact absurd (List.cons.inj heq).1 hname
  · rfl

theorem readMarked_P_of_ne {c : Char} (hname : c ≠ '<') (cs : List Char) :
    st.readMarked ('P' :: c :: cs) = st.readFlagged ('P' :: c :: cs) := by
  unfold readMarked
  split
  · next heq => exact absurd (List.cons.inj (List.cons.inj heq).2).1 hname
  · next heq => exact absurd (List.cons.inj heq).1 (by decide)
  · rfl

theorem stable_readMarked : Stable st.readMarked := by
  refine Stable.cons_of_none rfl fun c => ?_
  by_cases hname : c = '<'
  · subst hname
    exact stable_openNamed
  by_cases hp : c = 'P'
  · subst hp
    refine Stable.cons_of_none rfl fun d => ?_
    by_cases hname : d = '<'
    · subst hname
      exact stable_openNamed
    · simp only [readMarked_P_of_ne hname]
      exact (stable_readFlagged.afterChar 'P').afterChar d
  · simp only [readMarked_of_ne hname hp]
    exact stable_readFlagged.afterChar c

theorem readGroup_of_ne {c : Char} (hc : c ≠ '?') (cs : List Char) :
    st.readGroup (c :: cs) = some (st.openGroup true st.flags, c :: cs) := by
  unfold readGroup
  split
  · next heq => exact absurd (List.cons.inj heq).1 hc
  · rfl

theorem stable_readGroup : Stable st.readGroup := by
  refine Stable.cons (fun x rest h => ?_) fun c => ?_
  · obtain ⟨rfl, rfl⟩ := Prod.mk.inj (Option.some.inj h)
    exact ⟨closing, rfl, .append _⟩
  by_cases hc : c = '?'
  · subst hc
    exact stable_readMarked
  · simp only [readGroup_of_ne hc]
    exact (Stable.done _).afterChar c

theorem stable_readOpening : Stable st.readOpening :=
  stable_readGroup.afterSkip

theorem readRepeated_of_ne {low : Nat} {high : Option Nat} {c : Char} (hc : c ≠ '?')
    (cs : List Char) :
    st.readRepeated low high (c :: cs) =
      (st.repeatLast low high false).map fun st => (st, c :: cs) := by
  have hlazy : readLazy (c :: cs) = (false, c :: cs) := by
    unfold readLazy
    split
    · next heq => exact absurd (List.cons.inj heq).1 hc
    · rfl
  rw [readRepeated, hlazy]

theorem stable_readRepeated (low : Nat) (high : Option Nat) :
    Stable (st.readRepeated low high) := by
  refine Stable.cons (fun x rest h => ?_) fun c => ?_
  · exact (Stable.mapValue (o := st.repeatLast low high false) id) (.append []) h
  by_cases hc : c = '?'
  · subst hc
    exact Stable.mapValue (o := st.repeatLast low high true) id
  · simp only [readRepeated_of_ne hc]
    exact (Stable.mapValue id).afterChar c

theorem stable_step (c : Char) : Stable (st.step c) := by
  unfold step
  refine Stable.ite stable_readOpening ?_
  refine Stable.ite (Stable.mapValue id) ?_
  refine Stable.ite (Stable.done _) ?_
  refine Stable.ite (stable_readClass.map (f := fun p => st.add (.chars p.set p.levels))) ?_
  refine Stable.ite (stable_readRepeated _ _) ?_
  refine Stable.ite (stable_readRepeated _ _) ?_
  refine Stable.ite (stable_readRepeated _ _) ?_
  refine Stable.ite (stable_readCounts.bind fun x => stable_readRepeated _ _) ?_
  refine Stable.ite (stable_readEscape.bind fun x => Stable.bindValue fun p => Stable.done _) ?_
  refine Stable.ite (Stable.mapValue _) ?_
  refine Stable.ite (Stable.done _) ?_
  refine Stable.ite (Stable.done _) ?_
  exact Stable.mapValue _

/-! ## Groups further out do not bear on a reading -/

/-- The reading with one more open group around all others. -/
def within (st : ReadState) (g : OpenGroup) : ReadState :=
  { st with stack := st.stack ++ [g] }

/-- A step within a group further out. -/
def mapWithin (g : OpenGroup) :
    Option (ReadState × List Char) → Option (ReadState × List Char) :=
  Option.map fun r => (r.1.within g, r.2)

variable {g : OpenGroup}

theorem mapWithin_ite {P : Prop} [Decidable P] (x y : Option (ReadState × List Char)) :
    mapWithin g (if P then x else y) = if P then mapWithin g x else mapWithin g y :=
  apply_ite _ _ _ _

theorem mapWithin_bind {α : Type} (o : Option α) (k : α → Option (ReadState × List Char)) :
    mapWithin g (o >>= k) = o >>= fun x => mapWithin g (k x) := by
  cases o <;> rfl

theorem mapWithin_map {α : Type} (o : Option α) (f : α → ReadState × List Char) :
    mapWithin g (o.map f) = o.map fun x => ((f x).1.within g, (f x).2) := by
  cases o <;> rfl

theorem openNamed_within (cs : List Char) :
    (st.within g).openNamed cs = mapWithin g (st.openNamed cs) := by
  unfold openNamed
  split
  · rw [mapWithin_ite]
    rfl
  · rfl

theorem readFlagged_within (cs : List Char) :
    (st.within g).readFlagged cs = mapWithin g (st.readFlagged cs) := by
  unfold readFlagged
  rw [mapWithin_bind]
  congr 1
  funext x
  rw [mapWithin_ite, mapWithin_ite]
  rfl

theorem readMarked_within (cs : List Char) :
    (st.within g).readMarked cs = mapWithin g (st.readMarked cs) := by
  unfold readMarked
  split
  · exact openNamed_within _
  · exact openNamed_within _
  · exact readFlagged_within _

theorem readGroup_within (cs : List Char) :
    (st.within g).readGroup cs = mapWithin g (st.readGroup cs) := by
  unfold readGroup
  split
  · exact readMarked_within _
  · rfl

theorem repeatLast_within (low : Nat) (high : Option Nat) (isLazy : Bool) :
    (st.within g).repeatLast low high isLazy = (st.repeatLast low high isLazy).map (within · g) := by
  obtain ⟨⟨items, finished⟩, stack, flags, names⟩ := st
  cases items with
  | nil => rfl
  | cons p before => cases p <;> rfl

theorem readRepeated_within (low : Nat) (high : Option Nat) (cs : List Char) :
    (st.within g).readRepeated low high cs = mapWithin g (st.readRepeated low high cs) := by
  unfold readRepeated
  dsimp only
  rw [repeatLast_within, mapWithin_map, Option.map_map]
  rfl

/-- Only a closing parenthesis looks at the groups that are open. -/
theorem step_within {c : Char} (hc : c ≠ ')') (rest : List Char) :
    (st.within g).step c rest = mapWithin g (st.step c rest) := by
  unfold step
  simp only [mapWithin_ite, mapWithin_map, mapWithin_bind, if_neg hc]
  refine ite_congr rfl (fun _ => readGroup_within _) fun _ => ?_
  refine ite_congr rfl (fun _ => rfl) fun _ => ?_
  refine ite_congr rfl (fun _ => rfl) fun _ => ?_
  refine ite_congr rfl (fun _ => readRepeated_within _ _ _) fun _ => ?_
  refine ite_congr rfl (fun _ => readRepeated_within _ _ _) fun _ => ?_
  refine ite_congr rfl (fun _ => readRepeated_within _ _ _) fun _ => ?_
  refine ite_congr rfl (fun _ => bind_congr fun x => readRepeated_within _ _ _) fun _ => ?_
  exact ite_congr rfl (fun _ => bind_congr fun x => rfl) fun _ => rfl

/-- A group that is closed is further in. -/
theorem closeGroup_within {st' : ReadState} (h : st.closeGroup = some st') :
    (st.within g).closeGroup = some (st'.within g) := by
  obtain ⟨current, stack, flags, names⟩ := st
  cases stack with
  | nil => cases h
  | cons outer stack =>
    obtain rfl := Option.some.inj h
    rfl

theorem step_within_of_eq_some {st' : ReadState} {c : Char} {rest rest' : List Char}
    (h : st.step c rest = some (st', rest')) :
    (st.within g).step c rest = some (st'.within g, rest') := by
  by_cases hc : c = ')'
  · subst hc
    obtain ⟨closed, hclosed, heq⟩ := Option.map_eq_some_iff.1 (show
      st.closeGroup.map (fun st => (st, rest)) = some (st', rest') from h)
    obtain ⟨rfl, rfl⟩ := Prod.mk.inj heq
    exact Option.map_eq_some_iff.2 ⟨_, closeGroup_within hclosed, rfl⟩
  · rw [step_within hc, h]
    rfl

/-! ## Whole texts -/

theorem run_of_skip_eq_nil {n : Nat} {cs : List Char} (h : skip st.flags cs = []) :
    run (n + 1) st cs = some st := by
  rw [run, h]

theorem skip_closing (fs : Flags) : skip fs closing = closing := by
  unfold skip
  split <;> rfl

theorem run_of_skip_eq {n : Nat} {cs : List Char} (h : skip st.flags cs = closing) :
    run (n + 1) st cs = run (n + 1) st closing := by
  rw [run, run, h, skip_closing]

theorem run_of_step {n : Nat} {st' : ReadState} {c : Char} {cs rest rest' : List Char}
    (hskip : skip st.flags cs = c :: rest) (h : st.step c rest = some (st', rest')) :
    run (n + 1) st cs = run n st' rest' := by
  rw [run, hskip]
  dsimp only
  rw [h]

/-- The reading of a text within a group, where `)$` follows: it comes to the end in the same state,
unless a comment takes what follows. -/
theorem run_within {n m : Nat} (hnm : n + 2 ≤ m) {st st' : ReadState} {cs cs' : List Char}
    (hj : Joined cs cs') (h : run n st cs = some st') :
    run m (st.within g) cs' = some (st'.within g) ∨
      ∃ k, run m (st.within g) cs' = run (k + 3) (st'.within g) closing := by
  induction n generalizing m st cs cs' with
  | zero => cases h
  | succ n ih =>
    obtain ⟨m, rfl⟩ := Nat.exists_eq_succ_of_ne_zero (Nat.ne_zero_of_lt hnm)
    have hskip := hj.skip st.flags
    cases hcs : skip st.flags cs with
    | nil =>
      rw [run_of_skip_eq_nil hcs] at h
      obtain rfl := Option.some.inj h
      rw [hcs] at hskip
      rcases hskip with hcs' | hcs'
      · obtain ⟨k, rfl⟩ := Nat.exists_eq_add_of_le' (Nat.le_of_add_left_le (show n + 2 ≤ m by omega))
        exact .inr ⟨k, run_of_skip_eq hcs'⟩
      · exact .inl (run_of_skip_eq_nil hcs')
    | cons c rest =>
      rw [hcs] at hskip
      obtain ⟨rest', hcs', hrest⟩ := hskip.of_cons
      cases hstep : st.step c rest with
      | none =>
        rw [run, hcs] at h
        dsimp only at h
        rw [hstep] at h
        cases h
      | some r =>
        obtain ⟨next, mid⟩ := r
        rw [run_of_step hcs hstep] at h
        obtain ⟨mid', hstep', hmid⟩ := stable_step c hrest hstep
        have hwithin : run (m + 1) (st.within g) cs' = run m (next.within g) mid' :=
          run_of_step hcs' (step_within_of_eq_some hstep')
        rw [hwithin]
        exact ih (by omega) hmid h

/-- The two characters after a text that closes all groups of its own: the group around it, and the
assertion that the end of the text is reached. -/
theorem run_closing (k : Nat) (h : st.stack = []) (hg : g.flags = .initial) :
    run (k + 3) (st.within g) closing =
      some ⟨(g.before.add (.group g.captures st.current.toPattern)).add (.check .textEnd), [],
        .initial, st.names⟩ := by
  obtain ⟨current, stack, flags, names⟩ := st
  obtain ⟨before, captures, flags'⟩ := g
  obtain rfl : stack = [] := h
  obtain rfl : flags' = .initial := hg
  rw [run_of_step (skip_closing _) rfl]
  rfl

end ReadState

open ReadState

/-- The pattern between anchors. -/
def whole (p : Pattern) : Pattern :=
  .seq (.check .textStart) (.seq (.group false p) (.check .textEnd))

theorem finish_eq_some_iff {st : ReadState} {p : Pattern} :
    st.finish = some p ↔ st.stack = [] ∧ st.current.toPattern = p := by
  unfold finish
  cases st.stack <;> simp

/-- The group that the text between the anchors is read within. -/
def anchorGroup : OpenGroup :=
  ⟨Branches.start.add (.check .textStart), false, .initial⟩

/-- **A pattern between anchors** is the pattern in a group between the assertions, or no pattern. -/
theorem parse?_anchored {cs : List Char} {p : Pattern} (h : parse? cs = some p) :
    parse? ('^' :: '(' :: '?' :: ':' :: (cs ++ closing)) = some (whole p) ∨
      parse? ('^' :: '(' :: '?' :: ':' :: (cs ++ closing)) = none := by
  obtain ⟨st, hrun, hfinish⟩ := Option.bind_eq_some_iff.1 h
  obtain ⟨hstack, rfl⟩ := finish_eq_some_iff.1 hfinish
  have hstart : parse? ('^' :: '(' :: '?' :: ':' :: (cs ++ closing)) =
      (run (cs.length + 5) (ReadState.initial.within anchorGroup) (cs ++ closing)).bind finish := by
    unfold parse?
    simp only [List.length_cons, List.length_append, closing, List.length_nil]
    rfl
  rw [hstart]
  rcases run_within (g := anchorGroup) (show cs.length + 1 + 2 ≤ cs.length + 5 by omega)
    (.append cs) hrun with hend | ⟨k, hend⟩
  · right
    rw [hend]
    unfold within finish
    rw [hstack]
    rfl
  · left
    rw [hend, run_closing k hstack rfl]
    rfl

end GameTips.Pattern
