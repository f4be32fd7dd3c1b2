import GameTips.Proofs.Json.Reading

/-!
# Values are read back from their indented text

A value without binary64 numbers is read back from the text with a line for every item and member
(`Json.reads_prettyChars`), if it is sorted and fits the levels that the reader allows, as every value
that was read does. A text stands for a value if the reader takes exactly the text off the front and
gives the value, whatever follows that does not go on with a number (`Reader.Reads`). For a block this
follows from the same for its entries (`reads_block`).

Binary64 numbers are left out because the reader rounds them in two steps, so it may not give the
number that was written.
-/

namespace GameTips.Json

/-! ## Values without binary64 numbers -/

mutual

/-- Whether there is no binary64 number in the value. -/
def FloatFree : Json → Prop
  | .float _ => False
  | .arr items => FloatFreeItems items
  | .obj members => FloatFreeMembers members
  | _ => True

def FloatFreeItems : List Json → Prop
  | [] => True
  | x :: xs => x.FloatFree ∧ FloatFreeItems xs

/-- Whether there is no binary64 number in the value of any member. -/
def FloatFreeMembers : List (String × Json) → Prop
  | [] => True
  | (_, x) :: xs => x.FloatFree ∧ FloatFreeMembers xs

end

/-! ## Blanks -/

theorem skipBlanks_append {blanks : List Char} (h : ∀ c ∈ blanks, isBlank c = true)
    (cs : List Char) : skipBlanks (blanks ++ cs) = skipBlanks cs :=
  List.dropWhile_append_of_pos h

theorem skipBlanks_cons {c : Char} (h : isBlank c = false) (cs : List Char) :
    skipBlanks (c :: cs) = c :: cs := by
  rw [skipBlanks, List.dropWhile_cons, h]
  rfl

@[simp] theorem skipBlanks_skipBlanks (cs : List Char) : skipBlanks (skipBlanks cs) = skipBlanks cs := by
  induction cs with
  | nil => rfl
  | cons c cs ih =>
    cases hc : isBlank c with
    | false => rw [skipBlanks_cons hc, skipBlanks_cons hc]
    | true =>
      have hskip : skipBlanks ([c] ++ cs) = skipBlanks cs :=
        skipBlanks_append (by simpa using hc) cs
      rw [List.singleton_append] at hskip
      rw [hskip, ih]

theorem isBlank_of_mem_newLine {level : Nat} {c : Char} (h : c ∈ newLine level) : isBlank c = true := by
  rcases List.mem_cons.1 h with rfl | h
  · rfl
  · rw [(List.mem_replicate.1 h).2]
    rfl

theorem skipBlanks_newLine (level : Nat) (cs : List Char) :
    skipBlanks (newLine level ++ cs) = skipBlanks cs :=
  skipBlanks_append (fun _ => isBlank_of_mem_newLine) cs

/-! ## Texts that stand for a value -/

namespace Reader

variable {α : Type}

/-- Blanks before what is read do not matter. -/
def SkipsBlanks (r : Reader α) : Prop :=
  ∀ cs, r (skipBlanks cs) = r cs

/-- The text stands for a value: it starts with neither a blank nor a closing bracket, and it is taken
off the front of any longer text that does not go on with a number. -/
structure Reads (r : Reader α) (text : List Char) (x : α) : Prop where
  starts : ∃ c cs, text = c :: cs ∧ isBlank c = false ∧ c ≠ ']' ∧ c ≠ '}'
  takes : ∀ {rest}, EndsNumber rest → r (text ++ rest) = .ok (x, rest)

theorem Reads.skipBlanks_append {r : Reader α} {text : List Char} {x : α} (h : r.Reads text x)
    (rest : List Char) : skipBlanks (text ++ rest) = text ++ rest := by
  obtain ⟨c, cs, rfl, hblank, -⟩ := h.starts
  exact skipBlanks_cons hblank (cs ++ rest)

theorem Reads.takes_line {r : Reader α} {text : List Char} {x : α} (h : r.Reads text x)
    (hr : r.SkipsBlanks) (level : Nat) {rest : List Char} (hrest : EndsNumber rest) :
    r (newLine level ++ text ++ rest) = .ok (x, rest) := by
  rw [← hr, List.append_assoc, skipBlanks_newLine, h.skipBlanks_append, h.takes hrest]

theorem Reads.takes_blank {r : Reader α} {text : List Char} {x : α} (h : r.Reads text x)
    (hr : r.SkipsBlanks) {rest : List Char} (hrest : EndsNumber rest) :
    r (' ' :: text ++ rest) = .ok (x, rest) := by
  rw [← hr, List.cons_append]
  exact (congrArg r (h.skipBlanks_append rest)).trans (h.takes hrest)

end Reader

theorem endsNumber_of_head {c : Char} {cs : List Char}
    (h : c.isDigit = false ∧ c ≠ '.' ∧ c ≠ 'e' ∧ c ≠ 'E') : EndsNumber (c :: cs) := by
  intro d hd
  obtain rfl := Option.some.inj hd
  exact h

theorem endsNumber_newLine (level : Nat) (cs : List Char) : EndsNumber (newLine level ++ cs) :=
  endsNumber_of_head (by decide)

theorem endsNumber_comma (cs : List Char) : EndsNumber (',' :: cs) :=
  endsNumber_of_head (by decide)

/-! ## Blocks -/

section Block

variable {α : Type} {r : Reader α} {closing : Char}

theorem readEntries_last {x : α} {fuel : Nat} {cs mid rest : List Char} (hx : r cs = .ok (x, mid))
    (hmid : skipBlanks mid = closing :: rest) :
    readEntries r closing (fuel + 1) cs = .ok ([x], rest) := by
  rw [readEntries, hx]
  dsimp only [bind, Except.bind]
  rw [hmid]
  exact if_pos rfl

theorem readEntries_comma {x : α} {xs : List α} {fuel : Nat} {cs more rest : List Char}
    (hclosing : ',' ≠ closing) (hx : r cs = .ok (x, ',' :: more))
    (hxs : readEntries r closing fuel more = .ok (xs, rest)) :
    readEntries r closing (fuel + 1) cs = .ok (x :: xs, rest) := by
  rw [readEntries, hx]
  dsimp only [bind, Except.bind]
  rw [skipBlanks_cons (by decide)]
  dsimp only
  rw [if_neg hclosing, if_pos rfl, hxs]

theorem commaSeparated_cons_cons (x y : List Char) (xs : List (List Char)) :
    commaSeparated (x :: y :: xs) = x ++ ',' :: commaSeparated (y :: xs) := rfl

/-- A bracket that closes a block. -/
def IsClosing (c : Char) : Prop := c = ']' ∨ c = '}'

theorem IsClosing.isBlank_eq_false (h : IsClosing closing) : isBlank closing = false := by
  rcases h with rfl | rfl <;> rfl

theorem IsClosing.ne_comma (h : IsClosing closing) : ',' ≠ closing := by
  rcases h with rfl | rfl <;> decide

/-- Entries on lines of their own are read one after the other: all but the last are followed by a
comma, and the last one by the line of the closing bracket. -/
theorem readEntries_lines (hr : r.SkipsBlanks) (hclosing : IsClosing closing) {texts : List (List Char)}
    {xs : List α} (h : List.Forall₂ r.Reads texts xs) (hne : texts ≠ []) (level outer : Nat)
    {fuel : Nat} (hfuel : texts.length ≤ fuel) (rest : List Char) :
    readEntries r closing fuel
      (commaSeparated (texts.map (newLine level ++ ·)) ++ (newLine outer ++ closing :: rest)) =
        .ok (xs, rest) := by
  induction h generalizing fuel with
  | nil => exact absurd rfl hne
  | @cons text x texts xs hx hxs ih =>
    obtain ⟨fuel, rfl⟩ : ∃ n, fuel = n + 1 := ⟨fuel - 1, by simp only [List.length_cons] at hfuel; omega⟩
    cases hxs with
    | nil =>
      refine readEntries_last (hx.takes_line hr level (endsNumber_newLine _ _)) ?_
      rw [skipBlanks_newLine, skipBlanks_cons hclosing.isBlank_eq_false]
    | cons hy hys =>
      have hmore := ih (List.cons_ne_nil _ _) (Nat.le_of_succ_le_succ hfuel)
      refine readEntries_comma hclosing.ne_comma ?_ hmore
      rw [List.map_cons, List.map_cons, commaSeparated_cons_cons, List.append_assoc]
      exact hx.takes_line hr level (endsNumber_comma _)

/-- What stands after the opening bracket of a block. -/
def blockRest (closing : Char) (level : Nat) (texts : List (List Char)) : List Char :=
  if texts.isEmpty then [closing]
  else commaSeparated (texts.map (newLine (level + 1) ++ ·)) ++ newLine level ++ [closing]

theorem indentedBlock_eq (opening closing : Char) (level : Nat) (texts : List (List Char)) :
    indentedBlock opening closing level texts = opening :: blockRest closing level texts := by
  unfold indentedBlock blockRest
  split <;> rfl

theorem length_le_commaSeparated (level : Nat) (texts : List (List Char)) :
    texts.length ≤ (commaSeparated (texts.map (newLine level ++ ·))).length := by
  induction texts with
  | nil => exact Nat.zero_le _
  | cons text texts ih =>
    cases texts with
    | nil => simp [commaSeparated, newLine]
    | cons next texts =>
      rw [List.map_cons] at ih
      rw [List.map_cons, List.map_cons, commaSeparated_cons_cons]
      simp only [List.length_append, List.length_cons] at ih ⊢
      omega

theorem commaSeparated_map_cons (level : Nat) (text : List Char) (texts : List (List Char)) :
    ∃ more, commaSeparated ((text :: texts).map (newLine level ++ ·)) = newLine level ++ (text ++ more) := by
  cases texts with
  | nil => exact ⟨[], by rw [List.append_nil]; rfl⟩
  | cons next texts =>
    refine ⟨',' :: commaSeparated ((next :: texts).map (newLine level ++ ·)), ?_⟩
    rw [List.map_cons, List.map_cons, commaSeparated_cons_cons, List.append_assoc]

theorem skipBlanks_commaSeparated {texts : List (List Char)} {xs : List α}
    (h : List.Forall₂ r.Reads texts xs) (hne : texts ≠ []) (level : Nat) (rest : List Char) :
    ∃ c cs, skipBlanks (commaSeparated (texts.map (newLine level ++ ·)) ++ rest) = c :: cs ∧
      ¬ IsClosing c := by
  cases h with
  | nil => exact absurd rfl hne
  | @cons text x texts xs hx hxs =>
    obtain ⟨more, hmore⟩ := commaSeparated_map_cons level text texts
    obtain ⟨c, cs, rfl, hblank, hbracket, hbrace⟩ := hx.starts
    refine ⟨c, cs ++ more ++ rest, ?_, ?_⟩
    · rw [hmore, List.append_assoc, skipBlanks_newLine]
      exact skipBlanks_cons hblank _
    · rintro (rfl | rfl)
      · exact hbracket rfl
      · exact hbrace rfl

/-- **A block is read if its entries are.** -/
theorem readBlock_blockRest (hr : r.SkipsBlanks) (hclosing : IsClosing closing)
    {texts : List (List Char)} {xs : List α} (h : List.Forall₂ r.Reads texts xs) (level : Nat)
    (rest : List Char) : readBlock r closing (blockRest closing level texts ++ rest) = .ok (xs, rest) := by
  by_cases hempty : texts = []
  · subst hempty
    cases h
    show readBlock r closing (closing :: rest) = _
    rw [readBlock, skipBlanks_cons hclosing.isBlank_eq_false]
    exact if_pos rfl
  · have htext : blockRest closing level texts ++ rest =
        commaSeparated (texts.map (newLine (level + 1) ++ ·)) ++ (newLine level ++ closing :: rest) := by
      rw [blockRest, if_neg (by simpa using hempty)]
      simp
    obtain ⟨c, cs, hskip, hc⟩ :=
      skipBlanks_commaSeparated h hempty (level + 1) (newLine level ++ closing :: rest)
    rw [htext, readBlock, hskip]
    dsimp only
    rw [if_neg (fun heq : c = closing => hc (heq ▸ hclosing))]
    refine readEntries_lines hr hclosing h hempty _ _ ?_ rest
    rw [List.length_append]
    exact Nat.le_trans (length_le_commaSeparated _ _) (Nat.le_add_right _ _)

end Block

/-! ## Values -/

section Values

variable {lenient : Bool} {d : Nat}

theorem skipsBlanks_readValue : (readValue lenient d).SkipsBlanks := by
  intro cs
  unfold readValue
  rw [skipBlanks_skipBlanks]

theorem skipsBlanks_readMember : (readMember lenient (readValue lenient d)).SkipsBlanks := by
  intro cs
  unfold readMember readKey
  rw [skipBlanks_skipBlanks]

theorem readValue_null (cs : List Char) :
    readValue lenient d ('n' :: 'u' :: 'l' :: 'l' :: cs) = .ok (.null, cs) := by
  unfold readValue
  rw [skipBlanks_cons (by decide)]
  rfl

theorem readValue_true (cs : List Char) :
    readValue lenient d ('t' :: 'r' :: 'u' :: 'e' :: cs) = .ok (.bool true, cs) := by
  unfold readValue
  rw [skipBlanks_cons (by decide)]
  rfl

theorem readValue_false (cs : List Char) :
    readValue lenient d ('f' :: 'a' :: 'l' :: 's' :: 'e' :: cs) = .ok (.bool false, cs) := by
  unfold readValue
  rw [skipBlanks_cons (by decide)]
  rfl

theorem readValue_quote (cs : List Char) :
    readValue lenient d ('"' :: cs) =
      match stringBody lenient cs with
      | some (s, rest) => .ok (.str s, rest)
      | none => .error .malformed := by
  unfold readValue
  rw [skipBlanks_cons (by decide)]
  rfl

theorem readValue_bracket (cs : List Char) :
    readValue lenient (d + 1) ('[' :: cs) =
      (readBlock (readValue lenient d) ']' cs).map fun r => (.arr r.1, r.2) := by
  rw [readValue, skipBlanks_cons (by decide)]
  rfl

theorem readValue_brace (cs : List Char) :
    readValue lenient (d + 1) ('{' :: cs) =
      (readBlock (readMember lenient (readValue lenient d)) '}' cs).map fun r =>
        (ofMembers r.1, r.2) := by
  rw [readValue, skipBlanks_cons (by decide)]
  rfl

/-- Whether a number can start with the character. -/
def StartsNumber (c : Char) : Prop := c = '-' ∨ c.isDigit = true

theorem StartsNumber.isBlank_eq_false {c : Char} (h : StartsNumber c) : isBlank c = false := by
  cases hblank : isBlank c with
  | false => rfl
  | true =>
    simp only [isBlank, Bool.or_eq_true, beq_iff_eq] at hblank
    rcases hblank with ((rfl | rfl) | rfl) | rfl <;> exact absurd h (by unfold StartsNumber; decide)

theorem readValue_of_startsNumber {c : Char} (h : StartsNumber c) (cs : List Char) :
    readValue lenient d (c :: cs) = readNumber lenient (c :: cs) := by
  unfold readValue
  rw [skipBlanks_cons h.isBlank_eq_false]
  split
  case h_7 => rfl
  all_goals
    next heq =>
      obtain ⟨rfl, -⟩ := List.cons.inj heq
      exact absurd h (by unfold StartsNumber; decide)

theorem exists_intText (n : Int) : ∃ c cs, intText n = c :: cs ∧ StartsNumber c := by
  unfold intText
  split
  · exact ⟨'-', _, rfl, .inl rfl⟩
  · cases hds : Nat.toDigits 10 n.natAbs with
    | nil => exact absurd hds Nat.toDigits_ne_nil
    | cons c cs => exact ⟨c, cs, rfl, .inr (isDigit_of_mem_toDigits (hds ▸ List.mem_cons_self))⟩

theorem reads_intText {n : Int} (hn : IsWord64 n) :
    (readValue lenient d).Reads (intText n) (.int n) := by
  obtain ⟨c, cs, htext, hc⟩ := exists_intText n
  refine ⟨⟨c, cs, htext, hc.isBlank_eq_false, ?_, ?_⟩, fun {rest} hrest => ?_⟩
  · rintro rfl
    exact absurd hc (by unfold StartsNumber; decide)
  · rintro rfl
    exact absurd hc (by unfold StartsNumber; decide)
  · rw [htext, List.cons_append, readValue_of_startsNumber hc, ← List.cons_append, ← htext]
    exact readNumber_intText lenient hn hrest

theorem quote_append (s : String) (rest : List Char) :
    quote s ++ rest = '"' :: (s.toList.flatMap escape ++ '"' :: rest) := by
  simp [quote]

theorem reads_quote (s : String) : (readValue lenient d).Reads (quote s) (.str s) where
  starts := ⟨'"', _, rfl, by decide⟩
  takes {rest} _ := by
    rw [quote_append, readValue_quote, stringBody_quote]

theorem reads_arr {texts : List (List Char)} {items : List Json}
    (h : List.Forall₂ (readValue lenient d).Reads texts items) (level : Nat) :
    (readValue lenient (d + 1)).Reads (indentedBlock '[' ']' level texts) (.arr items) where
  starts := ⟨'[', _, indentedBlock_eq _ _ _ _, by decide⟩
  takes {rest} _ := by
    rw [indentedBlock_eq, List.cons_append, readValue_bracket,
      readBlock_blockRest skipsBlanks_readValue (.inl rfl) h]
    rfl

theorem readKey_cons (cs : List Char) :
    readKey lenient ('"' :: cs) =
      match stringBody lenient cs with
      | none => .error .malformed
      | some (key, rest) =>
        match skipBlanks rest with
        | ':' :: rest => .ok (key, rest)
        | _ => .error .malformed := by
  unfold readKey
  rw [skipBlanks_cons (by decide)]
  rfl

theorem readKey_quote (key : String) (rest : List Char) :
    readKey lenient (quote key ++ ':' :: rest) = .ok (key, rest) := by
  rw [quote_append, readKey_cons, stringBody_quote]
  rfl

theorem reads_member {text : List Char} {v : Json} (h : (readValue lenient d).Reads text v)
    (key : String) :
    (readMember lenient (readValue lenient d)).Reads (quote key ++ ':' :: ' ' :: text) (key, v) where
  starts := ⟨'"', _, rfl, by decide⟩
  takes {rest} hrest := by
    unfold readMember
    rw [List.append_assoc, List.cons_append, readKey_quote]
    dsimp only [bind, Except.bind]
    rw [h.takes_blank skipsBlanks_readValue hrest]

theorem reads_obj {texts : List (List Char)} {members : List (String × Json)}
    (h : List.Forall₂ (readMember lenient (readValue lenient d)).Reads texts members)
    (hrising : (members.map Prod.fst).Pairwise (· < ·)) (level : Nat) :
    (readValue lenient (d + 1)).Reads (indentedBlock '{' '}' level texts) (.obj members) where
  starts := ⟨'{', _, indentedBlock_eq _ _ _ _, by decide⟩
  takes {rest} _ := by
    have hsame : ofMembers members = .obj members :=
      congrArg Json.obj (eq_of_get?_eq (pairwise_keys_collected members) hrising
        (get?_collected (nodup_of_rising hrising)))
    rw [indentedBlock_eq, List.cons_append, readValue_brace,
      readBlock_blockRest skipsBlanks_readMember (.inr rfl) h, ← hsame]
    rfl

end Values

mutual

/-- **A value is read back from its indented text.** -/
theorem reads_prettyChars {lenient : Bool} {d : Nat} (level : Nat) : ∀ {v : Json}, v.Fits d →
    v.Sorted → v.FloatFree → (readValue lenient d).Reads (v.prettyChars level) v
  | .null, _, _, _ => ⟨⟨'n', _, rfl, by decide⟩, fun {rest} _ => readValue_null rest⟩
  | .bool true, _, _, _ => ⟨⟨'t', _, rfl, by decide⟩, fun {rest} _ => readValue_true rest⟩
  | .bool false, _, _, _ => ⟨⟨'f', _, rfl, by decide⟩, fun {rest} _ => readValue_false rest⟩
  | .int _, hfits, _, _ => reads_intText hfits
  | .str s, _, _, _ => reads_quote s
  | .arr items, hfits, hsorted, hfloat => by
    obtain ⟨hlevels, hfits⟩ := hfits
    obtain ⟨d, rfl⟩ := Nat.exists_eq_succ_of_ne_zero (Nat.ne_of_gt hlevels)
    exact reads_arr (reads_prettyItems (level + 1) hfits hsorted hfloat) level
  | .obj members, hfits, ⟨hrising, hsorted⟩, hfloat => by
    obtain ⟨hlevels, hfits⟩ := hfits
    obtain ⟨d, rfl⟩ := Nat.exists_eq_succ_of_ne_zero (Nat.ne_of_gt hlevels)
    exact reads_obj (reads_prettyMembers (level + 1) hfits hsorted hfloat) hrising level

theorem reads_prettyItems {lenient : Bool} {d : Nat} (level : Nat) : ∀ {items : List Json},
    FitsItems d items → SortedItems items → FloatFreeItems items →
    List.Forall₂ (readValue lenient d).Reads (prettyItems level items) items
  | [], _, _, _ => .nil
  | _ :: _, ⟨hfits, hmoreFit⟩, ⟨hsorted, hmoreSorted⟩, ⟨hfloat, hmoreFloat⟩ =>
    .cons (reads_prettyChars level hfits hsorted hfloat)
      (reads_prettyItems level hmoreFit hmoreSorted hmoreFloat)

theorem reads_prettyMembers {lenient : Bool} {d : Nat} (level : Nat) :
    ∀ {members : List (String × Json)}, FitsMembers d members → SortedMembers members →
    FloatFreeMembers members →
    List.Forall₂ (readMember lenient (readValue lenient d)).Reads (prettyMembers level members) members
  | [], _, _, _ => .nil
  | (key, _) :: _, ⟨hfits, hmoreFit⟩, ⟨hsorted, hmoreSorted⟩, ⟨hfloat, hmoreFloat⟩ =>
    .cons (reads_member (reads_prettyChars level hfits hsorted hfloat) key)
      (reads_prettyMembers level hmoreFit hmoreSorted hmoreFloat)

end

end GameTips.Json
