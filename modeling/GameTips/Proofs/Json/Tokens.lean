import GameTips.Json.Reader

/-!
# Tokens are read as they are written

What the printer writes for a string or an integer is read back as that string or integer, whatever
follows (`stringBody_quote`, `readNumber_intText`). A string ends with its quote. An integer ends where
no digit, point or exponent follows (`EndsNumber`).
-/

namespace GameTips.Json

/-! ## Strings -/

/-- A control character is read from the two digits that are written for it. -/
theorem hex4?_escaped :
    ∀ n < 0x20, hex4? '0' '0' (hexDigit (n / 16)) (hexDigit (n % 16)) = some n := by
  decide

theorem joinParts_code {n : Nat} (hn : n < 0x20) (ps : List StringPart) :
    joinParts (.code n :: ps) = (joinParts ps).map (Char.ofNat n :: ·) := by
  have hhigh : isHighSurrogate n = false :=
    Bool.and_eq_false_iff.2 (.inl (decide_eq_false (by omega)))
  have hlow : isLowSurrogate n = false :=
    Bool.and_eq_false_iff.2 (.inl (decide_eq_false (by omega)))
  rw [joinParts.eq_def]
  dsimp only
  rw [hhigh, hlow, if_neg Bool.false_ne_true, if_neg Bool.false_ne_true]

theorem stringParts_of_plain {c : Char} (hquote : c ≠ '"') (hslash : c ≠ '\\') (hc : ¬ c.toNat < 0x20)
    (cs : List Char) :
    stringParts (c :: cs) = (stringParts cs).map fun r => (.char c :: r.1, r.2) := by
  rw [stringParts.eq_5 c cs hquote (fun _ _ _ _ _ h => absurd h hslash) fun _ _ h => absurd h hslash,
    if_neg (not_or.2 ⟨hc, hslash⟩)]

theorem stringParts_of_short {c x : Char} (hc : c ≠ 'u') (hx : shortEscape? c = some x)
    (cs : List Char) :
    stringParts ('\\' :: c :: cs) = (stringParts cs).map fun r => (.char x :: r.1, r.2) := by
  rw [stringParts.eq_4 c cs fun _ _ _ _ _ h => absurd h hc, hx]

/-- A character is written as one letter after a backslash, as the digits of its code, or as it is. -/
theorem escape_cases (c : Char) :
    (∃ x, escape c = ['\\', x] ∧ x ≠ 'u' ∧ shortEscape? x = some c) ∨
    (c.toNat < 0x20 ∧
      escape c = ['\\', 'u', '0', '0', hexDigit (c.toNat / 16), hexDigit (c.toNat % 16)]) ∨
    (escape c = [c] ∧ c ≠ '"' ∧ c ≠ '\\' ∧ ¬ c.toNat < 0x20) := by
  have hshort : ∀ d ∈ ['"', '\\', '\x08', '\x0c', '\n', '\r', '\t'],
      ∃ x, escape d = ['\\', x] ∧ x ≠ 'u' ∧ shortEscape? x = some d := by
    simp only [List.forall_mem_cons]
    exact ⟨⟨'"', by decide⟩, ⟨'\\', by decide⟩, ⟨'b', by decide⟩, ⟨'f', by decide⟩, ⟨'n', by decide⟩,
      ⟨'r', by decide⟩, ⟨'t', by decide⟩, List.forall_mem_nil _⟩
  by_cases hc : c ∈ ['"', '\\', '\x08', '\x0c', '\n', '\r', '\t']
  · exact .inl (hshort c hc)
  · simp only [List.mem_cons, List.not_mem_nil, or_false, not_or] at hc
    obtain ⟨hquote, hslash, hb, hf, hn, hr, ht⟩ := hc
    unfold escape
    rw [if_neg hquote, if_neg hslash, if_neg hb, if_neg hf, if_neg hn, if_neg hr, if_neg ht]
    by_cases hcontrol : c.toNat < 0x20
    · exact .inr (.inl ⟨hcontrol, if_pos hcontrol⟩)
    · exact .inr (.inr ⟨if_neg hcontrol, hquote, hslash, hcontrol⟩)

/-- What is written for a character is read as one piece of the string, which stands for the
character. -/
theorem exists_part (c : Char) :
    ∃ p : StringPart,
      (∀ cs, stringParts (escape c ++ cs) = (stringParts cs).map fun r => (p :: r.1, r.2)) ∧
      ∀ ps, joinParts (p :: ps) = (joinParts ps).map (c :: ·) := by
  rcases escape_cases c with ⟨x, hc, hu, hx⟩ | ⟨hcontrol, hc⟩ | ⟨hc, hquote, hslash, hcontrol⟩
  · refine ⟨.char c, fun cs => ?_, fun ps => rfl⟩
    rw [hc]
    exact stringParts_of_short hu hx cs
  · refine ⟨.code c.toNat, fun cs => ?_, fun ps => ?_⟩
    · rw [hc]
      simp only [List.cons_append, List.nil_append]
      rw [stringParts, hex4?_escaped _ hcontrol]
    · rw [joinParts_code hcontrol, Char.ofNat_toNat]
  · refine ⟨.char c, fun cs => ?_, fun ps => rfl⟩
    rw [hc]
    exact stringParts_of_plain hquote hslash hcontrol cs

theorem exists_parts (cs rest : List Char) :
    ∃ ps, stringParts (cs.flatMap escape ++ '"' :: rest) = some (ps, rest) ∧
      joinParts ps = some cs := by
  induction cs with
  | nil => exact ⟨[], by simp [stringParts], rfl⟩
  | cons c cs ih =>
    obtain ⟨ps, hparts, hjoin⟩ := ih
    obtain ⟨p, hp, hc⟩ := exists_part c
    refine ⟨p :: ps, ?_, ?_⟩
    · rw [List.flatMap_cons, List.append_assoc, hp, hparts]
      rfl
    · rw [hc, hjoin]
      rfl

/-- **A string is read from what is written for it**, up to its closing quote. -/
theorem stringBody_quote (lenient : Bool) (s : String) (rest : List Char) :
    stringBody lenient (s.toList.flatMap escape ++ '"' :: rest) = some (s, rest) := by
  obtain ⟨ps, hparts, hjoin⟩ := exists_parts s.toList rest
  rw [stringBody, hparts]
  dsimp only
  rw [hjoin]
  dsimp only
  rw [String.ofList_toList]

theorem readString_quote (s : String) (rest : List Char) :
    readString (s.toList.flatMap escape ++ '"' :: rest) = .ok (s, rest) := by
  unfold readString Reader.ofOption
  rw [stringBody_quote]

/-! ## Integers -/

/-- Whether a number ends before the text: no digit, point or exponent follows. -/
def EndsNumber (rest : List Char) : Prop :=
  ∀ c ∈ rest.head?, c.isDigit = false ∧ c ≠ '.' ∧ c ≠ 'e' ∧ c ≠ 'E'

/-- Whether an integer has 64 bits, with a sign if it is negative. -/
def IsWord64 (n : Int) : Prop :=
  -(negativeLimit : Int) ≤ n ∧ n < significandLimit

section EndsNumber

variable {rest : List Char} (h : EndsNumber rest)

include h

theorem takeWhile_isDigit_append {ds : List Char} (hds : ∀ d ∈ ds, d.isDigit = true) :
    (ds ++ rest).takeWhile Char.isDigit = ds := by
  rw [List.takeWhile_append_of_pos hds]
  cases rest with
  | nil => exact List.append_nil ds
  | cons c rest => simp [(h c rfl).1]

theorem dropWhile_isDigit_append {ds : List Char} (hds : ∀ d ∈ ds, d.isDigit = true) :
    (ds ++ rest).dropWhile Char.isDigit = rest := by
  rw [List.dropWhile_append_of_pos hds]
  cases rest with
  | nil => rfl
  | cons c rest => simp [(h c rfl).1]

theorem fractionText_of_endsNumber : fractionText rest = some (none, rest) := by
  unfold fractionText
  split
  · next cs => exact absurd rfl (h '.' rfl).2.1
  · rfl

theorem exponentText_of_endsNumber : exponentText rest = some (none, rest) := by
  unfold exponentText
  split
  · next c cs =>
    obtain ⟨-, -, he, hE⟩ := h c rfl
    rw [if_neg (by simp [he, hE])]
  · rfl

end EndsNumber

/-- Only zero is written with a leading zero. -/
theorem eq_zero_of_head?_toDigits {n : Nat} (h : (Nat.toDigits 10 n).head? = some '0') : n = 0 := by
  induction n using Nat.strongRecOn with
  | _ n ih =>
    rw [Nat.toDigits_eq_if (by decide)] at h
    by_cases hn : n < 10
    · rw [if_pos hn] at h
      exact Nat.digitChar_eq_zero.1 (Option.some.inj h)
    · rw [if_neg hn, List.head?_append, Option.or_of_isSome
        (List.isSome_head?.2 Nat.toDigits_ne_nil)] at h
      have hzero := ih (n / 10) (by omega) h
      omega

/-- The number that is written after its sign. -/
def unsignedText (negative : Bool) (cs : List Char) : Option (NumberText × List Char) := do
  let whole := cs.takeWhile Char.isDigit
  let cs := cs.dropWhile Char.isDigit
  if whole.isEmpty ∨ (whole.head? = some '0' ∧ 1 < whole.length) then none
  else
    let (fraction, cs) ← fractionText cs
    let (exponent, cs) ← exponentText cs
    some (⟨negative, whole, fraction.getD [], exponent.getD 0, fraction.isNone && exponent.isNone⟩, cs)

theorem numberText_minus (cs : List Char) : numberText ('-' :: cs) = unsignedText true cs := rfl

theorem numberText_of_ne_minus {c : Char} (hc : c ≠ '-') (cs : List Char) :
    numberText (c :: cs) = unsignedText false (c :: cs) := by
  unfold numberText
  split
  next negative rest hsign =>
    split at hsign
    · next heq => exact absurd (List.cons.inj heq).1 hc
    · obtain ⟨rfl, rfl⟩ := Prod.mk.inj hsign
      rfl

theorem isDigit_of_mem_toDigits {n : Nat} {d : Char} (hd : d ∈ Nat.toDigits 10 n) : d.isDigit = true :=
  Nat.isDigit_of_mem_toDigits (by decide) (by decide) hd

theorem unsignedText_toDigits (negative : Bool) (n : Nat) {rest : List Char} (h : EndsNumber rest) :
    unsignedText negative (Nat.toDigits 10 n ++ rest) =
      some (⟨negative, Nat.toDigits 10 n, [], 0, true⟩, rest) := by
  have hwhole : ¬ ((Nat.toDigits 10 n).isEmpty = true ∨
      (Nat.toDigits 10 n).head? = some '0' ∧ 1 < (Nat.toDigits 10 n).length) := by
    rintro (hempty | ⟨hhead, hlength⟩)
    · exact Nat.toDigits_ne_nil (List.isEmpty_iff.1 hempty)
    · rw [eq_zero_of_head?_toDigits hhead] at hlength
      exact absurd hlength (by decide)
  unfold unsignedText
  rw [takeWhile_isDigit_append h fun d => isDigit_of_mem_toDigits,
    dropWhile_isDigit_append h fun d => isDigit_of_mem_toDigits]
  dsimp only
  rw [if_neg hwhole, fractionText_of_endsNumber h]
  dsimp only [bind, Option.bind]
  rw [exponentText_of_endsNumber h]
  rfl

theorem numberText_intText (n : Int) {rest : List Char} (h : EndsNumber rest) :
    numberText (intText n ++ rest) =
      some (⟨decide (n < 0), Nat.toDigits 10 n.natAbs, [], 0, true⟩, rest) := by
  unfold intText
  by_cases hn : n < 0
  · rw [if_pos hn, decide_eq_true hn, List.cons_append, numberText_minus, unsignedText_toDigits _ _ h]
  · rw [if_neg hn, decide_eq_false hn, ← unsignedText_toDigits _ _ h]
    cases hds : Nat.toDigits 10 n.natAbs with
    | nil => exact absurd hds Nat.toDigits_ne_nil
    | cons d ds =>
      have hd : d.isDigit = true := isDigit_of_mem_toDigits (by rw [hds]; exact List.mem_cons_self)
      have hminus : d ≠ '-' := by
        rintro rfl
        exact absurd hd (by decide)
      exact numberText_of_ne_minus hminus (ds ++ rest)

theorem le_ofDigitChars (ds : List Char) (init : Nat) : init ≤ Nat.ofDigitChars 10 ds init := by
  induction ds generalizing init with
  | nil => exact Nat.le_of_eq Nat.ofDigitChars_nil.symm
  | cons d ds ih =>
    rw [Nat.ofDigitChars_cons]
    have hle := ih (10 * init + (d.toNat - '0'.toNat))
    omega

theorem extendSignificand_of_lt {ds : List Char} {init : Nat}
    (h : Nat.ofDigitChars 10 ds init < significandLimit) :
    extendSignificand init ds = (Nat.ofDigitChars 10 ds init, []) := by
  induction ds generalizing init with
  | nil => simp [extendSignificand]
  | cons d ds ih =>
    rw [Nat.ofDigitChars_cons] at h ⊢
    rw [extendSignificand, Nat.mul_comm init 10,
      if_pos (Nat.lt_of_le_of_lt (le_ofDigitChars ds _) h), ih h]

theorem value?_toDigits {n : Int} (hn : IsWord64 n) :
    NumberText.value? ⟨decide (n < 0), Nat.toDigits 10 n.natAbs, [], 0, true⟩ = some (.int n) := by
  obtain ⟨hlow, hhigh⟩ := hn
  have hhalf : negativeLimit < significandLimit := by decide
  have hread : extendSignificand 0 (Nat.toDigits 10 n.natAbs) = (n.natAbs, []) := by
    rw [extendSignificand_of_lt] <;> rw [Nat.ofDigitChars_ten_toDigits]
    omega
  unfold NumberText.value?
  rw [hread]
  dsimp only
  by_cases hneg : n < 0
  · rw [decide_eq_true hneg, if_pos, if_pos rfl]
    · congr 2
      omega
    · refine ⟨rfl, rfl, ?_⟩
      simp only [Bool.not_true, Bool.false_or, Bool.and_eq_true, decide_eq_true_eq]
      omega
  · rw [decide_eq_false hneg, if_pos ⟨rfl, rfl, rfl⟩, if_neg Bool.false_ne_true]
    congr 2
    omega

/-- **An integer of 64 bits is read from what is written for it**, if its number ends there. -/
theorem readNumber_intText (lenient : Bool) {n : Int} (hn : IsWord64 n) {rest : List Char}
    (h : EndsNumber rest) : readNumber lenient (intText n ++ rest) = .ok (.int n, rest) := by
  unfold readNumber Reader.ofOption
  dsimp only
  rw [numberText_intText n h]
  dsimp only
  rw [value?_toDigits hn]

end GameTips.Json
