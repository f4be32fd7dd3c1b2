import GameTips.Config.Reader
import GameTips.Json.Decode
import GameTips.Proofs.Json.Rereading
import GameTips.Proofs.Lists
import GameTips.Rule.Form
import Mathlib.Data.List.Basic

/-!
# The grammar of identifiers

An identifier is written as a word over `namespaceLetters`, a colon, and a word over `pathLetters`.
No word has a colon, so the written form tells where the namespace ends:

* `parse_eq_ok_iff`: a text is read as an identifier exactly if it is its written form;
* `ofTexts_eq_ok_iff`: two texts make an identifier exactly if they are its parts;
* `tag?_eq_some_iff`, `toIdentifier_eq_ok_iff`: the written form in tag rules and in JSON values.
-/

namespace GameTips

/-- The letters of a namespace. -/
def namespaceLetters : String := "abcdefghijklmnopqrstuvwxyz0123456789_.-"

/-- The letters of a path. -/
def pathLetters : String := namespaceLetters ++ "/"

/-- A text with at least one letter, all of them from an alphabet. -/
def IsWord (letters s : String) : Prop :=
  s ≠ "" ∧ ∀ c ∈ s.toList, c ∈ letters.toList

/-! ## Letters and words -/

theorem toNat_lt_of_isNamespaceChar {c : Char} (h : isNamespaceChar c = true) : c.toNat < 128 := by
  simp only [isNamespaceChar, Bool.or_eq_true, Bool.and_eq_true, decide_eq_true_eq, beq_iff_eq] at h
  rcases h with (((h | h) | rfl) | rfl) | rfl
  · exact Nat.lt_of_le_of_lt (show c.toNat ≤ 'z'.toNat from h.2) (by decide)
  · exact Nat.lt_of_le_of_lt (show c.toNat ≤ '9'.toNat from h.2) (by decide)
  all_goals decide

theorem isNamespaceChar_iff {c : Char} :
    isNamespaceChar c = true ↔ c ∈ namespaceLetters.toList := by
  constructor
  · intro h
    have hall : ∀ n < 128, isNamespaceChar (Char.ofNat n) = true →
        Char.ofNat n ∈ namespaceLetters.toList := by decide
    have hc := hall c.toNat (toNat_lt_of_isNamespaceChar h)
    rw [Char.ofNat_toNat] at hc
    exact hc h
  · have hall : namespaceLetters.toList.all isNamespaceChar = true := by decide
    exact List.all_eq_true.1 hall c

theorem isPathChar_iff {c : Char} : isPathChar c = true ↔ c ∈ pathLetters.toList := by
  simp [isPathChar, pathLetters, isNamespaceChar_iff]

/-- No letter is a colon. -/
theorem not_isPathChar_colon : isPathChar ':' = false := by decide

theorem isPathChar_of_isNamespaceChar {c : Char} (h : isNamespaceChar c = true) :
    isPathChar c = true := by
  rw [isPathChar, h, Bool.true_or]

theorem isNamespace_iff {s : String} : isNamespace s = true ↔ IsWord namespaceLetters s := by
  simp [isNamespace, IsWord, isNamespaceChar_iff]

theorem isPath_iff {s : String} : isPath s = true ↔ IsWord pathLetters s := by
  simp [isPath, IsWord, isPathChar_iff]

namespace Identifier

section Parts

variable (id : Identifier)

theorem isNamespaceChar_of_mem {c : Char} (hc : c ∈ id.ns.toList) : isNamespaceChar c = true :=
  isNamespaceChar_iff.2 ((isNamespace_iff.1 id.isNamespace_ns).2 c hc)

theorem isPathChar_of_mem {c : Char} (hc : c ∈ id.path.toList) : isPathChar c = true :=
  isPathChar_iff.2 ((isPath_iff.1 id.isPath_path).2 c hc)

theorem colon_not_mem_ns : ':' ∉ id.ns.toList := by
  intro hc
  have hletter := isPathChar_of_isNamespaceChar (id.isNamespaceChar_of_mem hc)
  rw [not_isPathChar_colon] at hletter
  cases hletter

theorem colon_not_mem_path : ':' ∉ id.path.toList := by
  intro hc
  have hletter := id.isPathChar_of_mem hc
  rw [not_isPathChar_colon] at hletter
  cases hletter

theorem toList_toString : id.toString.toList = id.ns.toList ++ ':' :: id.path.toList := by
  simp [Identifier.toString]

end Parts

/-! ## Reading the written form -/

theorem ofParts?_eq_some_iff {ns path : String} {id : Identifier} :
    ofParts? ns path = some id ↔ id.ns = ns ∧ id.path = path := by
  unfold ofParts?
  constructor
  · intro h
    split at h
    · obtain rfl := Option.some.inj h
      exact ⟨rfl, rfl⟩
    · cases h
  · rintro ⟨rfl, rfl⟩
    exact dif_pos ⟨id.isNamespace_ns, id.isPath_path⟩

theorem parse_toString (id : Identifier) : parse id.toString = .ok id := by
  have hns : ∀ c ∈ id.ns.toList, isNamespaceChar c = true := fun c hc => id.isNamespaceChar_of_mem hc
  have hbefore : id.toString.toList.takeWhile isNamespaceChar = id.ns.toList := by
    rw [toList_toString, List.takeWhile_append_of_pos hns]
    exact List.append_nil _
  have hafter : id.toString.toList.dropWhile isNamespaceChar = ':' :: id.path.toList := by
    rw [toList_toString, List.dropWhile_append_of_pos hns]
    rfl
  have hparts : ofParts? (String.ofList id.ns.toList) (String.ofList id.path.toList) = some id :=
    ofParts?_eq_some_iff.2 ⟨String.ofList_toList.symm, String.ofList_toList.symm⟩
  unfold parse
  rw [hbefore, hafter]
  simp only [if_true, hparts]

theorem toString_of_parse {s : String} {id : Identifier} (h : parse s = .ok id) :
    id.toString = s := by
  unfold parse at h
  dsimp only at h
  split at h
  · cases h
  · next c rest hrest =>
    split at h
    · next hc =>
      subst hc
      cases hparts : ofParts? (String.ofList (s.toList.takeWhile isNamespaceChar))
          (String.ofList rest) with
      | none =>
        rw [hparts] at h
        cases h
      | some found =>
        rw [hparts] at h
        obtain rfl := Except.ok.inj h
        obtain ⟨hns, hpath⟩ := ofParts?_eq_some_iff.1 hparts
        apply String.toList_injective
        rw [toList_toString, hns, hpath, String.toList_ofList, String.toList_ofList, ← hrest]
        exact List.takeWhile_append_dropWhile
    · cases h

/-- **A text is read as an identifier exactly if it is its written form.** -/
theorem parse_eq_ok_iff {s : String} {id : Identifier} : parse s = .ok id ↔ s = id.toString := by
  constructor
  · intro h
    exact (toString_of_parse h).symm
  · rintro rfl
    exact parse_toString id

theorem toOption_parse_eq_some_iff {s : String} {id : Identifier} :
    (parse s).toOption = some id ↔ s = id.toString := by
  rw [Except.toOption_eq_some_iff, parse_eq_ok_iff]

theorem toString_injective : Function.Injective Identifier.toString := by
  intro a b h
  have hread : Except.ok (ε := ParseError) a = .ok b := by
    rw [← parse_toString a, ← parse_toString b, h]
  exact Except.ok.inj hread

/-- Two texts that make the written form of an identifier are its parts, because no part has a
colon. -/
theorem eq_parts_of_toString {ns path : String} {id : Identifier}
    (h : ns ++ ":" ++ path = id.toString) : id.ns = ns ∧ id.path = path := by
  have hlist := congrArg String.toList h
  rw [toList_toString, String.toList_append, String.toList_append, List.append_assoc] at hlist
  obtain ⟨hns, -, hpath⟩ :=
    (List.append_cons_inj_of_notMem id.colon_not_mem_ns id.colon_not_mem_path).1 hlist.symm
  exact ⟨String.toList_injective hns, String.toList_injective hpath⟩

theorem ofTexts_eq_ok_iff {ns path : String} {id : Identifier} :
    ofTexts ns path = .ok id ↔ id.ns = ns ∧ id.path = path := by
  rw [ofTexts, parse_eq_ok_iff]
  constructor
  · exact eq_parts_of_toString
  · rintro ⟨rfl, rfl⟩
    rfl

theorem exists_parts_iff {ns path : String} :
    (∃ id : Identifier, id.ns = ns ∧ id.path = path) ↔
      IsWord namespaceLetters ns ∧ IsWord pathLetters path := by
  rw [← isNamespace_iff, ← isPath_iff]
  constructor
  · rintro ⟨id, rfl, rfl⟩
    exact ⟨id.isNamespace_ns, id.isPath_path⟩
  · rintro ⟨hns, hpath⟩
    exact ⟨⟨ns, path, hns, hpath⟩, rfl, rfl⟩

end Identifier

/-! ## The written form elsewhere -/

theorem tag?_eq_some_iff {t : String} {id : Identifier} :
    tag? t = some id ↔ t = "#" ++ id.toString := by
  have hlist : ("#" ++ id.toString).toList = '#' :: id.toString.toList := by
    rw [String.toList_append]
    rfl
  unfold tag?
  constructor
  · intro h
    split at h
    · next rest hrest =>
      have hread := Identifier.toOption_parse_eq_some_iff.1 h
      apply String.toList_injective
      rw [hlist, hrest, ← hread, String.toList_ofList]
    · cases h
  · rintro rfl
    rw [hlist]
    exact Identifier.toOption_parse_eq_some_iff.2 String.ofList_toList

theorem Json.toIdentifier_eq_ok_iff {v : Json} {id : Identifier} :
    v.toIdentifier = .ok id ↔ v = .str id.toString := by
  constructor
  · intro h
    cases v with
    | str s =>
      rw [toIdentifier] at h
      cases hread : Identifier.parse s with
      | error e =>
        rw [hread] at h
        cases h
      | ok found =>
        rw [hread] at h
        obtain rfl := Except.ok.inj h
        rw [Identifier.parse_eq_ok_iff.1 hread]
    | _ => cases h
  · rintro rfl
    rw [toIdentifier, Identifier.parse_toString]

namespace Config

open GameTips.Json

theorem readText_quote (s : String) (rest : List Char) : readText (quote s ++ rest) = .ok (s, rest) := by
  rw [quote_append]
  unfold readText
  rw [skipBlanks_cons (by decide)]
  exact readString_quote s rest

/-- The written form of an identifier in a JSON text is read back. -/
theorem readIdentifier_quote (id : Identifier) (rest : List Char) :
    readIdentifier (quote id.toString ++ rest) = .ok (id, rest) := by
  unfold readIdentifier
  rw [readText_quote]
  dsimp only [bind, Except.bind]
  rw [Identifier.parse_toString]

end Config

namespace Identifier

theorem parse_eq_ok_iff_words {s : String} {id : Identifier} :
    parse s = .ok id ↔ ∃ ns path, IsWord namespaceLetters ns ∧ IsWord pathLetters path ∧
      s = ns ++ ":" ++ path ∧ id.ns = ns ∧ id.path = path := by
  rw [parse_eq_ok_iff]
  constructor
  · rintro rfl
    obtain ⟨hns, hpath⟩ := exists_parts_iff.1 ⟨id, rfl, rfl⟩
    exact ⟨id.ns, id.path, hns, hpath, rfl, rfl, rfl⟩
  · rintro ⟨_, _, -, -, rfl, rfl, rfl⟩
    rfl

theorem exists_parse_iff {s : String} :
    (∃ id, parse s = .ok id) ↔
      ∃ ns path, IsWord namespaceLetters ns ∧ IsWord pathLetters path ∧ s = ns ++ ":" ++ path := by
  simp only [parse_eq_ok_iff_words]
  constructor
  · rintro ⟨id, ns, path, hns, hpath, hs, -, -⟩
    exact ⟨ns, path, hns, hpath, hs⟩
  · rintro ⟨ns, path, hns, hpath, hs⟩
    obtain ⟨id, hid⟩ := exists_parts_iff.2 ⟨hns, hpath⟩
    exact ⟨id, ns, path, hns, hpath, hs, hid⟩

theorem exists_ofTexts_iff {ns path : String} :
    (∃ id, ofTexts ns path = .ok id) ↔ isNamespace ns = true ∧ IsWord pathLetters path := by
  simp only [ofTexts_eq_ok_iff, exists_parts_iff, isNamespace_iff]

/-- **The grammar of identifiers**: what is read as one, what makes one, and that its written form is
read back wherever it stands. -/
theorem grammar_spec :
    -- a text is an identifier exactly if it is two words with a colon between them
    (∀ s id, parse s = .ok id ↔ ∃ ns path, IsWord namespaceLetters ns ∧ IsWord pathLetters path ∧
      s = ns ++ ":" ++ path ∧ id.ns = ns ∧ id.path = path) ∧
    (∀ s, (∃ id, parse s = .ok id) ↔
      ∃ ns path, IsWord namespaceLetters ns ∧ IsWord pathLetters path ∧ s = ns ++ ":" ++ path) ∧
    -- it is the written form of what is read, and no other identifier is written so
    (∀ s id, parse s = .ok id ↔ id.toString = s) ∧
    (∀ a b : Identifier, a.toString = b.toString ↔ a = b) ∧
    -- two texts make an identifier exactly if they are words, and then they are its parts
    (∀ s, isNamespace s = true ↔ IsWord namespaceLetters s) ∧
    (∀ ns path, (∃ id, ofTexts ns path = .ok id) ↔ isNamespace ns = true ∧ IsWord pathLetters path) ∧
    (∀ ns path id, ofTexts ns path = .ok id ↔ id.ns = ns ∧ id.path = path) ∧
    (∀ id : Identifier, ':' ∉ id.ns.toList ∧ ':' ∉ id.path.toList) ∧
    -- tags, JSON values and JSON texts
    (∀ t id, tag? t = some id ↔ t = "#" ++ id.toString) ∧
    (∀ v id, Json.toIdentifier v = .ok id ↔ v = .str id.toString) ∧
    (∀ (id : Identifier) rest,
      Config.readIdentifier (Json.quote id.toString ++ rest) = .ok (id, rest)) :=
  ⟨fun _ _ => parse_eq_ok_iff_words, fun _ => exists_parse_iff, fun _ _ => parse_eq_ok_iff.trans eq_comm,
    fun _ _ => toString_injective.eq_iff, fun _ => isNamespace_iff, fun _ _ => exists_ofTexts_iff,
    fun _ _ _ => ofTexts_eq_ok_iff, fun id => ⟨id.colon_not_mem_ns, id.colon_not_mem_path⟩,
    fun _ _ => tag?_eq_some_iff, fun _ _ => Json.toIdentifier_eq_ok_iff, Config.readIdentifier_quote⟩

end Identifier
end GameTips
