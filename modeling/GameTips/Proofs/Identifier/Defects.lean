import GameTips.Proofs.Identifier.Grammar
import Mathlib.Data.List.TakeWhile
import Mathlib.Data.String.Basic

/-!
# The defect of a text that is no identifier

`Defect.Describes s` says which texts have a defect, by the way in which they start like an
identifier and then go wrong. Every text that is no identifier has such a defect
(`exists_describes`), and that one is reported (`parse_of_describes`), so that a defect is reported
exactly if it describes the text (`parse_eq_error_iff`).

No more is needed to tell the defect than the place at which reading stops (`stop`): the first colon
before it and the character there (`Defect.ofOffset`, `ofOffset_stop`). `defect_spec` has it all.
-/

namespace GameTips

/-- A text all of whose characters are from an alphabet; it may be empty. -/
def IsOver (letters s : String) : Prop :=
  ∀ c ∈ s.toList, c ∈ letters.toList

/-- A text goes on with letters as far as it can; then it is at its end, or at another character. -/
theorem exists_isOver_append (letters s : String) :
    ∃ a, IsOver letters a ∧
      (s = a ∨ ∃ c rest, c ∉ letters.toList ∧ s = a ++ String.singleton c ++ rest) := by
  let p : Char → Bool := fun c => letters.toList.contains c
  have hsplit : s.toList.takeWhile p ++ s.toList.dropWhile p = s.toList :=
    List.takeWhile_append_dropWhile
  refine ⟨String.ofList (s.toList.takeWhile p), ?_, ?_⟩
  · intro c hc
    rw [String.toList_ofList] at hc
    simpa [p] using List.mem_takeWhile_imp hc
  · have hhead := List.head?_dropWhile_not p s.toList
    cases hrest : s.toList.dropWhile p with
    | nil =>
      rw [hrest, List.append_nil] at hsplit
      left
      rw [hsplit, String.ofList_toList]
    | cons c rest =>
      rw [hrest] at hhead hsplit
      refine Or.inr ⟨c, String.ofList rest, by simpa [p] using hhead, ?_⟩
      apply String.toList_injective
      simpa using hsplit.symm

section Spans

variable {p : Char → Bool} {letters a : String} (hp : ∀ c, p c = true ↔ c ∈ letters.toList)
  (ha : IsOver letters a)
include hp ha

/-- Letters are read to the end of a text that has nothing else. -/
theorem span_isOver : a.toList.takeWhile p = a.toList ∧ a.toList.dropWhile p = [] := by
  rw [List.takeWhile_eq_self_iff, List.dropWhile_eq_nil_iff]
  have hall : ∀ c ∈ a.toList, p c = true := fun c hc => (hp c).2 (ha c hc)
  exact ⟨hall, hall⟩

/-- Letters are read up to the first other character. -/
theorem span_found {found : Char} (hfound : found ∉ letters.toList) (rest : String) :
    (a ++ String.singleton found ++ rest).toList.takeWhile p = a.toList ∧
      (a ++ String.singleton found ++ rest).toList.dropWhile p = found :: rest.toList := by
  have hlist : (a ++ String.singleton found ++ rest).toList = a.toList ++ found :: rest.toList := by
    simp
  have hall : ∀ c ∈ a.toList, p c = true := fun c hc => (hp c).2 (ha c hc)
  have hnot : ¬ p found = true := fun h => hfound ((hp found).1 h)
  rw [hlist, List.takeWhile_append_of_pos hall, List.dropWhile_append_of_pos hall,
    List.takeWhile_cons_of_neg hnot, List.dropWhile_cons_of_neg hnot, List.append_nil]
  exact ⟨rfl, rfl⟩

end Spans

theorem colon_not_mem_namespaceLetters : ':' ∉ namespaceLetters.toList := by decide

namespace Identifier

/-- The texts that have a defect. -/
def Defect.Describes (s : String) : Defect → Prop
  | .emptyNamespace => s = "" ∨ ∃ rest, s = ":" ++ rest
  | .missingSeparator => IsWord namespaceLetters s
  | .invalidNamespaceChar found offset =>
    ∃ a rest, IsOver namespaceLetters a ∧ found ∉ namespaceLetters.toList ∧ found ≠ ':' ∧
      s = a ++ String.singleton found ++ rest ∧ offset = a.utf8ByteSize
  | .emptyPath => ∃ ns, IsWord namespaceLetters ns ∧ s = ns ++ ":"
  | .invalidPathChar found offset =>
    ∃ ns a rest, IsWord namespaceLetters ns ∧ IsOver pathLetters a ∧ found ∉ pathLetters.toList ∧
      s = ns ++ ":" ++ a ++ String.singleton found ++ rest ∧
      offset = (ns ++ ":" ++ a).utf8ByteSize

/-- A text that is no identifier has a defect. -/
theorem exists_describes (s : String) :
    (∃ id : Identifier, s = id.toString) ∨ ∃ d : Defect, d.Describes s := by
  -- Follow the letters of a namespace and, behind a colon, those of a path, to where they end.
  obtain ⟨ns, hns, rfl | ⟨c, rest, hc, rfl⟩⟩ := exists_isOver_append namespaceLetters s
  · by_cases hempty : s = ""
    · exact Or.inr ⟨.emptyNamespace, Or.inl hempty⟩
    · exact Or.inr ⟨.missingSeparator, hempty, hns⟩
  · by_cases hcolon : c = ':'
    · subst hcolon
      by_cases hempty : ns = ""
      · subst hempty
        exact Or.inr ⟨.emptyNamespace, Or.inr ⟨rest, rfl⟩⟩
      · obtain ⟨path, hpath, rfl | ⟨d, rest, hd, rfl⟩⟩ := exists_isOver_append pathLetters rest
        · by_cases hnone : rest = ""
          · refine Or.inr ⟨.emptyPath, ns, ⟨hempty, hns⟩, ?_⟩
            rw [hnone, String.append_empty]
            rfl
          · obtain ⟨id, rfl, rfl⟩ := exists_parts_iff.2 ⟨⟨hempty, hns⟩, ⟨hnone, hpath⟩⟩
            exact Or.inl ⟨id, rfl⟩
        · refine Or.inr ⟨.invalidPathChar d _, ns, path, rest, ⟨hempty, hns⟩, hpath, hd, ?_, rfl⟩
          rw [← String.append_assoc, ← String.append_assoc]
          rfl
    · exact Or.inr ⟨.invalidNamespaceChar c _, ns, rest, hns, hc, hcolon, rfl, rfl⟩

/-! ## What is reported -/

theorem utf8Length_toList (s : String) : utf8Length s.toList = s.utf8ByteSize := by
  rw [utf8Length, String.ofList_toList]

theorem ofParts?_eq_none {ns path : String}
    (h : ¬ (IsWord namespaceLetters ns ∧ IsWord pathLetters path)) : ofParts? ns path = none := by
  cases hparts : ofParts? ns path with
  | none => rfl
  | some id => exact absurd (exists_parts_iff.1 ⟨id, ofParts?_eq_some_iff.1 hparts⟩) h

section Colon

variable {a : String} (ha : IsOver namespaceLetters a)
include ha

theorem span_colon (rest : String) :
    (a ++ ":" ++ rest).toList.takeWhile isNamespaceChar = a.toList ∧
      (a ++ ":" ++ rest).toList.dropWhile isNamespaceChar = ':' :: rest.toList :=
  span_found (fun _ => isNamespaceChar_iff) ha colon_not_mem_namespaceLetters rest

/-- What is reported where a colon follows the letters of a namespace. -/
theorem parse_colon {rest : String} (hne : a ≠ "") (hrest : ¬ IsWord pathLetters rest) {d : Defect}
    (hend : rest.toList.dropWhile isPathChar = [] → d = .emptyPath)
    (hfound : ∀ found others, rest.toList.dropWhile isPathChar = found :: others →
      d = .invalidPathChar found
        (utf8Length (a.toList ++ ':' :: rest.toList.takeWhile isPathChar))) :
    parse (a ++ ":" ++ rest) = .error ⟨a ++ ":" ++ rest, d⟩ := by
  obtain ⟨htake, hdrop⟩ := span_colon ha rest
  have hparts : ofParts? a rest = none := ofParts?_eq_none fun h => hrest h.2
  have hsome : a.toList.isEmpty = false := by simpa using hne
  unfold parse
  rw [htake, hdrop]
  dsimp only
  rw [if_pos rfl, String.ofList_toList, String.ofList_toList, hparts]
  dsimp only
  rw [hsome, if_neg Bool.false_ne_true]
  cases hpath : rest.toList.dropWhile isPathChar with
  | nil => rw [hend hpath]
  | cons found others => rw [hfound found others hpath]

end Colon

/-- A defect that a text has is the one that is reported. -/
theorem parse_of_describes {s : String} {d : Defect} (h : d.Describes s) :
    parse s = .error ⟨s, d⟩ := by
  cases d with
  | emptyNamespace =>
    rcases h with rfl | ⟨rest, rfl⟩
    · rfl
    · have hparts : ofParts? "" rest = none := ofParts?_eq_none fun h => h.1.1 rfl
      have hempty : IsOver namespaceLetters "" := fun c hc => (by cases hc)
      obtain ⟨htake, hdrop⟩ := span_colon hempty rest
      rw [String.empty_append] at htake hdrop
      unfold parse
      rw [htake, hdrop]
      dsimp only
      rw [if_pos rfl, String.ofList_toList, String.ofList_toList, hparts]
      rfl
  | missingSeparator =>
    obtain ⟨hne, hletters⟩ := h
    obtain ⟨htake, hdrop⟩ := span_isOver (fun _ => isNamespaceChar_iff) hletters
    have hsome : s.toList.isEmpty = false := by simpa using hne
    unfold parse
    rw [htake, hdrop]
    dsimp only
    rw [hsome, if_neg Bool.false_ne_true]
  | invalidNamespaceChar found offset =>
    obtain ⟨a, rest, ha, hfound, hcolon, rfl, rfl⟩ := h
    obtain ⟨htake, hdrop⟩ := span_found (fun _ => isNamespaceChar_iff) ha hfound rest
    unfold parse
    rw [htake, hdrop]
    dsimp only
    rw [if_neg hcolon, utf8Length_toList]
  | emptyPath =>
    obtain ⟨ns, ⟨hne, hns⟩, rfl⟩ := h
    rw [← String.append_empty (s := ns ++ ":")]
    refine parse_colon hns hne (fun hpath => hpath.1 rfl) (fun _ => rfl) ?_
    intro found others hpath
    cases hpath
  | invalidPathChar found offset =>
    obtain ⟨ns, a, rest, ⟨hne, hns⟩, ha, hfound, rfl, rfl⟩ := h
    obtain ⟨htake, hdrop⟩ := span_found (fun _ => isPathChar_iff) ha hfound rest
    have hrest : ¬ IsWord pathLetters (a ++ String.singleton found ++ rest) := by
      intro hword
      exact hfound (hword.2 found (by simp))
    have hassoc : ns ++ ":" ++ a ++ String.singleton found ++ rest =
        ns ++ ":" ++ (a ++ String.singleton found ++ rest) := by
      simp only [String.append_assoc]
    rw [hassoc]
    refine parse_colon hns hne hrest ?_ ?_
    · intro hpath
      rw [hdrop] at hpath
      cases hpath
    · intro found' others hpath
      rw [hdrop] at hpath
      cases hpath
      rw [htake, ← utf8Length_toList]
      simp

/-- **When a defect is reported**: exactly if the text has it. -/
theorem parse_eq_error_iff {s t : String} {d : Defect} :
    parse s = .error ⟨t, d⟩ ↔ t = s ∧ d.Describes s := by
  constructor
  · intro h
    rcases exists_describes s with ⟨id, hid⟩ | ⟨d', hd'⟩
    · rw [parse_eq_ok_iff.2 hid] at h
      cases h
    · rw [parse_of_describes hd'] at h
      cases h
      exact ⟨rfl, hd'⟩
  · rintro ⟨rfl, hd⟩
    exact parse_of_describes hd

/-! ## The defect from the place where reading stops -/

theorem colon_not_mem_of_isOver {a : String} (ha : IsOver namespaceLetters a) : ':' ∉ a.toList :=
  fun h => colon_not_mem_namespaceLetters (ha ':' h)

theorem get?_append (a rest : String) :
    String.Pos.Raw.get? (a ++ rest) ⟨a.utf8ByteSize⟩ = rest.toList.head? := by
  have hvalid := String.get?_of_valid a.toList rest.toList
  rw [String.ofList_append, String.ofList_toList, String.ofList_toList, String.utf8Len_toList] at hvalid
  exact hvalid

theorem firstColon?_append {a : String} (ha : ':' ∉ a.toList) (rest : String) :
    firstColon? (a ++ rest) = (firstColon? rest).map (a.utf8ByteSize + ·) := by
  have hall : ∀ c ∈ a.toList, (c != ':') = true := by
    intro c hc
    rw [bne_iff_ne]
    rintro rfl
    exact ha hc
  have hlength : ∀ cs, utf8Length (a.toList ++ cs) = a.utf8ByteSize + utf8Length cs := by
    intro cs
    rw [utf8Length, String.ofList_append, String.utf8ByteSize_append, String.ofList_toList]
    rfl
  have hmem : ':' ∈ a.toList ++ rest.toList ↔ ':' ∈ rest.toList := by
    rw [List.mem_append]
    exact or_iff_right ha
  unfold firstColon?
  rw [String.toList_append, List.takeWhile_append_of_pos hall, hlength]
  by_cases hcolon : ':' ∈ rest.toList
  · rw [if_pos (hmem.2 hcolon), if_pos hcolon]
    rfl
  · rw [if_neg (fun h => hcolon (hmem.1 h)), if_neg hcolon]
    rfl

/-- No colon comes before a place that only letters come before. -/
theorem firstColon?_before_eq_none {a : String} (ha : ':' ∉ a.toList) (rest : String) :
    (firstColon? (a ++ rest)).filter (· < a.utf8ByteSize) = none := by
  rw [firstColon?_append ha]
  cases firstColon? rest <;> simp

theorem firstColon?_colon {a : String} (ha : ':' ∉ a.toList) (rest : String) :
    firstColon? (a ++ ":" ++ rest) = some a.utf8ByteSize := by
  have hzero : firstColon? (":" ++ rest) = some 0 := by
    unfold firstColon?
    rw [String.toList_append]
    rfl
  rw [String.append_assoc, firstColon?_append ha, hzero]
  rfl

/-- A colon comes before the place behind it. -/
theorem firstColon?_before_eq_some {a : String} (ha : ':' ∉ a.toList) (b rest : String) :
    (firstColon? (a ++ ":" ++ b ++ rest)).filter (· < (a ++ ":" ++ b).utf8ByteSize) =
      some a.utf8ByteSize := by
  have hsize : a.utf8ByteSize < (a ++ ":" ++ b).utf8ByteSize := by
    have hcolon : (":" : String).utf8ByteSize = 1 := rfl
    rw [String.utf8ByteSize_append, String.utf8ByteSize_append, hcolon]
    omega
  have hassoc : a ++ ":" ++ b ++ rest = a ++ ":" ++ (b ++ rest) := String.append_assoc
  rw [hassoc, firstColon?_colon ha]
  exact Option.filter_some_pos (by simpa using hsize)

section Stop

variable {a : String} (ha : IsOver namespaceLetters a)
include ha

theorem stop_word : stop a = a.utf8ByteSize := by
  obtain ⟨htake, hdrop⟩ := span_isOver (fun _ => isNamespaceChar_iff) ha
  unfold stop
  rw [htake, hdrop]
  exact utf8Length_toList a

theorem stop_found {found : Char} (hfound : found ∉ namespaceLetters.toList)
    (hcolon : ¬ (found = ':' ∧ a ≠ "")) (rest : String) :
    stop (a ++ String.singleton found ++ rest) = a.utf8ByteSize := by
  obtain ⟨htake, hdrop⟩ := span_found (fun _ => isNamespaceChar_iff) ha hfound rest
  unfold stop
  rw [htake, hdrop]
  dsimp only
  rw [if_neg (by simpa using hcolon), utf8Length_toList]

theorem stop_colon (hne : a ≠ "") {b rest : String}
    (hb : rest.toList.takeWhile isPathChar = b.toList) :
    stop (a ++ ":" ++ rest) = (a ++ ":" ++ b).utf8ByteSize := by
  obtain ⟨htake, hdrop⟩ := span_colon ha rest
  have hlist : a.toList ++ ':' :: b.toList = (a ++ ":" ++ b).toList := by
    simp
  unfold stop
  rw [htake, hdrop]
  dsimp only
  rw [if_pos ⟨rfl, by simpa using hne⟩, hb, hlist, utf8Length_toList]

end Stop

/-- The defect of a text can be told from the place where its reading stops. -/
theorem ofOffset_stop {s : String} {d : Defect} (h : d.Describes s) :
    Defect.ofOffset s (stop s) = d := by
  cases d with
  | emptyNamespace =>
    rcases h with rfl | ⟨rest, rfl⟩
    · rfl
    · have hempty : IsOver namespaceLetters "" := fun c hc => (by cases hc)
      have hstop := stop_found hempty colon_not_mem_namespaceLetters (fun h => h.2 rfl) rest
      have hbefore := firstColon?_before_eq_none (colon_not_mem_of_isOver hempty) (":" ++ rest)
      have hget := get?_append "" (":" ++ rest)
      rw [String.empty_append] at hstop hbefore hget
      unfold Defect.ofOffset
      rw [show stop (":" ++ rest) = "".utf8ByteSize from hstop, hbefore, hget, String.toList_append]
      rfl
  | missingSeparator =>
    obtain ⟨hne, hs⟩ := h
    have hbefore := firstColon?_before_eq_none (colon_not_mem_of_isOver hs) ""
    have hget := get?_append s ""
    rw [String.append_empty] at hbefore hget
    have hsome : s.toList.isEmpty = false := by simpa using hne
    unfold Defect.ofOffset
    rw [stop_word hs, hbefore, hget, hsome]
    rfl
  | invalidNamespaceChar found offset =>
    obtain ⟨a, rest, ha, hfound, hcolon, rfl, rfl⟩ := h
    have hchar : isNamespaceChar found = false := by
      rw [← Bool.not_eq_true, isNamespaceChar_iff]
      exact hfound
    have hbefore :=
      firstColon?_before_eq_none (colon_not_mem_of_isOver ha) (String.singleton found ++ rest)
    have hget := get?_append a (String.singleton found ++ rest)
    rw [← String.append_assoc] at hbefore hget
    have hhead : (String.singleton found ++ rest).toList.head? = some found := by simp
    unfold Defect.ofOffset
    rw [stop_found ha hfound (fun h => hcolon h.1), hbefore, hget, hhead]
    dsimp only
    rw [if_neg (fun h => hcolon h.1), hchar, if_neg Bool.false_ne_true]
  | emptyPath =>
    obtain ⟨ns, ⟨hne, hns⟩, rfl⟩ := h
    have hnil : "".toList.takeWhile isPathChar = "".toList := rfl
    have hstop := stop_colon hns hne hnil
    have hbefore := firstColon?_before_eq_some (colon_not_mem_of_isOver hns) "" ""
    have hget := get?_append (ns ++ ":") ""
    simp only [String.append_empty] at hstop hbefore hget
    unfold Defect.ofOffset
    rw [hstop, hbefore, hget]
    rfl
  | invalidPathChar found offset =>
    obtain ⟨ns, a, rest, ⟨hne, hns⟩, ha, hfound, rfl, rfl⟩ := h
    have hchar : isPathChar found = false := by
      rw [← Bool.not_eq_true, isPathChar_iff]
      exact hfound
    obtain ⟨htake, -⟩ := span_found (fun _ => isPathChar_iff) ha hfound rest
    have hstop := stop_colon hns hne htake
    have hbefore := firstColon?_before_eq_some (colon_not_mem_of_isOver hns) a
      (String.singleton found ++ rest)
    have hget := get?_append (ns ++ ":" ++ a) (String.singleton found ++ rest)
    have hhead : (String.singleton found ++ rest).toList.head? = some found := by simp
    rw [← String.append_assoc, ← String.append_assoc] at hstop
    rw [← String.append_assoc] at hbefore hget
    unfold Defect.ofOffset
    rw [hstop, hbefore, hget, hhead]
    dsimp only
    rw [hchar, if_neg Bool.false_ne_true]

/-! ## The place of a character -/

/-- A character of a text starts at a byte offset. -/
structure StandsAt (s : String) (offset : Nat) (found : Char) : Prop where
  isValid : (⟨offset⟩ : String.Pos.Raw).IsValid s
  lt_size : offset < s.utf8ByteSize
  get? : String.Pos.Raw.get? s ⟨offset⟩ = some found

theorem standsAt_append (before : String) (found : Char) (rest : String) :
    StandsAt (before ++ String.singleton found ++ rest) before.utf8ByteSize found := by
  rw [String.append_assoc]
  refine ⟨?_, ?_, ?_⟩
  · rw [String.Pos.Raw.isValid_iff_exists_append]
    exact ⟨before, _, rfl, rfl⟩
  · have hpos : 0 < (String.singleton found).utf8ByteSize := by
      rw [String.utf8ByteSize_singleton]
      exact Char.utf8Size_pos found
    rw [String.utf8ByteSize_append, String.utf8ByteSize_append]
    omega
  · rw [get?_append]
    simp

/-- **The defect of a text that is no identifier**: for every text, when which defect is reported. -/
theorem defect_spec (s : String) :
    -- a text that is no identifier is reported, as it stands
    ((∃ e, parse s = .error e) ↔ ¬ ∃ id : Identifier, s = id.toString) ∧
    (∀ e, parse s = .error e → e.input = s) ∧
    -- the defect is the one that the text has
    (parse s = .error ⟨s, .emptyNamespace⟩ ↔ s = "" ∨ ∃ rest, s = ":" ++ rest) ∧
    (parse s = .error ⟨s, .missingSeparator⟩ ↔ s ≠ "" ∧ IsOver namespaceLetters s) ∧
    (parse s = .error ⟨s, .emptyPath⟩ ↔
      ∃ ns, ns ≠ "" ∧ IsOver namespaceLetters ns ∧ s = ns ++ ":") ∧
    (∀ found offset, parse s = .error ⟨s, .invalidNamespaceChar found offset⟩ ↔
      ∃ a rest, IsOver namespaceLetters a ∧ found ∉ namespaceLetters.toList ∧ found ≠ ':' ∧
        s = a ++ String.singleton found ++ rest ∧ offset = a.utf8ByteSize) ∧
    (∀ found offset, parse s = .error ⟨s, .invalidPathChar found offset⟩ ↔
      ∃ ns a rest, (ns ≠ "" ∧ IsOver namespaceLetters ns) ∧ IsOver pathLetters a ∧
        found ∉ pathLetters.toList ∧ s = ns ++ ":" ++ a ++ String.singleton found ++ rest ∧
        offset = (ns ++ ":" ++ a).utf8ByteSize) ∧
    -- the character that is reported stands where it is reported
    (∀ found offset, (parse s = .error ⟨s, .invalidNamespaceChar found offset⟩ ∨
      parse s = .error ⟨s, .invalidPathChar found offset⟩) → StandsAt s offset found) ∧
    -- the place where reading stops tells the defect
    (∀ e, parse s = .error e → e.defect = Defect.ofOffset s (stop s)) := by
  have hreport : ∀ d, parse s = .error ⟨s, d⟩ ↔ d.Describes s := by
    intro d
    rw [parse_eq_error_iff]
    exact and_iff_right rfl
  refine ⟨?_, ?_, hreport _, hreport _, ?_, fun _ _ => hreport _, fun _ _ => hreport _, ?_, ?_⟩
  · constructor
    · rintro ⟨e, he⟩ ⟨id, hid⟩
      rw [parse_eq_ok_iff.2 hid] at he
      cases he
    · intro hnot
      obtain ⟨d, hd⟩ := (exists_describes s).resolve_left hnot
      exact ⟨_, parse_of_describes hd⟩
  · intro e he
    exact (parse_eq_error_iff.1 he).1
  · rw [hreport]
    exact exists_congr fun ns => and_assoc
  · rintro found offset (h | h)
    · obtain ⟨a, rest, -, -, -, rfl, rfl⟩ := (hreport _).1 h
      exact standsAt_append a found rest
    · obtain ⟨ns, a, rest, -, -, -, rfl, rfl⟩ := (hreport _).1 h
      exact standsAt_append (ns ++ ":" ++ a) found rest
  · intro e he
    exact (ofOffset_stop (parse_eq_error_iff.1 he).2).symm

/-- The path of this text starts with a character of two bytes. -/
example : parse "tips:é" = .error ⟨"tips:é", .invalidPathChar 'é' 5⟩ := by decide

end Identifier
end GameTips
