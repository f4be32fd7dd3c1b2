import GameTips.Proofs.Identifier.Grammar

/-!
# A configuration is read back from the text that is saved

`Config.read_text`: reading the saved text of a configuration gives the configuration, if its default
title is without binary64 numbers and fits the levels that the reader allows. The default title of
every configuration that was read does (`Config.titleFits_of_read`).

The saved text has the settings in order, so the reader goes from draft to draft by taking one setting
of the configuration after the other (`Draft.readMembers_take`).
-/

namespace GameTips.Config

open GameTips.Json

/-! ## Typed values -/

section Values

theorem skipsBlanks_readText : Reader.SkipsBlanks readText := by
  intro cs
  unfold readText
  rw [skipBlanks_skipBlanks]

theorem skipsBlanks_readIdentifier : Reader.SkipsBlanks readIdentifier := by
  intro cs
  unfold readIdentifier
  rw [skipsBlanks_readText]

theorem skipsBlanks_readTime : Reader.SkipsBlanks readTime := by
  intro cs
  unfold readTime
  rw [skipBlanks_skipBlanks]

theorem skipsBlanks_readArray {α : Type} (item : Reader α) : Reader.SkipsBlanks (readArray item) := by
  intro cs
  unfold readArray
  rw [skipBlanks_skipBlanks]

theorem skipsBlanks_readTitle : Reader.SkipsBlanks readTitle := by
  intro cs
  unfold readTitle
  rw [skipBlanks_skipBlanks]

theorem reads_text (s : String) : Reader.Reads readText (quote s) s where
  starts := ⟨'"', _, rfl, by decide⟩
  takes _ := readText_quote s _

theorem reads_identifier (id : Identifier) : Reader.Reads readIdentifier (quote id.toString) id where
  starts := ⟨'"', _, rfl, by decide⟩
  takes _ := readIdentifier_quote id _

theorem reads_time (n : UInt32) : Reader.Reads readTime (intText n.toNat) n := by
  have hlt : n.toNat < UInt32.size := n.toNat_lt
  have hsize : UInt32.size < significandLimit := by decide
  have hword : IsWord64 n.toNat := by
    unfold IsWord64
    omega
  have hvalue : (readValue false 0).Reads (intText n.toNat) (.int n.toNat) := reads_intText hword
  obtain ⟨c, cs, htext, hc⟩ := exists_intText n.toNat
  refine ⟨hvalue.starts, fun {rest} hrest => ?_⟩
  have hnumber := readNumber_intText false hword hrest
  rw [htext, List.cons_append] at hnumber ⊢
  unfold readTime
  rw [skipBlanks_cons hc.isBlank_eq_false]
  dsimp only
  rw [if_pos (show c = '-' ∨ c.isDigit = true from hc), hnumber]
  dsimp only
  rw [if_pos (by omega), Int.toNat_natCast, UInt32.ofNat_toNat]

theorem reads_array {α : Type} {item : Reader α} (hitem : item.SkipsBlanks)
    {texts : List (List Char)} {xs : List α} (h : List.Forall₂ item.Reads texts xs) (level : Nat) :
    Reader.Reads (readArray item) (indentedBlock '[' ']' level texts) xs where
  starts := ⟨'[', _, indentedBlock_eq _ _ _ _, by decide⟩
  takes {rest} _ := by
    rw [indentedBlock_eq, List.cons_append]
    unfold readArray
    rw [skipBlanks_cons (by decide)]
    exact readBlock_blockRest hitem (.inl rfl) h level rest

theorem prettyItems_strings {α : Type} (text : α → String) (level : Nat) (xs : List α) :
    prettyItems level ((xs.map text).map .str) = xs.map fun x => quote (text x) := by
  induction xs with
  | nil => rfl
  | cons x xs ih =>
    rw [List.map_cons, List.map_cons, prettyItems, ih]
    rfl

/-- A list of values that are written as strings. -/
theorem reads_strings {α : Type} {item : Reader α} (hitem : item.SkipsBlanks) {text : α → String}
    (h : ∀ x, item.Reads (quote (text x)) x) (level : Nat) (xs : List α) :
    Reader.Reads (readArray item) ((Json.strings (xs.map text)).prettyChars level) xs := by
  have hentries : List.Forall₂ item.Reads (xs.map fun x => quote (text x)) xs := by
    rw [List.forall₂_map_left_iff]
    exact List.forall₂_same.2 fun x _ => h x
  rw [Json.strings, prettyChars, prettyItems_strings]
  exact reads_array hitem hentries level

/-- A default title that comes back when it is read from its text: it is without binary64 numbers,
sorted, and fits the levels that are allowed one level below the top. -/
structure IsReread (title : RichText) : Prop where
  floatFree : title.toJson.FloatFree
  sorted : title.toJson.Sorted
  fits : title.toJson.Fits (maxDepth - 1)

theorem exists_textOfTitle (title : RichText) (level : Nat) :
    ∃ c cs, title.toJson.prettyChars level = c :: cs ∧ c ∈ ['"', '[', '{'] := by
  obtain ⟨v, hv⟩ := title
  cases v with
  | str s => exact ⟨'"', _, rfl, by decide⟩
  | arr items => exact ⟨'[', _, indentedBlock_eq _ _ _ _, by decide⟩
  | obj members => exact ⟨'{', _, indentedBlock_eq _ _ _ _, by decide⟩
  | _ => cases hv

theorem readTitle_of_mem {c : Char} (hc : c ∈ ['"', '[', '{']) (cs : List Char) :
    readTitle (c :: cs) = readValue false (maxDepth - 1) (c :: cs) >>= fun r =>
      match RichText.ofJson? r.1 with
      | some title => .ok (some title, r.2)
      | none => .error (.mismatch .notText) := by
  have hblank : isBlank c = false := by
    have hall : ['"', '[', '{'].all (fun d => !isBlank d) = true := by decide
    simpa using List.all_eq_true.1 hall c hc
  unfold readTitle
  rw [skipBlanks_cons hblank]
  split
  · next heq =>
    obtain ⟨rfl, -⟩ := List.cons.inj heq
    exact absurd hc (by decide)
  · next heq =>
    obtain ⟨rfl, -⟩ := List.cons.inj heq
    exact absurd hc (by decide)
  · rfl

theorem reads_title {title : RichText} (h : IsReread title) (level : Nat) :
    Reader.Reads readTitle (title.toJson.prettyChars level) (some title) := by
  have hvalue : (readValue false (maxDepth - 1)).Reads (title.toJson.prettyChars level) title.toJson :=
    reads_prettyChars level h.fits h.sorted h.floatFree
  obtain ⟨c, cs, htext, hc⟩ := exists_textOfTitle title level
  refine ⟨hvalue.starts, fun {rest} hrest => ?_⟩
  have htitle : RichText.ofJson? title.toJson = some title := dif_pos title.isText_toJson
  rw [htext, List.cons_append, readTitle_of_mem hc, ← List.cons_append, ← htext, hvalue.takes hrest]
  dsimp only [bind, Except.bind]
  rw [htitle]

theorem reads_noTitle : Reader.Reads readTitle (Json.null.prettyChars 1) none where
  starts := ⟨'n', _, rfl, by decide⟩
  takes {rest} _ := by
    show readTitle ('n' :: 'u' :: 'l' :: 'l' :: rest) = _
    unfold readTitle
    rw [skipBlanks_cons (by decide)]
    rfl

end Values

/-! ## Settings -/

/-- The value of a setting; a title that is not set is null. -/
def settingJson (c : Config) : Setting → Json
  | .defaultCycleTime => .int c.defaultCycleTime.toNat
  | .ignoredNamespaces => Json.strings c.ignoredNamespaces
  | .ignoredTips => Json.strings (c.ignoredTips.map Identifier.toString)
  | .defaultTitle => (c.defaultTitle.map RichText.toJson).getD .null

/-- The settings that are saved. -/
def settings (c : Config) : List Setting :=
  [.defaultCycleTime, .ignoredNamespaces, .ignoredTips] ++ c.defaultTitle.toList.map fun _ => .defaultTitle

theorem members_eq (c : Config) : c.members = c.settings.map fun f => (f.name, c.settingJson f) := by
  unfold members settings settingJson
  cases c.defaultTitle <;> rfl

/-- The text of a setting on its line. -/
def settingText (c : Config) (f : Setting) : List Char :=
  quote f.name ++ ':' :: ' ' :: (c.settingJson f).prettyChars 1

namespace Draft

/-- The draft with a setting taken from a configuration. -/
def take (c : Config) (d : Draft) (f : Setting) : Draft :=
  { values :=
      match f with
      | .defaultCycleTime => { d.values with defaultCycleTime := c.defaultCycleTime }
      | .ignoredNamespaces => { d.values with ignoredNamespaces := c.ignoredNamespaces }
      | .ignoredTips => { d.values with ignoredTips := c.ignoredTips }
      | .defaultTitle => { d.values with defaultTitle := c.defaultTitle }
    given := f :: d.given }

variable {c : Config} (hc : ∀ title ∈ c.defaultTitle, IsReread title)

include hc

theorem readSetting_take (d : Draft) (f : Setting) {rest : List Char} (hrest : EndsNumber rest) :
    d.readSetting f (' ' :: (c.settingJson f).prettyChars 1 ++ rest) = .ok (d.take c f, rest) := by
  unfold readSetting
  cases f with
  | defaultCycleTime =>
    have htime : readTime (' ' :: (c.settingJson .defaultCycleTime).prettyChars 1 ++ rest) =
        .ok (c.defaultCycleTime, rest) :=
      (reads_time c.defaultCycleTime).takes_blank skipsBlanks_readTime hrest
    dsimp only
    rw [htime]
    rfl
  | ignoredNamespaces =>
    have hnames : readArray readText (' ' :: (c.settingJson .ignoredNamespaces).prettyChars 1 ++ rest) =
        .ok (c.ignoredNamespaces, rest) := by
      have hreads := reads_strings skipsBlanks_readText reads_text 1 c.ignoredNamespaces
      rw [List.map_id'] at hreads
      exact hreads.takes_blank (skipsBlanks_readArray readText) hrest
    dsimp only
    rw [hnames]
    rfl
  | ignoredTips =>
    have hids : readArray readIdentifier (' ' :: (c.settingJson .ignoredTips).prettyChars 1 ++ rest) =
        .ok (c.ignoredTips, rest) :=
      (reads_strings skipsBlanks_readIdentifier reads_identifier 1 c.ignoredTips).takes_blank
        (skipsBlanks_readArray readIdentifier) hrest
    dsimp only
    rw [hids]
    rfl
  | defaultTitle =>
    have htitle : Reader.Reads readTitle ((c.settingJson .defaultTitle).prettyChars 1) c.defaultTitle := by
      unfold settingJson
      cases hgiven : c.defaultTitle with
      | none => exact reads_noTitle
      | some title => exact reads_title (hc title hgiven) 1
    dsimp only
    rw [htitle.takes_blank skipsBlanks_readTitle hrest]
    rfl

theorem readMember_take {d : Draft} {f : Setting} (hf : f ∉ d.given) (level : Nat) {rest : List Char}
    (hrest : EndsNumber rest) :
    d.readMember (newLine level ++ c.settingText f ++ rest) = .ok (d.take c f, rest) := by
  have htext : newLine level ++ c.settingText f ++ rest = newLine level ++ '"' ::
      (f.name.toList.flatMap escape ++ '"' :: ':' :: (' ' :: (c.settingJson f).prettyChars 1 ++ rest)) := by
    simp [settingText, quote]
  have hname : Setting.ofName? f.name = some f := by
    cases f <;> decide
  have hnew : d.given.contains f = false := by
    simpa using hf
  unfold readMember
  rw [htext, skipBlanks_newLine, skipBlanks_cons (by decide)]
  show (readString (f.name.toList.flatMap escape ++ '"' :: _) >>= _) = _
  rw [readString_quote]
  dsimp only [bind, Except.bind]
  rw [hname]
  dsimp only
  rw [hnew, if_neg Bool.false_ne_true]
  exact readSetting_take hc d f hrest

/-- The settings of a configuration are taken one after the other. -/
theorem readMembers_take {fs : List Setting} (hne : fs ≠ []) (hfs : fs.Nodup) {d : Draft}
    (hd : ∀ f ∈ fs, f ∉ d.given) {fuel : Nat} (hfuel : fs.length ≤ fuel) (rest : List Char) :
    d.readMembers fuel
      (commaSeparated ((fs.map c.settingText).map (newLine 1 ++ ·)) ++ (newLine 0 ++ '}' :: rest)) =
        .ok (fs.foldl (take c) d, rest) := by
  induction fs generalizing d fuel with
  | nil => exact absurd rfl hne
  | cons f fs ih =>
    obtain ⟨fuel, rfl⟩ : ∃ n, fuel = n + 1 := ⟨fuel - 1, by simp only [List.length_cons] at hfuel; omega⟩
    obtain ⟨hf, hfs⟩ := List.nodup_cons.1 hfs
    have hnew : f ∉ d.given := hd f List.mem_cons_self
    cases fs with
    | nil =>
      rw [readMembers]
      show (d.readMember (newLine 1 ++ c.settingText f ++ (newLine 0 ++ '}' :: rest)) >>= _) = _
      rw [readMember_take hc hnew 1 (endsNumber_newLine _ _)]
      dsimp only [bind, Except.bind]
      rw [skipBlanks_newLine, skipBlanks_cons (by decide)]
      rfl
    | cons g fs =>
      have hmore : ∀ h ∈ g :: fs, h ∉ (d.take c f).given := by
        intro h hh hgiven
        rcases List.mem_cons.1 hgiven with rfl | hgiven
        · exact hf hh
        · exact hd h (List.mem_cons_of_mem f hh) hgiven
      rw [List.map_cons, List.map_cons, List.map_cons, List.map_cons, commaSeparated_cons_cons,
        List.append_assoc, List.cons_append, readMembers,
        readMember_take hc hnew 1 (endsNumber_comma _)]
      dsimp only [bind, Except.bind]
      rw [skipBlanks_cons (by decide)]
      exact ih (List.cons_ne_nil g fs) hfs hmore (Nat.le_of_succ_le_succ hfuel)

end Draft

/-! ## The saved text -/

theorem prettyMembers_eq (c : Config) (fs : List Setting) :
    prettyMembers 1 (fs.map fun f => (f.name, c.settingJson f)) = fs.map c.settingText := by
  induction fs with
  | nil => rfl
  | cons f fs ih =>
    rw [List.map_cons, prettyMembers, ih]
    rfl

theorem settings_ne_nil (c : Config) : c.settings ≠ [] := List.cons_ne_nil _ _

theorem nodup_settings (c : Config) : c.settings.Nodup := by
  unfold settings
  cases c.defaultTitle with
  | none => decide
  | some title => exact (by decide : Setting.all.Nodup)

theorem values_take_settings (c : Config) : (c.settings.foldl (Draft.take c) .start).values = c := by
  obtain ⟨time, names, tips, title⟩ := c
  cases title <;> rfl

theorem toList_text (c : Config) :
    c.text.toList = '{' :: (commaSeparated ((c.settings.map c.settingText).map (newLine 1 ++ ·)) ++
      (newLine 0 ++ ['}'])) := by
  have hne : (c.settings.map c.settingText).isEmpty = false := rfl
  rw [text, pretty, String.toList_ofList, members_eq, prettyChars, prettyMembers_eq, indentedBlock, hne,
    if_neg Bool.false_ne_true, List.append_assoc]

theorem reader_brace {cs first : List Char} (hfirst : skipBlanks cs = '"' :: first) :
    reader ('{' :: cs) = Draft.readMembers cs.length .start cs >>= fun r => .ok (r.1.values, r.2) := by
  unfold reader
  rw [skipBlanks_cons (by decide)]
  split
  · next heq => exact absurd (List.cons.inj heq).1 (by decide)
  · next heq =>
    obtain ⟨-, rfl⟩ := List.cons.inj heq
    rw [hfirst]
    rfl
  · next hbrace => exact absurd rfl (hbrace cs)

/-- The settings start with the name of the first. -/
theorem exists_skipBlanks_settings (c : Config) (rest : List Char) :
    ∃ first, skipBlanks (commaSeparated ((c.settings.map c.settingText).map (newLine 1 ++ ·)) ++ rest) =
      '"' :: first := by
  obtain ⟨more, hmore⟩ := commaSeparated_map_cons 1 (c.settingText .defaultCycleTime)
    ((c.settings.drop 1).map c.settingText)
  have hlines : commaSeparated ((c.settings.map c.settingText).map (newLine 1 ++ ·)) =
      newLine 1 ++ (c.settingText .defaultCycleTime ++ more) := hmore
  refine ⟨"defaultCycleTime".toList.flatMap escape ++ '"' ::
    (':' :: ' ' :: (c.settingJson .defaultCycleTime).prettyChars 1 ++ (more ++ rest)), ?_⟩
  rw [hlines, List.append_assoc, skipBlanks_newLine, settingText, List.append_assoc, List.append_assoc,
    quote_append, skipBlanks_cons (by decide)]
  simp [Setting.name]

theorem length_settings_le (c : Config) (rest : List Char) :
    c.settings.length ≤
      (commaSeparated ((c.settings.map c.settingText).map (newLine 1 ++ ·)) ++ rest).length := by
  have hle := length_le_commaSeparated 1 (c.settings.map c.settingText)
  rw [List.length_map] at hle
  rw [List.length_append]
  exact Nat.le_trans hle (Nat.le_add_right _ _)

/-- **A configuration is read back from its text.** -/
theorem read_text {c : Config} (hc : ∀ title ∈ c.defaultTitle, IsReread title) :
    read c.text = .ok c := by
  obtain ⟨first, hfirst⟩ := c.exists_skipBlanks_settings (newLine 0 ++ ['}'])
  have hmembers := Draft.readMembers_take hc c.settings_ne_nil c.nodup_settings
    (d := .start) (fun _ _ => List.not_mem_nil) (c.length_settings_le (newLine 0 ++ ['}'])) []
  have hreader : reader c.text.toList = .ok (c, []) := by
    rw [toList_text, reader_brace hfirst, hmembers]
    dsimp only [bind, Except.bind]
    rw [values_take_settings]
  unfold read readAll
  rw [hreader]
  rfl

/-! ## The configurations that are read -/

/-- Whether the default title is sorted and fits the levels that are allowed one level below the top. -/
def TitleFits (c : Config) : Prop :=
  ∀ title ∈ c.defaultTitle, title.toJson.Sorted ∧ title.toJson.Fits (maxDepth - 1)

theorem titleFits_of_eq_none {c : Config} (h : c.defaultTitle = none) : c.TitleFits := by
  intro title htitle
  rw [h] at htitle
  cases htitle

theorem readTitle_gives :
    Reader.Gives readTitle fun x => ∀ title ∈ x, title.toJson.Sorted ∧ title.toJson.Fits (maxDepth - 1) := by
  intro cs x rest h
  unfold readTitle at h
  split at h
  · obtain ⟨rfl, -⟩ := Prod.mk.inj (Except.ok.inj h)
    rintro title ⟨⟩
  · cases h
  · obtain ⟨⟨v, after⟩, hv, h⟩ := exists_of_bind_eq_ok h
    dsimp only at h
    split at h
    · next title htitle =>
      obtain ⟨rfl, -⟩ := Prod.mk.inj (Except.ok.inj h)
      obtain ⟨htext, rfl⟩ : ∃ htext, RichText.mk v htext = title := by
        unfold RichText.ofJson? at htitle
        split at htitle
        · exact ⟨_, Option.some.inj htitle⟩
        · cases htitle
      rintro _ ⟨⟩
      exact ⟨isKept_sorted.readValue_gives false _ hv, isKept_fits.readValue_gives false _ hv⟩
    · cases h

namespace Draft

theorem readSetting_gives {d : Draft} (hd : d.values.TitleFits) (f : Setting) :
    Reader.Gives (d.readSetting f) fun e => e.values.TitleFits := by
  intro cs e rest h
  unfold readSetting at h
  cases f with
  | defaultTitle =>
    obtain ⟨⟨x, after⟩, hx, h⟩ := exists_of_bind_eq_ok h
    obtain ⟨rfl, -⟩ := Prod.mk.inj (Except.ok.inj h)
    exact readTitle_gives hx
  | _ =>
    -- the other settings leave the title as it is
    obtain ⟨⟨x, after⟩, -, h⟩ := exists_of_bind_eq_ok h
    obtain ⟨rfl, -⟩ := Prod.mk.inj (Except.ok.inj h)
    exact hd

theorem readMember_gives {d : Draft} (hd : d.values.TitleFits) :
    Reader.Gives d.readMember fun e => e.values.TitleFits := by
  intro cs e rest h
  unfold readMember at h
  split at h
  · obtain ⟨⟨key, after⟩, -, h⟩ := exists_of_bind_eq_ok h
    dsimp only at h
    split at h
    · split at h
      · cases h
      · obtain ⟨value, -, h⟩ := exists_of_bind_eq_ok h
        exact readSetting_gives hd _ h
    · obtain ⟨value, -, h⟩ := exists_of_bind_eq_ok h
      obtain ⟨⟨_, after⟩, -, h⟩ := exists_of_bind_eq_ok h
      obtain ⟨rfl, -⟩ := Prod.mk.inj (Except.ok.inj h)
      exact hd
  · cases h

theorem readMembers_gives {d : Draft} (hd : d.values.TitleFits) (fuel : Nat) :
    Reader.Gives (d.readMembers fuel) fun e => e.values.TitleFits := by
  induction fuel generalizing d with
  | zero =>
    intro cs e rest h
    cases h
  | succ fuel ih =>
    intro cs e rest h
    obtain ⟨⟨next, after⟩, hnext, h⟩ := exists_of_bind_eq_ok h
    have hfits := readMember_gives hd hnext
    dsimp only at h
    split at h
    · exact ih hfits h
    · obtain ⟨rfl, -⟩ := Prod.mk.inj (Except.ok.inj h)
      exact hfits
    · cases h

theorem readItems_gives {d : Draft} (hd : d.values.TitleFits) (first : Bool) (fs : List Setting) :
    Reader.Gives (d.readItems first fs) fun e => e.values.TitleFits := by
  induction fs generalizing d first with
  | nil =>
    intro cs e rest h
    unfold readItems at h
    split at h
    · obtain ⟨rfl, -⟩ := Prod.mk.inj (Except.ok.inj h)
      exact hd
    · cases h
  | cons f fs ih =>
    intro cs e rest h
    have hitem : ∀ cs, (d.readSetting f cs >>= fun r => readItems false fs r.1 r.2) = .ok (e, rest) →
        e.values.TitleFits := by
      intro cs h
      obtain ⟨⟨next, after⟩, hnext, h⟩ := exists_of_bind_eq_ok h
      exact ih (readSetting_gives hd f hnext) false h
    unfold readItems at h
    split at h
    · obtain ⟨rfl, -⟩ := Prod.mk.inj (Except.ok.inj h)
      exact hd
    · split at h
      · cases h
      · exact hitem _ h
    · split at h
      · exact hitem _ h
      · cases h

end Draft

theorem refuse_ne_ok {α : Type} {expected : String} {cs : List Char} {r : α × List Char} :
    refuse expected cs ≠ .ok r := by
  intro h
  unfold refuse at h
  split at h
  · cases h
  · cases h
  · split at h <;> cases h

theorem reader_gives : Reader.Gives reader TitleFits := by
  have hstart : Draft.start.values.TitleFits := titleFits_of_eq_none rfl
  intro cs c rest h
  unfold reader at h
  split at h
  · obtain ⟨⟨d, after⟩, hd, h⟩ := exists_of_bind_eq_ok h
    obtain ⟨rfl, -⟩ := Prod.mk.inj (Except.ok.inj h)
    exact Draft.readItems_gives hstart true _ hd
  · split at h
    · obtain ⟨rfl, -⟩ := Prod.mk.inj (Except.ok.inj h)
      exact titleFits_of_eq_none rfl
    · obtain ⟨⟨d, after⟩, hd, h⟩ := exists_of_bind_eq_ok h
      obtain ⟨rfl, -⟩ := Prod.mk.inj (Except.ok.inj h)
      exact Draft.readMembers_gives hstart _ hd
  · exact absurd h refuse_ne_ok

/-- **The default title of a configuration that is read fits the levels that are allowed.** -/
theorem titleFits_of_read {s : String} {c : Config} (h : read s = .ok c) : c.TitleFits := by
  obtain ⟨rest, hread⟩ : ∃ rest, reader s.toList = .ok (c, rest) := by
    unfold read readAll at h
    obtain ⟨⟨d, rest⟩, hread, h⟩ := exists_of_bind_eq_ok h
    dsimp only at h
    split at h
    · obtain rfl := Except.ok.inj h
      exact ⟨rest, hread⟩
    · cases h
  exact reader_gives hread

end GameTips.Config
