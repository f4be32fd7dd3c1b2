import GameTips.Unicode.Script
import GameTips.Unicode.Trait

/-!
# Segments of texts

The part that a character has where a text is divided into graphemes, words or sentences. The
classes are defined from the general categories, the traits and the scripts, with the exceptions of
version 16 of the character set.

* `graphemeSet?`, `wordBreakSet?` and `sentenceSet?` find a class by its name in normal form.
-/

namespace GameTips.Unicode

open GameTips.Text (CharSet)

/-- A class of characters: its names in normal form, and its set. -/
abbrev SegmentClass := List String × (Unit → CharSet)

def findSegment? (classes : List SegmentClass) (name : String) : Option CharSet :=
  (classes.find? fun r => r.1.contains name).map fun r => r.2 ()

def tableClass (names : List String) (table : String) : SegmentClass :=
  (names, fun _ => CharSet.ofText table)

def joiner : CharSet := CharSet.single '\u200d'

/-! ## Graphemes -/

namespace Grapheme

def syllables : String := "AC00-D7A3"

/-- The syllables of Hangul without a final consonant. -/
def openSyllables : String := "AC00-D788/1C"

def extend (_ : Unit) : CharSet :=
  ((Trait.graphemeExtend ()).union (CharSet.ofText Trait.emojiModifier)).diff joiner

def control (_ : Unit) : CharSet :=
  (CharSet.unions [
    Category.union [.lineSeparator, .paragraphSeparator, .control, .format],
    (Category.set .unassigned).inter (Trait.ignorable ())]).diff
    (CharSet.unions [CharSet.ofText "A D 200C-200D", CharSet.ofText Trait.leadingMark, extend ()])

/-- Spacing marks that stand for themselves. -/
def ownMarks : String :=
  "102B-102C 1038 1062-1064 1067-106D 1083 1087-108C 108F 109A-109C 1A61 1A63-1A64 AA7B AA7D
   11720-11721"

def spacingMark (_ : Unit) : CharSet :=
  ((Category.set .spacingMark).union (CharSet.ofText "E33 EB3")).diff
    ((extend ()).union (CharSet.ofText ownMarks))

def classes : List SegmentClass := [
  (["cn", "control"], control),
  tableClass ["cr"] "D",
  (["ex", "extend"], extend),
  tableClass ["l"] "1100-115F A960-A97C",
  tableClass ["lf"] "A",
  tableClass ["lv"] openSyllables,
  (["lvt"], fun _ => (CharSet.ofText syllables).diff (CharSet.ofText openSyllables)),
  tableClass ["pp", "prepend"]
    "600-605 6DD 70F 890-891 8E2 D4E 110BD 110CD 111C2-111C3 113D1 1193F 11941 11A3A 11A84-11A89
     11D46 11F02",
  tableClass ["ri", "regionalindicator"] Trait.regionalIndicator,
  (["sm", "spacingmark"], spacingMark),
  tableClass ["t"] "11A8-11FF D7CB-D7FB",
  tableClass ["v"] "1160-11A7 D7B0-D7C6 16D63 16D67-16D6A",
  (["zwj"], fun _ => joiner)]

end Grapheme

def graphemeSet? (name : String) : Option CharSet := findSegment? Grapheme.classes name

/-! ## Words -/

def scriptSet (name : String) : CharSet := (scriptSet? name).getD .empty

namespace WordBreak

def extend (_ : Unit) : CharSet :=
  (CharSet.unions [Trait.graphemeExtend (), Category.set .spacingMark,
    CharSet.ofText Trait.emojiModifier]).diff joiner

/-- Characters that change the reading of those around them without a part of their own. -/
def format (_ : Unit) : CharSet :=
  (Category.set .format).diff
    (CharSet.unions [CharSet.ofText "200B-200D", extend (), CharSet.ofText Trait.leadingMark])

def katakana (_ : Unit) : CharSet :=
  (scriptSet "kana").union (CharSet.ofText "3031-3035 309B-309C 30A0 30FC FF70")

def hebrewLetter (_ : Unit) : CharSet :=
  (scriptSet "hebr").inter (Category.set .otherLetter)

/-- Signs that count as letters of a word. -/
def letterSigns : String :=
  "2C2-2C5 2D2-2D7 2DE-2DF 2E5-2EB 2ED 2EF-2FF 55A-55C 55E 58A 5F3 70F A708-A716 A720-A721
   A789-A78A AB5B"

/-- Letters of the writing systems that put no blanks between words. -/
def unspaced : String :=
  "E01-E3A E40-E4E E81-E82 E84 E86-E8A E8C-EA3 EA5 EA7-EBD EC0-EC4 EC6 EC8-ECE EDC-EDF 1000-103F
   1050-108F 109A-109F 1780-17D3 17D7 17DC-17DD 1950-196D 1970-1974 1980-19AB 19B0-19C9 19DA
   19DE-19DF 1A20-1A5E 1A60-1A7C 1AA0-1AAD A9E0-A9EF A9FA-A9FE AA60-AAC2 AADB-AADF 11700-1171A
   1171D-1172B 1173A-1173B 1173F-11746"

def letter (_ : Unit) : CharSet :=
  ((Trait.alphabetic ()).union (CharSet.ofText letterSigns)).diff
    (CharSet.unions [CharSet.ofText Trait.ideographic, katakana (), CharSet.ofText unspaced,
      scriptSet "hira", extend (), hebrewLetter ()])

/-- Digits, and the marks that span them. -/
def numeric (_ : Unit) : CharSet :=
  CharSet.unions [digitSet, CharSet.ofText "66B",
    (CharSet.ofText Trait.leadingMark).diff (CharSet.ofText "70F")]

def classes : List SegmentClass := [
  tableClass ["cr"] "D",
  tableClass ["dq", "doublequote"] "22",
  (["ex", "extendnumlet"], fun _ =>
    (Category.set .connectorPunctuation).union (CharSet.ofText "202F")),
  (["extend"], extend),
  (["fo", "format"], format),
  (["hl", "hebrewletter"], hebrewLetter),
  (["ka", "katakana"], katakana),
  (["le", "aletter"], letter),
  tableClass ["lf"] "A",
  tableClass ["mb", "midnumlet"] "2E 2018-2019 2024 FE52 FF07 FF0E",
  tableClass ["ml", "midletter"] "3A B7 387 55F 5F4 2027 FE13 FE55 FF1A",
  tableClass ["mn", "midnum"]
    "2C 3B 37E 589 60C-60D 66C 7F8 2044 FE10 FE14 FE50 FE54 FF0C FF1B",
  tableClass ["nl", "newline"] "B-C 85 2028-2029",
  (["nu", "numeric"], numeric),
  tableClass ["ri", "regionalindicator"] Trait.regionalIndicator,
  tableClass ["sq", "singlequote"] "27",
  (["wsegspace"], fun _ => (Category.set .spaceSeparator).diff (CharSet.ofText "A0 2007 202F")),
  (["zwj"], fun _ => joiner)]

end WordBreak

def wordBreakSet? (name : String) : Option CharSet := findSegment? WordBreak.classes name

/-! ## Sentences -/

namespace Sentence

def extend (_ : Unit) : CharSet :=
  CharSet.unions [Trait.graphemeExtend (), Category.set .spacingMark, joiner]

def lower (_ : Unit) : CharSet :=
  (Trait.lowercase ()).diff
    ((Trait.graphemeExtend ()).union (CharSet.ofText "10D0-10FA 10FD-10FF"))

def upper (_ : Unit) : CharSet :=
  ((Trait.uppercase ()).union (Category.set .titlecaseLetter)).diff
    (CharSet.ofText "1C90-1CBA 1CBD-1CBF")

/-- Full stops, which need not end a sentence. -/
def stops : String := "2E 2024 FE52 FF0E"

def terminal (_ : Unit) : CharSet :=
  (CharSet.ofText Trait.sentenceTerminal).diff (CharSet.ofText stops)

def classes : List SegmentClass := [
  tableClass ["at", "aterm"] stops,
  (["cl", "close"], fun _ =>
    ((Category.union [.openPunctuation, .closePunctuation, .initialPunctuation,
      .finalPunctuation]).union
      (CharSet.ofText "22 27 275B-2760 2E00-2E0D 2E1C-2E1D 2E20-2E21 1F676-1F678")).diff
      (CharSet.unions [CharSet.ofText "5F3", CharSet.ofText stops, terminal ()])),
  tableClass ["cr"] "D",
  (["ex", "extend"], extend),
  (["fo", "format"], fun _ =>
    (Category.set .format).diff
      (CharSet.unions [CharSet.ofText "200C-200D", extend (), CharSet.ofText Trait.leadingMark])),
  (["le", "oletter"], fun _ =>
    ((Trait.alphabetic ()).union (CharSet.ofText "5F3 70F")).diff
      (CharSet.unions [lower (), upper (), extend ()])),
  tableClass ["lf"] "A",
  (["lo", "lower"], lower),
  (["nu", "numeric"], fun _ => (WordBreak.numeric ()).union (CharSet.ofText "66C")),
  tableClass ["sc", "scontinue"]
    "2C-2D 3A-3B 37E 55D 60C-60D 7F8 1802 1808 2013-2014 3001 FE10-FE11 FE13-FE14 FE31-FE32
     FE50-FE51 FE54-FE55 FE58 FE63 FF0C-FF0D FF1A-FF1B FF64",
  tableClass ["se", "sep"] "85 2028-2029",
  (["sp"], fun _ => blankSet.diff (CharSet.ofText "A D 85 2028-2029")),
  (["st", "sterm"], terminal),
  (["up", "upper"], upper)]

end Sentence

def sentenceSet? (name : String) : Option CharSet := findSegment? Sentence.classes name

end GameTips.Unicode
