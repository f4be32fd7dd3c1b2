import GameTips.Pattern.Basic
import GameTips.Pattern.Flags
import GameTips.Pattern.Property
import GameTips.Text.Alphabetic

/-!
# Tokens of a pattern

The parts of a written pattern that are read as one: blanks and comments, numbers, escapes, names of
properties. Each reader takes its part off the front of the text and leaves the rest; it finds
nothing where the text is no pattern.
-/

namespace GameTips.Pattern

open GameTips.Text (CharSet isBlank isAlphabetic isAlphanumeric digitsValue hexValue?)

/-! ## Blanks -/

/-- The text after blanks and comments; a comment runs from `#` to the end of the line. -/
def dropBlanks (inComment : Bool) : List Char → List Char
  | [] => []
  | c :: rest =>
    if inComment then dropBlanks (c ≠ '\n') rest
    else if isBlank c then dropBlanks false rest
    else if c = '#' then dropBlanks true rest
    else c :: rest

/-- The text after blanks and comments where the flags let them stand. -/
def skip (fs : Flags) (cs : List Char) : List Char :=
  if fs.verbose then dropBlanks false cs else cs

/-- Take the characters of a class, skipping after each. -/
def collect (fs : Flags) (p : Char → Bool) : Nat → List Char → List Char × List Char
  | 0, cs => ([], cs)
  | _ + 1, [] => ([], [])
  | fuel + 1, c :: rest =>
    if p c then
      let (taken, rest) := collect fs p fuel (skip fs rest)
      (c :: taken, rest)
    else ([], c :: rest)

/-- Take all characters of a class, skipping after each. -/
def collectAll (fs : Flags) (p : Char → Bool) (cs : List Char) : List Char × List Char :=
  collect fs p cs.length cs

/-! ## Numbers -/

/-- The first count that is too large. -/
def countLimit : Nat := UInt32.size

/-- Read a count, around which blanks may stand. -/
def readCount (fs : Flags) (cs : List Char) : Option (Nat × List Char) :=
  let (ds, rest) := collectAll fs Char.isDigit (cs.dropWhile isBlank)
  let (_, rest) := collectAll fs isBlank rest
  let n := digitsValue ds
  if ds.isEmpty ∨ countLimit ≤ n then none else some (n, rest)

/-- The character with a code, unless there is none. -/
def charOfCode? (n : Nat) : Option Char :=
  if h : n.isValidChar then some (Char.ofNatAux n h) else none

/-- The number written by hexadecimal digits. -/
def hexNumber? (ds : List Char) : Option Nat :=
  ds.foldlM (fun n c => (hexValue? c).map (n * 16 + ·)) 0

/-- Read a fixed number of hexadecimal digits, skipping after each. -/
def readHexDigits (fs : Flags) : Nat → Nat → List Char → Option (Nat × List Char)
  | 0, n, cs => some (n, cs)
  | _ + 1, _, [] => none
  | k + 1, n, c :: rest =>
    match hexValue? c with
    | some d => readHexDigits fs k (n * 16 + d) (skip fs rest)
    | none => none

/-! ## Escapes -/

/-- What an escape or a single character stands for. A literal remembers whether it was written as
two hexadecimal digits, which is a byte where Unicode is off. -/
inductive Primitive where
  | literal (c : Char) (asByte : Bool)
  | set (s : CharSet)
  | check (a : Assertion)
deriving DecidableEq, Repr

/-- Read a text up to a closing brace; the opening one has been taken. -/
def readBraced (fs : Flags) (cs : List Char) : Option (List Char × List Char) :=
  match collectAll fs (· ≠ '}') (skip fs cs) with
  | (text, _ :: rest) => some (text, rest)
  | (_, []) => none

/-- Read the code of a hexadecimal escape, fixed to a number of digits or in braces. -/
def readHex (fs : Flags) (digits : Nat) (cs : List Char) : Option (Primitive × List Char) :=
  match skip fs cs with
  | [] => none
  | c :: rest =>
    if c = '{' then do
      let (ds, rest) ← readBraced fs rest
      if ds.isEmpty then none
      else do
        let n ← hexNumber? ds
        let c ← charOfCode? n
        some (.literal c false, skip fs rest)
    else do
      let (n, rest) ← readHexDigits fs digits 0 (c :: rest)
      let c ← charOfCode? n
      some (.literal c (digits = 2), rest)

/-- The parts of a text before and after the first place where another text stands. -/
def cutAt? (sep : List Char) : List Char → Option (List Char × List Char)
  | [] => none
  | c :: rest =>
    if sep.isPrefixOf (c :: rest) then some ([], (c :: rest).drop sep.length)
    else (cutAt? sep rest).map fun r => (c :: r.1, r.2)

/-- The set that the text between braces names, and whether it is the one that is not meant, as the
sign `!=` between a name and a value says. -/
def namedSet? (name : List Char) : Option (CharSet × Bool) :=
  match cutAt? ['!', '='] name with
  | some (n, v) => (Property.valued? n v).map fun s => (s, true)
  | none =>
    match cutAt? [':'] name with
    | some (n, v) => (Property.valued? n v).map fun s => (s, false)
    | none =>
      match cutAt? ['='] name with
      | some (n, v) => (Property.valued? n v).map fun s => (s, false)
      | none => (Property.named? name).map fun s => (s, false)

/-- The set of a property; properties need Unicode. Case is ignored before the set is negated. -/
def propertySet (fs : Flags) (negated : Bool) (s : CharSet) : Option Primitive :=
  if fs.unicode then
    let s := foldIf fs.ignoreCase false s
    some (.set (if negated then s.compl else s))
  else none

/-- Read the name of a property, a single letter or a text in braces. -/
def readProperty (fs : Flags) (negated : Bool) (cs : List Char) : Option (Primitive × List Char) :=
  match skip fs cs with
  | [] => none
  | c :: rest =>
    if c = '{' then do
      let (name, rest) ← readBraced fs rest
      let (s, other) ← namedSet? name
      let x ← propertySet fs (negated != other) s
      some (x, rest)
    else if c = '\\' then none
    else do
      let s ← Property.named? [c]
      let x ← propertySet fs negated s
      some (x, skip fs rest)

/-- The set of a class letter: decimal digits, white space or word characters, or all others for the
capital letter. Where Unicode is off the others would hold single bytes, which no text does. -/
def classLetter? (fs : Flags) (c : Char) : Option (Option Primitive) :=
  let entry (s : CharSet) (ascii : List (Char × Char)) (negated : Bool) : Option Primitive :=
    if fs.unicode then some (.set (if negated then s.compl else s))
    else if negated then none
    else some (.set (.ofRanges ascii))
  let digits := [('0', '9')]
  let blanks := [('\t', '\r'), (' ', ' ')]
  let words := [('0', '9'), ('A', 'Z'), ('_', '_'), ('a', 'z')]
  if c = 'd' then some (entry Unicode.digitSet digits false)
  else if c = 'D' then some (entry Unicode.digitSet digits true)
  else if c = 's' then some (entry Unicode.blankSet blanks false)
  else if c = 'S' then some (entry Unicode.blankSet blanks true)
  else if c = 'w' then some (entry Unicode.wordSet words false)
  else if c = 'W' then some (entry Unicode.wordSet words true)
  else none

/-- The boundary that a name in braces stands for. -/
def boundaryNamed? (name : List Char) : Option Assertion :=
  if name = "start".toList then some .wordStart
  else if name = "end".toList then some .wordEnd
  else if name = "start-half".toList then some .wordStartHalf
  else if name = "end-half".toList then some .wordEndHalf
  else none

/-- Whether a character can stand in the name of a boundary. -/
def isBoundaryChar (c : Char) : Bool :=
  c.isAlpha || c == '-'

/-- Read the name of a boundary and the closing brace after it. -/
def readBoundaryName (fs : Flags) (cs : List Char) : Option (Primitive × List Char) :=
  match collectAll fs isBoundaryChar cs with
  | (_, []) => none
  | (name, c :: rest) =>
    if c = '}' then (boundaryNamed? name).map fun a => (.check a, rest) else none

/-- Read what follows `\b`: the name of a boundary in braces, if the braces do not hold a count. -/
def readBoundary (fs : Flags) (cs : List Char) : Option (Primitive × List Char) :=
  match cs with
  | '{' :: rest =>
    match skip fs rest with
    | [] => none
    | c :: inside =>
      if isBoundaryChar c then readBoundaryName fs (c :: inside)
      else some (.check .wordBoundary, cs)
  | _ => some (.check .wordBoundary, cs)

/-- The characters with a meaning of their own, which an escape takes away. -/
def metaChars : List Char :=
  ['\\', '.', '+', '*', '?', '(', ')', '|', '[', ']', '{', '}', '^', '$', '#', '&', '-', '~']

/-- Whether a character may be escaped to stand for itself: any of ASCII that is no letter, no digit
and no angle bracket. -/
def isEscapable (c : Char) : Bool :=
  metaChars.contains c || (c.toNat < 0x80 && !c.isAlphanum && c != '<' && c != '>')

/-- The character of an escape of one letter. -/
def controlEscape? (c : Char) : Option Char :=
  if c = 'a' then some '\x07'
  else if c = 'f' then some '\x0c'
  else if c = 't' then some '\t'
  else if c = 'n' then some '\n'
  else if c = 'r' then some '\r'
  else if c = 'v' then some '\x0b'
  else none

/-- The assertion of an escape of one letter. -/
def assertionEscape? (c : Char) : Option Assertion :=
  if c = 'A' then some .textStart
  else if c = 'z' then some .textEnd
  else if c = 'B' then some .noWordBoundary
  else if c = '<' then some .wordStart
  else if c = '>' then some .wordEnd
  else none

/-- Read an escape whose backslash has been taken. Digits are no escape: a pattern cannot refer to
what a group matched. -/
def readEscape (fs : Flags) : List Char → Option (Primitive × List Char)
  | [] => none
  | c :: rest =>
    if c = 'x' then readHex fs 2 rest
    else if c = 'u' then readHex fs 4 rest
    else if c = 'U' then readHex fs 8 rest
    else if c = 'p' then readProperty fs false rest
    else if c = 'P' then readProperty fs true rest
    else if c = 'b' then readBoundary fs rest
    else
      match classLetter? fs c with
      | some entry => entry.map fun x => (x, rest)
      | none =>
        if isEscapable c then some (.literal c false, rest)
        else
          match controlEscape? c, assertionEscape? c with
          | some x, _ => some (.literal x false, rest)
          | none, some a => some (.check a, rest)
          | none, none => none

/-- The set of a literal outside brackets. Where Unicode is off, a byte beyond ASCII is refused and
case is ignored within ASCII only. -/
def literalSet (fs : Flags) (c : Char) (asByte : Bool) : Option CharSet :=
  if fs.unicode then some (foldIf fs.ignoreCase false (.single c))
  else if asByte ∧ 0x80 ≤ c.toNat then none
  else some (foldIf fs.ignoreCase true (.single c))

end GameTips.Pattern
