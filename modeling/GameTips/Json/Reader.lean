import GameTips.Identifier
import GameTips.Json.Basic
import GameTips.Json.Printer
import GameTips.Text.Digits
import GameTips.Text.Quoted

/-!
# Reading JSON

A strict reader: nothing but blanks may stand between the tokens, no comma may trail, strings hold
no raw control characters and no lone surrogate escapes, a text holds one value and at most 127
levels of arrays and objects.

The parts of the reader are also used by readers of typed values, which read the text once from its
start and stop at the first error: either the text is malformed there, or a well-formed value does
not fit the type (`Json.Mismatch`).

* `Json.readValue` reads one value from the front of a text;
* `Json.read?` reads a whole text.
-/

namespace GameTips.Json

open GameTips.Text (digitsValue hexValue?)

/-! ## Errors -/

/-- Why a well-formed value does not fit the expected type. -/
inductive Mismatch where
  /-- A value of another kind. -/
  | wrongType (found : Json) (expected : String)
  /-- An integer out of the bounds of its type. -/
  | outOfRange (found : Int) (expected : String)
  /-- A field that is given twice. -/
  | duplicateField (name : String)
  /-- A string that is no identifier. -/
  | identifier (e : Identifier.ParseError)
  /-- A value that is no rich text. -/
  | notText
deriving DecidableEq, Repr

/-- What a message says about an unexpected value. -/
def describe : Json → String
  | .null => "null"
  | .bool b => "boolean `" ++ toString b ++ "`"
  | .int n => "integer `" ++ toString n ++ "`"
  | .float x => "floating point `" ++ String.ofList (floatText x) ++ "`"
  | .str s => "string " ++ Text.quoted s
  | .arr _ => "sequence"
  | .obj _ => "map"

def Mismatch.message : Mismatch → String
  | .wrongType found expected => "invalid type: " ++ describe found ++ ", expected " ++ expected
  | .outOfRange found expected =>
    "invalid value: integer `" ++ toString found ++ "`, expected " ++ expected
  | .duplicateField name => "duplicate field `" ++ name ++ "`"
  | .identifier e => e.message
  | .notText => "text must be a string, object, or array"

/-- The first error in a text. -/
inductive ReadError where
  /-- The text is no JSON. -/
  | malformed
  /-- The text is JSON up to here, but not of the expected type. -/
  | mismatch (m : Mismatch)
deriving DecidableEq, Repr

/-- A reader takes a value off the front of a text and leaves the rest. -/
abbrev Reader (α : Type) := List Char → Except ReadError (α × List Char)

/-! ## Tokens -/

def isBlank (c : Char) : Bool :=
  c == ' ' || c == '\t' || c == '\n' || c == '\r'

/-- The text after its leading blanks. -/
def skipBlanks (cs : List Char) : List Char :=
  cs.dropWhile isBlank

/-- The number written by four hexadecimal digits. -/
def hex4? (a b c d : Char) : Option Nat := do
  some (((← hexValue? a) * 16 + (← hexValue? b)) * 256 + (← hexValue? c) * 16 + (← hexValue? d))

/-- The character of an escape of one letter. -/
def shortEscape? (c : Char) : Option Char :=
  if c = '"' ∨ c = '\\' ∨ c = '/' then some c
  else if c = 'b' then some '\x08'
  else if c = 'f' then some '\x0c'
  else if c = 'n' then some '\n'
  else if c = 'r' then some '\r'
  else if c = 't' then some '\t'
  else none

/-- A piece of a string: a character, or the code of a `\u` escape. -/
inductive StringPart where
  | char (c : Char)
  | code (n : Nat)
deriving DecidableEq, Repr

/-- The pieces of a string up to its closing quote, and the rest of the text. -/
def stringParts : List Char → Option (List StringPart × List Char)
  | [] => none
  | '"' :: rest => some ([], rest)
  | '\\' :: 'u' :: a :: b :: c :: d :: rest =>
    match hex4? a b c d with
    | some n => (stringParts rest).map fun r => (.code n :: r.1, r.2)
    | none => none
  | '\\' :: c :: rest =>
    match shortEscape? c with
    | some x => (stringParts rest).map fun r => (.char x :: r.1, r.2)
    | none => none
  | c :: rest =>
    if c.toNat < 0x20 ∨ c = '\\' then none
    else (stringParts rest).map fun r => (.char c :: r.1, r.2)

/-- Whether a code is the first of a surrogate pair. -/
def isHighSurrogate (n : Nat) : Bool := 0xd800 ≤ n && n < 0xdc00

/-- Whether a code is the second of a surrogate pair. -/
def isLowSurrogate (n : Nat) : Bool := 0xdc00 ≤ n && n < 0xe000

/-- The characters that the pieces of a string stand for: two codes that form a surrogate pair are
one character. Nothing if a surrogate stands alone. -/
def joinParts : List StringPart → Option (List Char)
  | [] => some []
  | .char c :: rest => (joinParts rest).map (c :: ·)
  | .code n :: rest =>
    if isHighSurrogate n then
      match rest with
      | .code m :: rest =>
        if isLowSurrogate m then
          (joinParts rest).map (Char.ofNat (0x10000 + (n - 0xd800) * 0x400 + (m - 0xdc00)) :: ·)
        else none
      | _ => none
    else if isLowSurrogate n then none
    else (joinParts rest).map (Char.ofNat n :: ·)

/-- The string up to its closing quote, and the rest of the text. A lenient reader lets lone
surrogates pass and does not tell what such a string holds. -/
def stringBody (lenient : Bool) (cs : List Char) : Option (String × List Char) :=
  match stringParts cs with
  | none => none
  | some (parts, rest) =>
    match joinParts parts with
    | some s => some (String.ofList s, rest)
    | none => if lenient then some ("", rest) else none

/-- The parts of a written number: sign, digits before and after the point, and the exponent. -/
structure NumberText where
  negative : Bool
  whole : List Char
  fraction : List Char
  exponent : Int
  /-- Whether the number has neither a point nor an exponent. -/
  plain : Bool
deriving DecidableEq, Repr

/-- The exponent of a number, if one is written. -/
def exponentText (cs : List Char) : Option (Option Int × List Char) :=
  match cs with
  | e :: rest =>
    if e = 'e' ∨ e = 'E' then
      let (negative, rest) := match rest with
        | '+' :: rest => (false, rest)
        | '-' :: rest => (true, rest)
        | rest => (false, rest)
      let ds := rest.takeWhile Char.isDigit
      if ds.isEmpty then none
      else
        let n : Int := digitsValue ds
        some (some (if negative then -n else n), rest.dropWhile Char.isDigit)
    else some (none, cs)
  | [] => some (none, cs)

/-- The fraction of a number, if one is written. -/
def fractionText (cs : List Char) : Option (Option (List Char) × List Char) :=
  match cs with
  | '.' :: rest =>
    let ds := rest.takeWhile Char.isDigit
    if ds.isEmpty then none else some (some ds, rest.dropWhile Char.isDigit)
  | _ => some (none, cs)

/-- Take a number off the front of a text. It has no leading zeros, and digits on both sides of a
point. -/
def numberText (cs : List Char) : Option (NumberText × List Char) := do
  let (negative, cs) := match cs with
    | '-' :: rest => (true, rest)
    | _ => (false, cs)
  let whole := cs.takeWhile Char.isDigit
  let cs := cs.dropWhile Char.isDigit
  if whole.isEmpty ∨ (whole.head? = some '0' ∧ 1 < whole.length) then none
  else
    let (fraction, cs) ← fractionText cs
    let (exponent, cs) ← exponentText cs
    some (⟨negative, whole, fraction.getD [], exponent.getD 0, fraction.isNone && exponent.isNone⟩, cs)

/-- The first number that does not fit the significand. -/
def significandLimit : Nat := UInt64.size

/-- The largest magnitude of a negative integer. -/
def negativeLimit : Nat := UInt64.size / 2

/-- Append digits to a significand as long as it stays below the limit; the digits left over are
returned too. -/
def extendSignificand (significand : Nat) : List Char → Nat × List Char
  | [] => (significand, [])
  | d :: ds =>
    let next := significand * 10 + (d.toNat - '0'.toNat)
    if next < significandLimit then extendSignificand next ds else (significand, d :: ds)

/-- The value of a written number. Integers of 64 bits are exact; any other number is the binary64
number of its leading digits times a power of ten. Nothing if that is too large. -/
def NumberText.value? (t : NumberText) : Option Json :=
  let (whole, dropped) := extendSignificand 0 t.whole
  if t.plain ∧ dropped.isEmpty ∧ (!t.negative || (0 < whole && whole ≤ negativeLimit)) then
    some (.int (if t.negative then -whole else whole))
  else
    let (significand, unread) := extendSignificand whole t.fraction
    let exponent : Int :=
      dropped.length - ((t.fraction.length : Int) - unread.length) + t.exponent
    (Binary64.ofDecimal? significand exponent).map fun x =>
      .float (if t.negative then x.neg else x)

/-! ## Values -/

/-- Read a part of the text that is malformed where nothing is found. -/
def Reader.ofOption {α : Type} (part : List Char → Option (α × List Char)) : Reader α := fun cs =>
  match part cs with
  | some r => .ok r
  | none => .error .malformed

/-- Read the string whose opening quote has been taken. -/
def readString : Reader String :=
  Reader.ofOption (stringBody false)

def readNumber (lenient : Bool) : Reader Json := Reader.ofOption fun cs =>
  match numberText cs with
  | none => none
  | some (t, rest) =>
    match t.value? with
    | some v => some (v, rest)
    | none => if lenient then some (.null, rest) else none

/-- Read entries, separated by commas, up to and with the closing bracket. -/
def readEntries {α : Type} (entry : Reader α) (closing : Char) : Nat → Reader (List α)
  | 0, _ => .error .malformed
  | fuel + 1, cs => do
    let (x, cs) ← entry cs
    match skipBlanks cs with
    | c :: rest =>
      if c = closing then .ok ([x], rest)
      else if c = ',' then do
        let (xs, rest) ← readEntries entry closing fuel rest
        .ok (x :: xs, rest)
      else .error .malformed
    | [] => .error .malformed

/-- Read the entries of an array or object whose opening bracket has been taken. -/
def readBlock {α : Type} (entry : Reader α) (closing : Char) : Reader (List α) := fun cs =>
  match skipBlanks cs with
  | c :: rest => if c = closing then .ok ([], rest) else readEntries entry closing (cs.length) cs
  | [] => .error .malformed

def readKey (lenient : Bool) : Reader String := fun cs => do
  match skipBlanks cs with
  | '"' :: rest =>
    match stringBody lenient rest with
    | none => .error .malformed
    | some (key, rest) =>
      match skipBlanks rest with
      | ':' :: rest => .ok (key, rest)
      | _ => .error .malformed
  | _ => .error .malformed

def readMember (lenient : Bool) (value : Reader Json) : Reader (String × Json) := fun cs => do
  let (key, cs) ← readKey lenient cs
  let (v, cs) ← value cs
  .ok ((key, v), cs)

/-- Read a value with at most `depth` levels of arrays and objects. A lenient reader checks the form
only: it lets lone surrogates and numbers out of range pass. -/
def readValue (lenient : Bool) : Nat → Reader Json := fun depth cs =>
  match skipBlanks cs with
  | 'n' :: 'u' :: 'l' :: 'l' :: rest => .ok (.null, rest)
  | 't' :: 'r' :: 'u' :: 'e' :: rest => .ok (.bool true, rest)
  | 'f' :: 'a' :: 'l' :: 's' :: 'e' :: rest => .ok (.bool false, rest)
  | '"' :: rest =>
    match stringBody lenient rest with
    | some (s, rest) => .ok (.str s, rest)
    | none => .error .malformed
  | '[' :: rest =>
    match depth with
    | 0 => .error .malformed
    | depth + 1 => do
      let (items, rest) ← readBlock (readValue lenient depth) ']' rest
      .ok (.arr items, rest)
  | '{' :: rest =>
    match depth with
    | 0 => .error .malformed
    | depth + 1 => do
      let (members, rest) ← readBlock (readMember lenient (readValue lenient depth)) '}' rest
      .ok (ofMembers members, rest)
  | cs => readNumber lenient cs

/-- The levels of arrays and objects that a text may have. -/
def maxDepth : Nat := 127

/-- Read past a value of any depth, checking its form only. -/
def skipValue : Reader Unit := fun cs => do
  let (_, rest) ← readValue true cs.length cs
  .ok ((), rest)

/-- Read a whole text: blanks may follow, nothing else. -/
def readAll {α : Type} (reader : Reader α) (s : String) : Except ReadError α := do
  let (x, rest) ← reader s.toList
  if (skipBlanks rest).isEmpty then .ok x else .error .malformed

/-- The value that a text writes, if it is JSON. -/
def read? (s : String) : Option Json :=
  (readAll (readValue false maxDepth) s).toOption

end GameTips.Json
