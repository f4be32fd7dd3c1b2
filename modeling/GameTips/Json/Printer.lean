import GameTips.Json.Basic

/-!
# Printing JSON

Two layouts of the same text: `Json.compact` writes no blanks, and `Json.pretty` gives every item
and member a line of its own, indented by two spaces a level. A string escapes the quote, the
backslash and the control characters and nothing else. A binary64 number has the fewest digits that
read back as it, is written positionally when its leading digit stands between the fifth place
after the point and the sixteenth before it, and always shows a point or an exponent.
-/

namespace GameTips.Json

/-! ## Strings -/

/-- The hexadecimal digit of a number below sixteen, in lower case. -/
def hexDigit (n : Nat) : Char :=
  Nat.digitChar n

/-- The form of a character within quotes. -/
def escape (c : Char) : List Char :=
  if c = '"' then ['\\', '"']
  else if c = '\\' then ['\\', '\\']
  else if c = '\x08' then ['\\', 'b']
  else if c = '\x0c' then ['\\', 'f']
  else if c = '\n' then ['\\', 'n']
  else if c = '\r' then ['\\', 'r']
  else if c = '\t' then ['\\', 't']
  else if c.toNat < 0x20 then
    ['\\', 'u', '0', '0', hexDigit (c.toNat / 16), hexDigit (c.toNat % 16)]
  else [c]

def quote (s : String) : List Char :=
  '"' :: (s.toList.flatMap escape ++ ['"'])

/-! ## Numbers -/

/-- The decimal digits of an integer, after a minus sign if it is negative. -/
def intText (n : Int) : List Char :=
  if n < 0 then '-' :: Nat.toDigits 10 n.natAbs else Nat.toDigits 10 n.natAbs

/-- The decimal `digits * 10 ^ exponent`. Positional notation reaches down to `0.00001` and up to
sixteen places before the point; beyond that the exponent carries its sign. -/
def decimalText (digits : List Char) (exponent : Int) : List Char :=
  let point : Int := digits.length + exponent
  if 0 ≤ exponent ∧ point ≤ 16 then
    digits ++ List.replicate exponent.toNat '0' ++ ['.', '0']
  else if 0 < point ∧ point ≤ 16 then
    digits.take point.toNat ++ '.' :: digits.drop point.toNat
  else if -5 < point ∧ point ≤ 0 then
    ['0', '.'] ++ List.replicate (-point).toNat '0' ++ digits
  else
    let sign := if point - 1 < 0 then '-' else '+'
    let mantissa := match digits with
      | [d] => [d]
      | d :: ds => d :: '.' :: ds
      | [] => []
    mantissa ++ 'e' :: sign :: Nat.toDigits 10 (point - 1).natAbs

/-- A binary64 number, zero with its sign. -/
def floatText (x : Binary64) : List Char :=
  let text :=
    if x.mantissa = 0 then ['0', '.', '0']
    else decimalText (Nat.toDigits 10 x.shortest.1) x.shortest.2
  if x.negative then '-' :: text else text

/-! ## The compact layout -/

def commaSeparated : List (List Char) → List Char
  | [] => []
  | [x] => x
  | x :: xs => x ++ ',' :: commaSeparated xs

mutual

/-- The characters of a value without blanks. -/
def compactChars : Json → List Char
  | .null => ['n', 'u', 'l', 'l']
  | .bool true => ['t', 'r', 'u', 'e']
  | .bool false => ['f', 'a', 'l', 's', 'e']
  | .int n => intText n
  | .float x => floatText x
  | .str s => quote s
  | .arr items => '[' :: (commaSeparated (compactItems items) ++ [']'])
  | .obj members => '{' :: (commaSeparated (compactMembers members) ++ ['}'])

def compactItems : List Json → List (List Char)
  | [] => []
  | x :: xs => x.compactChars :: compactItems xs

def compactMembers : List (String × Json) → List (List Char)
  | [] => []
  | (key, x) :: xs => (quote key ++ ':' :: x.compactChars) :: compactMembers xs

end

/-- The text of a value without blanks. -/
def compact (v : Json) : String :=
  String.ofList v.compactChars

/-! ## The indented layout -/

def newLine (level : Nat) : List Char :=
  '\n' :: List.replicate (2 * level) ' '

/-- Entries between brackets, each on a line of its own one level deeper; without entries the
brackets stand together. -/
def indentedBlock (opening closing : Char) (level : Nat) (entries : List (List Char)) : List Char :=
  if entries.isEmpty then [opening, closing]
  else
    opening :: (commaSeparated (entries.map (newLine (level + 1) ++ ·)) ++ newLine level ++ [closing])

mutual

/-- The characters of a value that stands at a level of nesting. -/
def prettyChars (level : Nat) : Json → List Char
  | .null => ['n', 'u', 'l', 'l']
  | .bool true => ['t', 'r', 'u', 'e']
  | .bool false => ['f', 'a', 'l', 's', 'e']
  | .int n => intText n
  | .float x => floatText x
  | .str s => quote s
  | .arr items => indentedBlock '[' ']' level (prettyItems (level + 1) items)
  | .obj members => indentedBlock '{' '}' level (prettyMembers (level + 1) members)

/-- The items of an array at a level of nesting. -/
def prettyItems (level : Nat) : List Json → List (List Char)
  | [] => []
  | x :: xs => x.prettyChars level :: prettyItems level xs

/-- The members of an object at a level of nesting. -/
def prettyMembers (level : Nat) : List (String × Json) → List (List Char)
  | [] => []
  | (key, x) :: xs =>
    (quote key ++ ':' :: ' ' :: x.prettyChars level) :: prettyMembers level xs

end

/-- The text of a value with a line for every item and member. -/
def pretty (v : Json) : String :=
  String.ofList (v.prettyChars 0)

end GameTips.Json
