import GameTips.Unicode.Age
import GameTips.Unicode.CaseFolding
import GameTips.Unicode.Segment

/-!
# Named sets of characters

The sets that a pattern names between the braces of `\p{…}`.

* `Property.named?` finds the set of `\p{name}`;
* `Property.valued?` finds the set of `\p{name=value}`;
* `foldIf` closes a set under case where the flags ask for it.
-/

namespace GameTips.Pattern

open GameTips.Text (CharSet)
open GameTips.Unicode

namespace Property

/-- The normal form of a name: lower case, without blanks, underscores and hyphens, without anything
beyond ASCII, and without `is` in front. -/
def normalize (name : List Char) : String :=
  let (start, rest) := match name with
    | i :: s :: rest =>
      if (i = 'i' ∨ i = 'I') ∧ (s = 's' ∨ s = 'S') then (true, rest) else (false, name)
    | _ => (false, name)
  let kept := (rest.filter fun c => c ≠ ' ' ∧ c ≠ '_' ∧ c ≠ '-' ∧ c.toNat < 0x80).map Char.toLower
  String.ofList (if start ∧ kept = ['c'] then ['i', 's', 'c'] else kept)

/-- The set of `\p{name}`: the characters of a trait, else of a general category, else of a
script. -/
def named? (name : List Char) : Option CharSet :=
  let name := normalize name
  match traitSet? name with
  | some s => some s
  | none =>
    match categorySet? name with
    | some s => some s
    | none => scriptSet? name

def valued? (name value : List Char) : Option CharSet :=
  let name := normalize name
  let value := normalize value
  if name = "gc" ∨ name = "generalcategory" then categorySet? value
  else if name = "sc" ∨ name = "script" then scriptSet? value
  else if name = "scx" ∨ name = "scriptextensions" then scriptUseSet? value
  else if name = "age" then ageSet? value
  else if name = "gcb" ∨ name = "graphemeclusterbreak" then graphemeSet? value
  else if name = "wb" ∨ name = "wordbreak" then wordBreakSet? value
  else if name = "sb" ∨ name = "sentencebreak" then sentenceSet? value
  else none

end Property

/-- The set closed under case where case is ignored, within ASCII only or for all characters. -/
def foldIf (ignoreCase asciiOnly : Bool) (s : CharSet) : CharSet :=
  if ignoreCase then if asciiOnly then foldAsciiCase s else foldCase s else s

end GameTips.Pattern
