import GameTips.Json.Basic

/-!
# Rich text

The title or the text of a tip: a JSON string, object or array, which the host lays out. What it
holds is not looked into here.
-/

namespace GameTips

/-- Whether a JSON value can stand for a text. -/
def Json.isText : Json → Bool
  | .str _ | .obj _ | .arr _ => true
  | _ => false

/-- A JSON value that stands for a text. -/
structure RichText where
  toJson : Json
  isText_toJson : toJson.isText = true
deriving DecidableEq, Repr

namespace RichText

def literal (s : String) : RichText := ⟨.str s, rfl⟩

/-- The text that a JSON value stands for, if it is one. -/
def ofJson? (v : Json) : Option RichText :=
  if h : v.isText = true then some ⟨v, h⟩ else none

end RichText
end GameTips
