import GameTips.Json.Reader
import GameTips.RichText

/-!
# Typed values from JSON values
-/

namespace GameTips.Json

def toIdentifier : Json → Except Mismatch Identifier
  | .str s =>
    match Identifier.parse s with
    | .ok id => .ok id
    | .error e => .error (.identifier e)
  | v => .error (.wrongType v "a string")

/-- The text that a value stands for. -/
def toText (v : Json) : Except Mismatch RichText :=
  match RichText.ofJson? v with
  | some text => .ok text
  | none => .error .notText

end GameTips.Json
