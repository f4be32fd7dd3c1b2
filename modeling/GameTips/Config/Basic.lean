import GameTips.Identifier
import GameTips.Json.Printer
import GameTips.RichText

/-!
# Configuration

The settings of a game: how long a tip stays by default, which tips are ignored, and the title of
tips that have none.
-/

namespace GameTips

/-- The settings. Times are in milliseconds. -/
structure Config where
  defaultCycleTime : UInt32
  ignoredNamespaces : List String
  ignoredTips : List Identifier
  defaultTitle : Option RichText
deriving DecidableEq, Repr

namespace Config

/-- The settings where nothing is set: a tip stays for five seconds. -/
def default : Config := ⟨5000, [], [], none⟩

def isIgnored (c : Config) (id : Identifier) : Bool :=
  c.ignoredNamespaces.contains id.ns || c.ignoredTips.contains id

/-- The settings in the order in which they are written; a default title that is not set is left
out. -/
def members (c : Config) : List (String × Json) :=
  [("defaultCycleTime", .int c.defaultCycleTime.toNat),
    ("ignoredNamespaces", Json.strings c.ignoredNamespaces),
    ("ignoredTips", Json.strings (c.ignoredTips.map Identifier.toString))] ++
  c.defaultTitle.toList.map fun title => ("defaultTitle", title.toJson)

/-- The text of the settings as they are saved. -/
def text (c : Config) : String :=
  (Json.obj c.members).pretty

end Config
end GameTips
