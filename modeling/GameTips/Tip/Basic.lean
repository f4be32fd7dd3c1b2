import GameTips.Conditions
import GameTips.Config.Basic
import GameTips.Player

/-!
# Tips

A tip has a title, a text, a time for which it stays, and conditions of four categories on where it
is shown: on the open screen, on the player's biome and dimension, and on the milestones they have
completed.
-/

namespace GameTips

/-- The categories of conditions. -/
inductive Category where
  | screens
  | biomes
  | dimensions
  | milestones
deriving DecidableEq, Repr

/-- The key of a category in the JSON form of a tip. -/
def Category.key : Category → String
  | .screens => "screens"
  | .biomes => "biomes"
  | .dimensions => "dimensions"
  | .milestones => "advancements"

/-- The conditions of a tip, one for each category. -/
structure TipConditions where
  screens : Conditions Screen
  biomes : Conditions RegistryEntry
  dimensions : Conditions RegistryEntry
  milestones : Conditions (List Identifier)

namespace TipConditions

def unconstrained : TipConditions :=
  ⟨.unconstrained, .unconstrained, .unconstrained, .unconstrained⟩

def isEmpty (c : TipConditions) : Bool :=
  c.screens.isEmpty && c.biomes.isEmpty && c.dimensions.isEmpty && c.milestones.isEmpty

/-- The member of an object for a category that has a condition. -/
def member? {σ : Type} (category : Category) (c : Conditions σ) : Option (String × Json) :=
  c.toJson?.map fun v => (category.key, v)

def members (c : TipConditions) : List (String × Json) :=
  (member? .screens c.screens).toList ++ (member? .biomes c.biomes).toList ++
    (member? .dimensions c.dimensions).toList ++ (member? .milestones c.milestones).toList

/-- The JSON form, an object with the categories that have a condition; nothing if there are none. -/
def toJson? (c : TipConditions) : Option Json :=
  if c.members.isEmpty then none else some (Json.ofMembers c.members)

end TipConditions

/-- A tip. Its time is in milliseconds; without one it has the default of the configuration. -/
structure Tip where
  id : Identifier
  title : RichText
  text : RichText
  ownCycleTime : Option UInt32
  conditions : TipConditions

namespace Tip

/-- The only type of tip there is. -/
def simpleType : String := "tipsmod:simple"

/-- A tip without conditions and without a time of its own. -/
def plain (id : Identifier) (title text : RichText) : Tip :=
  ⟨id, title, text, none, .unconstrained⟩

def cycleTime (t : Tip) (config : Config) : UInt32 :=
  t.ownCycleTime.getD config.defaultCycleTime

def toJson (t : Tip) : Json :=
  Json.ofMembers <|
    [("type", .str simpleType), ("title", t.title.toJson), ("tip", t.text.toJson)] ++
      (t.ownCycleTime.toList.map fun time => ("cycleTime", .int time.toNat)) ++
      t.conditions.toJson?.toList.map fun c => ("conditions", c)

end Tip
end GameTips
