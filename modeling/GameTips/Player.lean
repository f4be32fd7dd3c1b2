import GameTips.Screen

/-!
# The player

What the display decision can learn about the player: the biome and the dimension they are in, both
entries of a registry, and the milestones they have completed. Every reading is a question in the
trace.
-/

namespace GameTips

/-- An entry of a registry. It has an id where it is bound, and carries tags bound or not. -/
structure RegistryEntry where
  id : Option Identifier
  /-- Whether the entry carries a tag. -/
  hasTag : Identifier → Bool

def RegistryEntry.isIn (entry : RegistryEntry) (tag : Identifier) : Traced Bool :=
  Traced.ask (.isIn tag) (entry.hasTag tag)

/-- Where the player is and what they have achieved. The order of the milestones does not matter. -/
structure Player where
  biome : RegistryEntry
  dimension : RegistryEntry
  completed : List Identifier

namespace Player

def askBiome (p : Player) : Traced RegistryEntry :=
  Traced.ask .biome p.biome

def askDimension (p : Player) : Traced RegistryEntry :=
  Traced.ask .dimension p.dimension

/-- Ask for the milestones that the player has completed. -/
def askMilestones (p : Player) : Traced (List Identifier) :=
  Traced.ask .milestones p.completed

end Player

/-- What a tip is to be shown in: the open screen, the host that draws it, and the player, if one is
active. -/
structure DisplayContext where
  screen : Screen
  host : ScreenHost
  player : Option Player

end GameTips
