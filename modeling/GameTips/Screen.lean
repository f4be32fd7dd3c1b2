import GameTips.Trace

/-!
# Screens

A screen is known by its qualified name, such as `game.menu.PauseScreen`, and by a simple name, by
default the last part of the qualified one. The host that draws the screens says on which of them
tips can be drawn, and which screen type an identifier of the engine stands for.
-/

namespace GameTips

/-- A screen that is open. -/
structure Screen where
  qualifiedName : String
  simpleName : String
deriving DecidableEq, Repr

namespace Screen

/-- The part of a qualified name after its last point. -/
def lastPart (name : String) : String :=
  String.ofList (name.toList.reverse.takeWhile (· ≠ '.')).reverse

/-- The screen with a qualified name and its default simple name. -/
def named (name : String) : Screen :=
  ⟨name, lastPart name⟩

end Screen

/-- The collaborator that draws screens. Its label tells it from others in a trace. -/
structure ScreenHost where
  label : String
  /-- Whether tips can be drawn on a screen. -/
  renders : Screen → Bool
  /-- The qualified name of the screen type that an engine identifier stands for. -/
  typeOf : Identifier → Option String

namespace ScreenHost

/-- Ask whether tips can be drawn on a screen. -/
def canRenderOn (host : ScreenHost) (screen : Screen) : Traced Bool :=
  Traced.ask (.canRenderOn host.label screen.qualifiedName) (host.renders screen)

/-- Ask which screen type an engine identifier stands for. -/
def screenType (host : ScreenHost) (id : Identifier) : Traced (Option String) :=
  Traced.ask (.screenType host.label id) (host.typeOf id)

end ScreenHost

/-- A table from engine identifiers to qualified names, each identifier once. -/
structure ScreenTable where
  entries : List (Identifier × String)
deriving DecidableEq, Repr

namespace ScreenTable

def empty : ScreenTable := ⟨[]⟩

/-- The entries with an identifier set to a name, in its place if it has one. -/
def insertEntry (id : Identifier) (name : String) :
    List (Identifier × String) → List (Identifier × String)
  | [] => [(id, name)]
  | (k, v) :: rest =>
    if k = id then (id, name) :: rest else (k, v) :: insertEntry id name rest

/-- The table with an identifier set to a name. -/
def insert (t : ScreenTable) (id : Identifier) (name : String) : ScreenTable :=
  ⟨insertEntry id name t.entries⟩

def get? (t : ScreenTable) (id : Identifier) : Option String :=
  t.entries.lookup id

def contains (t : ScreenTable) (id : Identifier) : Bool :=
  (t.get? id).isSome

def size (t : ScreenTable) : Nat :=
  t.entries.length

def isEmpty (t : ScreenTable) : Bool :=
  t.entries.isEmpty

end ScreenTable
end GameTips
