import GameTips.FileTree.Basic

/-!
# Routes

A route is a path as it is written: names between slashes. Empty names and single points stand for
the folder where they are, and two points for the folder above it. What is written behind the last
slash says what the route leads to: after a slash or points, only a folder.

Routes start at the root of a tree, with or without a slash in front: the root is both the root of the
file system, above which two points stay where they are, and the folder in which the program works.

A route is followed step by step, and every step but the last has to lead to a folder. To save a
file, the folders on the way are made first, from left to right; those that were made stay, even
where the file then cannot be written. There are no permissions: what keeps a file from being written
stands in its place or on its way, or is a name or a text that no file can have.
-/

namespace GameTips

/-- The names to follow, and whether only a folder may be at the end. -/
structure Route where
  names : List String
  toFolder : Bool
  deriving DecidableEq, Repr

namespace Route

def up : String := ".."

/-- Whether a name between slashes takes no step. -/
def isBlank (name : String) : Bool := name = "" ∨ name = "."

/-- The names between the slashes of a text. -/
def parts (s : String) : List String := (s.toList.splitOn '/').map String.ofList

/-- The most octets that the text of a route may have. Linux takes 4096 (`PATH_MAX`), of which the last
is the null character behind the text. -/
def maxSize : Nat := 4095

/-- The most octets that a name may have on the usual file systems of Linux (`NAME_MAX`). -/
def maxNameSize : Nat := 255

/-- Whether a name can be given to a file or a folder. -/
def isName (name : String) : Bool := name.utf8ByteSize ≤ maxNameSize

/-- The route that the parts of a text make; nothing if the text is too long or holds the null
character, for then nothing can be at its end. -/
def ofParts? (ps : List String) : Option Route :=
  let s := String.intercalate "/" ps
  if s.utf8ByteSize ≤ maxSize ∧ !s.contains '\u0000' then
    some ⟨ps.filter (!isBlank ·), (ps.getLast?.map fun name => isBlank name || name = up).getD true⟩
  else none

/-- The route that a text writes. -/
def ofText? (s : String) : Option Route := ofParts? (parts s)

/-- The parts up to the last that takes a step. -/
def trimmed (ps : List String) : List String := (ps.reverse.dropWhile isBlank).reverse

/-- The parts that lead to the folder that holds what all of them lead to: those before the last that
takes a step, up to the last of them that does. -/
def parentParts (ps : List String) : List String := trimmed (trimmed ps).dropLast

end Route

namespace FileTree

def hasFolder (t : FileTree) (path : Path) : Bool := ((t.get? path).map isFolder).getD false

/-- The path at which names end that are followed from a folder; nothing if a step leads nowhere. -/
def follow? (t : FileTree) (path : Path) : List String → Option Path
  | [] => some path
  | name :: names =>
    if !t.hasFolder path then none
    else if name = Route.up then t.follow? path.dropLast names
    else if (t.get? (path ++ [name])).isSome then t.follow? (path ++ [name]) names
    else none

/-- The path at which the route of a text ends. -/
def locate? (t : FileTree) (s : String) : Option Path :=
  (Route.ofText? s).bind fun r =>
    (t.follow? [] r.names).filter fun path => !r.toFolder || t.hasFolder path

/-- What is at the end of the route of a text. -/
def find? (t : FileTree) (s : String) : Option FileTree := (t.locate? s).bind t.get?

/-- Make the folders that are missing when names are followed from a folder. The answer is the tree
afterwards, and the path at which the names end; there is none if a file stands in the way or a name
is too long. -/
def makeFolders (t : FileTree) (path : Path) : List String → FileTree × Option Path
  | [] => (t, some path)
  | name :: names =>
    if name = Route.up then t.makeFolders path.dropLast names
    else
      match t.get? (path ++ [name]) with
      | some (.folder _) => t.makeFolders (path ++ [name]) names
      | some (.file _) => (t, none)
      | none =>
        if Route.isName name then
          (t.set (path ++ [name]) (.folder [])).makeFolders (path ++ [name]) names
        else (t, none)

/-- Write a file with a name into a folder, over a file of that name but not over a folder. -/
def write? (t : FileTree) (path : Path) (name : String) (content : ByteArray) : Option FileTree :=
  if Route.isName name ∧ !t.hasFolder (path ++ [name]) then
    some (t.set (path ++ [name]) (.file content))
  else none

/-- Write a file where the route of a text leads, and make the folders on its way first. The answer
is the tree afterwards, and whether the file was written. -/
def save (t : FileTree) (s : String) (content : ByteArray) : FileTree × Bool :=
  match Route.ofParts? (Route.parentParts (Route.parts s)) with
  | none => (t, false)
  | some parent =>
    match t.makeFolders [] parent.names with
    | (t, none) => (t, false)
    | (t, some path) =>
      let written := do
        let r ← Route.ofText? s
        let name ← r.names.getLast?
        if r.toFolder then none else t.write? path name content
      (written.getD t, written.isSome)

end FileTree
end GameTips
