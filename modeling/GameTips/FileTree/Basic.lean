/-!
# File trees

A folder of files and folders, as a value. A place in a tree is the list of the names that lead to
it from the root.
-/

namespace GameTips

/-- A file with its content, or a folder with named entries. -/
inductive FileTree where
  | file (content : ByteArray)
  | folder (entries : List (String × FileTree))

namespace FileTree

/-- The names on the way to a place in a tree. -/
abbrev Path := List String

def get? : FileTree → Path → Option FileTree
  | t, [] => some t
  | .file _, _ :: _ => none
  | .folder entries, name :: path =>
    match entries.lookup name with
    | some t => t.get? path
    | none => none

/-- The entries with a name set to a tree, in its place if the name is there. -/
def setEntry (name : String) (t : FileTree) : List (String × FileTree) → List (String × FileTree)
  | [] => [(name, t)]
  | (k, u) :: rest => if k = name then (name, t) :: rest else (k, u) :: setEntry name t rest

/-- The tree with another tree at a path. Folders that are missing on the way are made; a file on
the way stays, and then nothing is set. -/
def set : FileTree → Path → FileTree → FileTree
  | _, [], u => u
  | .file content, _ :: _, _ => .file content
  | .folder entries, name :: path, u =>
    .folder (setEntry name (((entries.lookup name).getD (.folder [])).set path u) entries)

/-- The text of a file, if it is a file and valid UTF-8. -/
def text? : FileTree → Option String
  | .file content => String.fromUTF8? content
  | .folder _ => none

def isFolder : FileTree → Bool
  | .file _ => false
  | .folder _ => true

mutual

/-- All that a tree holds, with the paths: the content of each file, and nothing for a folder. -/
def listing (path : Path) : FileTree → List (Path × Option ByteArray)
  | .file content => [(path, some content)]
  | .folder entries => (path, none) :: listingOf path entries

/-- All that the entries of a folder hold, with the paths. -/
def listingOf (path : Path) : List (String × FileTree) → List (Path × Option ByteArray)
  | [] => []
  | (name, t) :: rest => t.listing (path ++ [name]) ++ listingOf path rest

end

/-- The files that a tree holds, at any depth, with their paths. -/
def files (t : FileTree) : List (Path × ByteArray) :=
  (t.listing []).filterMap fun r => r.2.map fun content => (r.1, content)

end FileTree
end GameTips
