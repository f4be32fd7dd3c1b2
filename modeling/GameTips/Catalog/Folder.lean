import GameTips.Catalog.Basic
import GameTips.FileTree.Route

/-!
# Catalogs from folders

A folder holds a folder for each namespace, with the tips as JSON files below `tips`: the file
`<namespace>/tips/<path>.json` holds the tip `namespace:path`. Files are loaded in the order of their
ids, and in the order of their places where ids are equal.
-/

namespace GameTips

/-- A file of a tip: the id that its place stands for, its place below the folder of tips, and its
content. -/
structure TipFile where
  id : Identifier
  place : FileTree.Path
  content : ByteArray

namespace TipFile

def tipsFolder : String := "tips"

/-- The characters of a name before its last point and after it; nothing if there is no point, or no
character before it. -/
def splitExtension? (name : String) : Option (String × String) :=
  let back := name.toList.reverse
  match back.dropWhile (· ≠ '.') with
  | '.' :: stem =>
    if stem.isEmpty then none
    else some (String.ofList stem.reverse, String.ofList (back.takeWhile (· ≠ '.')).reverse)
  | _ => none

/-- The name that a file has without its extension. The point goes with the extension, unless a
single point would be left, which names no file: then two points stay. -/
def nameOfStem (stem : String) : String :=
  if stem = "." then ".." else stem

/-- The path of the tip in a file, whose place is a folder path and a name; nothing if the file is no
JSON file. -/
def tipPath? (place : FileTree.Path) : Option String :=
  match place.getLast?.bind splitExtension? with
  | some (stem, "json") => some (String.intercalate "/" (place.dropLast ++ [nameOfStem stem]))
  | _ => none

/-- Whether a file is loaded no later than another: its id comes first, or its place does where the
ids are equal. -/
def le (a b : TipFile) : Bool :=
  ((compare a.id b.id).then (compare a.place b.place)).isLE

/-- The tip file at a place below the folder of tips of a namespace. A JSON file whose place makes no
identifier is left out with a notice. -/
def ofFile (ns : String) (place : FileTree.Path) (content : ByteArray) : Traced (List TipFile) :=
  match tipPath? place with
  | none => pure []
  | some path =>
    match Identifier.ofTexts ns path with
    | .ok id => pure [⟨id, place, content⟩]
    | .error _ => do
      Traced.note .tipFileMisnamed
      pure []

/-- The tip files of a namespace, whose folder is given. -/
def ofNamespace (ns : String) (t : FileTree) : Traced (List TipFile) :=
  match t.get? [tipsFolder] with
  | some (.folder entries) => do
    let found ← (FileTree.folder entries).files.mapM fun f => ofFile ns f.1 f.2
    pure found.flatten
  | _ => pure []

/-- All tip files below a folder, in the order in which they are loaded. -/
def ofEntries (entries : List (String × FileTree)) : Traced (List TipFile) := do
  let found ← entries.mapM fun e => ofNamespace e.1 e.2
  pure (found.flatten.mergeSort le)

end TipFile

namespace Catalog

/-- Load the tip files below a folder; nothing if there is no such folder. -/
def loadFolder? (reader : TipReader) (config : Config) (tree : FileTree) (root : FileTree.Path) :
    Option (Traced Catalog) :=
  match tree.get? root with
  | some (.folder entries) => some do
    let files ← TipFile.ofEntries entries
    loadEntries config
      (files.map fun f => (f.id, (readerFor reader config).readFile f.id f.content))
  | _ => none

end Catalog
end GameTips
