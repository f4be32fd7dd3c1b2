import GameTips.Config.Reader
import GameTips.FileTree.Route
import GameTips.Trace

/-!
# The configuration file

The configuration is kept in a file, which is written back after every reading, so that it holds all
settings. Whatever goes wrong, the game gets a configuration.
-/

namespace GameTips.Config

/-- Save the configuration to the file at the end of a route. The answer is the tree afterwards, and
whether the file was written. -/
def save (c : Config) (tree : FileTree) (route : String) : FileTree × Bool :=
  tree.save route c.text.toByteArray

/-- The configuration in a file, if it can be read. -/
def ofFile? (file : FileTree) : Option Config :=
  file.text?.bind fun s => (read s).toOption

/-- Load the configuration from the file at the end of a route, or the default where there is none
or it cannot be read, and save it. -/
def loadOrDefault (tree : FileTree) (route : String) : Traced (Config × FileTree) := do
  let config ←
    match tree.find? route with
    | none => do
      Traced.note .configMissing
      pure Config.default
    | some file =>
      match ofFile? file with
      | some c => do
        Traced.note .configLoaded
        pure c
      | none => do
        Traced.note .configUnreadable
        pure Config.default
  let (tree, isSaved) := config.save tree route
  if isSaved then pure (config, tree)
  else do
    Traced.note .configUnwritable
    pure (config, tree)

end GameTips.Config
