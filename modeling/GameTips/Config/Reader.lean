import GameTips.Config.Basic
import GameTips.Json.Reader

/-!
# Reading a configuration

A configuration is an object with the settings under their names, each at most once and in any
order, among other members that are skipped; or an array with the first settings in the order in
which they are written. A setting that is not given has its default. The text is read once from its
start, and its first error counts.
-/

namespace GameTips.Config

open GameTips.Json

/-! ## Typed values -/

/-- Refuse the value at the front of a text. A malformed value is reported as such; of an array or
object only the opening bracket is looked at. -/
def refuse {α : Type} (expected : String) : Reader α := fun cs =>
  match skipBlanks cs with
  | '[' :: _ => .error (.mismatch (.wrongType (.arr []) expected))
  | '{' :: _ => .error (.mismatch (.wrongType (.obj []) expected))
  | cs =>
    match readValue false 0 cs with
    | .ok (v, _) => .error (.mismatch (.wrongType v expected))
    | .error e => .error e

/-- Read a number of milliseconds. -/
def readTime : Reader UInt32 := fun cs =>
  match skipBlanks cs with
  | c :: rest =>
    if c = '-' ∨ c.isDigit then
      match readNumber false (c :: rest) with
      | .error e => .error e
      | .ok (.int n, rest) =>
        if 0 ≤ n ∧ n < UInt32.size then .ok (UInt32.ofNat n.toNat, rest)
        else .error (.mismatch (.outOfRange n "u32"))
      | .ok (v, _) => .error (.mismatch (.wrongType v "u32"))
    else refuse "u32" (c :: rest)
  | [] => refuse "u32" []

def readText : Reader String := fun cs =>
  match skipBlanks cs with
  | '"' :: rest => readString rest
  | cs => refuse "a string" cs

def readIdentifier : Reader Identifier := fun cs => do
  let (s, rest) ← readText cs
  match Identifier.parse s with
  | .ok id => .ok (id, rest)
  | .error e => .error (.mismatch (.identifier e))

def readArray {α : Type} (item : Reader α) : Reader (List α) := fun cs =>
  match skipBlanks cs with
  | '[' :: rest => readBlock item ']' rest
  | cs => refuse "a sequence" cs

/-- Read a rich text, or `null` for none. It stands one level below the top of the configuration. -/
def readTitle : Reader (Option RichText) := fun cs =>
  match skipBlanks cs with
  | 'n' :: 'u' :: 'l' :: 'l' :: rest => .ok (none, rest)
  | 'n' :: _ => .error .malformed
  | cs => do
    let (v, rest) ← readValue false (Json.maxDepth - 1) cs
    match RichText.ofJson? v with
    | some title => .ok (some title, rest)
    | none => .error (.mismatch .notText)

/-! ## Settings -/

/-- The settings by name, in the order in which they are written. -/
inductive Setting where
  | defaultCycleTime
  | ignoredNamespaces
  | ignoredTips
  | defaultTitle
deriving DecidableEq, Repr

namespace Setting

def name : Setting → String
  | .defaultCycleTime => "defaultCycleTime"
  | .ignoredNamespaces => "ignoredNamespaces"
  | .ignoredTips => "ignoredTips"
  | .defaultTitle => "defaultTitle"

def all : List Setting :=
  [.defaultCycleTime, .ignoredNamespaces, .ignoredTips, .defaultTitle]

def ofName? (s : String) : Option Setting :=
  all.find? fun f => f.name == s

end Setting

/-- A configuration in progress: the values read so far, and which settings they belong to. -/
structure Draft where
  values : Config
  given : List Setting
deriving DecidableEq, Repr

namespace Draft

def start : Draft := ⟨.default, []⟩

def readSetting (d : Draft) (f : Setting) (cs : List Char) :
    Except ReadError (Draft × List Char) := do
  let given := f :: d.given
  match f with
  | .defaultCycleTime =>
    let (x, rest) ← readTime cs
    .ok (⟨{ d.values with defaultCycleTime := x }, given⟩, rest)
  | .ignoredNamespaces =>
    let (x, rest) ← readArray readText cs
    .ok (⟨{ d.values with ignoredNamespaces := x }, given⟩, rest)
  | .ignoredTips =>
    let (x, rest) ← readArray readIdentifier cs
    .ok (⟨{ d.values with ignoredTips := x }, given⟩, rest)
  | .defaultTitle =>
    let (x, rest) ← readTitle cs
    .ok (⟨{ d.values with defaultTitle := x }, given⟩, rest)

/-- The text after a colon. -/
def readColon (cs : List Char) : Except ReadError (List Char) :=
  match skipBlanks cs with
  | ':' :: rest => .ok rest
  | _ => .error .malformed

/-- Read a member. A setting that was given before is refused as soon as its name is read; the value
of any other name is skipped. -/
def readMember (d : Draft) (cs : List Char) : Except ReadError (Draft × List Char) :=
  match skipBlanks cs with
  | '"' :: rest => do
    let (key, rest) ← readString rest
    match Setting.ofName? key with
    | some f =>
      if d.given.contains f then .error (.mismatch (.duplicateField f.name))
      else do
        let rest ← readColon rest
        d.readSetting f rest
    | none => do
      let rest ← readColon rest
      let (_, rest) ← skipValue rest
      .ok (d, rest)
  | _ => .error .malformed

/-- Read members up to and with the closing brace. -/
def readMembers : Nat → Draft → List Char → Except ReadError (Draft × List Char)
  | 0, _, _ => .error .malformed
  | fuel + 1, d, cs => do
    let (d, rest) ← d.readMember cs
    match skipBlanks rest with
    | ',' :: rest => readMembers fuel d rest
    | '}' :: rest => .ok (d, rest)
    | _ => .error .malformed

/-- Read the values of settings in order, up to and with the closing bracket. -/
def readItems (first : Bool) : List Setting → Draft → List Char → Except ReadError (Draft × List Char)
  | [], d, cs =>
    match skipBlanks cs with
    | ']' :: rest => .ok (d, rest)
    | _ => .error .malformed
  | f :: fs, d, cs =>
    match skipBlanks cs with
    | ']' :: rest => .ok (d, rest)
    | ',' :: rest =>
      if first then .error .malformed
      else do
        let (d, rest) ← d.readSetting f rest
        readItems false fs d rest
    | cs =>
      if first then do
        let (d, rest) ← d.readSetting f cs
        readItems false fs d rest
      else .error .malformed

end Draft

/-- Read a configuration off the front of a text. -/
def reader : Reader Config := fun cs =>
  match skipBlanks cs with
  | '[' :: rest => do
    let (d, rest) ← Draft.readItems true Setting.all .start rest
    .ok (d.values, rest)
  | '{' :: rest =>
    match skipBlanks rest with
    | '}' :: rest => .ok (.default, rest)
    | _ => do
      let (d, rest) ← Draft.readMembers rest.length .start rest
      .ok (d.values, rest)
  | cs => refuse "struct TipsConfig" cs

/-- The configuration that a text writes. -/
def read (s : String) : Except ReadError Config :=
  readAll reader s

end GameTips.Config
