import GameTips.Json.Reader
import GameTips.Rule.Registry
import GameTips.Rule.Screen
import GameTips.Tip.Basic

/-!
# Reading tips

An entry is a JSON object with a title, a text, and perhaps a type, a time and conditions. The parts
are checked in a fixed order and the first fault is reported. A rule that makes no sense is no fault
of the entry.
-/

namespace GameTips

/-- The parts of an entry that can be missing or invalid. -/
inductive TipField where
  | title
  | text
  | cycleTime
  | conditions
deriving DecidableEq, Repr

namespace TipField

def key : TipField → String
  | .title => "title"
  | .text => "tip"
  | .cycleTime => "cycleTime"
  | .conditions => "conditions"

def expectation : TipField → String
  | .title | .text => "expected a string, object, or array of text components"
  | .cycleTime => "expected a non-negative whole number of milliseconds"
  | .conditions => "expected an object"

end TipField

/-- What keeps an entry from being a tip. -/
inductive TipFault where
  | notAnObject
  /-- The file of the entry is not valid UTF-8; no other failure of reading a file is told apart. -/
  | unreadable
  /-- The file of the entry holds no JSON value; where its text goes wrong is not kept. -/
  | invalidJson
  | unsupportedType (found : String)
  | missingField (field : TipField)
  | invalidField (field : TipField)
  | conditions (category : Category) (error : ConditionError)
deriving DecidableEq, Repr

/-- An entry that is no tip. -/
structure TipError where
  id : Identifier
  fault : TipFault
deriving DecidableEq, Repr

/-- The text shown for an entry that is no tip. The reason in the text on an unreadable file is the one for
bytes that are not UTF-8, as no other occurs. The text on invalid JSON ends where the reader of JSON may
append, behind a colon, a reason of its own. -/
def TipError.message (e : TipError) : String :=
  "tip '" ++ e.id.toString ++ "' " ++
    match e.fault with
    | .notAnObject => "must be a JSON object"
    | .unreadable => "could not be read: stream did not contain valid UTF-8"
    | .invalidJson => "is not valid JSON"
    | .unsupportedType found => "has unsupported type '" ++ found ++ "'"
    | .missingField field => "does not have a '" ++ field.key ++ "'; this is required"
    | .invalidField field => "has an invalid '" ++ field.key ++ "': " ++ field.expectation
    | .conditions category error =>
      "has malformed '" ++ category.key ++ "' conditions: " ++ error.message

/-- What entries are read with: the host that rules on screens ask, and the title of entries that
have none. -/
structure TipReader where
  host : ScreenHost
  defaultTitle : Option RichText

namespace TipReader

/-- Check the type of an entry, if it has one. -/
def checkType (members : List (String × Json)) : Except TipFault Unit :=
  match Json.get? "type" members with
  | none => .ok ()
  | some (.str s) => if s = Tip.simpleType then .ok () else .error (.unsupportedType s)
  | some v => .error (.unsupportedType v.compact)

/-- Read a text, or take the one to use where none is given. -/
def readText (members : List (String × Json)) (field : TipField) (fallback : Option RichText) :
    Except TipFault RichText :=
  match Json.get? field.key members, fallback with
  | some v, _ =>
    match RichText.ofJson? v with
    | some text => .ok text
    | none => .error (.invalidField field)
  | none, some text => .ok text
  | none, none => .error (.missingField field)

/-- Read a time, if one is given. -/
def readCycleTime (members : List (String × Json)) : Except TipFault (Option UInt32) :=
  match Json.get? TipField.cycleTime.key members with
  | none => .ok none
  | some (.int n) =>
    if 0 ≤ n ∧ n < UInt32.size then .ok (some (UInt32.ofNat n.toNat))
    else .error (.invalidField .cycleTime)
  | some _ => .error (.invalidField .cycleTime)

def readCategory {σ : Type} (compiler : RuleCompiler σ) (category : Category)
    (members : List (String × Json)) : TracedReading TipFault (Conditions σ) :=
  ExceptT.adapt (TipFault.conditions category)
    (Conditions.ofElement compiler (Json.get? category.key members))

def readConditions (r : TipReader) (members : List (String × Json)) :
    TracedReading TipFault TipConditions := do
  let screens ← readCategory (compileScreenRule r.host) .screens members
  let biomes ← readCategory compileRegistryRule .biomes members
  let dimensions ← readCategory compileRegistryRule .dimensions members
  let milestones ← readCategory compileMemberRule .milestones members
  pure ⟨screens, biomes, dimensions, milestones⟩

def readMembers (r : TipReader) (id : Identifier) (members : List (String × Json)) :
    TracedReading TipFault Tip := do
  let _ ← ExceptT.mk (pure (checkType members))
  let title ← ExceptT.mk (pure (readText members .title r.defaultTitle))
  let text ← ExceptT.mk (pure (readText members .text none))
  let cycleTime ← ExceptT.mk (pure (readCycleTime members))
  let conditions ←
    match Json.get? TipField.conditions.key members with
    | none => pure TipConditions.unconstrained
    | some (.obj members) => r.readConditions members
    | some _ => throw (.invalidField .conditions)
  pure ⟨id, title, text, cycleTime, conditions⟩

/-- Read an entry. -/
def read (r : TipReader) (id : Identifier) (v : Json) : TracedReading TipError Tip :=
  ExceptT.adapt (TipError.mk id) <|
    match v with
    | .obj members => r.readMembers id members
    | _ => throw .notAnObject

/-- Read an entry that is given as JSON text. -/
def readString (r : TipReader) (id : Identifier) (s : String) : TracedReading TipError Tip :=
  match Json.read? s with
  | some v => r.read id v
  | none => throw ⟨id, .invalidJson⟩

/-- Read an entry from the content of a file. -/
def readFile (r : TipReader) (id : Identifier) (content : ByteArray) : TracedReading TipError Tip :=
  match String.fromUTF8? content with
  | some s => r.readString id s
  | none => throw ⟨id, .unreadable⟩

end TipReader
end GameTips
