import GameTips.Identifier

/-!
# Traces

What deciding and loading tips shows to the outside besides its result: the questions put to the
host and to the player, and the notices written to the log. Both are recorded in one list, in the
order in which they happen.

* `Query` is a question, `Notice` a log entry, `Event` either of them;
* `Traced α` is a result of type `α` with the events that led to it, a monad that appends events.
-/

namespace GameTips

/-- A question put to a collaborator. A screen host is named by its label, a screen by its qualified
name. Reading the id of an entry or the name of a screen is no question. -/
inductive Query where
  /-- May tips without screen conditions be drawn on this screen? -/
  | canRenderOn (host : String) (screen : String)
  /-- Which screen type does this engine identifier stand for? -/
  | screenType (host : String) (id : Identifier)
  /-- Where is the player? -/
  | biome
  | dimension
  /-- Which milestones has the player completed? -/
  | milestones
  /-- Does a registry entry carry this tag? -/
  | isIn (tag : Identifier)
deriving DecidableEq, Repr

namespace Query

protected def toString : Query → String
  | .canRenderOn host screen => host ++ ".can_render_on " ++ screen
  | .screenType host id => host ++ ".screen_type " ++ id.toString
  | .biome => "biome"
  | .dimension => "dimension"
  | .milestones => "milestones"
  | .isIn tag => "is_in " ++ tag.toString

instance : ToString Query := ⟨Query.toString⟩

end Query

/-- How much a notice matters. -/
inductive Severity where
  | error
  | warn
  | info
  | debug
  | trace
deriving DecidableEq, Repr

def Severity.name : Severity → String
  | .error => "ERROR"
  | .warn => "WARN"
  | .info => "INFO"
  | .debug => "DEBUG"
  | .trace => "TRACE"

/-- Why a tip is not shown: the first step of the display decision that it fails. -/
inductive HideReason where
  | screen
  | noPlayer
  | biome
  | dimension
  | milestones
deriving DecidableEq, Repr

def HideReason.message : HideReason → String
  | .screen => "hidden on this screen"
  | .noPlayer => "hidden without an active player"
  | .biome => "hidden in this biome"
  | .dimension => "hidden in this dimension"
  | .milestones => "hidden until milestones are completed"

/-- Why a rule string never matches. -/
inductive RuleFault where
  /-- The text after `~` is no pattern. -/
  | invalidPattern
  /-- An engine identifier that the host knows no screen type for. -/
  | unknownScreen
  /-- An identifier outside the engine's namespace. -/
  | foreignScreen
  /-- No form of a rule on registry entries. -/
  | noRegistryForm
  /-- No form of a rule on identifiers. -/
  | noIdentifierForm
deriving DecidableEq, Repr

/-- The text shown for a rule that never matches. -/
def RuleFault.message : RuleFault → String
  | .invalidPattern => "invalid regex pattern in rule"
  | .unknownScreen => "unknown engine screen identifier"
  | .foreignScreen => "screen identifiers are only defined for engine screens"
  | .noRegistryForm => "rule must be an identifier, namespace, tag, or regex pattern"
  | .noIdentifierForm => "rule must be an identifier, namespace, or regex pattern"

/-- An entry of the log. -/
inductive Notice where
  /-- A rule string was given up at compile time. -/
  | ruleDegraded (fault : RuleFault) (rule : String)
  /-- The display decision of a tip was negative. -/
  | tipHidden (reason : HideReason) (tip : Identifier)
  /-- The rotation chose a tip. -/
  | tipShown (tip : Identifier)
  /-- The configuration ignores a tip. -/
  | tipIgnored (tip : Identifier)
  /-- A later entry takes the place of an earlier one. -/
  | tipReplaced (tip : Identifier)
  /-- An entry could not be read. -/
  | tipFailed (tip : Identifier)
  /-- A file stands where no identifier can be made of its place. -/
  | tipFileMisnamed
  /-- The end of a load. -/
  | tipsLoaded (loaded failed : Nat)
  | configLoaded
  | configUnreadable
  | configMissing
  | configUnwritable
deriving DecidableEq, Repr

namespace Notice

def severity : Notice → Severity
  | .ruleDegraded .. | .configUnwritable => .error
  | .tipFailed _ | .tipFileMisnamed | .configUnreadable => .warn
  | .tipsLoaded .. | .configLoaded | .configMissing => .info
  | .tipShown _ | .tipIgnored _ | .tipReplaced _ => .debug
  | .tipHidden .. => .trace

def message : Notice → String
  | .ruleDegraded fault _ => fault.message
  | .tipHidden reason _ => reason.message
  | .tipShown _ => "showing tip"
  | .tipIgnored _ => "skipping ignored tip"
  | .tipReplaced _ => "replacing tip with a later entry"
  | .tipFailed _ => "skipping tip that failed to load"
  | .tipFileMisnamed => "skipping tip file with an invalid name"
  | .tipsLoaded .. => "loaded tips"
  | .configLoaded => "loaded config file"
  | .configUnreadable => "could not read config file, using defaults"
  | .configMissing => "creating a new config file"
  | .configUnwritable => "could not write config file"

/-- The named values that go with the text: a rule, a tip, or the counts of a load. The path of a file and
the text of an error, which stand in the log as well, are no part of a notice. -/
def fields : Notice → List (String × String)
  | .ruleDegraded _ rule => [("rule", rule)]
  | .tipHidden _ tip | .tipShown tip | .tipIgnored tip | .tipReplaced tip | .tipFailed tip =>
    [("tip", tip.toString)]
  | .tipsLoaded loaded failed => [("loaded", toString loaded), ("failed", toString failed)]
  | .tipFileMisnamed | .configLoaded | .configUnreadable | .configMissing | .configUnwritable => []

/-- The notice as one line: severity, text, and each value after its name. -/
protected def toString (n : Notice) : String :=
  n.fields.foldl (fun line f => line ++ " " ++ f.1 ++ "=" ++ f.2)
    (n.severity.name ++ " " ++ n.message)

instance : ToString Notice := ⟨Notice.toString⟩

end Notice

/-- Something that shows outside. -/
inductive Event where
  | query (q : Query)
  | notice (n : Notice)
deriving DecidableEq, Repr

def Event.query? : Event → Option Query
  | .query q => some q
  | .notice _ => none

def Event.notice? : Event → Option Notice
  | .query _ => none
  | .notice n => some n

universe u

/-- A result with the events that led to it, oldest first. -/
@[ext]
structure Traced (α : Type u) where
  value : α
  events : List Event

namespace Traced

variable {α β : Type u}

instance : Monad Traced where
  pure a := ⟨a, []⟩
  bind x f := ⟨(f x.value).value, x.events ++ (f x.value).events⟩

/-- A single question, with the answer that was given. -/
def ask (q : Query) (answer : α) : Traced α :=
  ⟨answer, [.query q]⟩

def note (n : Notice) : Traced PUnit :=
  ⟨⟨⟩, [.notice n]⟩

/-- The questions asked, in order. -/
def queries (x : Traced α) : List Query :=
  x.events.filterMap Event.query?

/-- The notices written, in order. -/
def notices (x : Traced α) : List Notice :=
  x.events.filterMap Event.notice?

@[simp] theorem value_pure (a : α) : (pure a : Traced α).value = a := rfl

@[simp] theorem events_pure (a : α) : (pure a : Traced α).events = [] := rfl

@[simp] theorem value_bind (x : Traced α) (f : α → Traced β) :
    (x >>= f).value = (f x.value).value := rfl

@[simp] theorem events_bind (x : Traced α) (f : α → Traced β) :
    (x >>= f).events = x.events ++ (f x.value).events := rfl

@[simp] theorem value_ask (q : Query) (a : α) : (ask q a).value = a := rfl

@[simp] theorem events_ask (q : Query) (a : α) : (ask q a).events = [.query q] := rfl

@[simp] theorem events_note (n : Notice) : (note n : Traced PUnit).events = [.notice n] := rfl

instance : LawfulMonad Traced :=
  LawfulMonad.mk' Traced
    (fun x => by apply Traced.ext <;> simp [Functor.map])
    (fun a f => by apply Traced.ext <;> simp)
    (fun x f g => by apply Traced.ext <;> simp)

@[simp] theorem value_map (f : α → β) (x : Traced α) : (f <$> x).value = f x.value := rfl

@[simp] theorem events_map (f : α → β) (x : Traced α) : (f <$> x).events = x.events :=
  List.append_nil x.events

end Traced
end GameTips
