import GameTips.Pattern.Class
import GameTips.Pattern.Program

/-!
# Reading patterns

A pattern is read from left to right by a machine that keeps the parentheses still open on a stack.

* `ReadState` is a reading in progress, `ReadState.step` reads one part of the pattern;
* `Pattern.parse?` reads a whole text, `Pattern.read?` also refuses what is nested too deep or too
  large.
-/

namespace GameTips

open GameTips.Text (CharSet)

namespace Pattern

/-- A branch in progress, the last item first, and the finished branches before it, the last
first. -/
structure Branches where
  items : List Pattern
  finished : List Pattern
deriving DecidableEq, Repr

namespace Branches

def start : Branches := ⟨[], []⟩

def branch (b : Branches) : Pattern :=
  match b.items with
  | [] => .empty
  | p :: before => before.foldl (fun rest q => .seq q rest) p

def toPattern (b : Branches) : Pattern :=
  b.finished.foldl (fun rest q => .alt q rest) b.branch

def add (b : Branches) (p : Pattern) : Branches :=
  { b with items := p :: b.items }

/-- The branches after a bar. -/
def next (b : Branches) : Branches :=
  ⟨[], b.branch :: b.finished⟩

end Branches

/-- An open parenthesis: what was read before it, and the flags in force after it. -/
structure OpenGroup where
  before : Branches
  captures : Bool
  flags : Flags
deriving DecidableEq, Repr

/-- A reading in progress: the innermost branches, the open parentheses around them, the flags in
force, and the names that groups have been given. -/
structure ReadState where
  current : Branches
  stack : List OpenGroup
  flags : Flags
  names : List (List Char)
deriving DecidableEq, Repr

namespace ReadState

def initial : ReadState := ⟨.start, [], .initial, []⟩

def add (st : ReadState) (p : Pattern) : ReadState :=
  { st with current := st.current.add p }

/-- The state with the last item replaced by its repetition. A change of flags, which stands among
the items as the empty pattern, cannot be repeated. -/
def repeatLast (st : ReadState) (low : Nat) (high : Option Nat) (isLazy : Bool) :
    Option ReadState :=
  match st.current.items with
  | [] | .empty :: _ => none
  | p :: before =>
    let p := .rep p low high (isLazy != st.flags.swapGreed)
    some { st with current := { st.current with items := p :: before } }

def openGroup (st : ReadState) (captures : Bool) (flags : Flags) : ReadState :=
  { st with current := .start, stack := ⟨st.current, captures, st.flags⟩ :: st.stack, flags := flags }

def closeGroup (st : ReadState) : Option ReadState :=
  match st.stack with
  | [] => none
  | g :: stack =>
    some { st with
      current := g.before.add (.group g.captures st.current.toPattern)
      stack := stack
      flags := g.flags }

/-- Read the name of a group and its closing angle bracket. Every name is given once. -/
def openNamed (st : ReadState) (cs : List Char) : Option (ReadState × List Char) :=
  match cs.takeWhile (· ≠ '>'), cs.dropWhile (· ≠ '>') with
  | c :: name, _ :: rest =>
    if (c = '_' ∨ Text.isAlphabetic c) ∧
        name.all (fun c => c == '_' || c == '.' || c == '[' || c == ']' || Text.isAlphanumeric c) ∧
        (c :: name) ∉ st.names then
      some ({ st.openGroup true st.flags with names := (c :: name) :: st.names }, rest)
    else none
  | _, _ => none

/-- Read flags, which hold for the group that they open or, before a parenthesis, for what follows. -/
def readFlagged (st : ReadState) (cs : List Char) : Option (ReadState × List Char) := do
  let ((changes, last), rest) ← readFlags [] false false cs
  let flags := st.flags.setAll changes
  if last = ':' then some (st.openGroup false flags, rest)
  else if changes.isEmpty then none
  else some ({ st.add .empty with flags := flags }, rest)

/-- Read what follows the question mark of a group: a name or flags. Neither looking ahead nor looking
behind is known: their signs are no flags and start no name. -/
def readMarked (st : ReadState) (cs : List Char) : Option (ReadState × List Char) :=
  match cs with
  | 'P' :: '<' :: rest | '<' :: rest => st.openNamed rest
  | cs => st.readFlagged cs

/-- Read the start of a group: a question mark with what belongs to it, or nothing. -/
def readGroup (st : ReadState) : List Char → Option (ReadState × List Char)
  | '?' :: rest => st.readMarked rest
  | cs => some (st.openGroup true st.flags, cs)

/-- Read what follows an opening parenthesis. -/
def readOpening (st : ReadState) (cs : List Char) : Option (ReadState × List Char) :=
  st.readGroup (skip st.flags cs)

/-- Whether a question mark makes a repetition lazy, and the text after it. -/
def readLazy : List Char → Bool × List Char
  | '?' :: rest => (true, rest)
  | cs => (false, cs)

/-- Read what follows the count of a repetition. -/
def readRepeated (st : ReadState) (low : Nat) (high : Option Nat) (cs : List Char) :
    Option (ReadState × List Char) :=
  let (isLazy, rest) := readLazy cs
  (st.repeatLast low high isLazy).map fun st => (st, rest)

/-- Read the upper bound of a repetition up to its closing brace, which is left: none after a lone
comma, and the lower bound where there is no comma. -/
def readUpper (fs : Flags) (low : Nat) : List Char → Option (Option Nat × List Char)
  | [] => none
  | c :: rest =>
    if c = ',' then
      match skip fs rest with
      | [] => none
      | c :: rest =>
        if c = '}' then some (none, c :: rest)
        else (readCount fs (c :: rest)).map fun r => (some r.1, r.2)
    else some (some low, c :: rest)

/-- Read the closing brace of a repetition, whose bounds have to be in order. -/
def closeCounts (fs : Flags) (low : Nat) (high : Option Nat) :
    List Char → Option ((Nat × Option Nat) × List Char)
  | [] => none
  | c :: rest => if c = '}' ∧ high.all (low ≤ ·) then some ((low, high), skip fs rest) else none

/-- Read the count of a repetition, whose opening brace has been taken: `n`, `n,` or `n,m`. -/
def readCounts (fs : Flags) (cs : List Char) : Option ((Nat × Option Nat) × List Char) := do
  let (low, rest) ← readCount fs (skip fs cs)
  let (high, rest) ← readUpper fs low rest
  closeCounts fs low high rest

def primitive? (fs : Flags) : Primitive → Option Pattern
  | .literal c asByte => (literalSet fs c asByte).map fun s => .chars s 0
  | .set s => some (.chars s 0)
  | .check a => some (.check a)

/-- The set of a dot: every character, or all but those that end a line. Where Unicode is off it
would hold single bytes, which no text does. -/
def dotSet? (fs : Flags) : Option CharSet :=
  if !fs.unicode then none
  else if fs.dotAll then some .all
  else if fs.crlf then some (CharSet.union (.single '\r') (.single '\n')).compl
  else some (CharSet.single '\n').compl

/-- Read the next part of a pattern, which starts with a given character. -/
def step (st : ReadState) (c : Char) (rest : List Char) : Option (ReadState × List Char) :=
  let fs := st.flags
  if c = '(' then st.readOpening rest
  else if c = ')' then st.closeGroup.map fun st => (st, rest)
  else if c = '|' then some ({ st with current := st.current.next }, rest)
  else if c = '[' then (readClass fs rest).map fun r => (st.add (.chars r.1.set r.1.levels), r.2)
  else if c = '?' then st.readRepeated 0 (some 1) rest
  else if c = '*' then st.readRepeated 0 none rest
  else if c = '+' then st.readRepeated 1 none rest
  else if c = '\x7b' then do
    let ((low, high), rest) ← readCounts fs rest
    st.readRepeated low high rest
  else if c = '\\' then do
    let (x, rest) ← readEscape fs rest
    let p ← primitive? fs x
    some (st.add p, rest)
  else if c = '.' then (dotSet? fs).map fun s => (st.add (.chars s 0), rest)
  else if c = '^' then
    some (st.add (.check (if fs.multiLine then .lineStart fs.crlf else .textStart)), rest)
  else if c = '$' then
    some (st.add (.check (if fs.multiLine then .lineEnd fs.crlf else .textEnd)), rest)
  else (primitive? fs (.literal c false)).map fun p => (st.add p, rest)

def run : Nat → ReadState → List Char → Option ReadState
  | 0, _, _ => none
  | fuel + 1, st, cs =>
    match skip st.flags cs with
    | [] => some st
    | c :: rest =>
      match st.step c rest with
      | some (st, rest) => run fuel st rest
      | none => none

/-- The pattern that was read, if no parenthesis is open. -/
def finish (st : ReadState) : Option Pattern :=
  if st.stack.isEmpty then some st.current.toPattern else none

end ReadState

/-- The pattern that a text writes. -/
def parse? (cs : List Char) : Option Pattern :=
  (ReadState.run (cs.length + 1) .initial cs).bind ReadState.finish

/-- The levels of nesting that a pattern may have. -/
def maxDepth : Nat := 250

/-- Whether a pattern is neither nested too deep nor too large when compiled. -/
def isModest (p : Pattern) : Bool :=
  p.depth .alone ≤ maxDepth && p.form.fits

/-- The pattern that a text writes, unless it is nested too deep or too large. -/
def read? (s : String) : Option Pattern :=
  (parse? s.toList).filter isModest

end Pattern
end GameTips
