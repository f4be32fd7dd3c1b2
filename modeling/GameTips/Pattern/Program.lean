import GameTips.Pattern.Form
import GameTips.Pattern.Trie
import Std.Data.HashMap

/-!
# The size of compiled patterns

A pattern is compiled into a program of states, once to be run forwards and once backwards, and a
pattern whose programs are too large is refused. Only the size of the programs is computed here: the
number of states, and the number of bytes in the lists that some of them hold.

Sets of characters are compiled octet by octet, and states that would be the same are shared as far
as a table of fixed size remembers them.

* `Draft` is a program being written, `Drafting` an action that may find it too large;
* `Form.write` writes a form, `Form.fits` says whether both programs stay within the limit.
-/

namespace GameTips.Pattern

open GameTips.Text (CharSet)

/-! ## Drafts -/

/-- A program being written: its states, and the bytes of the lists in them. -/
structure Draft where
  states : Nat
  listed : Nat
deriving DecidableEq, Repr

namespace Draft

def empty : Draft := ⟨0, 0⟩

/-- The program with states added, and with bytes added to lists. -/
def add (d : Draft) (states listed : Nat) : Draft :=
  ⟨d.states + states, d.listed + listed⟩

/-- The size of a program in bytes: 32 for each state, and what its list holds. -/
def size (d : Draft) : Nat :=
  d.states * 32 + d.listed

end Draft

/-- The size that a program may have, in bytes. -/
def maxSize : Nat := 10 * 1024 * 1024

/-- The bytes of a transition in a list. -/
def transitionSize : Nat := 8

/-- The bytes of a choice in a list. -/
def choiceSize : Nat := 4

/-- An action on a draft, which fails once the draft is too large. -/
abbrev Drafting := StateT Draft Option

namespace Drafting

/-- Take a new draft, unless it is too large. -/
def put (d : Draft) : Drafting Unit := fun _ =>
  if d.size ≤ maxSize then some ((), d) else none

def add (states listed : Nat) : Drafting Unit := fun d =>
  put (d.add states listed) d

def addChoice (choices : Nat) : Drafting Unit :=
  add 1 (choices * choiceSize)

end Drafting

/-! ## Remembered states -/

/-- One step of the hash of a row of numbers. -/
def hashStep (h : UInt64) (n : Nat) : UInt64 :=
  (h ^^^ n.toUInt64) * 1099511628211

/-- The place of a row of numbers in a table of a given size. -/
def hashPlace (size : Nat) (ns : List Nat) : Nat :=
  (ns.foldl hashStep 14695981039346656037).toNat % size

/-- A table that remembers states by rows of numbers, one row at each place. -/
abbrev Memory := Std.HashMap Nat (List Nat × Nat)

/-- The state that is remembered for a row of numbers. -/
def Memory.state? (m : Memory) (place : Nat) (row : List Nat) : Option Nat :=
  match m[place]? with
  | some (known, id) => if known = row then some id else none
  | none => none

/-! ## Sets of characters, forwards -/

/-- A state whose transitions are not all known yet: those that are known, the last first, as their
octets and where they lead, and the octets of the one that leads to the next state in progress. -/
structure OpenState where
  known : List (Nat × Nat × Nat)
  last : Option (Nat × Nat)
deriving DecidableEq, Repr

/-- A draft, and what is remembered of its states. -/
structure SetDraft where
  draft : Draft
  memory : Memory

namespace OpenState

/-- The state with its last transition leading to a given state. -/
def close (s : OpenState) (next : Nat) : OpenState :=
  match s.last with
  | some (lo, hi) => ⟨(lo, hi, next) :: s.known, none⟩
  | none => s

/-- The number of a state with the given transitions, which is added unless it is remembered. -/
def write (s : OpenState) (d : SetDraft) : Nat × SetDraft :=
  let transitions := s.known.reverse
  let row := transitions.flatMap fun (lo, hi, next) => [lo, hi, next]
  let place := hashPlace 10000 row
  match d.memory.state? place row with
  | some id => (id, d)
  | none =>
    let id := d.draft.states
    (id, ⟨d.draft.add 1 (transitions.length * transitionSize), d.memory.insert place (row, id)⟩)

/-- Write states in progress, each of which leads to the one after it and the last to `target`. -/
def writeAll (target : Nat) : List OpenState → SetDraft → Nat × SetDraft
  | [], d => (target, d)
  | s :: ss, d =>
    let (next, d) := writeAll target ss d
    (s.close next).write d

/-- Take a path up: states in progress that it has in common with the path before are kept, the
others are written. -/
def follow (target : Nat) : OctetPath → List OpenState → SetDraft → List OpenState × SetDraft
  | octets :: path, s :: ss, d =>
    if s.last = some octets then
      let (ss, d) := follow target path ss d
      (s :: ss, d)
    else
      let (next, d) := writeAll target ss d
      ({ s.close next with last := some octets } :: path.map fun r => ⟨[], some r⟩, d)
  | _, ss, d => (ss, d)

end OpenState

/-- Write a set of characters to be taken forwards: an automaton of its octets, whose states are
written once all paths through them are known. -/
def writePaths (paths : List OctetPath) (draft : Draft) : Draft :=
  let target := draft.states
  let (states, d) := paths.foldl
    (fun (states, d) path => OpenState.follow target path states d)
    ([⟨[], none⟩], SetDraft.mk (draft.add 1 0) ∅)
  (OpenState.writeAll target states d).2.draft

/-! ## Sets of characters, backwards -/

/-- Write the states of a path that lead to `target`, the first octet last; states are shared as far
as they are remembered. -/
def writeBackwards (target : Nat) : OctetPath → SetDraft → SetDraft
  | [], d => ⟨d.draft.add 0 choiceSize, d.memory⟩
  | (lo, hi) :: path, d =>
    let row := [target, lo, hi]
    let place := hashPlace 1000 row
    match d.memory.state? place row with
    | some id => writeBackwards id path d
    | none =>
      let id := d.draft.states
      writeBackwards id path ⟨d.draft.add 1 0, d.memory.insert place (row, id)⟩

/-- Write a set of characters to be taken backwards: a choice between its paths. -/
def writePathsBackwards (paths : List OctetPath) (draft : Draft) : Draft :=
  let target := draft.states + 1
  (paths.foldl (fun d path => writeBackwards target path d)
    (SetDraft.mk (draft.add 2 0) ∅)).draft

/-! ## Forms -/

/-- The way that a program runs along a text. -/
inductive Direction where
  | forwards
  | backwards
deriving DecidableEq, Repr

/-- Write a set of characters. Those of ASCII take one list of transitions. -/
def writeSet (dir : Direction) (s : CharSet) : Drafting Unit := fun d =>
  if s.isAscii then Drafting.add 2 (s.ranges.length * transitionSize) d
  else
    match dir with
    | .forwards => Drafting.put (writePaths s.paths d) d
    | .backwards => Drafting.put (writePathsBackwards s.paths d) d

/-- The states and lists of the rest of a node, after some children in a row: a state for each row of
children, and a choice between the rows and the ends of words. -/
def Trie.layout (children : Nat) : Trie → Draft
  | .done => (row children).add 1 0
  | .mark rest =>
    let d := rest.layout 0
    (row children).add d.states (d.listed + choiceSize)
  | .branch _ child rest =>
    let d := rest.layout (children + 1)
    if child.isLeaf then d
    else
      let below := child.layout 0
      d.add below.states below.listed
where
  /-- The state of children in a row, and its place in the choice. -/
  row : Nat → Draft
    | 0 => .empty
    | 1 => ⟨1, choiceSize⟩
    | n => ⟨1, n * transitionSize + choiceSize⟩

/-- The octets of a text in the order in which they are taken. -/
def word (dir : Direction) (cs : List Char) : List Nat :=
  let octets := cs.flatMap fun c => (String.utf8EncodeChar c).map (·.toNat)
  match dir with
  | .forwards => octets
  | .backwards => octets.reverse

/-- The texts of branches, if all of them are texts. -/
def Form.texts? (ps : List Form) : Option (List (List Char)) :=
  ps.mapM fun
    | .text cs => some cs
    | _ => none

/-- Lead on from a program that has been written. Where it ends in a choice, the way on is listed
there. -/
def leadOn (endsInChoice : Bool) : Drafting Unit :=
  if endsInChoice then Drafting.add 0 choiceSize else pure ()

/-- Write further copies of a program, each led to from the one before. -/
def writeMore (write : Drafting Bool) : Nat → Bool → Drafting Bool
  | 0, e => pure e
  | n + 1, e => do
    leadOn e
    let e ← write
    writeMore write n e

def writeTimes (write : Drafting Bool) : Nat → Drafting Bool
  | 0 => do
    Drafting.add 1 0
    pure false
  | n + 1 => do
    let e ← write
    writeMore write n e

/-- Write further copies of a program, each of which may be left out. -/
def writeOptional (write : Drafting Bool) : Nat → Bool → Drafting Bool
  | 0, e => do
    leadOn e
    pure false
  | n + 1, e => do
    leadOn e
    Drafting.addChoice 2
    let e ← write
    writeOptional write n e

def writeRepeated (write : Drafting Bool) (takesSomething : Bool) (min : Nat) :
    Option Nat → Drafting Bool
  | none => do
    if 0 < min then
      let e ← writeTimes write min
      leadOn e
      Drafting.addChoice 1
      pure true
    else if takesSomething then
      Drafting.addChoice 1
      let e ← write
      leadOn e
      pure true
    else
      let e ← write
      leadOn e
      Drafting.addChoice 2
      Drafting.addChoice 2
      Drafting.add 1 0
      pure false
  | some max => do
    if min = 0 ∧ max = 1 then
      Drafting.addChoice 2
      let e ← write
      Drafting.add 1 0
      leadOn e
      pure false
    else
      let e ← writeTimes write min
      if min < max then
        Drafting.add 1 0
        writeOptional write (max - min) e
      else pure e

/-- End a program that is a branch of an alternation, given which branch it is. The choice between
branches is written after the second one. -/
def endBranch (branch : Option Nat) (e : Bool) : Drafting Bool := do
  match branch with
  | none => pure e
  | some n => do
    leadOn e
    match n with
    | 0 => pure ()
    | 1 => Drafting.add 2 (2 * choiceSize)
    | _ => Drafting.add 0 choiceSize
    pure false

namespace Form

/-- Write a form, and tell whether its program ends in a choice. Given a number, the form is that
branch of an alternation. Branches that are all texts are written as a trie. -/
def write (dir : Direction) (branch : Option Nat) : Form → Drafting Bool
  | .empty | .check _ => do
    Drafting.add 1 0
    endBranch branch false
  | .text cs => do
    Drafting.add (word dir cs).length 0
    endBranch branch false
  | .chars s => do
    writeSet dir s
    endBranch branch false
  | .group p => do
    match dir with
    | .forwards => do
      Drafting.add 1 0
      let e ← p.write dir none
      leadOn e
      Drafting.add 1 0
      endBranch branch false
    | .backwards => do
      let e ← p.write dir none
      endBranch branch e
  | .seq p q => do
    match dir with
    | .forwards => do
      let e ← p.write dir none
      leadOn e
      let e ← q.write dir none
      endBranch branch e
    | .backwards => do
      let e ← q.write dir none
      leadOn e
      let e ← p.write dir none
      endBranch branch e
  | .alt p q => do
    match branch, texts? (Form.alt p q).branches with
    | none, some texts => do
      let d := (Trie.ofWords (texts.map (word dir))).layout 0
      Drafting.add (d.states + 1) d.listed
      pure false
    | none, none => do
      let _ ← p.write dir (some 0)
      q.write dir (some 1)
    | some n, _ => do
      let _ ← p.write dir (some n)
      q.write dir (some (n + 1))
  | .rep p min max _ => do
    let e ← writeRepeated (p.write dir none) p.takesSomething min max
    endBranch branch e

/-- Write the whole program of a form. Where a match need not start at the end of the text that the
program starts from, a loop over all octets goes before it. -/
def writeProgram (dir : Direction) (p : Form) : Drafting Unit := do
  let anchored := match dir with
    | .forwards => p.fromStart
    | .backwards => p.toEnd
  if anchored then Drafting.add 1 0
  else Drafting.add 3 (transitionSize + 2 * choiceSize)
  match dir with
  | .forwards => do
    let _ ← (Form.group p).write dir none
    Drafting.add 1 0
  | .backwards => do
    let e ← p.write dir none
    leadOn e
    Drafting.add 1 0

/-- Whether the programs of a form stay within the limit. -/
def fits (p : Form) : Bool :=
  ((p.writeProgram .forwards).run .empty).isSome && ((p.writeProgram .backwards).run .empty).isSome

end Form
end GameTips.Pattern
