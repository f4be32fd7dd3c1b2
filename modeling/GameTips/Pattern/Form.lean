import GameTips.Pattern.Basic
import GameTips.Pattern.Octets

/-!
# Forms of patterns

The form that a pattern is compiled from. It has the same matches as the pattern, but characters in a
row are one text, branches that take one character each are one set, and branches that begin alike
share their beginning.

* `Pattern.form` is the form of a pattern;
* `Form.join`, `Form.repeated` and `Form.alternation` build forms from forms.
-/

namespace GameTips.Pattern

open GameTips.Text (CharSet)

/-- A pattern in the form that it is compiled from. -/
inductive Form where
  | empty
  /-- The given characters in a row, at least one. -/
  | text (cs : List Char)
  | chars (s : CharSet)
  | check (a : Assertion)
  | seq (p q : Form)
  | alt (p q : Form)
  | rep (p : Form) (min : Nat) (max : Option Nat) (isLazy : Bool)
  /-- A parenthesis that remembers what it matched. -/
  | group (p : Form)
deriving DecidableEq, Repr

namespace Form

/-! ## What is known of a form -/

def items : Form → List Form
  | .seq p q => p :: q.items
  | p => [p]

def branches : Form → List Form
  | .alt p q => p :: q.branches
  | p => [p]

/-- Whether all matches are known to take nothing. -/
def takesNothing : Form → Bool
  | .empty | .check _ => true
  | .text _ | .chars _ => false
  | .seq p q | .alt p q => p.takesNothing && q.takesNothing
  | .rep p _ max _ => max.any fun m => m = 0 || p.takesNothing
  | .group p => p.takesNothing

/-- The number of octets that a match takes at least, if there can be a match. -/
def least? : Form → Option Nat
  | .empty | .check _ => some 0
  | .text cs => some (cs.foldl (fun n c => n + octetCount c.toNat) 0)
  | .chars s => s.ranges.head?.map fun r => octetCount r.1
  | .seq p q => p.least?.bind fun m => q.least?.map fun n => m + n
  | .alt p q => p.least?.bind fun m => q.least?.map fun n => min m n
  | .rep p min _ _ => p.least?.map fun m => m * min
  | .group p => p.least?

/-- Whether every match takes something. -/
def takesSomething (f : Form) : Bool :=
  f.least?.any fun n => 0 < n

/-- Whether every match is known to start at the start of the text. -/
def fromStart : Form → Bool
  | .empty | .text _ | .chars _ => false
  | .check a => a = .textStart
  | .seq p q => p.fromStart || p.takesNothing && q.fromStart
  | .alt p q => p.fromStart && q.fromStart
  | .rep p min _ _ => 0 < min && p.fromStart
  | .group p => p.fromStart

/-- Whether every match is known to end at the end of the text. -/
def toEnd : Form → Bool
  | .empty | .text _ | .chars _ => false
  | .check a => a = .textEnd
  | .seq p q => q.toEnd || q.takesNothing && p.toEnd
  | .alt p q => p.toEnd && q.toEnd
  | .rep p min _ _ => 0 < min && p.toEnd
  | .group p => p.toEnd

/-- Whether a form remembers what it matched; no two such forms are the same. -/
def captures : Form → Bool
  | .empty | .text _ | .chars _ | .check _ => false
  | .seq p q | .alt p q => p.captures || q.captures
  | .rep p _ _ _ => p.captures
  | .group _ => true

/-! ## Building forms -/

/-- The form that takes one character of a set. -/
def ofSet (s : CharSet) : Form :=
  match s.single? with
  | some c => .text [c]
  | none => .chars s

/-- One form after another. Texts that meet become one. -/
def join : Form → Form → Form
  | .empty, q => q
  | .seq p p', q => .seq p (p'.join q)
  | p, .empty => p
  | .text cs, .text ds => .text (cs ++ ds)
  | .text cs, .seq (.text ds) q => .seq (.text (cs ++ ds)) q
  | p, q => .seq p q

def joinAll (ps : List Form) : Form := ps.foldr join .empty

/-- A form several times in a row. What takes nothing need not be tried twice. -/
def repeated (p : Form) (min : Nat) (max : Option Nat) (isLazy : Bool) : Form :=
  let (min, max) :=
    if p.takesNothing then (Nat.min min 1, some ((max.map (Nat.min · 1)).getD 1)) else (min, max)
  if max = some 0 then .empty
  else if min = 1 ∧ max = some 1 then p
  else .rep p min max isLazy

/-- The set of the characters that branches take, if each takes one as a text or each one of a set. -/
def setOf? (ps : List Form) : Option CharSet :=
  let char? : Form → Option CharSet
    | .text [c] => some (.single c)
    | _ => none
  let chars? : Form → Option CharSet
    | .chars s => some s
    | _ => none
  ((ps.mapM char?).or (ps.mapM chars?)).map CharSet.unions

/-- The branches as one form. -/
def chain : List Form → Form
  | [] => .chars .empty
  | [p] => p
  | p :: ps => .alt p (chain ps)

/-- The branches as one form, with a set in place of branches that take one character each. -/
def merged (ps : List Form) : Form :=
  match ps.flatMap branches with
  | [] => .chars .empty
  | [p] => p
  | ps => ((setOf? ps).map ofSet).getD (chain ps)

/-- What two rows of forms begin with. -/
def shared : List Form → List Form → List Form
  | p :: ps, q :: qs => if p = q ∧ !p.captures then p :: shared ps qs else []
  | _, _ => []

/-- What all branches begin with, if each is a row of several forms. -/
def sharedItems (ps : List Form) : List Form :=
  match ps.map items with
  | row :: rows => if (row :: rows).all (1 < ·.length) then rows.foldl shared row else []
  | [] => []

/-- The alternation of several forms. What all branches begin with is put in front. -/
def alternation (ps : List Form) : Form :=
  match ps with
  | [p] => p
  | ps =>
    let ps := ps.flatMap branches
    match setOf? ps, sharedItems ps with
    | some s, _ => ofSet s
    | none, [] => chain ps
    | none, front =>
      joinAll (front ++ [merged (ps.map fun p => joinAll (p.items.drop front.length))])

end Form

def forms : Pattern → List Form
  | .empty => [.empty]
  | .chars s _ => [.ofSet s]
  | .check a => [.check a]
  | .seq p q => [(Form.alternation p.forms).join (Form.alternation q.forms)]
  | .alt p q => Form.alternation p.forms :: q.forms
  | .rep p min max isLazy => [(Form.alternation p.forms).repeated min max isLazy]
  | .group true p => [.group (Form.alternation p.forms)]
  | .group false p => [Form.alternation p.forms]

/-- The form that a pattern is compiled from. -/
def form (p : Pattern) : Form := Form.alternation p.forms

end GameTips.Pattern
