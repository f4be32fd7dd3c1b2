import GameTips.Pattern.Places
import GameTips.Unicode.Trait

/-!
# Patterns

A pattern is a regular expression with assertions about the place it stands at. Whether repetitions
are greedy does not matter for a match to exist, but it tells apart patterns that are compiled.

* `Pattern.Matches t p i j` says that `p` matches the part of the text `t` between two places;
* `Pattern.on` reads a pattern against a text, and `Plan.advance` computes all places that matches
  lead to from a set of places;
* `Pattern.occursIn` asks for a match anywhere, `Pattern.matchesAll` for one of the whole text.
-/

namespace GameTips

open GameTips.Text (CharSet)

namespace Pattern

/-- A condition on a place in a text. -/
inductive Assertion where
  | textStart
  | textEnd
  /-- The start of a line; with `crlf`, a carriage return ends a line too. -/
  | lineStart (crlf : Bool)
  | lineEnd (crlf : Bool)
  | wordBoundary
  | noWordBoundary
  | wordStart
  | wordEnd
  /-- No word character stands before. -/
  | wordStartHalf
  /-- No word character stands after. -/
  | wordEndHalf
deriving DecidableEq, Repr

namespace Assertion

def isWordChar (c : Char) : Bool :=
  Unicode.wordSet.mem c

/-- Whether the assertion holds between the character before a place and the one after it. -/
def holdsBetween (before after : Option Char) : Assertion → Bool
  | .textStart => before.isNone
  | .textEnd => after.isNone
  | .lineStart false => before.isNone || before == some '\n'
  | .lineEnd false => after.isNone || after == some '\n'
  | .lineStart true =>
    before.isNone || before == some '\n' || (before == some '\r' && after != some '\n')
  | .lineEnd true =>
    after.isNone || after == some '\r' || (after == some '\n' && before != some '\r')
  | .wordBoundary => before.any isWordChar != after.any isWordChar
  | .noWordBoundary => before.any isWordChar == after.any isWordChar
  | .wordStart => !before.any isWordChar && after.any isWordChar
  | .wordEnd => before.any isWordChar && !after.any isWordChar
  | .wordStartHalf => !before.any isWordChar
  | .wordEndHalf => !after.any isWordChar

/-- Whether the assertion holds at a place of a text. -/
def holdsAt (t : List Char) (i : Nat) (a : Assertion) : Bool :=
  a.holdsBetween (if i = 0 then none else t[i - 1]?) t[i]?

/-- Whether the assertion holds at each place of a text that a character stands before. -/
def answers (a : Assertion) (before : Option Char) : List Char → List Bool
  | [] => [a.holdsBetween before none]
  | c :: t => a.holdsBetween before (some c) :: a.answers (some c) t

end Assertion
end Pattern

/-- A regular expression. -/
inductive Pattern where
  /-- Matches without taking a character. -/
  | empty
  /-- Takes one character of a set, which was written with some levels of brackets. -/
  | chars (s : CharSet) (levels : Nat)
  /-- Takes nothing and holds at some places only. -/
  | check (a : Pattern.Assertion)
  | seq (p q : Pattern)
  | alt (p q : Pattern)
  /-- Between `min` and `max` matches in a row; without `max` there is no bound. A lazy repetition
  tries few matches first. -/
  | rep (p : Pattern) (min : Nat) (max : Option Nat) (isLazy : Bool)
  /-- A parenthesis, which may remember what it matched. -/
  | group (captures : Bool) (p : Pattern)
deriving DecidableEq, Repr

namespace Pattern

/-! ## Nesting -/

/-- Where a pattern stands: within a row of a sequence or of an alternation, or elsewhere. -/
inductive Place where
  | alone
  | inSeq
  | inAlt
deriving DecidableEq, Repr

/-- The levels of nesting in a pattern. The members of a sequence in a row are on one level, one
below the place of the sequence, and so are the branches of an alternation. -/
def depth (place : Place) : Pattern → Nat
  | .empty | .check _ => 0
  | .chars _ levels => levels
  | .seq p q => (if place = .inSeq then 0 else 1) + max (p.depth .inSeq) (q.depth .inSeq)
  | .alt p q => (if place = .inAlt then 0 else 1) + max (p.depth .inAlt) (q.depth .inAlt)
  | .rep p _ _ _ | .group _ p => 1 + p.depth .alone

/-! ## What a pattern matches -/

/-- The pattern matches the part of the text between two places. -/
inductive Matches (t : List Char) : Pattern → Nat → Nat → Prop where
  | empty {i} : i ≤ t.length → Matches t .empty i i
  | chars {s n i c} : t[i]? = some c → s.mem c = true → Matches t (.chars s n) i (i + 1)
  | check {a i} : i ≤ t.length → a.holdsAt t i = true → Matches t (.check a) i i
  | seq {p q i j k} : Matches t p i j → Matches t q j k → Matches t (.seq p q) i k
  | altLeft {p q i j} : Matches t p i j → Matches t (.alt p q) i j
  | altRight {p q i j} : Matches t q i j → Matches t (.alt p q) i j
  /-- No further repetition is needed. -/
  | repDone {p max l i} : i ≤ t.length → Matches t (.rep p 0 max l) i i
  /-- One repetition is taken off the bounds. -/
  | repMore {p min max l i j k} : max ≠ some 0 → Matches t p i j →
      Matches t (.rep p (min - 1) (max.map (· - 1)) l) j k → Matches t (.rep p min max l) i k
  | group {b p i j} : Matches t p i j → Matches t (.group b p) i j

/-! ## Finding matches -/

/-- Apply a step a number of times. A set that the step does not change is the result of all further
steps too. -/
def iterate (step : Places → Places) : Nat → Places → Places
  | 0, s => s
  | n + 1, s =>
    let next := step s
    if next = s then s else iterate step n next

/-- The given places together with those that a step leads to. -/
def widen (step : Places → Places) (s : Places) : Places :=
  s.union (step s)

/-- A pattern as it reads against one text: at which places it may go on. -/
inductive Plan where
  /-- Stays, at some places only. -/
  | stay (at' : Places)
  /-- Takes a character, at some places only. -/
  | take (at' : Places)
  | seq (p q : Plan)
  | alt (p q : Plan)
  /-- As many matches in a row as are required, and as many further ones as are allowed. -/
  | rep (p : Plan) (required allowed : Nat)
deriving DecidableEq, Repr

/-- The places where matches from one of the given places end. -/
def Plan.advance : Plan → Places → Places
  | .stay places, s => s.inter places
  | .take places, s => (s.inter places).next
  | .seq p q, s => q.advance (p.advance s)
  | .alt p q, s => (p.advance s).union (q.advance s)
  | .rep p required allowed, s =>
    iterate (widen p.advance) allowed (iterate p.advance required s)

/-- The characters of a text, each with the places that it stands after. -/
def standing (t : List Char) : List (Char × Places) :=
  t.eraseDups.map fun c => (c, .ofAnswers (t.map (· == c)))

/-- The places that a character of a set stands after. -/
def placesOf (s : CharSet) (standing : List (Char × Places)) : Places :=
  standing.foldr (fun e found => if s.mem e.1 then e.2.union found else found) .empty

/-- The plan of a pattern for a text, given where its characters stand. Without a bound, a repetition
needs no more matches beyond the required ones than there are characters, because a match that takes
nothing leads nowhere. -/
def plan (t : List Char) (standing : List (Char × Places)) : Pattern → Plan
  | .empty => .stay (.upTo t.length)
  | .chars s _ => .take (placesOf s standing)
  | .check a => .stay (.ofAnswers (a.answers none t))
  | .seq p q => .seq (p.plan t standing) (q.plan t standing)
  | .alt p q => .alt (p.plan t standing) (q.plan t standing)
  | .rep p min none _ => .rep (p.plan t standing) min t.length
  | .rep p min (some max) _ =>
    if max < min then .stay .empty else .rep (p.plan t standing) min (max - min)
  | .group _ p => p.plan t standing

/-- The plan of a pattern for a text. -/
def on (t : List Char) (p : Pattern) : Plan :=
  p.plan t (standing t)

/-- Whether the pattern matches some part of the text. -/
def occursIn (p : Pattern) (t : List Char) : Bool :=
  (p.on t).advance (.upTo t.length) != .empty

/-- Whether the pattern matches the whole text. -/
def matchesAll (p : Pattern) (t : List Char) : Bool :=
  ((p.on t).advance (.single 0)).mem t.length

end Pattern
end GameTips
