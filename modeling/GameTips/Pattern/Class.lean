import GameTips.Pattern.Token

/-!
# Bracketed classes

A class lists characters, ranges, escapes and classes within it, and combines such lists with `&&`,
`--` and `~~`, which bind less tightly than the list and group to the left. The reader keeps the
classes that are still open on a stack.

* `ClassState` is a reading in progress, `ClassState.step` reads one part of the class;
* `readClass` reads a whole class whose opening bracket has been taken.
-/

namespace GameTips.Pattern

open GameTips.Text (CharSet isBlank)

/-- How two lists of a class are combined. -/
inductive SetOp where
  | inter
  | diff
  | symmDiff
deriving DecidableEq, Repr

def SetOp.apply : SetOp → CharSet → CharSet → CharSet
  | .inter => .inter
  | .diff => .diff
  | .symmDiff => .symmDiff

/-- The operation that two characters are the sign of: one that stands twice. -/
def SetOp.ofChars? (c d : Char) : Option SetOp :=
  if d ≠ c then none
  else if c = '&' then some .inter
  else if c = '-' then some .diff
  else if c = '~' then some .symmDiff
  else none

/-- A part of a class: its set, and the levels of nesting that it was written with. -/
structure ClassPart where
  set : CharSet
  levels : Nat
deriving DecidableEq, Repr

/-- A class that is still open: whether it is negated, the operand and operation that wait for the
current list, and the list, the last item first. -/
structure ClassLevel where
  negated : Bool
  pending : Option (ClassPart × SetOp)
  items : List ClassPart
deriving DecidableEq, Repr

namespace ClassLevel

/-- The current list as one part. A list of several items is a level of nesting. -/
def listed (l : ClassLevel) : ClassPart :=
  match l.items with
  | [] => ⟨.empty, 0⟩
  | [p] => p
  | p :: ps => ⟨.unions ((p :: ps).map (·.set)), 1 + (p :: ps).foldl (fun n p => max n p.levels) 0⟩

/-- All that has been read as one part, with both operands closed under case if case is ignored. An
operation is a level of nesting. -/
def combined (fs : Flags) (l : ClassLevel) : ClassPart :=
  match l.pending with
  | none => l.listed
  | some (lhs, op) =>
    let fold := foldIf fs.ignoreCase (!fs.unicode)
    ⟨op.apply (fold lhs.set) (fold l.listed.set), 1 + max lhs.levels l.listed.levels⟩

/-- The class as one part; its brackets are a level of nesting. Case is ignored before the set is
negated. Where Unicode is off a negated class would hold single bytes, which no text does. -/
def close? (fs : Flags) (l : ClassLevel) : Option ClassPart :=
  let part := l.combined fs
  let s := foldIf fs.ignoreCase (!fs.unicode) part.set
  if l.negated then if fs.unicode then some ⟨s.compl, 1 + part.levels⟩ else none
  else some ⟨s, 1 + part.levels⟩

def add (l : ClassLevel) (p : ClassPart) : ClassLevel :=
  { l with items := p :: l.items }

def addSet (l : ClassLevel) (s : CharSet) : ClassLevel :=
  l.add ⟨s, 0⟩

def operate (fs : Flags) (l : ClassLevel) (op : SetOp) : ClassLevel :=
  { l with pending := some (l.combined fs, op), items := [] }

end ClassLevel

/-- Start the list of a class: hyphens at the start, or else one closing bracket, stand for
themselves. -/
def openList (fs : Flags) (negated : Bool) (cs : List Char) : Option (ClassLevel × List Char) :=
  let (hyphens, cs) := collectAll fs (· == '-') cs
  let level : ClassLevel := ⟨negated, none, hyphens.map fun c => ⟨.single c, 0⟩⟩
  match cs with
  | [] => none
  | c :: rest =>
    if hyphens.isEmpty ∧ c = ']' then
      if (skip fs rest).isEmpty then none else some (level.addSet (.single ']'), skip fs rest)
    else some (level, c :: rest)

/-- Open a class whose bracket has been taken. A caret negates it. -/
def openClass (fs : Flags) (cs : List Char) : Option (ClassLevel × List Char) :=
  match skip fs cs with
  | [] => none
  | c :: rest =>
    if c = '^' then openList fs true (skip fs rest) else openList fs false (c :: rest)

/-- The ranges of a class of ASCII characters. -/
def asciiClass? (name : List Char) : Option (List (Char × Char)) :=
  let lower := ('a', 'z')
  let upper := ('A', 'Z')
  let digits := ('0', '9')
  if name = "alnum".toList then some [digits, upper, lower]
  else if name = "alpha".toList then some [upper, lower]
  else if name = "ascii".toList then some [('\x00', '\x7f')]
  else if name = "blank".toList then some [('\t', '\t'), (' ', ' ')]
  else if name = "cntrl".toList then some [('\x00', '\x1f'), ('\x7f', '\x7f')]
  else if name = "digit".toList then some [digits]
  else if name = "graph".toList then some [('!', '~')]
  else if name = "lower".toList then some [lower]
  else if name = "print".toList then some [(' ', '~')]
  else if name = "punct".toList then some [('!', '/'), (':', '@'), ('[', '\x60'), ('\x7b', '~')]
  else if name = "space".toList then some [('\t', '\r'), (' ', ' ')]
  else if name = "upper".toList then some [upper]
  else if name = "word".toList then some [digits, upper, ('_', '_'), lower]
  else if name = "xdigit".toList then some [digits, ('A', 'F'), ('a', 'f')]
  else none

/-- Read `name:]`, the rest of a class of ASCII characters, which may be negated. -/
def readAsciiName (negated : Bool) (cs : List Char) :
    Option ((List (Char × Char) × Bool) × List Char) :=
  match cs.dropWhile (· ≠ ':') with
  | ':' :: ']' :: rest =>
    (asciiClass? (cs.takeWhile (· ≠ ':'))).map fun ranges => ((ranges, negated), rest)
  | _ => none

/-- Read `:name:]` or `:^name:]`, the rest of a class of ASCII characters: its ranges, and whether it
is negated. -/
def readAsciiClass : List Char → Option ((List (Char × Char) × Bool) × List Char)
  | ':' :: '^' :: rest => readAsciiName true rest
  | ':' :: rest => readAsciiName false rest
  | _ => none

/-- The set of a class of ASCII characters within brackets. -/
def asciiClassSet (fs : Flags) (ranges : List (Char × Char)) (negated : Bool) : Option CharSet :=
  let s := foldIf fs.ignoreCase (!fs.unicode) (.ofRanges ranges)
  if negated then if fs.unicode then some s.compl else none
  else some s

/-- Read a single character or an escape within brackets. -/
def readClassPrimitive (fs : Flags) : List Char → Option (Primitive × List Char)
  | [] => none
  | c :: rest => if c = '\\' then readEscape fs rest else some (.literal c false, rest)

/-- The character that stands at an end of a range or by itself. Where Unicode is off it has to be in
ASCII. -/
def classLiteral? (fs : Flags) : Primitive → Option Char
  | .literal c _ => if fs.unicode ∨ c.toNat < 0x80 then some c else none
  | _ => none

/-- The set of a primitive that stands by itself. Assertions have no place in a class. -/
def classItem? (fs : Flags) (p : Primitive) : Option CharSet :=
  match p with
  | .set s => some s
  | p => (classLiteral? fs p).map CharSet.single

/-- The next character beyond blanks and one comment sign. -/
def peekBeyond? (cs : List Char) : Option Char :=
  match cs.dropWhile isBlank with
  | [] => none
  | c :: rest => if c = '#' then (rest.dropWhile isBlank).head? else some c

/-- The character that decides whether a hyphen makes a range: the next one, beyond blanks and one
comment sign where the flags let them stand and something follows them. -/
def peekPast (fs : Flags) (cs : List Char) : Option Char :=
  if fs.verbose then (peekBeyond? cs).or cs.head? else cs.head?

/-- Read a character, an escape or a range. A hyphen before a closing bracket or another hyphen makes
no range. -/
def readClassItem (fs : Flags) (cs : List Char) : Option (CharSet × List Char) := do
  let (low, cs) ← readClassPrimitive fs cs
  match skip fs cs with
  | [] => none
  | c :: rest =>
    if c = '-' ∧ peekPast fs rest ≠ some ']' ∧ peekPast fs rest ≠ some '-' then
      let (high, rest) ← readClassPrimitive fs (skip fs rest)
      let lo ← classLiteral? fs low
      let hi ← classLiteral? fs high
      if lo ≤ hi then some (.range lo hi, rest) else none
    else
      let s ← classItem? fs low
      some (s, c :: rest)

/-- A reading in progress: the innermost open class and those around it. -/
structure ClassState where
  level : ClassLevel
  outer : List ClassLevel
deriving DecidableEq, Repr

namespace ClassState

def addSet (st : ClassState) (s : CharSet) : ClassState :=
  { st with level := st.level.addSet s }

/-- Read what a bracket within a class opens: a class of ASCII characters, or a class of its own. -/
def readNested (fs : Flags) (st : ClassState) (cs : List Char) : Option (ClassState × List Char) :=
  match readAsciiClass cs with
  | some ((ranges, negated), rest) => do
    let s ← asciiClassSet fs ranges negated
    some (st.addSet s, rest)
  | none => (openClass fs cs).map fun r => (⟨r.1, st.level :: st.outer⟩, r.2)

/-- Close the innermost class. The class is returned if it is the outermost one. -/
def close? (fs : Flags) (st : ClassState) : Option (ClassPart ⊕ ClassState) := do
  let p ← st.level.close? fs
  match st.outer with
  | [] => some (.inl p)
  | level :: outer => some (.inr ⟨level.add p, outer⟩)

/-- Read the next part of a class. The class is returned once the outermost class is closed. -/
def step (fs : Flags) (st : ClassState) :
    List Char → Option ((ClassPart ⊕ ClassState) × List Char)
  | [] => none
  | c :: rest =>
    if c = '[' then (st.readNested fs rest).map fun r => (.inr r.1, r.2)
    else if c = ']' then (st.close? fs).map fun r => (r, rest)
    else
      match rest.head?.bind (SetOp.ofChars? c) with
      | some op => some (.inr { st with level := st.level.operate fs op }, rest.tail)
      | none => (readClassItem fs (c :: rest)).map fun r => (.inr (st.addSet r.1), r.2)

/-- Read parts of a class until the outermost one is closed. -/
def run (fs : Flags) : Nat → ClassState → List Char → Option (ClassPart × List Char)
  | 0, _, _ => none
  | fuel + 1, st, cs =>
    match st.step fs (skip fs cs) with
    | none => none
    | some (.inl p, rest) => some (p, rest)
    | some (.inr st, rest) => run fs fuel st rest

end ClassState

/-- Read a class whose opening bracket has been taken. -/
def readClass (fs : Flags) (cs : List Char) : Option (ClassPart × List Char) := do
  let (level, rest) ← openClass fs cs
  ClassState.run fs cs.length ⟨level, []⟩ rest

end GameTips.Pattern
