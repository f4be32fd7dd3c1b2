/-!
# Flags of a pattern

Flags change how the rest of a group is read. They are set by `(?i-s)` for what follows in the
group, and by `(?i-s:…)` for a group of their own.
-/

namespace GameTips.Pattern

/-- A letter that can be set or cleared. -/
inductive Flag where
  | ignoreCase
  | multiLine
  | dotAll
  /-- Swaps greedy and lazy repetition. -/
  | swapGreed
  | unicode
  | crlf
  /-- Blanks and comments in the pattern are skipped. -/
  | verbose
deriving DecidableEq, Repr

def Flag.ofChar? (c : Char) : Option Flag :=
  if c = 'i' then some .ignoreCase
  else if c = 'm' then some .multiLine
  else if c = 's' then some .dotAll
  else if c = 'U' then some .swapGreed
  else if c = 'u' then some .unicode
  else if c = 'R' then some .crlf
  else if c = 'x' then some .verbose
  else none

/-- The flags in force. -/
structure Flags where
  ignoreCase : Bool
  multiLine : Bool
  dotAll : Bool
  swapGreed : Bool
  unicode : Bool
  crlf : Bool
  verbose : Bool
deriving DecidableEq, Repr

namespace Flags

def initial : Flags := ⟨false, false, false, false, true, false, false⟩

def set (fs : Flags) (f : Flag) (on : Bool) : Flags :=
  match f with
  | .ignoreCase => { fs with ignoreCase := on }
  | .multiLine => { fs with multiLine := on }
  | .dotAll => { fs with dotAll := on }
  | .swapGreed => { fs with swapGreed := on }
  | .unicode => { fs with unicode := on }
  | .crlf => { fs with crlf := on }
  | .verbose => { fs with verbose := on }

def setAll (fs : Flags) (changes : List (Flag × Bool)) : Flags :=
  changes.foldl (fun fs c => fs.set c.1 c.2) fs

end Flags

/-- Read letters up to the colon or parenthesis that ends them, which is returned too. Each letter
may stand once; those after the one hyphen are cleared, and the hyphen may not stand last. -/
def readFlags (seen : List Flag) (cleared dangling : Bool) :
    List Char → Option ((List (Flag × Bool) × Char) × List Char)
  | [] => none
  | c :: rest =>
    if c = ':' ∨ c = ')' then if dangling then none else some (([], c), rest)
    else if c = '-' then if cleared then none else readFlags seen true true rest
    else
      match Flag.ofChar? c with
      | none => none
      | some f =>
        if f ∈ seen then none
        else
          (readFlags (f :: seen) cleared false rest).map fun r =>
            (((f, !cleared) :: r.1.1, r.1.2), r.2)

end GameTips.Pattern
