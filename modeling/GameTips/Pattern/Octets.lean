import GameTips.Text.CharSet

/-!
# Octets of characters

The octet sequences of the characters in a set, as paths: a path is a row of octet ranges, and stands
for every sequence that takes one octet from each range.

* `octetPaths` lists the paths of the characters between two code points;
* `CharSet.paths` lists those of a set.
-/

namespace GameTips

namespace Pattern

/-- A row of octet ranges, each with both ends included. -/
abbrev OctetPath := List (Nat × Nat)

/-- The paths of the numbers between two, whose first digit is written with a mark and is followed by
`k` digits of six bits, each in an octet of its own. Digits that take all values share a path. -/
def digitPaths : (k : Nat) → (mark lo hi : Nat) → List OctetPath
  | 0, mark, lo, hi => [[(mark + lo, mark + hi)]]
  | k + 1, mark, lo, hi =>
    let unit := Nat.pow 64 (k + 1)
    let under (digit : Nat) (paths : List OctetPath) : List OctetPath :=
      paths.map fun path => (mark + digit, mark + digit) :: path
    let first := lo / unit
    let last := hi / unit
    let lowest := lo % unit
    let highest := hi % unit
    if first = last then under first (digitPaths k 0x80 lowest highest)
    else
      let fullFrom := if lowest = 0 then first else first + 1
      let fullTo := if highest + 1 = unit then last else last - 1
      let below := if lowest = 0 then [] else under first (digitPaths k 0x80 lowest (unit - 1))
      let full :=
        if fullFrom ≤ fullTo then
          [(mark + fullFrom, mark + fullTo) :: List.replicate (k + 1) (0x80, 0xbf)]
        else []
      let above := if highest + 1 = unit then [] else under last (digitPaths k 0x80 0 highest)
      below ++ full ++ above

/-- The lengths of octet sequences: the first and last code point, the number of octets after the
first, and the mark of the first. -/
def octetLengths : List (Nat × Nat × Nat × Nat) := [
  (0, 0x7f, 0, 0), (0x80, 0x7ff, 1, 0xc0), (0x800, 0xffff, 2, 0xe0), (0x10000, 0x10ffff, 3, 0xf0)]

/-- The paths of the characters between two code points. -/
def octetPaths (lo hi : Nat) : List OctetPath :=
  octetLengths.flatMap fun (first, last, more, mark) =>
    if lo ≤ last ∧ first ≤ hi then digitPaths more mark (max lo first) (min hi last) else []

def octetCount (code : Nat) : Nat :=
  if code < 0x80 then 1 else if code < 0x800 then 2 else if code < 0x10000 then 3 else 4

end Pattern

/-- The paths of the characters in a set, in rising order. -/
def Text.CharSet.paths (s : Text.CharSet) : List Pattern.OctetPath :=
  s.ranges.flatMap fun r => Pattern.octetPaths r.1 r.2

end GameTips
