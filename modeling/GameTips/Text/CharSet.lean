import GameTips.Text.Digits

/-!
# Sets of characters

A set of characters is told by the code points at which membership changes, in rising order. Every
operation on two sets is one walk along both (`merge`), and `CharSet.mem_combine` says that the walk
does what the operation does to the answers.

* `CharSet.mem` is membership, `CharSet.ranges` lists the set from below;
* `CharSet.union`, `CharSet.inter`, `CharSet.diff`, `CharSet.symmDiff`, `CharSet.compl` are the
  operations, each with its lemma;
* `CharSet.ofText` reads a set from a table of code points.
-/

namespace GameTips.Text

/-! ## Lists of turns -/

/-- Whether numbers rise, the first being at least a bound. -/
def rises (least : Nat) : List Nat → Bool
  | [] => true
  | n :: ns => least ≤ n && rises (n + 1) ns

/-- Whether a number is inside after all turns up to it. -/
def inside (now : Bool) : List Nat → Nat → Bool
  | [], _ => now
  | t :: ts, n => if n < t then now else inside (!now) ts n

/-- The turns of the combination of two sets, told by their turns and by whether each set is inside
now. There are no more steps than turns. -/
def merge (op : Bool → Bool → Bool) : Nat → Bool → Bool → List Nat → List Nat → List Nat
  | 0, _, _, _, _ => []
  | steps + 1, a, b, xs, ys =>
    let turn (n : Nat) (a' b' : Bool) (xs ys : List Nat) : List Nat :=
      let rest := merge op steps a' b' xs ys
      if op a' b' = op a b then rest else n :: rest
    match xs, ys with
    | [], [] => []
    | x :: xs, [] => turn x (!a) b xs []
    | [], y :: ys => turn y a (!b) [] ys
    | x :: xs, y :: ys =>
      if x < y then turn x (!a) b xs (y :: ys)
      else if y < x then turn y a (!b) (x :: xs) ys
      else turn x (!a) (!b) xs ys

theorem rises_of_le {k l : Nat} {ts : List Nat} (hrising : rises l ts = true) (hle : k ≤ l) :
    rises k ts = true := by
  cases ts with
  | nil => rfl
  | cons t ts =>
    simp only [rises, Bool.and_eq_true, decide_eq_true_eq] at hrising ⊢
    exact ⟨Nat.le_trans hle hrising.1, hrising.2⟩

theorem inside_of_lt {k n : Nat} {now : Bool} {ts : List Nat} (hrising : rises k ts = true)
    (hlt : n < k) : inside now ts n = now := by
  cases ts with
  | nil => rfl
  | cons t ts =>
    simp only [rises, Bool.and_eq_true, decide_eq_true_eq] at hrising
    simp [inside, Nat.lt_of_lt_of_le hlt hrising.1]

theorem rises_merge {op : Bool → Bool → Bool} {steps k : Nat} {a b : Bool} {xs ys : List Nat}
    (hx : rises k xs = true) (hy : rises k ys = true) :
    rises k (merge op steps a b xs ys) = true := by
  induction steps generalizing k a b xs ys with
  | zero => rfl
  | succ steps ih =>
    have hturn {n : Nat} {a' b' : Bool} {xs ys : List Nat} (hle : k ≤ n)
        (hx : rises (n + 1) xs = true) (hy : rises (n + 1) ys = true) :
        rises k (if op a' b' = op a b then merge op steps a' b' xs ys
          else n :: merge op steps a' b' xs ys) = true := by
      have hrest : rises (n + 1) (merge op steps a' b' xs ys) = true := ih hx hy
      split
      · exact rises_of_le hrest (by omega)
      · simpa [rises] using ⟨hle, hrest⟩
    cases xs with
    | nil =>
      cases ys with
      | nil => rfl
      | cons y ys =>
        simp only [rises, Bool.and_eq_true, decide_eq_true_eq] at hy
        exact hturn hy.1 rfl hy.2
    | cons x xs =>
      simp only [rises, Bool.and_eq_true, decide_eq_true_eq] at hx
      cases ys with
      | nil => exact hturn hx.1 hx.2 rfl
      | cons y ys =>
        simp only [rises, Bool.and_eq_true, decide_eq_true_eq] at hy
        simp only [merge]
        split
        · exact hturn hx.1 hx.2 (by simpa [rises] using ⟨by omega, hy.2⟩)
        · split
          · exact hturn hy.1 (by simpa [rises] using ⟨by omega, hx.2⟩) hy.2
          · obtain rfl : x = y := by omega
            exact hturn hx.1 hx.2 hy.2

theorem inside_merge {op : Bool → Bool → Bool} {steps k n : Nat} {a b : Bool} {xs ys : List Nat}
    (hx : rises k xs = true) (hy : rises k ys = true) (henough : xs.length + ys.length ≤ steps) :
    inside (op a b) (merge op steps a b xs ys) n = op (inside a xs n) (inside b ys n) := by
  induction steps generalizing k a b xs ys with
  | zero =>
    obtain rfl : xs = [] := List.length_eq_zero_iff.1 (by omega)
    obtain rfl : ys = [] := List.length_eq_zero_iff.1 (by omega)
    rfl
  | succ steps ih =>
    have hturn {m : Nat} {a' b' : Bool} {xs' ys' : List Nat}
        (hx : rises (m + 1) xs' = true) (hy : rises (m + 1) ys' = true)
        (henough : xs'.length + ys'.length ≤ steps)
        (hbefore : n < m → inside a xs n = a ∧ inside b ys n = b)
        (hafter : ¬ n < m → inside a xs n = inside a' xs' n ∧ inside b ys n = inside b' ys' n) :
        inside (op a b) (if op a' b' = op a b then merge op steps a' b' xs' ys'
          else m :: merge op steps a' b' xs' ys') n = op (inside a xs n) (inside b ys n) := by
      have hrest := @ih (m + 1) a' b' xs' ys' hx hy henough
      by_cases hlt : n < m
      · rw [(hbefore hlt).1, (hbefore hlt).2]
        rw [inside_of_lt hx (by omega), inside_of_lt hy (by omega)] at hrest
        split
        · next hsame => rw [← hsame, hrest]
        · simp [inside, hlt]
      · rw [(hafter hlt).1, (hafter hlt).2, ← hrest]
        split
        · next hsame => rw [hsame]
        · next hother =>
          have hflip : (!op a b) = op a' b' := by
            cases h : op a b <;> cases h' : op a' b' <;> simp_all
          simp [inside, hlt, hflip]
    cases xs with
    | nil =>
      cases ys with
      | nil => rfl
      | cons y ys =>
        simp only [rises, Bool.and_eq_true, decide_eq_true_eq] at hy
        simp only [List.length_cons, List.length_nil] at henough
        refine hturn rfl hy.2 (by simp only [List.length_nil]; omega) (fun hlt => ?_) (fun hlt => ?_) <;>
          simp [inside, hlt]
    | cons x xs =>
      simp only [rises, Bool.and_eq_true, decide_eq_true_eq] at hx
      cases ys with
      | nil =>
        simp only [List.length_cons, List.length_nil] at henough
        refine hturn hx.2 rfl (by simp only [List.length_nil]; omega) (fun hlt => ?_) (fun hlt => ?_) <;>
          simp [inside, hlt]
      | cons y ys =>
        simp only [rises, Bool.and_eq_true, decide_eq_true_eq] at hy
        simp only [List.length_cons] at henough
        simp only [merge]
        split
        · next hfirst =>
          refine hturn hx.2 (by simpa [rises] using ⟨by omega, hy.2⟩)
            (by simp only [List.length_cons]; omega) (fun hlt => ?_) (fun hlt => ?_)
          · simp [inside, hlt, Nat.lt_trans hlt hfirst]
          · simp [inside, hlt]
        · split
          · next hfirst =>
            refine hturn (by simpa [rises] using ⟨by omega, hx.2⟩) hy.2
              (by simp only [List.length_cons]; omega) (fun hlt => ?_) (fun hlt => ?_)
            · simp [inside, hlt, Nat.lt_trans hlt hfirst]
            · simp [inside, hlt]
          · obtain rfl : x = y := by omega
            refine hturn hx.2 hy.2 (by omega) (fun hlt => ?_) (fun hlt => ?_) <;> simp [inside, hlt]

/-! ## Sets -/

/-- A set of characters, as the code points where membership changes. -/
structure CharSet where
  turns : List Nat
  rising : rises 0 turns = true
deriving DecidableEq

namespace CharSet

instance : Repr CharSet := ⟨fun s => reprPrec s.turns⟩

def mem (s : CharSet) (c : Char) : Bool :=
  inside false s.turns c.toNat

/-- The set of the characters whose answers in two sets an operation takes to true. -/
def combine (op : Bool → Bool → Bool) (s t : CharSet) : CharSet :=
  ⟨merge op (s.turns.length + t.turns.length) false false s.turns t.turns,
    rises_merge s.rising t.rising⟩

theorem mem_combine {op : Bool → Bool → Bool} (houtside : op false false = false) (s t : CharSet)
    (c : Char) : (combine op s t).mem c = op (s.mem c) (t.mem c) := by
  have hwalk : inside (op false false) (combine op s t).turns c.toNat = op (s.mem c) (t.mem c) :=
    inside_merge s.rising t.rising (Nat.le_refl _)
  rwa [houtside] at hwalk

def empty : CharSet := ⟨[], rfl⟩

/-- The set of all characters: the code points below the surrogates and above them. -/
def all : CharSet := ⟨[0, 0xd800, 0xe000, 0x110000], rfl⟩

/-- The characters between two, both included. -/
def range (lo hi : Char) : CharSet :=
  if h : lo.toNat ≤ hi.toNat then
    combine (· && ·) all ⟨[lo.toNat, hi.toNat + 1], by simp [rises]; omega⟩
  else empty

def single (c : Char) : CharSet := range c c

def union (s t : CharSet) : CharSet := combine (· || ·) s t

def inter (s t : CharSet) : CharSet := combine (· && ·) s t

def diff (s t : CharSet) : CharSet := combine (fun a b => a && !b) s t

def symmDiff (s t : CharSet) : CharSet := combine (· != ·) s t

/-- The characters that a set does not hold. -/
def compl (s : CharSet) : CharSet := diff all s

@[simp]
theorem mem_empty (c : Char) : empty.mem c = false := rfl

@[simp]
theorem mem_all (c : Char) : all.mem c = true := by
  have hvalid : c.toNat.isValidChar := c.valid
  simp only [Nat.isValidChar] at hvalid
  simp only [mem, all, inside]
  grind

@[simp]
theorem mem_union (s t : CharSet) (c : Char) : (s.union t).mem c = (s.mem c || t.mem c) :=
  mem_combine rfl s t c

@[simp]
theorem mem_inter (s t : CharSet) (c : Char) : (s.inter t).mem c = (s.mem c && t.mem c) :=
  mem_combine rfl s t c

@[simp]
theorem mem_diff (s t : CharSet) (c : Char) : (s.diff t).mem c = (s.mem c && !t.mem c) :=
  mem_combine rfl s t c

@[simp]
theorem mem_symmDiff (s t : CharSet) (c : Char) : (s.symmDiff t).mem c = (s.mem c != t.mem c) :=
  mem_combine rfl s t c

@[simp]
theorem mem_compl (s : CharSet) (c : Char) : s.compl.mem c = !s.mem c := by
  simp [compl]

@[simp]
theorem mem_range (lo hi c : Char) :
    (range lo hi).mem c = (lo.toNat ≤ c.toNat && c.toNat ≤ hi.toNat) := by
  unfold range
  split
  · rw [mem_combine rfl, mem_all]
    simp only [mem, inside]
    grind
  · rw [mem_empty]
    grind

def unions (ss : List CharSet) : CharSet := ss.foldl union empty

def ofRanges (rs : List (Char × Char)) : CharSet := unions (rs.map fun r => range r.1 r.2)

/-- The set with the given turns, if they rise. -/
def ofTurns (ts : List Nat) : CharSet :=
  if h : rises 0 ts = true then ⟨ts, h⟩ else empty

/-- The ranges that turns cut out, both ends included. -/
def rangesBetween : List Nat → List (Nat × Nat)
  | lo :: next :: ts => (lo, next - 1) :: rangesBetween ts
  | _ => []

/-- The ranges of a set in rising order, both ends included. -/
def ranges (s : CharSet) : List (Nat × Nat) := rangesBetween s.turns

/-- The only character of a set, if it has exactly one. -/
def single? (s : CharSet) : Option Char :=
  match s.turns with
  | [lo, next] => if next = lo + 1 then some (Char.ofNat lo) else none
  | _ => none

/-- Whether every character of a set is in ASCII. -/
def isAscii (s : CharSet) : Bool :=
  s.ranges.all fun r => r.2 < 0x80

/-! ## Lists of code points -/

/-- The turns of code points that come in rising order, the range in progress being from `start` to
before `next`. -/
def turnsFrom (start next : Nat) : List Nat → List Nat
  | [] => [start, next]
  | c :: cs =>
    if c < next then turnsFrom start next cs
    else if c = next then turnsFrom start (next + 1) cs
    else start :: next :: turnsFrom c (c + 1) cs

/-- The set of the characters with the given code points. -/
def ofCodes (cs : List Nat) : CharSet :=
  match cs.mergeSort with
  | [] => empty
  | c :: cs => ofTurns (turnsFrom c (c + 1) cs)

/-! ## Tables -/

/-- The number that hexadecimal digits write. -/
def hexNumber (ds : List Char) : Nat :=
  ds.foldl (fun n c => n * 16 + (hexValue? c).getD 0) 0

/-- The turns of the code points from `lo` to `hi` that are a multiple of a step apart. -/
def turnsApart (lo hi step : Nat) : List Nat :=
  (List.range ((hi - lo) / step + 1)).flatMap fun i => [lo + i * step, lo + i * step + 1]

/-- The turns of an entry of a table: a code point, a range `lo-hi`, or every so many code points of
a range, `lo-hi/step`. -/
def entryTurns (entry : List Char) : List Nat :=
  match entry.splitOn '-' with
  | [code] => [hexNumber code, hexNumber code + 1]
  | lo :: hi :: _ =>
    match hi.splitOn '/' with
    | [hi] => [hexNumber lo, hexNumber hi + 1]
    | hi :: step :: _ => turnsApart (hexNumber lo) (hexNumber hi) (hexNumber step)
    | [] => []
  | [] => []

/-- The set of a table, whose entries rise and have blanks between them. -/
def ofText (table : String) : CharSet :=
  ofTurns ((table.toList.splitOnP (fun c => c = ' ' || c = '\n')).flatMap fun entry =>
    if entry.isEmpty then [] else entryTurns entry)

end CharSet
end GameTips.Text
