/-!
# Sets of places

A set of places of a text, as the number whose bits tell them, so that all places are moved, kept or
joined at once. A lemma for each operation says what it does to membership.
-/

namespace GameTips.Pattern

/-- A set of places. -/
structure Places where
  bits : Nat
deriving DecidableEq, Repr

namespace Places

def mem (s : Places) (i : Nat) : Bool := s.bits.testBit i

instance : Membership Nat Places := ⟨fun s i => s.mem i = true⟩

def empty : Places := ⟨0⟩

def single (i : Nat) : Places := ⟨1 <<< i⟩

def upTo (n : Nat) : Places := ⟨(1 <<< (n + 1)) - 1⟩

/-- The number that has the given numbers in a row, the lowest first, each in `width` bits. -/
def row (width : Nat) (ns : List Nat) : Nat :=
  ns.foldr (fun n above => n + above <<< width) 0

/-- Numbers in a row joined in pairs, to numbers of twice as many bits. -/
def pairUp (width : Nat) : List Nat → List Nat
  | m :: n :: ns => (m + n <<< width) :: pairUp width ns
  | ns => ns

/-- The number that `row` makes. Numbers are joined in pairs, and pairs of pairs, so that each bit is
moved a few times only. -/
def pack : (rounds : Nat) → (width : Nat) → List Nat → Nat
  | 0, width, ns => row width ns
  | _ + 1, _, [] => 0
  | _ + 1, _, [n] => n
  | rounds + 1, width, ns => pack rounds (2 * width) (pairUp width ns)

/-- The set of the places in a list of answers where the answer is yes. -/
def ofAnswers (answers : List Bool) : Places :=
  ⟨pack 32 1 (answers.map Bool.toNat)⟩

def union (s t : Places) : Places := ⟨s.bits ||| t.bits⟩

def inter (s t : Places) : Places := ⟨s.bits &&& t.bits⟩

/-- The places that follow those of a set. -/
def next (s : Places) : Places := ⟨s.bits <<< 1⟩

variable {s t : Places} {i n : Nat}

theorem mem_iff : i ∈ s ↔ s.bits.testBit i = true := Iff.rfl

theorem mem_eq_true : s.mem i = true ↔ i ∈ s := Iff.rfl

@[ext]
theorem ext (hsame : ∀ i, i ∈ s ↔ i ∈ t) : s = t := by
  cases s
  cases t
  congr 1
  exact Nat.eq_of_testBit_eq fun i => Bool.eq_iff_iff.2 (hsame i)

@[simp]
theorem not_mem_empty : i ∉ empty := by
  simp [mem_iff, empty]

@[simp]
theorem mem_single : i ∈ single n ↔ i = n := by
  rw [mem_iff, single, Nat.one_shiftLeft, Nat.testBit_two_pow, decide_eq_true_eq]
  exact eq_comm

@[simp]
theorem mem_upTo : i ∈ upTo n ↔ i ≤ n := by
  rw [mem_iff, upTo, Nat.one_shiftLeft, Nat.testBit_two_pow_sub_one, decide_eq_true_eq]
  omega

@[simp]
theorem mem_union : i ∈ s.union t ↔ i ∈ s ∨ i ∈ t := by
  simp [mem_iff, union]

@[simp]
theorem mem_inter : i ∈ s.inter t ↔ i ∈ s ∧ i ∈ t := by
  simp [mem_iff, inter]

@[simp]
theorem mem_next : i ∈ s.next ↔ ∃ k ∈ s, k + 1 = i := by
  rw [mem_iff, next, Nat.testBit_shiftLeft]
  cases i with
  | zero => simp
  | succ i => simp [mem_iff]

theorem row_cons (width : Nat) (ns : List Nat) : row width (n :: ns) = n + row width ns <<< width :=
  rfl

theorem row_pairUp (width : Nat) (ns : List Nat) :
    row (2 * width) (pairUp width ns) = row width ns := by
  induction ns using pairUp.induct with
  | case1 m n ns ih =>
    rw [pairUp, row_cons, ih, row_cons, row_cons, Nat.two_mul, Nat.shiftLeft_add]
    simp only [Nat.shiftLeft_eq, Nat.add_mul, Nat.add_assoc]
  | case2 ns hshort =>
    cases ns with
    | nil => rfl
    | cons n ns =>
      cases ns with
      | nil => simp [pairUp, row]
      | cons m ns => exact absurd rfl (hshort n m ns)

theorem pack_eq_row (rounds width : Nat) (ns : List Nat) : pack rounds width ns = row width ns := by
  induction rounds, width, ns using pack.induct with
  | case1 => rfl
  | case2 => rfl
  | case3 => simp [pack, row]
  | case4 width ns rounds hsome hmore ih =>
    rw [pack, ih, row_pairUp]
    · exact hsome
    · exact hmore

@[simp]
theorem mem_ofAnswers {answers : List Bool} : i ∈ ofAnswers answers ↔ answers[i]? = some true := by
  rw [mem_iff, ofAnswers, pack_eq_row]
  induction answers generalizing i with
  | nil => simp [row]
  | cons b rest ih =>
    have hdouble (n : Nat) : b.toNat + n <<< 1 = 2 * n + b.toNat := by
      rw [Nat.shiftLeft_eq, Nat.pow_one, Nat.mul_comm, Nat.add_comm]
    rw [List.map_cons, row_cons, hdouble]
    cases i with
    | zero =>
      rw [Nat.testBit_zero]
      cases b <;> simp
    | succ i =>
      have hhalf (n : Nat) : (2 * n + b.toNat) / 2 = n := by
        cases b
        · exact Nat.mul_div_cancel_left n (by decide)
        · exact Nat.mul_add_div (by decide) n 1
      rw [List.getElem?_cons_succ, ← ih, Nat.testBit_add_one, hhalf]

theorem eq_empty_iff : s = empty ↔ ∀ i, i ∉ s := by
  constructor
  · rintro rfl i
    exact not_mem_empty
  · exact fun hnone => ext fun i => by simp [hnone i]

end Places
end GameTips.Pattern
