/-!
# Random choice

* `WordSource` yields 32-bit words; `Lcg` is a linear congruential source;
* `WordSource.below` draws a number below a bound, each with the same chance, by rejecting the words
  that do not fill a whole multiple of the bound;
* `Draws` is any source of bounded numbers, and `Draws.choose` picks an element of a list in one
  walk: the k-th element is kept with chance 1/k;
* `Chooser` is any way to choose from a list that gives an element of it, if it has one;
  `Draws.chooser` is the walk as such a way.
-/

namespace GameTips

/-- A source of random 32-bit words with a state. -/
structure WordSource (ρ : Type) where
  next : ρ → UInt32 × ρ

namespace WordSource

variable {ρ : Type}

/-- The largest low half of a product that is not rejected for a bound: the bound shifted up to 32
bits, less one. -/
def zone (bound : Nat) : Nat :=
  bound <<< (31 - Nat.log2 bound) - 1

/-- Draw a number below a bound: the high half of the product of a word and the bound, unless the low
half is beyond the zone, in which case another word is drawn. The number of words is limited by
`fuel`. -/
def belowWithin (source : WordSource ρ) (bound : Nat) : Nat → ρ → Nat × ρ
  | 0, s => (0, s)
  | fuel + 1, s =>
    let (word, s) := source.next s
    let product := word.toNat * bound
    if product % UInt32.size ≤ zone bound then (product / UInt32.size, s)
    else source.belowWithin bound fuel s

end WordSource

/-- The state of a linear congruential source. -/
structure Lcg where
  state : UInt64
deriving DecidableEq, Repr

namespace Lcg

def multiplier : UInt64 := 6364136223846793005

def increment : UInt64 := 1442695040888963407

/-- The next word is the upper half of the next state. -/
def source : WordSource Lcg where
  next s :=
    let state := s.state * multiplier + increment
    ((state >>> 32).toUInt32, ⟨state⟩)

end Lcg

/-- A source of random numbers: `below k` is a number up to `k`, that is, one of `k + 1`. -/
structure Draws (ρ : Type) where
  below : (k : Nat) → ρ → Fin (k + 1) × ρ

namespace Draws

variable {ρ α : Type}

/-- Walk through a list of which `k` elements have been seen, with the element kept so far. -/
def chooseFrom (draws : Draws ρ) (k : Nat) (kept : Option α) : List α → ρ → Option α × ρ
  | [], s => (kept, s)
  | x :: rest, s =>
    let (i, s) := draws.below k s
    chooseFrom draws (k + 1) (if i.val = 0 then some x else kept) rest s

/-- Choose an element of a list, each with the same chance. -/
def choose (draws : Draws ρ) (xs : List α) (s : ρ) : Option α × ρ :=
  draws.chooseFrom 0 none xs s

theorem mem_of_chooseFrom (draws : Draws ρ) :
    ∀ (xs : List α) (k : Nat) (kept : Option α) (s : ρ) {x : α},
      (draws.chooseFrom k kept xs s).1 = some x → x ∈ xs ∨ kept = some x
  | [], _, _, _, _, h => Or.inr h
  | y :: rest, k, kept, s, x, h => by
    rcases mem_of_chooseFrom draws rest (k + 1) _ _ h with hm | hk
    · exact Or.inl (List.mem_cons_of_mem y hm)
    · split at hk
      · obtain rfl := Option.some.inj hk
        exact Or.inl List.mem_cons_self
      · exact Or.inr hk

theorem isSome_chooseFrom (draws : Draws ρ) :
    ∀ (xs : List α) (k : Nat) {kept : Option α} (s : ρ), kept.isSome →
      (draws.chooseFrom k kept xs s).1.isSome
  | [], _, _, _, h => h
  | _ :: rest, k, kept, s, h => by
    refine isSome_chooseFrom draws rest (k + 1) _ ?_
    split
    · rfl
    · exact h

/-- Of a list with elements one is chosen: the only number below one keeps the first of them. -/
theorem isSome_choose (draws : Draws ρ) {xs : List α} (s : ρ) (h : xs ≠ []) :
    (draws.choose xs s).1.isSome := by
  cases xs with
  | nil => exact absurd rfl h
  | cons x rest =>
    refine isSome_chooseFrom draws rest 1 _ ?_
    rw [if_pos (by omega)]
    rfl

end Draws

/-- A way to choose an element of a list with a random source. Nothing is promised about which one
it is. -/
structure Chooser (ρ α : Type) where
  choose : List α → ρ → Option α × ρ
  mem_of_choose : ∀ {xs s x}, (choose xs s).1 = some x → x ∈ xs
  isSome_choose : ∀ {xs} s, xs ≠ [] → (choose xs s).1.isSome

/-- The choice in one walk. -/
def Draws.chooser {ρ α : Type} (draws : Draws ρ) : Chooser ρ α where
  choose := draws.choose
  mem_of_choose h := (draws.mem_of_chooseFrom _ 0 none _ h).resolve_right (by simp)
  isSome_choose s h := draws.isSome_choose s h

instance {ρ α : Type} : Coe (Draws ρ) (Chooser ρ α) := ⟨Draws.chooser⟩

/-- The number of words that may be rejected in a row. -/
def rejectionLimit : Nat := UInt32.size

/-- The source of bounded numbers that draws words. -/
def WordSource.draws {ρ : Type} (source : WordSource ρ) : Draws ρ where
  below k s :=
    let (i, s) := source.belowWithin (k + 1) rejectionLimit s
    (Fin.ofNat (k + 1) i, s)

end GameTips
