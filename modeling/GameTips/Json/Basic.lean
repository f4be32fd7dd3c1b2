import GameTips.Binary64

/-!
# JSON values

A number is an integer or a binary64 number, and the two never mix: `5` and `5.0` differ. The
members of an object are kept sorted by key, each key once, because every object is built with
`Json.insert`; `Json.Sorted` says so of a whole value. `Json.get?_insert` and
`Json.pairwise_keys_insert` say what setting a member does.
-/

namespace GameTips

/-- A JSON value. -/
inductive Json where
  | null
  | bool (b : Bool)
  | int (n : Int)
  | float (x : Binary64)
  | str (s : String)
  | arr (items : List Json)
  | obj (members : List (String × Json))
deriving Repr

namespace Json

/-! ## Equality -/

mutual

def same : Json → Json → Bool
  | .null, .null => true
  | .bool a, .bool b => a == b
  | .int a, .int b => a == b
  | .float a, .float b => decide (a = b)
  | .str a, .str b => a == b
  | .arr xs, .arr ys => sameItems xs ys
  | .obj xs, .obj ys => sameMembers xs ys
  | _, _ => false

/-- Whether two lists of values are the same. -/
def sameItems : List Json → List Json → Bool
  | [], [] => true
  | x :: xs, y :: ys => x.same y && sameItems xs ys
  | _, _ => false

/-- Whether two lists of members are the same. -/
def sameMembers : List (String × Json) → List (String × Json) → Bool
  | [], [] => true
  | (k, x) :: xs, (l, y) :: ys => k == l && x.same y && sameMembers xs ys
  | _, _ => false

end

mutual

theorem same_iff : ∀ a b : Json, a.same b = true ↔ a = b
  | .null, b | .bool _, b | .int _, b | .float _, b | .str _, b => by
    cases b <;> simp [same]
  | .arr xs, b => by
    cases b <;> simp [same, sameItems_iff xs]
  | .obj xs, b => by
    cases b <;> simp [same, sameMembers_iff xs]

theorem sameItems_iff : ∀ xs ys : List Json, sameItems xs ys = true ↔ xs = ys
  | [], ys => by cases ys <;> simp [sameItems]
  | x :: xs, ys => by
    cases ys <;> simp [sameItems, same_iff x, sameItems_iff xs]

theorem sameMembers_iff : ∀ xs ys : List (String × Json), sameMembers xs ys = true ↔ xs = ys
  | [], ys => by cases ys <;> simp [sameMembers]
  | (k, x) :: xs, ys => by
    cases ys <;> simp [sameMembers, same_iff x, sameMembers_iff xs, Prod.ext_iff]

end

instance : DecidableEq Json := fun a b => decidable_of_iff _ (same_iff a b)

/-! ## Objects -/

/-- The members with a key set to a value: an earlier value of the key is replaced, and a new key
goes to its place in the order. -/
def insert (key : String) (value : Json) : List (String × Json) → List (String × Json)
  | [] => [(key, value)]
  | (k, v) :: rest =>
    if key < k then (key, value) :: (k, v) :: rest
    else if key = k then (key, value) :: rest
    else (k, v) :: insert key value rest

/-- The object with the given members; of a repeated key the last value counts. -/
def ofMembers (members : List (String × Json)) : Json :=
  .obj (members.foldl (fun obj m => insert m.1 m.2 obj) [])

def get? (key : String) (members : List (String × Json)) : Option Json :=
  members.lookup key

theorem get?_cons (key : String) (value : Json) (members : List (String × Json)) (k : String) :
    get? k ((key, value) :: members) = if k = key then some value else get? k members := by
  by_cases hkey : k = key
  · simp [get?, hkey]
  · simp [get?, List.lookup_cons, beq_false_of_ne hkey, hkey]

theorem get?_insert (key : String) (value : Json) (members : List (String × Json)) (k : String) :
    get? k (insert key value members) = if k = key then some value else get? k members := by
  induction members with
  | nil => rw [insert, get?_cons]
  | cons m rest ih =>
    obtain ⟨l, v⟩ := m
    unfold insert
    split
    · rw [get?_cons]
    · split
      · next hkey =>
        subst hkey
        rw [get?_cons, get?_cons]
        split <;> rfl
      · next hne =>
        rw [get?_cons, get?_cons, ih]
        grind

theorem mem_keys_insert {key : String} {value : Json} {members : List (String × Json)} {k : String} :
    k ∈ (insert key value members).map Prod.fst ↔ k = key ∨ k ∈ members.map Prod.fst := by
  induction members with
  | nil => simp [insert]
  | cons m rest ih =>
    obtain ⟨l, v⟩ := m
    unfold insert
    split
    · simp
    · split
      · next hkey => simp [hkey]
      · rw [List.map_cons, List.mem_cons, ih, List.map_cons, List.mem_cons]
        exact or_left_comm

theorem pairwise_keys_insert (key : String) (value : Json) {members : List (String × Json)}
    (hrising : (members.map Prod.fst).Pairwise (· < ·)) :
    ((insert key value members).map Prod.fst).Pairwise (· < ·) := by
  induction members with
  | nil => simp [insert]
  | cons m rest ih =>
    obtain ⟨l, v⟩ := m
    rw [List.map_cons, List.pairwise_cons] at hrising
    unfold insert
    split
    · next hlt =>
      simp only [List.map_cons, List.pairwise_cons]
      refine ⟨?_, hrising⟩
      intro k hmem
      rcases List.mem_cons.1 hmem with rfl | hmem
      · exact hlt
      · exact String.lt_trans hlt (hrising.1 k hmem)
    · split
      · next hkey =>
        subst hkey
        exact List.pairwise_cons.2 hrising
      · next hnot hne =>
        rw [List.map_cons, List.pairwise_cons]
        refine ⟨?_, ih hrising.2⟩
        intro k hmem
        rcases mem_keys_insert.1 hmem with rfl | hmem
        · exact Std.lt_of_le_of_ne (String.not_lt.1 hnot) (Ne.symm hne)
        · exact hrising.1 k hmem

mutual

/-- Whether every object in the value has its keys in strictly rising order. -/
def Sorted : Json → Prop
  | .arr items => SortedItems items
  | .obj members => (members.map Prod.fst).Pairwise (· < ·) ∧ SortedMembers members
  | _ => True

def SortedItems : List Json → Prop
  | [] => True
  | x :: xs => x.Sorted ∧ SortedItems xs

/-- Whether the value of every member is sorted. -/
def SortedMembers : List (String × Json) → Prop
  | [] => True
  | (_, x) :: xs => x.Sorted ∧ SortedMembers xs

end

/-! ## Shapes -/

/-- The kind of a value, without its content. -/
inductive Shape where
  | null
  | boolean
  | number
  | string
  | array
  | object
deriving DecidableEq, Repr

def Shape.name : Shape → String
  | .null => "null"
  | .boolean => "boolean"
  | .number => "number"
  | .string => "string"
  | .array => "array"
  | .object => "object"

def shape : Json → Shape
  | .null => .null
  | .bool _ => .boolean
  | .int _ | .float _ => .number
  | .str _ => .string
  | .arr _ => .array
  | .obj _ => .object

def strings (texts : List String) : Json :=
  .arr (texts.map .str)

end Json
end GameTips
