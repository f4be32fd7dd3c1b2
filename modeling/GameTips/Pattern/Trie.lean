/-!
# Tries

Words that share their beginnings. The children of a node keep their order around the marks that say
where a word ends, because a word that came first is tried first: children are sorted between marks
only.
-/

namespace GameTips.Pattern

/-- The rest of a node of a trie. -/
inductive Trie where
  /-- Nothing further. -/
  | done
  /-- A word ends here. -/
  | mark (rest : Trie)
  /-- Words that go on with a number, and what comes after them. -/
  | branch (n : Nat) (child rest : Trie)
deriving DecidableEq, Repr

namespace Trie

def isMarked : Trie → Bool
  | .done => false
  | .mark _ => true
  | .branch _ _ rest => rest.isMarked

def isLeaf : Trie → Bool
  | .done => true
  | .mark rest => rest.isLeaf
  | .branch .. => false

def ofWord : List Nat → Trie
  | [] => .mark .done
  | n :: ns => .branch n (ofWord ns) .done

/-- A node with another mark at its end; where no word goes on, one mark is enough. -/
def close : Trie → Trie
  | .done => .mark .done
  | .mark .done => .mark .done
  | .mark rest => .mark rest.close
  | .branch n child rest => .branch n child (closeAfter rest)
where
  /-- The rest of a node that words go on from, with another mark at its end. -/
  closeAfter : Trie → Trie
    | .done => .mark .done
    | .mark rest => .mark (closeAfter rest)
    | .branch n child rest => .branch n child (closeAfter rest)

/-- The trie with a word added. The word goes among the children after the last mark. -/
def insert : Trie → List Nat → Trie
  | t, [] => t.close
  | .done, word => ofWord word
  | .mark rest, word => .mark (rest.insert word)
  | .branch m child rest, n :: ns =>
    if rest.isMarked then .branch m child (rest.insert (n :: ns))
    else if m = n then .branch m (child.insert ns) rest
    else if n < m then .branch n (ofWord ns) (.branch m child rest)
    else .branch m child (rest.insert (n :: ns))

def ofWords (words : List (List Nat)) : Trie :=
  words.foldl insert .done

end Trie
end GameTips.Pattern
