/-!
# Identifiers

An identifier names a tip, a biome, a screen type and so on: a namespace and a path, written
`namespace:path`. Both parts are non-empty and lower case, so two identifiers are the same exactly
when they are written the same.

* `Identifier.parse` reads the written form and, where it is not one, names the leftmost defect;
* `Identifier.stop` is where a reading from left to right stops, and `Identifier.Defect.ofOffset` tells
  the defect from that place;
* `Identifier.toString` writes it;
* `Identifier.compare` orders by namespace, then by path.
-/

namespace GameTips

def isNamespaceChar (c : Char) : Bool :=
  ('a' ≤ c && c ≤ 'z') || ('0' ≤ c && c ≤ '9') || c == '_' || c == '-' || c == '.'

/-- The characters of a path: those of a namespace and the slash. -/
def isPathChar (c : Char) : Bool :=
  isNamespaceChar c || c == '/'

/-- Whether a text can stand as a namespace. -/
def isNamespace (s : String) : Bool :=
  !s.toList.isEmpty && s.toList.all isNamespaceChar

/-- Whether a text can stand as a path. -/
def isPath (s : String) : Bool :=
  !s.toList.isEmpty && s.toList.all isPathChar

/-- A namespace and a path, both well formed. -/
structure Identifier where
  /-- The namespace, the part before the colon. -/
  ns : String
  /-- The path, the part after the colon. -/
  path : String
  isNamespace_ns : isNamespace ns = true
  isPath_path : isPath path = true
deriving DecidableEq, Repr

namespace Identifier

/-- The written form, `namespace:path`. -/
protected def toString (id : Identifier) : String :=
  id.ns ++ ":" ++ id.path

instance : ToString Identifier := ⟨Identifier.toString⟩

/-- What keeps a text from being an identifier. An offset counts the bytes of the text's UTF-8 form
that come before the character found. -/
inductive Defect where
  | emptyNamespace
  | missingSeparator
  | invalidNamespaceChar (found : Char) (offset : Nat)
  | emptyPath
  | invalidPathChar (found : Char) (offset : Nat)
deriving DecidableEq, Repr

/-- A text that is no identifier, with its leftmost defect. -/
structure ParseError where
  input : String
  defect : Defect
deriving DecidableEq, Repr

/-- The text shown for a defect of an identifier. -/
def ParseError.message (e : ParseError) : String :=
  "identifier '" ++ e.input ++ "' " ++
    match e.defect with
    | .emptyNamespace => "has an empty namespace"
    | .missingSeparator => "is missing the ':' separator"
    | .invalidNamespaceChar found offset =>
      "has invalid namespace character '" ++ found.toString ++ "' at " ++ toString offset
    | .emptyPath => "has an empty path"
    | .invalidPathChar found offset =>
      "has invalid path character '" ++ found.toString ++ "' at " ++ toString offset

/-- The number of bytes that characters take in UTF-8. -/
def utf8Length (cs : List Char) : Nat :=
  (String.ofList cs).utf8ByteSize

/-- The identifier of two parts, where both are well formed. -/
def ofParts? (ns path : String) : Option Identifier :=
  if h : isNamespace ns = true ∧ isPath path = true then some ⟨ns, path, h.1, h.2⟩ else none

/-- Read the written form of an identifier. A text that is none is reported with its leftmost
defect: the namespace ends at the first character outside its class, which must be the colon, and
the path is all that follows. -/
def parse (s : String) : Except ParseError Identifier :=
  let ns := s.toList.takeWhile isNamespaceChar
  match s.toList.dropWhile isNamespaceChar with
  | [] => .error ⟨s, if ns.isEmpty then .emptyNamespace else .missingSeparator⟩
  | c :: rest =>
    if c = ':' then
      match ofParts? (String.ofList ns) (String.ofList rest) with
      | some id => .ok id
      | none => .error ⟨s,
          if ns.isEmpty then .emptyNamespace
          else match rest.dropWhile isPathChar with
            | [] => .emptyPath
            | found :: _ =>
              .invalidPathChar found (utf8Length (ns ++ ':' :: rest.takeWhile isPathChar))⟩
    else .error ⟨s, .invalidNamespaceChar c (utf8Length ns)⟩

/-- The identifier written with a given namespace and path. A colon in either part counts as the
separator of the written form. -/
def ofTexts (ns path : String) : Except ParseError Identifier :=
  parse (ns ++ ":" ++ path)

/-! ## The defect from an offset -/

/-- The byte offset of the first colon of a text. -/
def firstColon? (s : String) : Option Nat :=
  if ':' ∈ s.toList then some (utf8Length (s.toList.takeWhile (· != ':'))) else none

/-- The defect of a text whose reading stops at a byte offset. It shows in whether a colon comes
before that place, and in the character that starts there, if any. -/
def Defect.ofOffset (s : String) (offset : Nat) : Defect :=
  match (firstColon? s).filter (· < offset), String.Pos.Raw.get? s ⟨offset⟩ with
  | none, none => if s.toList.isEmpty then .emptyNamespace else .missingSeparator
  | none, some c =>
    if c = ':' ∧ offset = 0 then .emptyNamespace
    else if isNamespaceChar c then .missingSeparator
    else .invalidNamespaceChar c offset
  | some _, none => .emptyPath
  | some _, some c => if isPathChar c then .emptyPath else .invalidPathChar c offset

/-- The byte offset at which reading stops: after the letters of the namespace or, if there are some
and a colon follows, after the letters of the path. -/
def stop (s : String) : Nat :=
  let ns := s.toList.takeWhile isNamespaceChar
  match s.toList.dropWhile isNamespaceChar with
  | [] => utf8Length ns
  | c :: rest =>
    if c = ':' ∧ ns ≠ [] then utf8Length (ns ++ ':' :: rest.takeWhile isPathChar)
    else utf8Length ns

/-! ## Order -/

/-- Order by namespace, then by path, each by code points. -/
protected def compare (a b : Identifier) : Ordering :=
  (compare a.ns b.ns).then (compare a.path b.path)

instance : Ord Identifier := ⟨Identifier.compare⟩

instance : Hashable Identifier := ⟨fun id => mixHash (hash id.ns) (hash id.path)⟩

end Identifier

/-- Whether a text is the written form of an identifier. -/
def isIdentifier (s : String) : Bool :=
  (Identifier.parse s).toOption.isSome

end GameTips
