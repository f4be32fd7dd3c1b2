/-!
# Texts of damaged UTF-8

A text can be made of any bytes if what is not valid UTF-8 is replaced by U+FFFD: one for each byte
that starts no character, and one for the longest part of a character that is cut short.
-/

namespace GameTips.Text

/-- How a character starts: the number of bytes that follow, and the bounds of the first of them.
Nothing for a byte that starts no character. -/
def leadByte? (b : Nat) : Option (Nat × Nat × Nat) :=
  if b < 0x80 then some (0, 0x80, 0xbf)
  else if b < 0xc2 then none
  else if b < 0xe0 then some (1, 0x80, 0xbf)
  else if b = 0xe0 then some (2, 0xa0, 0xbf)
  else if b = 0xed then some (2, 0x80, 0x9f)
  else if b < 0xf0 then some (2, 0x80, 0xbf)
  else if b = 0xf0 then some (3, 0x90, 0xbf)
  else if b < 0xf4 then some (3, 0x80, 0xbf)
  else if b = 0xf4 then some (3, 0x80, 0x8f)
  else none

/-- The part of the code that a first byte gives, by the number of bytes that follow. -/
def leadCode (b following : Nat) : Nat :=
  match following with
  | 0 => b
  | 1 => b % 0x20
  | 2 => b % 0x10
  | _ => b % 0x08

/-- Where the decoding of bytes stands: between characters, or within one, of which some bytes are
still to come; the next of them has to lie between two bounds. -/
inductive DecodeState where
  | between
  | within (code missing lo hi : Nat)

/-- The sign that stands for damage. -/
def damageSign : Char := '\ufffd'

/-- The state after a byte that can start a character, with the characters that are complete. -/
def startChar (b : Nat) : List Char × DecodeState :=
  match leadByte? b with
  | none => ([damageSign], .between)
  | some (0, _, _) => ([Char.ofNat b], .between)
  | some (missing, lo, hi) => ([], .within (leadCode b missing) missing lo hi)

/-- The state after a byte, with the characters that are complete. -/
def decodeStep (b : Nat) : DecodeState → List Char × DecodeState
  | .between => startChar b
  | .within code missing lo hi =>
    if lo ≤ b ∧ b ≤ hi then
      let code := code * 0x40 + b % 0x40
      if missing = 1 then ([Char.ofNat code], .between)
      else ([], .within code (missing - 1) 0x80 0xbf)
    else
      let (cs, next) := startChar b
      (damageSign :: cs, next)

/-- The characters of bytes, from a state on. -/
def decodeFrom : DecodeState → List UInt8 → List Char
  | .between, [] => []
  | .within .., [] => [damageSign]
  | state, b :: rest =>
    let (cs, next) := decodeStep b.toNat state
    cs ++ decodeFrom next rest

/-- The text of bytes, with signs where they are no valid UTF-8. -/
def lossy (bytes : ByteArray) : String :=
  String.ofList (decodeFrom .between bytes.toList)

end GameTips.Text
