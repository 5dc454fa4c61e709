/-!
# UTF-8

Decoding of octets into characters. A text that is not UTF-8 is refused at the
start of its first character that cannot be completed, with the number of octets
that are already wrong there; a text that merely ends too early has no such
number.
-/

namespace CacheDepot.Text

/-- Where a text stops being UTF-8. -/
structure Utf8Error where
  /-- Octets before the character that fails. -/
  validUpTo : Nat
  /-- Octets that no character starts with; `none` if the text ends inside a character. -/
  wrong : Option Nat
  deriving DecidableEq, Repr

namespace Utf8Error

def message (error : Utf8Error) : String :=
  match error.wrong with
  | some octets => s!"invalid utf-8 sequence of {octets} bytes from index {error.validUpTo}"
  | none => s!"incomplete utf-8 byte sequence from index {error.validUpTo}"

end Utf8Error

namespace Utf8

/-- What the first octet of a character tells about the rest of it. -/
inductive Lead where
  /-- No character starts with this octet. -/
  | wrong
  /-- The bits of the code point that this octet holds, the number of octets that follow, and the
  range of the next one. -/
  | leads (bits : Nat) (following : Nat) (low high : Nat)
  deriving DecidableEq, Repr

/-- The ranges of the second octet exclude overlong forms, surrogates and numbers above 10FFFF. -/
def lead (octet : Nat) : Lead :=
  if octet < 0x80 then .leads octet 0 0 0
  else if octet < 0xC2 then .wrong
  else if octet < 0xE0 then .leads (octet - 0xC0) 1 0x80 0xBF
  else if octet = 0xE0 then .leads 0 2 0xA0 0xBF
  else if octet = 0xED then .leads 0xD 2 0x80 0x9F
  else if octet < 0xF0 then .leads (octet - 0xE0) 2 0x80 0xBF
  else if octet = 0xF0 then .leads 0 3 0x90 0xBF
  else if octet < 0xF4 then .leads (octet - 0xF0) 3 0x80 0xBF
  else if octet = 0xF4 then .leads 4 3 0x80 0x8F
  else .wrong

/-- What remains of the character being read. -/
structure Pending where
  /-- Octets before this character. -/
  start : Nat
  /-- Octets of it read so far. -/
  seen : Nat
  bits : Nat
  following : Nat
  low : Nat
  high : Nat

/-- Reads octets from between two characters (`pending` is `none`) or from inside one. -/
def decodeFrom (start : Nat) (pending : Option Pending) (read : List Char) :
    List UInt8 → Except Utf8Error (List Char)
  | [] =>
      match pending with
      | none => .ok read.reverse
      | some part => .error ⟨part.start, none⟩
  | octet :: rest =>
      match pending with
      | none =>
          match lead octet.toNat with
          | .wrong => .error ⟨start, some 1⟩
          | .leads bits 0 _ _ => decodeFrom (start + 1) none (Char.ofNat bits :: read) rest
          | .leads bits (following + 1) low high =>
              decodeFrom start (some ⟨start, 1, bits, following, low, high⟩) read rest
      | some part =>
          if part.low ≤ octet.toNat ∧ octet.toNat ≤ part.high then
            let bits := part.bits * 64 + (octet.toNat - 0x80)
            match part.following with
            | 0 => decodeFrom (part.start + part.seen + 1) none (Char.ofNat bits :: read) rest
            | following + 1 =>
                decodeFrom start (some ⟨part.start, part.seen + 1, bits, following, 0x80, 0xBF⟩)
                  read rest
          else
            .error ⟨part.start, some part.seen⟩

/-- The characters that the octets spell. -/
def decode (octets : List UInt8) : Except Utf8Error (List Char) :=
  decodeFrom 0 none [] octets

end Utf8

end CacheDepot.Text
