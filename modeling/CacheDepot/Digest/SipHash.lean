/-!
# SipHash-1-3

The keyed 64-bit hash with one round a word and three rounds at the end, under the
all-zero key. It spreads buffer keys over the segments of a cache.
-/

namespace CacheDepot.Digest

namespace SipHash

structure State where
  v0 : UInt64
  v1 : UInt64
  v2 : UInt64
  v3 : UInt64
  deriving DecidableEq, Repr

/-- The state under the all-zero key. -/
def initial : State :=
  ⟨0x736f6d6570736575, 0x646f72616e646f6d, 0x6c7967656e657261, 0x7465646279746573⟩

def rotateLeft (x n : UInt64) : UInt64 :=
  (x <<< n) ||| (x >>> (64 - n))

def round (s : State) : State :=
  let v0 := s.v0 + s.v1
  let v1 := rotateLeft s.v1 13 ^^^ v0
  let v0 := rotateLeft v0 32
  let v2 := s.v2 + s.v3
  let v3 := rotateLeft s.v3 16 ^^^ v2
  let v0 := v0 + v3
  let v3 := rotateLeft v3 21 ^^^ v0
  let v2 := v2 + v1
  let v1 := rotateLeft v1 17 ^^^ v2
  let v2 := rotateLeft v2 32
  ⟨v0, v1, v2, v3⟩

def absorbWord (s : State) (word : UInt64) : State :=
  let mixed := round { s with v3 := s.v3 ^^^ word }
  { mixed with v0 := mixed.v0 ^^^ word }

/-- The value of up to eight octets, least significant first. -/
def littleEndian (octets : List UInt8) : UInt64 :=
  octets.foldr (fun octet value => (value <<< 8) ||| octet.toUInt64) 0

/-- Absorbs eight octets a word, then the last up to seven octets together with the message's
length modulo 256. -/
def absorb (length : Nat) (s : State) : List UInt8 → State
  | a :: b :: c :: d :: e :: f :: g :: h :: rest =>
      absorb length (absorbWord s (littleEndian [a, b, c, d, e, f, g, h])) rest
  | rest => absorbWord s (littleEndian rest ||| (UInt64.ofNat length <<< 56))

def finish (s : State) : UInt64 :=
  let last := round (round (round { s with v2 := s.v2 ^^^ 0xff }))
  last.v0 ^^^ last.v1 ^^^ last.v2 ^^^ last.v3

end SipHash

/-- The hash of a message under the all-zero key. -/
def sipHash (message : List UInt8) : UInt64 :=
  SipHash.finish (SipHash.absorb message.length SipHash.initial message)

end CacheDepot.Digest
