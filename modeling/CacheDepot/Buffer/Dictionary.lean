/-!
# Dictionaries of buffers

A finite map from keys to values, both of them octets. The pairs have distinct
keys; their order carries no meaning.
-/

namespace CacheDepot.Buffer

abbrev Key := ByteArray

abbrev Value := ByteArray

instance : DecidableEq Key := ByteArray.instDecidableEq

instance : BEq Key := instBEqOfDecidableEq

/-- The bytes that a pair counts for. -/
def cost (key : Key) (value : Value) : Nat :=
  key.size + value.size

structure Dictionary where
  pairs : List (Key × Value) := []
  deriving DecidableEq

namespace Dictionary

def get? (key : Key) (d : Dictionary) : Option Value :=
  d.pairs.lookup key

def contains (key : Key) (d : Dictionary) : Bool :=
  (d.get? key).isSome

def erase (key : Key) (d : Dictionary) : Dictionary :=
  ⟨d.pairs.filter fun pair => pair.1 ≠ key⟩

/-- Puts a value under a key in place of the one that was there. -/
def insert (key : Key) (value : Value) (d : Dictionary) : Dictionary :=
  ⟨(key, value) :: (d.erase key).pairs⟩

def size (d : Dictionary) : Nat :=
  d.pairs.length

@[simp] theorem get?_empty (key : Key) : get? key {} = none := rfl

end Dictionary

end CacheDepot.Buffer
