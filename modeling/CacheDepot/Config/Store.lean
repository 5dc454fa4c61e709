import CacheDepot.Config.Basic

/-!
# The configuration in force

One cell that holds a whole configuration. Readers take a copy of it; replacing it
gives back what was there.
-/

namespace CacheDepot.Config

/-- The configuration in force. -/
structure Store where
  current : CacheConfig := CacheConfig.builtin
  deriving DecidableEq, Repr

namespace Store

def get (store : Store) : CacheConfig :=
  store.current

/-- Puts a configuration in force; gives the one before. -/
def replace (store : Store) (config : CacheConfig) : CacheConfig × Store :=
  (store.current, ⟨config⟩)

@[simp] theorem get_replace (store : Store) (config : CacheConfig) :
    (store.replace config).2.get = config := rfl

@[simp] theorem fst_replace (store : Store) (config : CacheConfig) :
    (store.replace config).1 = store.get := rfl

end Store

end CacheDepot.Config
