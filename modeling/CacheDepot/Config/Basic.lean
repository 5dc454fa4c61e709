import CacheDepot.Json.Basic

/-!
# The cache configuration

Memory and handle budgets of the shared caches, the built-in values, and the
configuration as a layer of settings under the key `cache`.
-/

namespace CacheDepot

/-- Budgets and switches of the shared caches. It is read and replaced as a whole. -/
structure CacheConfig where
  /-- Byte budget of the buffer cache; zero switches it off. -/
  cacheSize : UInt64 := 134217728
  /-- Most idle file handles kept open; zero is a valid limit. -/
  fileHandleCount : UInt64 := 16
  /-- Whether higher layers should cache full texts. -/
  cacheFulltexts : Bool := false
  /-- Whether higher layers should cache text deltas. -/
  cacheDeltas : Bool := false
  /-- Build caches for a single thread. -/
  singleThreaded : Bool := false
  deriving DecidableEq, Repr, Inhabited

namespace CacheConfig

/-- The built-in configuration. -/
def builtin : CacheConfig := {}

end CacheConfig

namespace Config

/-- The settings of a configuration. -/
inductive Field where
  | cacheSize
  | fileHandleCount
  | cacheFulltexts
  | cacheDeltas
  | singleThreaded
  deriving DecidableEq, Repr

namespace Field

/-- The settings in the order in which they are declared. -/
def declared : List Field :=
  [.cacheSize, .fileHandleCount, .cacheFulltexts, .cacheDeltas, .singleThreaded]

/-- The name of a setting in a file, in a layer and on the command line. -/
def name : Field → String
  | .cacheSize => "cache_size"
  | .fileHandleCount => "file_handle_count"
  | .cacheFulltexts => "cache_fulltexts"
  | .cacheDeltas => "cache_deltas"
  | .singleThreaded => "single_threaded"

/-- The setting of a given name. -/
def ofName? (name : String) : Option Field :=
  declared.find? fun field => field.name = name

/-- The value of a setting in a configuration, as a JSON value. -/
def value (config : CacheConfig) : Field → Json
  | .cacheSize => .int config.cacheSize.toNat
  | .fileHandleCount => .int config.fileHandleCount.toNat
  | .cacheFulltexts => .bool config.cacheFulltexts
  | .cacheDeltas => .bool config.cacheDeltas
  | .singleThreaded => .bool config.singleThreaded

end Field

end Config

namespace CacheConfig

/-- The settings with their values, in the order in which they are declared. -/
def declaredPairs (config : CacheConfig) : List (String × Json) :=
  Config.Field.declared.map fun field => (field.name, field.value config)

/-- The settings as an object. -/
def settings (config : CacheConfig) : Json :=
  .object (Json.Fields.ofPairs config.declaredPairs)

/-- A layer that defines every setting. -/
def toLayer (config : CacheConfig) : Json :=
  .object [("cache", config.settings)]

end CacheConfig

end CacheDepot
