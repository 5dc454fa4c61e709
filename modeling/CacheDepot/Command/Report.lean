import CacheDepot.Config.Load
import CacheDepot.Json.Printer
import CacheDepot.Registry.Serial

/-!
# Reports

What the commands show, as text and as JSON: a configuration with the layers that
it came from, and the shared caches that it produces.
-/

namespace CacheDepot.Command

open Config (Loaded Source)

/-- A text of lines, each ended. -/
def textOf (lines : List String) : String :=
  String.join (lines.map (· ++ "\n"))

def truthText (value : Bool) : String :=
  if value then "true" else "false"

namespace ConfigReport

def sourceLine (source : Source) : String :=
  match source.file with
  | some (path, digest) =>
      "  " ++ source.origin.title ++ ": " ++ path ++ " (sha256 " ++ digest ++ ")"
  | none => "  " ++ source.origin.title

def text (loaded : Loaded) : String :=
  textOf <|
    [ "cache_size:        " ++ toString loaded.config.cacheSize.toNat
    , "file_handle_count: " ++ toString loaded.config.fileHandleCount.toNat
    , "cache_fulltexts:   " ++ truthText loaded.config.cacheFulltexts
    , "cache_deltas:      " ++ truthText loaded.config.cacheDeltas
    , "single_threaded:   " ++ truthText loaded.config.singleThreaded
    , ""
    , "Sources:" ] ++ loaded.sources.map sourceLine

def sourceJson (source : Source) : Json :=
  .object <| ("origin", .text source.origin.key) ::
    match source.file with
    | some (path, digest) => [("path", .text path), ("digest", .text digest)]
    | none => []

/-- Settings stand in the order in which they are declared. -/
def json (loaded : Loaded) : Json :=
  .object
    [ ("config", .object loaded.config.declaredPairs)
    , ("sources", .array (loaded.sources.map sourceJson)) ]

end ConfigReport

/-- The shared caches of a process to which a configuration was applied. -/
structure Status where
  /-- The configuration in force. -/
  config : CacheConfig
  buffer : Option Buffer.Cache
  /-- What a request for the handle cache was answered. -/
  handles : Answer

namespace Status

/-- Applies a configuration to a process, then asks it for both caches. -/
def apply (config : CacheConfig) (depot : Depot Unit) : Status × Depot Unit :=
  let ask := Depot.perform Backend.separate Depot.refusingNothing
  let configured := (ask (.configure config) depot).2
  let (buffer, afterBuffer) := ask .buffer configured
  let (handles, last) := ask .handles afterBuffer
  let status :=
    { config := last.registry.config.get
      buffer := match buffer with
        | .buffer (some found) => some found.cache
        | _ => none
      handles := handles }
  (status, last)

/-- What went wrong with the handle cache. -/
def error? (status : Status) : Option CachingError :=
  match status.handles with
  | .handles (.error error) => some error
  | _ => none

def bufferLines : Option Buffer.Cache → List String
  | some cache =>
      [ "  total size:     " ++ toString cache.totalSize.toNat
      , "  directory size: " ++ toString cache.directorySize.toNat
      , "  segments:       " ++ toString cache.segments.size
      , "  thread safe:    " ++ truthText cache.threadSafe ]
  | none => ["  absent"]

def handlesLines : Answer → List String
  | .handles (.ok found) =>
      [ "  max handles:    " ++ toString found.cache.maxHandles.toNat
      , "  thread safe:    " ++ truthText found.cache.threadSafe ]
  | .handles (.error error) => ["  error: " ++ Json.stringText error.message]
  | _ => []

def text (status : Status) : String :=
  textOf <| ["Buffer cache:"] ++ bufferLines status.buffer ++
    ["File handle cache:"] ++ handlesLines status.handles

def bufferJson : Option Buffer.Cache → Json
  | some cache =>
      .object
        [ ("directory_size", .int cache.directorySize.toNat)
        , ("present", .bool true)
        , ("segments", .int cache.segments.size)
        , ("thread_safe", .bool cache.threadSafe)
        , ("total_size", .int cache.totalSize.toNat) ]
  | none => .object [("present", .bool false)]

def handlesJson : Answer → Json
  | .handles (.ok found) =>
      .object
        [ ("max_handles", .int found.cache.maxHandles.toNat)
        , ("thread_safe", .bool found.cache.threadSafe) ]
  | .handles (.error error) => .object [("error", .text error.message)]
  | _ => .null

/-- All keys stand in ascending order. -/
def json (status : Status) : Json :=
  .object
    [ ("config", status.config.settings)
    , ("file_handles", handlesJson status.handles)
    , ("membuffer", bufferJson status.buffer) ]

end Status

end CacheDepot.Command
