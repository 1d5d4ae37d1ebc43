import Gloss.Generation.Settings

/-!
# The cache of replies

Values that are forgotten a while after they were last read. Times are given by
the caller, in milliseconds. A cache that is not enabled keeps nothing.
-/

namespace Gloss

/-- A kept value. -/
structure Cache.Entry where
  value : String
  createdAt : Nat
  lastAccess : Nat
  deriving DecidableEq, Repr

/-- Values by key, each kept for `ttl` after it was last read. -/
structure Cache where
  ttl : Nat := 30000
  enabled : Bool := true
  entries : List (String × Cache.Entry) := []
  deriving DecidableEq, Repr

namespace Cache

/-- The cache that keeps nothing. -/
def disabled : Cache := { enabled := false }

/-- The cache that settings ask for. -/
def ofSettings (s : Generation.Settings) : Cache :=
  if s.cacheEnabled then { ttl := 1000 * s.cacheTtlSeconds } else disabled

/-- How many values are kept. -/
def size (cache : Cache) : Nat :=
  cache.entries.length

/-- The entry of a key. -/
def find? (cache : Cache) (key : String) : Option Entry :=
  cache.entries.lookup key

/-- The cache without a key. -/
def erase (cache : Cache) (key : String) : Cache :=
  { cache with entries := cache.entries.filter fun (k, _) => k != key }

/-- The cache with one entry for a key. -/
def put (cache : Cache) (key : String) (entry : Entry) : Cache :=
  { cache with entries := (key, entry) :: (cache.erase key).entries }

/-- Whether an entry can still be read. -/
def isFresh (cache : Cache) (now : Nat) (entry : Entry) : Bool :=
  decide (now - entry.lastAccess < cache.ttl)

/-- Reads a value. Reading keeps it for another while; a value that has expired is
forgotten. -/
def get (cache : Cache) (now : Nat) (key : String) : Option String × Cache :=
  if cache.enabled then
    match cache.find? key with
    | none => (none, cache)
    | some entry =>
      if cache.isFresh now entry then
        (some entry.value, cache.put key { entry with lastAccess := now })
      else (none, cache.erase key)
  else (none, cache)

/-- Keeps a value, in the place of an older one. -/
def insert (cache : Cache) (now : Nat) (key value : String) : Cache :=
  if cache.enabled then cache.put key ⟨value, now, now⟩ else cache

/-- Forgets the values that have expired. -/
def purge (cache : Cache) (now : Nat) : Cache :=
  { cache with entries := cache.entries.filter fun (_, entry) => cache.isFresh now entry }

/-- How many values `purge` forgets. -/
def expired (cache : Cache) (now : Nat) : Nat :=
  cache.size - (cache.purge now).size

end Cache

end Gloss
