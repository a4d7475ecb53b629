import ViewTemplate.Cache.Fingerprint

/-!
# Caches

A cache keeps the output of views under their fingerprints.  Entries may have a lifetime; an entry
that has outlived it is not found, but stays until it is cleaned up.  Times are given from outside,
in nanoseconds.
-/

namespace ViewTemplate

/-- The output of a view and when it expires. -/
structure CacheEntry where
  output : String
  expires : Option Nat
  deriving Repr, DecidableEq

/-- Whether an entry has expired. -/
def CacheEntry.isExpired (entry : CacheEntry) (now : Nat) : Bool :=
  match entry.expires with
  | some time => decide (time < now)
  | none => false

/-- What a cache has done and what it holds. -/
structure CacheStatistics where
  hits : Nat
  misses : Nat
  entries : Nat
  /-- The bytes of all outputs held. -/
  memory : Nat
  deriving Repr, DecidableEq

namespace CacheStatistics

def total (s : CacheStatistics) : Nat :=
  s.hits + s.misses

/-- The part of the requests that were hits, zero if there were none. -/
def hitRate (s : CacheStatistics) : Float :=
  if s.total = 0 then 0.0 else Float.ofNat s.hits / Float.ofNat s.total

end CacheStatistics

/-- A cache in memory. -/
structure MemoryCache where
  entries : Bindings CacheEntry := []
  /-- How many seconds an entry lives; without end if there is none. -/
  lifetime : Option Nat := none
  hits : Nat := 0
  misses : Nat := 0

namespace MemoryCache

/-- The entry of a view, unless it has expired. -/
def lookup? (c : MemoryCache) (now : Nat) (view : View) : Option String :=
  match Bindings.find? c.entries view.fingerprint with
  | some entry => if entry.isExpired now then none else some entry.output
  | none => none

/-- Whether there is an entry of a view that has not expired. -/
def has (c : MemoryCache) (now : Nat) (view : View) : Bool :=
  (c.lookup? now view).isSome

/-- Ask for the output of a view, and count the request. -/
def get (c : MemoryCache) (now : Nat) (view : View) : Option String × MemoryCache :=
  match c.lookup? now view with
  | some output => (some output, { c with hits := c.hits + 1 })
  | none => (none, { c with misses := c.misses + 1 })

/-- Nanoseconds in a number of seconds. -/
def nanoseconds (seconds : Nat) : Nat :=
  seconds * 1000000000

/-- Keep the output of a view. -/
def set (c : MemoryCache) (now : Nat) (view : View) (output : String) : MemoryCache :=
  let expires := c.lifetime.map fun seconds => now + nanoseconds seconds
  { c with entries := Bindings.bind c.entries view.fingerprint ⟨output, expires⟩ }

def flush (c : MemoryCache) : MemoryCache :=
  { c with entries := [] }

def cleanUp (c : MemoryCache) (now : Nat) : MemoryCache :=
  { c with entries := c.entries.filter fun (_, entry) => !entry.isExpired now }

/-- What the cache has done and what it holds. -/
def statistics (c : MemoryCache) : CacheStatistics where
  hits := c.hits
  misses := c.misses
  entries := c.entries.length
  memory := c.entries.foldl (fun n (_, entry) => n + entry.output.utf8ByteSize) 0

end MemoryCache

/-- A cache in memory, or none at all. -/
inductive Cache where
  | none
  | memory (c : MemoryCache)

namespace Cache

def get (c : Cache) (now : Nat) (view : View) : Option String × Cache :=
  match c with
  | none => (Option.none, none)
  | memory c =>
    let (found, c) := c.get now view
    (found, memory c)

/-- Keep the output of a view. -/
def set (c : Cache) (now : Nat) (view : View) (output : String) : Cache :=
  match c with
  | none => none
  | memory c => memory (c.set now view output)

def has (c : Cache) (now : Nat) (view : View) : Bool :=
  match c with
  | none => false
  | memory c => c.has now view

def flush : Cache → Cache
  | none => none
  | memory c => memory c.flush

def cleanUp (c : Cache) (now : Nat) : Cache :=
  match c with
  | none => none
  | memory c => memory (c.cleanUp now)

/-- What the cache has done and what it holds, if it is one. -/
def statistics? : Cache → Option CacheStatistics
  | none => Option.none
  | memory c => some c.statistics

end Cache

/-- The output of a view: the one kept for it, or else the result of running it, which is kept if it
is an output. -/
def compile {ε τ : Type} (run : View → τ → Except ε String × τ) (now : Nat) (view : View)
    (cache : Cache) (state : τ) : Except ε String × Cache × τ :=
  match cache.get now view with
  | (some output, cache) => (.ok output, cache, state)
  | (none, cache) =>
    match run view state with
    | (.ok output, state) => (.ok output, cache.set now view output, state)
    | (.error e, state) => (.error e, cache, state)

end ViewTemplate
