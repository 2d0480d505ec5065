/-!
# Recently used values

A cache remembers the values of a bounded number of keys. Looking a key up or binding it
makes it the most recent; where there is no room, the least recent key is forgotten.
-/

namespace PatternScan

/-- The remembered values, most recent first. -/
structure RecentCache (K V : Type) where
  capacity : Nat
  entries : List (K × V)
  deriving DecidableEq, Repr

namespace RecentCache

variable {K V : Type} [BEq K]

/-- The cache that remembers nothing yet; it has room for at least one value. -/
def empty (capacity : Nat) : RecentCache K V := ⟨max capacity 1, []⟩

/-- Forgets every value. -/
def clear (cache : RecentCache K V) : RecentCache K V := { cache with entries := [] }

/-- The value bound to a key, and the cache in which the key is the most recent. -/
def lookup (cache : RecentCache K V) (key : K) : Option V × RecentCache K V :=
  match cache.entries.find? fun e => e.1 == key with
  | some entry =>
      (some entry.2,
        { cache with entries := entry :: cache.entries.filter fun e => !(e.1 == key) })
  | none => (none, cache)

/-- Binds a key as the most recent one. -/
def put (cache : RecentCache K V) (key : K) (value : V) : RecentCache K V :=
  let others := cache.entries.filter fun e => !(e.1 == key)
  { cache with entries := ((key, value) :: others).take cache.capacity }

end RecentCache

end PatternScan
