/-!
# Maps kept in key order

A map is a list of entries in ascending order of their keys, so it is listed in key
order and two maps with the same bindings are the same list.
-/

namespace PatternScan

/-- A map from keys to values, listed in ascending order of the keys. -/
structure SortedMap (K V : Type) where
  entries : List (K × V)
  deriving DecidableEq, Repr

namespace SortedMap

variable {K V : Type} [Ord K]

/-- The map without entries. -/
def empty : SortedMap K V := ⟨[]⟩

instance : Inhabited (SortedMap K V) := ⟨empty⟩

/-- Binds the key in a sorted list of entries. -/
def insertEntry (key : K) (value : V) : List (K × V) → List (K × V)
  | [] => [(key, value)]
  | (k, v) :: rest =>
      match compare key k with
      | .lt => (key, value) :: (k, v) :: rest
      | .eq => (key, value) :: rest
      | .gt => (k, v) :: insertEntry key value rest

/-- Binds the key to the value, in place of an earlier binding. -/
def insert (m : SortedMap K V) (key : K) (value : V) : SortedMap K V :=
  ⟨insertEntry key value m.entries⟩

/-- Binds every key of `later` on top of `m`. -/
def override (m later : SortedMap K V) : SortedMap K V :=
  later.entries.foldl (fun acc e => acc.insert e.1 e.2) m

/-- The value bound to the key. -/
def get? (m : SortedMap K V) (key : K) : Option V :=
  (m.entries.find? fun e => compare key e.1 == .eq).map Prod.snd

/-- The bound keys, ascending. -/
def keys (m : SortedMap K V) : List K := m.entries.map Prod.fst

/-- No key is bound. -/
def isEmpty (m : SortedMap K V) : Bool := m.entries.isEmpty

/-- Applies a change to the value of a key, or to `start` where it has none. -/
def update (m : SortedMap K V) (key : K) (start : V) (change : V → V) : SortedMap K V :=
  m.insert key (change ((m.get? key).getD start))

end SortedMap

end PatternScan
