import PatternScan.Number.Integer

/-!
# The machine

What the machine tells a program, and what the libraries of the program refuse to make on it: a pool
with more permits than one word can count, and a cache whose table does not fit into memory.
-/

namespace PatternScan

/-- The machine that a program runs on. -/
structure Machine where
  /-- The number of threads that can run at once. -/
  cores : Nat := 1
  /-- The most permits that a pool can have. Three bits of a word are not for counting. -/
  poolLimit : Nat := Number.maxNat64 / 8
  /-- The most records that room can be made for. Even with memory enough, no table has more than
  `2 ^ 58` places, of which it fills seven in eight. -/
  cacheLimit : Nat := 252201579132747776
  cores_pos : 0 < cores := by exact Nat.zero_lt_one
  deriving DecidableEq, Repr

/-- What a library refuses to make. -/
inductive Refusal where
  | pool (limit : Nat)
  | cache
  deriving DecidableEq, Repr

namespace Refusal

/-- The refusal in words. -/
def message : Refusal → String
  | pool limit =>
      "a semaphore may not have more than MAX_PERMITS permits (" ++ toString limit ++ ")"
  | cache => "Hash table capacity overflow"

end Refusal

namespace Machine

/-- A pool of permits. -/
def makePool (machine : Machine) (permits : Nat) : Except Refusal Unit :=
  if machine.poolLimit < permits then .error (.pool machine.poolLimit) else .ok ()

/-- A cache with room for so many records. -/
def makeCache (machine : Machine) (capacity : Nat) : Except Refusal Unit :=
  if machine.cacheLimit < capacity then .error .cache else .ok ()

variable {machine : Machine} {count : Nat}

theorem makePool_eq_ok (h : count ≤ machine.poolLimit) : machine.makePool count = .ok () :=
  if_neg (Nat.not_lt.2 h)

theorem makeCache_eq_ok (h : count ≤ machine.cacheLimit) : machine.makeCache count = .ok () :=
  if_neg (Nat.not_lt.2 h)

end Machine

end PatternScan
