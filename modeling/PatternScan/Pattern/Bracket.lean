import PatternScan.Pattern.Escape

/-!
# Character classes in brackets

A class lists characters, ranges, escapes, named ASCII classes and further classes. Two
lists may be combined by intersection, difference or symmetric difference; such
operators group to the left.
-/

namespace PatternScan.Pattern

/-- A class that is still open. -/
structure OpenClass where
  /-- The opening bracket with what belongs to it. -/
  extent : Extent
  negated : Bool
  /-- The list before the last operator, and that operator. -/
  pending : Option (ClassOutline × SetOperator)
  /-- Where the list being read begins. -/
  listStart : Nat
  /-- The members of the list being read, the last one first. -/
  members : List ClassOutline
  deriving Repr

namespace OpenClass

/-- The class with one more member in the list being read. -/
def add (c : OpenClass) (member : ClassOutline) : OpenClass :=
  { c with members := member :: c.members }

/-- The list being read. -/
def list (c : OpenClass) : ClassOutline :=
  match c.members with
  | [] => .nothing ⟨c.listStart, c.listStart⟩
  | [member] => member
  | last :: rest =>
      let first := rest.getLast?.getD last
      .list (last :: rest).reverse ⟨first.extent.start, last.extent.stop⟩

/-- The lists read so far. -/
def contents (c : OpenClass) : ClassOutline :=
  match c.pending with
  | none => c.list
  | some (before, op) => .operation op before c.list

/-- The class after an operator, the next list beginning at `start`. -/
def operate (c : OpenClass) (op : SetOperator) (start : Nat) : OpenClass :=
  { c with pending := some (c.contents, op), listStart := start, members := [] }

/-- The class closed before `stop`. -/
def close (c : OpenClass) (stop : Nat) : ClassOutline :=
  .bracket c.negated c.contents ⟨c.extent.start, stop⟩

end OpenClass

/-- The ASCII characters of a named class. -/
def namedClass? : String → Option (List (Nat × Nat))
  | "alnum" => some [(48, 57), (65, 90), (97, 122)]
  | "alpha" => some [(65, 90), (97, 122)]
  | "ascii" => some [(0, 127)]
  | "blank" => some [(9, 9), (32, 32)]
  | "cntrl" => some [(0, 31), (127, 127)]
  | "digit" => some [(48, 57)]
  | "graph" => some [(33, 126)]
  | "lower" => some [(97, 122)]
  | "print" => some [(32, 126)]
  | "punct" => some [(33, 47), (58, 64), (91, 96), (123, 126)]
  | "space" => some [(9, 13), (32, 32)]
  | "upper" => some [(65, 90)]
  | "word" => some [(48, 57), (65, 90), (95, 95), (97, 122)]
  | "xdigit" => some [(48, 57), (65, 70), (97, 102)]
  | _ => none

/-- The named class whose bracket stands at `pos`, if one does. -/
def readNamedClass? (src : Source) (pos : Nat) : Option (Found ClassOutline) :=
  if src.isAt (pos + 1) ':' then
    let negated := src.isAt (pos + 2) '^'
    let start := if negated then pos + 3 else pos + 2
    let stop := src.skipWhile (· != ':') start
    if src.startsAt stop ":]" then
      (namedClass? (String.ofList (src.between start stop))).map fun ranges =>
        ⟨.named ranges negated ⟨pos, stop + 2⟩, stop + 2⟩
    else none
  else none

/-- A character that stands for itself at `pos`. -/
def literalAt (c : Char) (pos : Nat) : ClassOutline := .literal ⟨c, false⟩ ⟨pos, pos + 1⟩

/-- Hyphens just after the opening stand for themselves; those read are given last one
first. -/
def readHyphens (src : Source) (verbose : Bool) (start : Nat) (members : List ClassOutline) :
    Nat → Nat → Except Fault (Found (List ClassOutline))
  | 0, pos => .ok ⟨members, pos⟩
  | fuel + 1, pos =>
      if src.isAt pos '-' then
        let next := src.skip verbose (pos + 1)
        if src.atEnd next then fail .classUnclosed start start
        else readHyphens src verbose start (literalAt '-' pos :: members) fuel next
      else .ok ⟨members, pos⟩

/-- Opens the class whose bracket stands at `start`. -/
def openClass (src : Source) (verbose : Bool) (start : Nat) :
    Except Fault (Found OpenClass) := do
  let first := src.skip verbose (start + 1)
  if src.atEnd first then
    fail .classUnclosed start first
  else
    let negated := src.isAt first '^'
    let body := if negated then src.skip verbose (first + 1) else first
    if src.atEnd body then
      fail .classUnclosed start body
    else
      let hyphens ← readHyphens src verbose start [] (src.size + 1) body
      if hyphens.value.isEmpty && src.isAt hyphens.stop ']' then
        let next := src.skip verbose (hyphens.stop + 1)
        if src.atEnd next then
          fail .classUnclosed start next
        else
          return ⟨⟨⟨start, next⟩, negated, none, body, [literalAt ']' hyphens.stop]⟩, next⟩
      else
        return ⟨⟨⟨start, hyphens.stop⟩, negated, none, body, hyphens.value⟩, hyphens.stop⟩

/-- One character or escape of a class. -/
def readClassItem (src : Source) (verbose : Bool) (pos : Nat) (c : Char) :
    Except Fault (Found Item) :=
  if c == '\\' then readEscape src verbose pos else .ok ⟨.literal ⟨c, false⟩, pos + 1⟩

/-- The bound of a range that an item stands for. -/
def rangeBound (item : Item) (extent : Extent) : Except Fault Literal :=
  match item with
  | .literal l => .ok l
  | _ => fail .classRangeLiteral extent.start extent.stop

/-- An item that stands alone. -/
def classMember (item : Item) (extent : Extent) : Except Fault ClassOutline :=
  match item with
  | .literal l => .ok (.literal l extent)
  | .escapedSet set negated => .ok (.escapedSet set negated extent)
  | .anchor _ => fail .classEscapeInvalid extent.start extent.stop

/-- One item or range of a class; `unclosed` is the class to blame if the pattern ends. -/
def readClassRange (src : Source) (verbose : Bool) (unclosed : Extent) (pos : Nat) (c : Char) :
    Except Fault (Found ClassOutline) := do
  let item ← readClassItem src verbose pos c
  let after := src.skip verbose item.stop
  if src.atEnd after then
    fail .classUnclosed unclosed.start unclosed.stop
  else
    let beyond := src.skip verbose (after + 1)
    if !src.isAt after '-' || src.isAt beyond ']' || src.isAt beyond '-' then
      let member ← classMember item.value ⟨pos, item.stop⟩
      return ⟨member, item.stop⟩
    else
      match src[beyond]? with
      | none => fail .classUnclosed unclosed.start unclosed.stop
      | some d =>
          let other ← readClassItem src verbose beyond d
          let low ← rangeBound item.value ⟨pos, item.stop⟩
          let high ← rangeBound other.value ⟨beyond, other.stop⟩
          if low.char ≤ high.char then
            return ⟨.range low high ⟨pos, item.stop⟩ ⟨beyond, other.stop⟩, other.stop⟩
          else
            fail .classRangeInvalid pos other.stop

/-- The operator at the position. -/
def setOperator? (src : Source) (pos : Nat) : Option SetOperator :=
  if src.startsAt pos "&&" then some .intersection
  else if src.startsAt pos "--" then some .difference
  else if src.startsAt pos "~~" then some .symmetricDifference
  else none

/-- Reads on in the class `top`, which is inside the classes of `outer`. Every round takes
at least one character, so the length of the pattern bounds their number. -/
def readClassFrom (src : Source) (verbose : Bool) :
    Nat → OpenClass → List OpenClass → Nat → Except Fault (Found ClassOutline)
  | 0, top, _, _ => fail .classUnclosed top.extent.start top.extent.stop
  | fuel + 1, top, outer, pos => do
      let pos := src.skip verbose pos
      match src[pos]? with
      | none => fail .classUnclosed top.extent.start top.extent.stop
      | some '[' =>
          match readNamedClass? src pos with
          | some found => readClassFrom src verbose fuel (top.add found.value) outer found.stop
          | none =>
              let inner ← openClass src verbose pos
              readClassFrom src verbose fuel inner.value (top :: outer) inner.stop
      | some ']' =>
          let closed := top.close (pos + 1)
          match outer with
          | [] => return ⟨closed, pos + 1⟩
          | parent :: rest => readClassFrom src verbose fuel (parent.add closed) rest (pos + 1)
      | some c =>
          match setOperator? src pos with
          | some op => readClassFrom src verbose fuel (top.operate op (pos + 2)) outer (pos + 2)
          | none =>
              let found ← readClassRange src verbose top.extent pos c
              readClassFrom src verbose fuel (top.add found.value) outer found.stop

/-- The class whose bracket stands at `start`. -/
def readClass (src : Source) (verbose : Bool) (start : Nat) :
    Except Fault (Found ClassOutline) := do
  let opened ← openClass src verbose start
  readClassFrom src verbose (src.size + 1) opened.value [] opened.stop

end PatternScan.Pattern
