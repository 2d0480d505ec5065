import PatternScan.Pattern.Matcher
import PatternScan.Proofs.Pattern.OpenGroups

/-!
# Where groups capture

A position is noted when the text has been taken so far, so no capture reaches beyond the text.
While a group is open, only groups inside it note positions; what any other group captured lies
before. Two groups of which neither stands inside the other therefore never capture one character
both.
-/

namespace PatternScan.Pattern

variable {r : Regex} {slots : Slots} {inside : List Nat} {group pos : Nat}

/-! ## Noted positions -/

/-- The position noted in a slot. -/
def noted (slots : Slots) (slot : Nat) : Option Nat := (slots[slot]?).join

theorem noted_replicate (count slot : Nat) : noted (Array.replicate count none) slot = none := by
  rw [noted, Array.getElem?_replicate]
  split <;> rfl

theorem eq_of_noted_set {slot other p : Nat}
    (h : noted (slots.setIfInBounds slot (some pos)) other = some p) :
    other = slot ∧ p = pos ∨ other ≠ slot ∧ noted slots other = some p := by
  rw [noted, Array.getElem?_setIfInBounds] at h
  split at h
  · next hsame =>
      split at h
      · exact .inl ⟨hsame.symm, (Option.some.inj h).symm⟩
      · cases h
  · next hother => exact .inr ⟨Ne.symm hother, h⟩

theorem noted_set_of_ne {slot other : Nat} (h : other ≠ slot) :
    noted (slots.setIfInBounds slot (some pos)) other = noted slots other := by
  rw [noted, noted, Array.getElem?_setIfInBounds_ne h.symm]

/-- The group has captured the characters from `first` up to `last`, the latter excluded. -/
def Captured (slots : Slots) (group first last : Nat) : Prop :=
  noted slots (Regex.startSlot group) = some first ∧
    noted slots (Regex.startSlot group + 1) = some last

theorem noted_start_set_stop (slots : Slots) (group other pos : Nat) :
    noted (slots.setIfInBounds (Regex.startSlot group + 1) (some pos)) (Regex.startSlot other) =
      noted slots (Regex.startSlot other) :=
  noted_set_of_ne (by simp only [Regex.startSlot]; omega)

/-- What one group captured is not touched where another one starts. -/
theorem captured_set_start {other first last : Nat} (h : other ≠ group) :
    Captured (slots.setIfInBounds (Regex.startSlot group) (some pos)) other first last ↔
      Captured slots other first last := by
  rw [Captured, noted_set_of_ne (by simp only [Regex.startSlot]; omega),
    noted_set_of_ne (by simp only [Regex.startSlot]; omega), Captured]

/-- What one group captured is not touched where another one ends. -/
theorem captured_set_stop {other first last : Nat} (h : other ≠ group) :
    Captured (slots.setIfInBounds (Regex.startSlot group + 1) (some pos)) other first last ↔
      Captured slots other first last := by
  rw [Captured, noted_start_set_stop, noted_set_of_ne (by simp only [Regex.startSlot]; omega),
    Captured]

/-- The positions noted are those of text taken so far. -/
def NotedUpTo (pos : Nat) (slots : Slots) : Prop :=
  ∀ ⦃slot p⦄, noted slots slot = some p → p ≤ pos

theorem notedUpTo_replicate (pos count : Nat) : NotedUpTo pos (Array.replicate count none) := by
  intro slot p h
  rw [noted_replicate] at h
  cases h

theorem NotedUpTo.mono (h : NotedUpTo pos slots) {pos' : Nat} (hle : pos ≤ pos') :
    NotedUpTo pos' slots :=
  fun _ _ hnoted => Nat.le_trans (h hnoted) hle

theorem NotedUpTo.set (h : NotedUpTo pos slots) (slot : Nat) :
    NotedUpTo pos (slots.setIfInBounds slot (some pos)) := by
  intro other p hnoted
  rcases eq_of_noted_set hnoted with ⟨-, rfl⟩ | ⟨-, hnoted⟩
  · exact Nat.le_refl _
  · exact h hnoted

/-- The groups differ, and neither stands inside the other. -/
def Regex.Unrelated (r : Regex) (group other : Nat) : Prop :=
  group ≠ other ∧ ¬ r.Encloses group other ∧ ¬ r.Encloses other group

theorem Regex.Unrelated.symm {other : Nat} (h : r.Unrelated group other) :
    r.Unrelated other group :=
  ⟨Ne.symm h.1, h.2.2, h.2.1⟩

/-! ## Properties that are kept -/

/-- A property of the groups open, the position and the slots that every way of matching keeps: it
holds where a way begins, and still when more of the text is taken and when a group is entered or
left inside groups that enclose it. -/
structure Kept (r : Regex) (P : List Nat → Nat → Slots → Prop) : Prop where
  initial : ∀ count pos, P [] pos (Array.replicate count none)
  advance : ∀ {inside pos pos' slots}, P inside pos slots → pos ≤ pos' → P inside pos' slots
  enter : ∀ {inside pos slots group}, P inside pos slots →
    (∀ outer ∈ inside, r.Encloses outer group) →
    P (group :: inside) pos (slots.setIfInBounds (Regex.startSlot group) (some pos))
  leave : ∀ {inside pos slots group}, P (group :: inside) pos slots →
    (∀ outer ∈ inside, r.Encloses outer group) →
    P inside pos (slots.setIfInBounds (Regex.startSlot group + 1) (some pos))

namespace Kept

variable {P : List Nat → Nat → Slots → Prop} {s : Subject}

/-- The way stands within the text, and the property holds of what it has noted where it stands. -/
structure At (r : Regex) (P : List Nat → Nat → Slots → Prop) (s : Subject) (t : Thread) :
    Prop where
  pos_le : t.pos ≤ s.size
  slots : P (r.opensAt t.pc) t.pos t.slots

/-- Each instruction keeps the property. -/
theorem successor (hkept : Kept r P) {t next : Thread} (h : At r P s t) {instruction : Instruction}
    (hat : r.program[t.pc]? = some instruction) (hnext : next ∈ t.successors s instruction) :
    At r P s next := by
  have hkeeps := Regex.keeps_of_getElem? hat
  cases instruction with
  | chars set target =>
      rw [Thread.successors] at hnext
      split at hnext
      · next c hc =>
          have hlt : t.pos < s.size := (Array.getElem?_eq_some_iff.1 hc).1
          rw [List.mem_ite_nil_right, List.mem_singleton] at hnext
          obtain ⟨-, rfl⟩ := hnext
          refine ⟨hlt, ?_⟩
          rw [show r.opensAt target = r.opensAt t.pc from hkeeps]
          exact hkept.advance h.slots (Nat.le_succ t.pos)
      · cases hnext
  | anchor condition target =>
      rw [Thread.successors, List.mem_ite_nil_right, List.mem_singleton] at hnext
      obtain ⟨-, rfl⟩ := hnext
      exact ⟨h.pos_le, (show r.opensAt target = r.opensAt t.pc from hkeeps) ▸ h.slots⟩
  | split preferred other =>
      rcases List.mem_cons.1 hnext with rfl | hnext
      · exact ⟨h.pos_le, hkeeps.1 ▸ h.slots⟩
      · obtain rfl := List.mem_singleton.1 hnext
        exact ⟨h.pos_le, hkeeps.2 ▸ h.slots⟩
  | jump target =>
      obtain rfl := List.mem_singleton.1 hnext
      exact ⟨h.pos_le, (show r.opensAt target = r.opensAt t.pc from hkeeps) ▸ h.slots⟩
  | save slot target =>
      obtain rfl := List.mem_singleton.1 hnext
      refine ⟨h.pos_le, ?_⟩
      rcases hkeeps with ⟨group, rfl, hopens, hencloses⟩ | ⟨group, rfl, hopens, hencloses⟩
      · exact hopens ▸ hkept.enter h.slots hencloses
      · exact hkept.leave (hopens ▸ h.slots) hencloses
  | accept => cases hnext

/-- What a search finds was noted by a way of which the property holds and that has no group
open. -/
theorem of_search (hkept : Kept r P) {fuel : Nat} {threads : List Thread} {tried : Array Bool}
    (hthreads : ∀ t ∈ threads, At r P s t)
    (h : (search r.program.toArray s fuel threads tried).slots = some slots) :
    P [] s.size slots := by
  fun_induction search r.program.toArray s fuel threads tried with
  | case1 => cases h
  | case2 => cases h
  | case3 fuel t rest tried key _ ih => exact ih (fun t' ht' => hthreads t' (.tail _ ht')) h
  | case4 fuel t rest tried key _ _ ih => exact ih (fun t' ht' => hthreads t' (.tail _ ht')) h
  | case5 fuel t rest tried key _ haccept =>
      have ht := hthreads t List.mem_cons_self
      have hopens : Instruction.accept.Keeps r.Encloses r.opensAt t.pc :=
        Regex.keeps_of_getElem? (List.getElem?_toArray ▸ haccept)
      obtain rfl := Option.some.inj h
      exact (show r.opensAt t.pc = [] from hopens) ▸ hkept.advance ht.slots ht.pos_le
  | case6 fuel t rest tried key _ instruction _ hat ih =>
      refine ih (fun t' ht' => ?_) h
      rcases List.mem_append.1 ht' with hsuccessor | hrest
      · exact hkept.successor (hthreads t List.mem_cons_self) (List.getElem?_toArray ▸ hat)
          hsuccessor
      · exact hthreads t' (.tail _ hrest)

theorem of_searchFrom (hkept : Kept r P) {fuel slotCount left start : Nat} {tried : Array Bool}
    (hleft : start + left ≤ s.size + 1)
    (h : searchFrom r.program.toArray s fuel slotCount left start tried = some slots) :
    P [] s.size slots := by
  induction left generalizing start tried with
  | zero => cases h
  | succ left ih =>
      have hfirst : At r P s ⟨0, start, Array.replicate slotCount none⟩ :=
        ⟨by simp only; omega, hkept.initial slotCount start⟩
      rw [searchFrom] at h
      split at h
      · next found _ hfound =>
          have hslots := (congrArg SearchResult.slots hfound).trans h
          exact hkept.of_search (List.forall_mem_singleton.2 hfirst) hslots
      · exact ih (by omega) h

/-- What is kept holds of what the first match notes, at the end of the text with no group open. -/
theorem of_firstMatch (hkept : Kept r P) {slotCount : Nat}
    (h : firstMatch r.program.toArray s slotCount = some slots) : P [] s.size slots :=
  hkept.of_searchFrom (Nat.le_of_eq (Nat.zero_add _)) h

end Kept

/-! ## What may have been noted -/

/-- What may have been noted with the text taken up to a position while groups are open: nothing
beyond, captures of unrelated groups apart from each other, and those of groups that are not open
before the start of unrelated groups that are. -/
structure Fits (r : Regex) (inside : List Nat) (pos : Nat) (slots : Slots) : Prop where
  noted_le : NotedUpTo pos slots
  apart : ∀ {group other first last first' last'}, group ∉ inside → other ∉ inside →
    r.Unrelated group other → Captured slots group first last →
    Captured slots other first' last' → last ≤ first' ∨ last' ≤ first
  before : ∀ {group other start first last}, group ∈ inside → other ∉ inside →
    r.Unrelated group other → noted slots (Regex.startSlot group) = some start →
    Captured slots other first last → last ≤ start

namespace Fits

theorem initial (r : Regex) (count pos : Nat) : Fits r [] pos (Array.replicate count none) where
  noted_le := notedUpTo_replicate pos count
  apart _ _ _ h _ := by rw [Captured, noted_replicate] at h; cases h.1
  before h := by cases h

theorem advance (h : Fits r inside pos slots) {pos' : Nat} (hle : pos ≤ pos') :
    Fits r inside pos' slots :=
  { h with noted_le := h.noted_le.mono hle }

/-- A group is entered: all captures so far end before it. -/
theorem enter (h : Fits r inside pos slots) (group : Nat) :
    Fits r (group :: inside) pos
      (slots.setIfInBounds (Regex.startSlot group) (some pos)) := by
  constructor
  · exact h.noted_le.set _
  · intro g other first last first' last' hg hother hunrelated hcaptured hcaptured'
    rw [captured_set_start (List.ne_of_not_mem_cons hg)] at hcaptured
    rw [captured_set_start (List.ne_of_not_mem_cons hother)] at hcaptured'
    exact h.apart (List.not_mem_of_not_mem_cons hg) (List.not_mem_of_not_mem_cons hother)
      hunrelated hcaptured hcaptured'
  · intro g other start first last hg hother hunrelated hstart hcaptured
    rw [captured_set_start (List.ne_of_not_mem_cons hother)] at hcaptured
    rcases eq_of_noted_set hstart with ⟨-, heq⟩ | ⟨hslot, hstart⟩
    · exact heq ▸ h.noted_le hcaptured.2
    · have hopen : g ≠ group := fun heq => hslot (heq ▸ rfl)
      exact h.before ((List.mem_cons.1 hg).resolve_left hopen)
        (List.not_mem_of_not_mem_cons hother) hunrelated hstart hcaptured

/-- A group is left: what unrelated groups captured lies before it, and the groups still open
enclose it. -/
theorem leave (h : Fits r (group :: inside) pos slots)
    (hencloses : ∀ outer ∈ inside, r.Encloses outer group) :
    Fits r inside pos (slots.setIfInBounds (Regex.startSlot group + 1) (some pos)) := by
  -- What an unrelated group captured lies before the start of the group that is left.
  have hbehind {other first last first' last' : Nat} (hother : other ∉ inside)
      (hunrelated : r.Unrelated group other)
      (hcaptured : Captured (slots.setIfInBounds (Regex.startSlot group + 1) (some pos)) group first
        last)
      (hcaptured' : Captured (slots.setIfInBounds (Regex.startSlot group + 1) (some pos)) other
        first' last') : last' ≤ first := by
    have hne : other ≠ group := Ne.symm hunrelated.1
    rw [captured_set_stop hne] at hcaptured'
    exact h.before List.mem_cons_self (List.not_mem_cons_of_ne_of_not_mem hne hother) hunrelated
      (noted_start_set_stop slots group group pos ▸ hcaptured.1) hcaptured'
  constructor
  · exact h.noted_le.set _
  · intro g other first last first' last' hg hother hunrelated hcaptured hcaptured'
    by_cases hgroup : g = group
    · subst hgroup
      exact .inr (hbehind hother hunrelated hcaptured hcaptured')
    · by_cases hgroup' : other = group
      · subst hgroup'
        exact .inl (hbehind hg hunrelated.symm hcaptured' hcaptured)
      · rw [captured_set_stop hgroup] at hcaptured
        rw [captured_set_stop hgroup'] at hcaptured'
        exact h.apart (List.not_mem_cons_of_ne_of_not_mem hgroup hg)
          (List.not_mem_cons_of_ne_of_not_mem hgroup' hother) hunrelated hcaptured hcaptured'
  · intro g other start first last hg hother hunrelated hstart hcaptured
    have hne : other ≠ group := fun heq => hunrelated.2.1 (heq ▸ hencloses g hg)
    rw [noted_start_set_stop] at hstart
    rw [captured_set_stop hne] at hcaptured
    exact h.before (List.mem_cons_of_mem _ hg) (List.not_mem_cons_of_ne_of_not_mem hne hother)
      hunrelated hstart hcaptured

theorem kept (r : Regex) : Kept r (Fits r) where
  initial := initial r
  advance h hle := h.advance hle
  enter h _ := h.enter _
  leave h hencloses := h.leave hencloses

end Fits

end PatternScan.Pattern
