import PatternScan.Proofs.Match.Nesting
import PatternScan.Proofs.Pattern.GroupNumbers
import PatternScan.Proofs.Text.Boundary

/-!
# Captures that never cross

The groups open at a place of a program stand inside one another, and the later a group was entered,
the later it starts. What a closed group captured lies before the start of an open one or behind it,
so once this is closed too, the two captures are apart or one holds the other. It takes groups that
have different numbers: no group is then entered inside itself.
-/

namespace PatternScan.Pattern

variable {r : Regex} {slots : Slots} {inside : List Nat} {group pos : Nat}

/-! ## Groups inside themselves -/

/-- No group stands inside itself if no two of them have one number. -/
theorem Regex.not_encloses_self (hnodup : r.groups.Nodup) (group : Nat) :
    ¬ r.Encloses group group := by
  induction r with
  | empty | chars _ | anchor _ => exact id
  | cat a b iha ihb | alt a b iha ihb =>
      obtain ⟨ha, hb, -⟩ := List.nodup_append.1 hnodup
      exact not_or.2 ⟨iha ha, ihb hb⟩
  | repetition body least most greedy ih => exact ih hnodup
  | capture g body ih =>
      obtain ⟨hfresh, hbody⟩ := List.nodup_cons.1 hnodup
      rintro (⟨rfl, h⟩ | h)
      · exact hfresh h
      · exact ih hbody h

/-! ## What is noted nests -/

/-- What may have been noted with the text taken up to a position while groups are open, innermost
first: nothing beyond, the starts of open groups in their order, and what other groups captured
before or behind each of these, and apart from each other or one inside the other. -/
structure Nests (inside : List Nat) (pos : Nat) (slots : Slots) : Prop where
  noted_le : NotedUpTo pos slots
  ordered : inside.Pairwise fun inner outer => ∀ {first first'},
    noted slots (Regex.startSlot outer) = some first →
    noted slots (Regex.startSlot inner) = some first' → first ≤ first'
  beside : ∀ {group other start first last}, group ∈ inside → other ∉ inside →
    noted slots (Regex.startSlot group) = some start → Captured slots other first last →
    last ≤ start ∨ start ≤ first
  nested : ∀ {group other first last first' last'}, group ∉ inside → other ∉ inside →
    Captured slots group first last → Captured slots other first' last' →
    (last ≤ first' ∨ last' ≤ first) ∨ (first ≤ first' ∧ last' ≤ last) ∨
      (first' ≤ first ∧ last ≤ last')

namespace Nests

theorem initial (count pos : Nat) : Nests [] pos (Array.replicate count none) where
  noted_le := notedUpTo_replicate pos count
  ordered := .nil
  beside h := by cases h
  nested _ _ h _ := by rw [Captured, noted_replicate] at h; cases h.1

theorem advance (h : Nests inside pos slots) {pos' : Nat} (hle : pos ≤ pos') :
    Nests inside pos' slots :=
  { h with noted_le := h.noted_le.mono hle }

/-- A group that is not open is entered: all that was captured so far ends before it. -/
theorem enter (h : Nests inside pos slots) (hclosed : group ∉ inside) :
    Nests (group :: inside) pos (slots.setIfInBounds (Regex.startSlot group) (some pos)) := by
  have hkept {other : Nat} (hne : other ≠ group) :
      noted (slots.setIfInBounds (Regex.startSlot group) (some pos)) (Regex.startSlot other) =
        noted slots (Regex.startSlot other) :=
    noted_set_of_ne (by simp only [Regex.startSlot]; omega)
  constructor
  · exact h.noted_le.set _
  · refine List.pairwise_cons.2 ⟨fun outer houter first first' hfirst hfirst' => ?_, ?_⟩
    · rw [hkept (fun heq => hclosed (heq ▸ houter))] at hfirst
      rcases eq_of_noted_set hfirst' with ⟨-, rfl⟩ | ⟨hne, -⟩
      · exact h.noted_le hfirst
      · exact absurd rfl hne
    · refine h.ordered.imp_of_mem fun {inner outer} hinner houter hle => ?_
      rw [hkept (fun heq => hclosed (heq ▸ hinner)), hkept (fun heq => hclosed (heq ▸ houter))]
      exact hle
  · intro g other start first last hg hother hstart hcaptured
    rw [captured_set_start (List.ne_of_not_mem_cons hother)] at hcaptured
    rcases eq_of_noted_set hstart with ⟨-, rfl⟩ | ⟨hslot, hstart⟩
    · exact .inl (h.noted_le hcaptured.2)
    · have hne : g ≠ group := fun heq => hslot (heq ▸ rfl)
      exact h.beside ((List.mem_cons.1 hg).resolve_left hne) (List.not_mem_of_not_mem_cons hother)
        hstart hcaptured
  · intro g other first last first' last' hg hother hcaptured hcaptured'
    rw [captured_set_start (List.ne_of_not_mem_cons hg)] at hcaptured
    rw [captured_set_start (List.ne_of_not_mem_cons hother)] at hcaptured'
    exact h.nested (List.not_mem_of_not_mem_cons hg) (List.not_mem_of_not_mem_cons hother)
      hcaptured hcaptured'

/-- The innermost group is left: it holds what was captured behind its start, and starts behind the
groups that are still open. -/
theorem leave (h : Nests (group :: inside) pos slots) :
    Nests inside pos (slots.setIfInBounds (Regex.startSlot group + 1) (some pos)) := by
  obtain ⟨hinnermost, hordered⟩ := List.pairwise_cons.1 h.ordered
  -- The capture that ends here holds or follows each of the others.
  have hholds {other first last first' last' : Nat} (hother : other ∉ inside)
      (hne : other ≠ group)
      (hcaptured : Captured (slots.setIfInBounds (Regex.startSlot group + 1) (some pos)) group first
        last)
      (hcaptured' : Captured slots other first' last') :
      last' ≤ first ∨ (first ≤ first' ∧ last' ≤ last) := by
    obtain ⟨hfirst, hlast⟩ := hcaptured
    rw [noted_start_set_stop] at hfirst
    have hend : last = pos := by
      rcases eq_of_noted_set hlast with ⟨-, heq⟩ | ⟨hslot, -⟩
      · exact heq
      · exact absurd rfl hslot
    refine (h.beside List.mem_cons_self (List.not_mem_cons_of_ne_of_not_mem hne hother) hfirst
      hcaptured').imp_right fun hbehind => ⟨hbehind, ?_⟩
    exact hend ▸ h.noted_le hcaptured'.2
  constructor
  · exact h.noted_le.set _
  · refine hordered.imp fun {inner outer} hle => ?_
    rw [noted_start_set_stop, noted_start_set_stop]
    exact hle
  · intro g other start first last hg hother hstart hcaptured
    rw [noted_start_set_stop] at hstart
    by_cases hne : other = group
    · subst hne
      have hfirst := hcaptured.1
      rw [noted_start_set_stop] at hfirst
      exact .inr (hinnermost g hg hstart hfirst)
    · rw [captured_set_stop hne] at hcaptured
      exact h.beside (List.mem_cons_of_mem _ hg) (List.not_mem_cons_of_ne_of_not_mem hne hother)
        hstart hcaptured
  · intro g other first last first' last' hg hother hcaptured hcaptured'
    by_cases hgroup : g = group
    · by_cases hgroup' : other = group
      · -- One group: both captures are the same.
        subst hgroup hgroup'
        obtain rfl := Option.some.inj (hcaptured.1.symm.trans hcaptured'.1)
        obtain rfl := Option.some.inj (hcaptured.2.symm.trans hcaptured'.2)
        exact .inr (.inl ⟨Nat.le_refl _, Nat.le_refl _⟩)
      · subst hgroup
        rw [captured_set_stop hgroup'] at hcaptured'
        exact (hholds hother hgroup' hcaptured hcaptured').imp .inr .inl
    · rw [captured_set_stop hgroup] at hcaptured
      by_cases hgroup' : other = group
      · subst hgroup'
        exact (hholds hg hgroup hcaptured' hcaptured).imp .inl .inr
      · rw [captured_set_stop hgroup'] at hcaptured'
        exact h.nested (List.not_mem_cons_of_ne_of_not_mem hgroup hg)
          (List.not_mem_cons_of_ne_of_not_mem hgroup' hother) hcaptured hcaptured'

theorem kept (hnodup : r.groups.Nodup) : Kept r Nests where
  initial := initial
  advance h hle := h.advance hle
  enter h hencloses := h.enter fun hopen => r.not_encloses_self hnodup _ (hencloses _ hopen)
  leave h _ := h.leave

end Nests

end PatternScan.Pattern

namespace PatternScan

/-! ## Captures and matches -/

/-- The captures have no byte in common, or one of them holds the other. -/
def Capture.Nested (c d : Capture) : Prop :=
  c.Apart d ∨ (c.start ≤ d.start ∧ d.stop ≤ c.stop) ∨ (d.start ≤ c.start ∧ c.stop ≤ d.stop)

namespace CompiledPattern

open Pattern (Nests Regex Slots Subject)

variable {p : CompiledPattern} {source text : String} {ms : List Match} {c d : Capture}

/-- What groups captured is apart or nested in bytes as it is in characters. -/
theorem nested_of_captureOf {slots : Slots} {group other : Nat}
    (h : Nests [] (Subject.ofText text).size slots)
    (hc : captureOf (.ofText text) slots group = some c)
    (hd : captureOf (.ofText text) slots other = some d) : c.Nested d := by
  obtain ⟨first, last, hcaptured, rfl⟩ := exists_captured hc
  obtain ⟨first', last', hcaptured', rfl⟩ := exists_captured hd
  simp only [Capture.Nested, Capture.Apart, Subject.byteOffset_ofText (h.noted_le hcaptured.1),
    Subject.byteOffset_ofText (h.noted_le hcaptured.2),
    Subject.byteOffset_ofText (h.noted_le hcaptured'.1),
    Subject.byteOffset_ofText (h.noted_le hcaptured'.2)]
  have hmono {a b : Nat} := @Text.byteCount_take_mono text.toList a b
  exact (h.nested List.not_mem_nil List.not_mem_nil hcaptured hcaptured').imp (.imp hmono hmono)
    (.imp (.imp hmono hmono) (.imp hmono hmono))

theorem nestedOrDisjoint_of_nested (hc : c.start < c.stop) (hd : d.start < d.stop)
    (h : c.Nested d) :
    (⟨c.start, c.stop - 1⟩ : Span).NestedOrDisjoint ⟨d.start, d.stop - 1⟩ := by
  simp only [Span.NestedOrDisjoint, Span.contains_iff, Bool.eq_false_iff, ne_eq, Span.meets_iff]
  rcases h with (hbefore | hbehind) | hholds | hwithin
  · right; right; omega
  · right; right; omega
  · left; omega
  · right; left; omega

theorem toMatch?_eq_some {group : Nat} {m : Match} (h : toMatch? text group c = some m) :
    c.start < c.stop ∧ (Text.slice text c.start c.stop).isSome = true ∧
      m.span = ⟨c.start, c.stop - 1⟩ := by
  rw [toMatch?] at h
  split at h
  · next hlt =>
      obtain ⟨part, hpart, rfl⟩ := Option.map_eq_some_iff.1 h
      exact ⟨hlt, Option.isSome_of_mem hpart, rfl⟩
  · cases h

/-- Each match found is what a group captured. -/
theorem exists_capture_of_mem_find? {captures : List (Option Capture)}
    (hcaptures : p.captures? text = some captures) (hfind : p.find? text = some ms) {m : Match}
    (hm : m ∈ ms) :
    ∃ (i : Nat) (c : Capture), captures[i]? = some (some c) ∧ c.start < c.stop ∧
      (Text.slice text c.start c.stop).isSome = true ∧ m.span = ⟨c.start, c.stop - 1⟩ := by
  rw [find?, hcaptures, Option.map_some] at hfind
  obtain rfl := Option.some.inj hfind
  obtain ⟨⟨capture, i⟩, hmem, hmatch⟩ := List.mem_filterMap.1 (Match.mem_scanOrder.1 hm)
  obtain ⟨c, rfl, hmatch⟩ := Option.bind_eq_some_iff.1 hmatch
  exact ⟨i, c, List.mk_mem_zipIdx_iff_getElem?.1 hmem, toMatch?_eq_some hmatch⟩

/-- The matches of a pattern take whole characters of the text, and no two of them cross. -/
theorem nonCrossing_of_find? (hp : ofSource source = .ok p) (hfind : p.find? text = some ms) :
    (∀ m ∈ ms, m.span.WholeIn text) ∧ Match.NonCrossing ms := by
  obtain ⟨r, names, hexpression, rfl⟩ := exists_expression hp
  obtain ⟨captures, hcaptures, -⟩ := Option.map_eq_some_iff.1 hfind
  have hkept := Nests.kept (nodup_groups_of_expressionOf hexpression)
  obtain ⟨slots, hnests, hslots⟩ := exists_slots hkept rfl hcaptures
  constructor
  · intro m hm
    obtain ⟨i, c, -, hlt, hslice, hspan⟩ := exists_capture_of_mem_find? hcaptures hfind hm
    have hstop : c.stop - 1 + 1 = c.stop := Nat.sub_add_cancel (Nat.one_le_of_lt hlt)
    rw [Span.WholeIn.iff_slice, hspan, Span.stop, hstop]
    exact ⟨Nat.le_sub_one_of_lt hlt, hslice⟩
  · intro m hm n hn
    obtain ⟨i, c, hc, hlt, -, hspan⟩ := exists_capture_of_mem_find? hcaptures hfind hm
    obtain ⟨j, d, hd, hlt', -, hspan'⟩ := exists_capture_of_mem_find? hcaptures hfind hn
    rw [hspan, hspan']
    exact nestedOrDisjoint_of_nested hlt hlt' (nested_of_captureOf hnests (hslots hc) (hslots hd))

end CompiledPattern

end PatternScan
