import PatternScan.Highlight.Coverage

/-!
# What is left of a range

The parts of a range before, between and after its children are found by looking at
neighbouring children only. This is enough when the children form a staircase: both ends
grow from each child to the next, though neighbours may overlap. The parts then cover
exactly the offsets of the range that no child covers, and a child always lies between
two of them.
-/

namespace PatternScan.Coverage

/-- Both ends of the spans grow from each to the next. -/
def Staircase (spans : List Span) : Prop :=
  spans.Pairwise fun a b => a.first ≤ b.first ∧ a.last ≤ b.last

/-- The spans cover some offset each and end no later than `stop`. -/
def EndBy (stop : Nat) (spans : List Span) : Prop :=
  ∀ c ∈ spans, c.first ≤ c.last ∧ c.last ≤ stop

/-- The parts that are left from `start` to `stop`, found in one pass over the children. -/
def gapsFrom (start : Nat) : List Span → Nat → List Span
  | [], stop => if start ≤ stop then [⟨start, stop⟩] else []
  | c :: rest, stop =>
      (if start < c.first then [⟨start, c.first - 1⟩] else []) ++
        gapsFrom (c.last + 1) rest stop

theorem gapsBetween_append_eq (c : Span) (rest : List Span) (stop : Nat) :
    gapsBetween (c :: rest) ++
        (if ((c :: rest).getLast (List.cons_ne_nil c rest)).last < stop then
          [⟨((c :: rest).getLast (List.cons_ne_nil c rest)).last + 1, stop⟩] else []) =
      gapsFrom (c.last + 1) rest stop := by
  induction rest generalizing c with
  | nil =>
      simp only [gapsBetween, gapsFrom, List.getLast_singleton, List.nil_append]
      rfl
  | cons d rest ih =>
      rw [List.getLast_cons (List.cons_ne_nil d rest), gapsFrom, ← ih d]
      simp only [gapsBetween]
      split <;> simp

/-- One pass finds the parts of the range. -/
theorem gaps_eq_gapsFrom {range : Span} (hrange : range.first ≤ range.last)
    (children : List Span) :
    gaps range children = gapsFrom range.first children range.last := by
  cases children with
  | nil => simp [gaps, gapsFrom, hrange]
  | cons c rest =>
      rw [gapsFrom, ← gapsBetween_append_eq]
      simp only [gaps, List.head?_cons, List.getLast?_eq_some_getLast (List.cons_ne_nil c rest),
        List.append_assoc]

section Pass

variable {start stop : Nat} {children : List Span}

theorem mem_gapsFrom_bounds (hstairs : Staircase children) (hend : EndBy stop children)
    (hstart : ∀ c ∈ children, start ≤ c.last + 1) {g : Span}
    (hg : g ∈ gapsFrom start children stop) :
    start ≤ g.first ∧ g.first ≤ g.last ∧ g.last ≤ stop := by
  induction children generalizing start with
  | nil =>
      simp only [gapsFrom] at hg
      split at hg
      · next hle =>
          rw [List.mem_singleton.1 hg]
          exact ⟨Nat.le_refl start, hle, Nat.le_refl stop⟩
      · exact absurd hg List.not_mem_nil
  | cons c rest ih =>
      have hc := hend c List.mem_cons_self
      have hrest := List.pairwise_cons.1 hstairs
      rw [gapsFrom, List.mem_append] at hg
      rcases hg with hg | hg
      · split at hg
        · rw [List.mem_singleton.1 hg]
          simp only
          omega
        · exact absurd hg List.not_mem_nil
      · have hlater := ih hrest.2 (fun d hd => hend d (List.mem_cons_of_mem c hd))
          (fun d hd => Nat.succ_le_succ (hrest.1 d hd).2) hg
        have hfirst := hstart c List.mem_cons_self
        omega

theorem covers_gapsFrom_iff (hstairs : Staircase children) (hend : EndBy stop children)
    (hstart : ∀ c ∈ children, start ≤ c.last + 1) (o : Nat) :
    (∃ g ∈ gapsFrom start children stop, g.Covers o) ↔
      (start ≤ o ∧ o ≤ stop) ∧ ∀ c ∈ children, ¬ c.Covers o := by
  induction children generalizing start with
  | nil =>
      simp only [gapsFrom, List.not_mem_nil, false_implies, implies_true, and_true]
      constructor
      · rintro ⟨g, hg, ho⟩
        split at hg
        · rw [List.mem_singleton.1 hg] at ho
          exact ho
        · exact absurd hg List.not_mem_nil
      · intro ho
        rw [if_pos (Nat.le_trans ho.1 ho.2)]
        exact ⟨_, List.mem_singleton_self _, ho⟩
  | cons c rest ih =>
      have hc := hend c List.mem_cons_self
      have hfirst := hstart c List.mem_cons_self
      have hrest := List.pairwise_cons.1 hstairs
      have hlater := @ih (c.last + 1) hrest.2
        (fun d hd => hend d (List.mem_cons_of_mem c hd))
        (fun d hd => Nat.succ_le_succ (hrest.1 d hd).2)
      simp only [gapsFrom, List.mem_append, or_and_right, exists_or, hlater,
        List.mem_cons, forall_eq_or_imp]
      constructor
      · rintro (⟨g, hg, ho⟩ | ⟨ho, hnot⟩)
        · split at hg
          · rw [List.mem_singleton.1 hg] at ho
            simp only [Span.Covers] at ho ⊢
            refine ⟨by omega, by omega, fun d hd => ?_⟩
            have := (hrest.1 d hd).1
            omega
          · exact absurd hg List.not_mem_nil
        · simp only [Span.Covers]
          exact ⟨by omega, by omega, hnot⟩
      · rintro ⟨ho, hnotc, hnot⟩
        simp only [Span.Covers] at hnotc
        rcases Nat.lt_or_ge o c.first with hlt | hge
        · rw [if_pos (Nat.lt_of_le_of_lt ho.1 hlt)]
          refine Or.inl ⟨_, List.mem_singleton_self _, ?_⟩
          simp only [Span.Covers]
          omega
        · exact Or.inr ⟨by omega, hnot⟩

/-- Between two parts there is always a child. -/
theorem pairwise_gapsFrom (hstairs : Staircase children) (hend : EndBy stop children) :
    (gapsFrom start children stop).Pairwise fun a b => a.last + 1 < b.first := by
  induction children generalizing start with
  | nil =>
      simp only [gapsFrom]
      split
      · exact List.pairwise_singleton _ _
      · exact List.Pairwise.nil
  | cons c rest ih =>
      have hc := hend c List.mem_cons_self
      have hrest := List.pairwise_cons.1 hstairs
      have hendRest : EndBy stop rest := fun d hd => hend d (List.mem_cons_of_mem c hd)
      rw [gapsFrom, List.pairwise_append]
      refine ⟨?_, ih hrest.2 hendRest, ?_⟩
      · split
        · exact List.pairwise_singleton _ _
        · exact List.Pairwise.nil
      · intro a ha b hb
        have hbounds := mem_gapsFrom_bounds hrest.2 hendRest
          (fun d hd => Nat.succ_le_succ (hrest.1 d hd).2) hb
        split at ha
        · rw [List.mem_singleton.1 ha]
          simp only
          omega
        · exact absurd ha List.not_mem_nil

end Pass

section Range

variable {range : Span} {children : List Span}

/-- The children form a staircase inside the range. -/
structure FitsInto (range : Span) (children : List Span) : Prop where
  nonempty : range.first ≤ range.last
  stairs : Staircase children
  within : ∀ c ∈ children, range.first ≤ c.first ∧ c.first ≤ c.last ∧ c.last ≤ range.last

theorem FitsInto.endBy (h : FitsInto range children) : EndBy range.last children :=
  fun c hc => (h.within c hc).2

theorem FitsInto.start_le (h : FitsInto range children) :
    ∀ c ∈ children, range.first ≤ c.last + 1 := by
  intro c hc
  have := h.within c hc
  omega

theorem mem_gaps_bounds (h : FitsInto range children) {g : Span} (hg : g ∈ gaps range children) :
    range.first ≤ g.first ∧ g.first ≤ g.last ∧ g.last ≤ range.last := by
  rw [gaps_eq_gapsFrom h.nonempty] at hg
  exact mem_gapsFrom_bounds h.stairs h.endBy h.start_le hg

/-- The parts cover what the range covers and no child does. -/
theorem covers_gaps_iff (h : FitsInto range children) (o : Nat) :
    (∃ g ∈ gaps range children, g.Covers o) ↔
      range.Covers o ∧ ∀ c ∈ children, ¬ c.Covers o := by
  rw [gaps_eq_gapsFrom h.nonempty]
  exact covers_gapsFrom_iff h.stairs h.endBy h.start_le o

theorem pairwise_gaps (h : FitsInto range children) :
    (gaps range children).Pairwise fun a b => a.last + 1 < b.first := by
  rw [gaps_eq_gapsFrom h.nonempty]
  exact pairwise_gapsFrom h.stairs h.endBy

end Range

end PatternScan.Coverage
