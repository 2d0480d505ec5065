import PatternScan.Pattern.Program

/-!
# Groups that are open

The code of a group lies between the instruction that notes its start and the one that notes its
end. Reading a program from its beginning, one can therefore tell at each place which groups are
open there, innermost first. Wherever an instruction leads, the same groups are open as reading
the program tells.
-/

namespace PatternScan.Pattern

/-! ## Groups inside groups -/

/-- The group `inner` is captured inside the group `outer`. -/
def Regex.Encloses : Regex → Nat → Nat → Prop
  | empty, _, _ | chars _, _, _ | anchor _, _, _ => False
  | cat a b, outer, inner | alt a b, outer, inner =>
      a.Encloses outer inner ∨ b.Encloses outer inner
  | repetition body _ _ _, outer, inner => body.Encloses outer inner
  | capture group body, outer, inner =>
      (outer = group ∧ inner ∈ body.groups) ∨ body.Encloses outer inner

/-! ## Reading a program -/

/-- The groups open after an instruction. -/
def Instruction.track (current : List Nat) : Instruction → List Nat
  | save slot _ => if slot % 2 = 0 then slot / 2 :: current else current.tail
  | _ => current

/-- The groups open after instructions. -/
def openAfter (current : List Nat) (code : List Instruction) : List Nat :=
  code.foldl Instruction.track current

theorem openAfter_cons (current : List Nat) (i : Instruction) (rest : List Instruction) :
    openAfter current (i :: rest) = openAfter (i.track current) rest := rfl

theorem openAfter_append (current : List Nat) (first second : List Instruction) :
    openAfter current (first ++ second) = openAfter (openAfter current first) second :=
  List.foldl_append

theorem track_startSlot (current : List Nat) (group next : Nat) :
    Instruction.track current (.save (Regex.startSlot group) next) = group :: current := by
  rw [Instruction.track, Regex.startSlot, if_pos (Nat.mul_mod_right 2 group),
    Nat.mul_div_cancel_left group (by decide)]

theorem track_stopSlot (group : Nat) (current : List Nat) (next : Nat) :
    Instruction.track (group :: current) (.save (Regex.startSlot group + 1) next) = current := by
  rw [Instruction.track, Regex.startSlot, if_neg (by omega), List.tail_cons]

theorem track_choose (current : List Nat) (greedy : Bool) (go leave : Nat) :
    Instruction.track current (choose greedy go leave) = current := by
  cases greedy <;> rfl

/-- From the place `pc` on, where `current` are open, the groups open at each place are those that
reading the code tells. -/
def Tracks (opens : Nat → List Nat) : Nat → List Nat → List Instruction → Prop
  | pc, current, [] => opens pc = current
  | pc, current, i :: rest => opens pc = current ∧ Tracks opens (pc + 1) (i.track current) rest

variable {opens : Nat → List Nat} {pc : Nat} {current : List Nat} {first second : List Instruction}

theorem Tracks.head {code : List Instruction} (h : Tracks opens pc current code) :
    opens pc = current := by
  cases code with
  | nil => exact h
  | cons i rest => exact h.1

theorem tracks_append : Tracks opens pc current (first ++ second) ↔
    Tracks opens pc current first ∧
      Tracks opens (pc + first.length) (openAfter current first) second := by
  induction first generalizing pc current with
  | nil => exact ⟨fun h => ⟨h.head, h⟩, And.right⟩
  | cons i rest ih =>
      rw [List.cons_append, Tracks, Tracks, ih, List.length_cons, Nat.add_right_comm pc,
        Nat.add_assoc pc, and_assoc]
      rfl

/-- Any program is tracked by the groups open after its first instructions. -/
theorem tracks_take (before code : List Instruction) :
    Tracks (fun pc => openAfter [] ((before ++ code).take pc)) before.length (openAfter [] before)
      code := by
  induction code generalizing before with
  | nil => simp [Tracks]
  | cons i rest ih =>
      refine ⟨by simp, ?_⟩
      have hrest := ih (before ++ [i])
      rw [List.append_assoc, List.singleton_append, List.length_append, openAfter_append] at hrest
      exact hrest

/-! ## Where instructions lead -/

/-- Where the instruction at a place leads, the groups are open that are open after it. A group is
opened and closed only inside groups that enclose it, and nothing is accepted while a group is
open. -/
def Instruction.Keeps (encloses : Nat → Nat → Prop) (opens : Nat → List Nat) (pc : Nat) :
    Instruction → Prop
  | chars _ next | anchor _ next | jump next => opens next = opens pc
  | split preferred other => opens preferred = opens pc ∧ opens other = opens pc
  | save slot next =>
      (∃ group, slot = Regex.startSlot group ∧ opens next = group :: opens pc ∧
        ∀ outer ∈ opens pc, encloses outer group) ∨
      ∃ group, slot = Regex.startSlot group + 1 ∧ opens pc = group :: opens next ∧
        ∀ outer ∈ opens next, encloses outer group
  | accept => opens pc = []

/-- Every instruction of a code placed at `pc` leads where it should. -/
def CodeKeeps (encloses : Nat → Nat → Prop) (opens : Nat → List Nat) : Nat → List Instruction → Prop
  | _, [] => True
  | pc, i :: rest => i.Keeps encloses opens pc ∧ CodeKeeps encloses opens (pc + 1) rest

variable {encloses : Nat → Nat → Prop}

theorem codeKeeps_append : CodeKeeps encloses opens pc (first ++ second) ↔
    CodeKeeps encloses opens pc first ∧
      CodeKeeps encloses opens (pc + first.length) second := by
  induction first generalizing pc with
  | nil => simp [CodeKeeps]
  | cons i rest ih =>
      rw [List.cons_append, CodeKeeps, CodeKeeps, ih, List.length_cons, Nat.add_right_comm pc,
        Nat.add_assoc pc, and_assoc]

theorem CodeKeeps.getElem? {code : List Instruction} (h : CodeKeeps encloses opens pc code)
    {i : Nat} {instruction : Instruction} (hi : code[i]? = some instruction) :
    instruction.Keeps encloses opens (pc + i) := by
  induction code generalizing pc i with
  | nil => cases hi
  | cons first rest ih =>
      cases i with
      | zero => exact Option.some.inj hi ▸ h.1
      | succ i =>
          have hrest := ih h.2 hi
          rwa [Nat.add_assoc, Nat.add_comm 1] at hrest

theorem keeps_choose {greedy : Bool} {go leave : Nat} (hgo : opens go = opens pc)
    (hleave : opens leave = opens pc) : (choose greedy go leave).Keeps encloses opens pc := by
  cases greedy
  · exact ⟨hleave, hgo⟩
  · exact ⟨hgo, hleave⟩

/-! ## Fragments -/

/-- A fragment of so many instructions closes the groups that it opens and no other ones, and leads
where it should if entered with groups that fulfil `P`. -/
structure Fragment.Sound (encloses : Nat → Nat → Prop) (P : List Nat → Prop) (code : Fragment)
    (size : Nat) : Prop where
  length_eq : ∀ start next, (code start next).length = size
  balanced : ∀ start next current, openAfter current (code start next) = current
  keeps : ∀ {opens : Nat → List Nat} {start next : Nat} {current : List Nat}, P current →
    Tracks opens start current (code start next) → opens next = current →
    CodeKeeps encloses opens start (code start next)

namespace Fragment.Sound

variable {P : List Nat → Prop} {code other : Fragment} {size otherSize : Nat}

theorem mono {Q : List Nat → Prop} (h : Fragment.Sound encloses P code size)
    (himp : ∀ current, Q current → P current) : Fragment.Sound encloses Q code size :=
  { h with keeps := fun hQ => h.keeps (himp _ hQ) }

theorem single {instruction : Nat → Instruction} (htrack : ∀ next current,
      (instruction next).track current = current)
    (hkeeps : ∀ {opens : Nat → List Nat} {pc next : Nat}, opens next = opens pc →
      (instruction next).Keeps encloses opens pc) :
    Fragment.Sound encloses P (fun _ next => [instruction next]) 1 where
  length_eq _ _ := rfl
  balanced _ next current := htrack next current
  keeps _ htracks hnext := ⟨hkeeps (hnext.trans htracks.1.symm), trivial⟩

/-- One fragment and then another. -/
theorem seq (h : Fragment.Sound encloses P code size)
    (hother : Fragment.Sound encloses P other otherSize) :
    Fragment.Sound encloses P
      (fun start next => code start (start + size) ++ other (start + size) next)
      (size + otherSize) where
  length_eq start next := by rw [List.length_append, h.length_eq, hother.length_eq]
  balanced start next current := by rw [openAfter_append, h.balanced, hother.balanced]
  keeps hP htracks hnext := by
    rw [tracks_append, h.length_eq, h.balanced] at htracks
    obtain ⟨hfirst, hsecond⟩ := htracks
    rw [codeKeeps_append, h.length_eq]
    exact ⟨h.keeps hP hfirst hsecond.head, hother.keeps hP hsecond hnext⟩

/-- A choice between a fragment and what comes after it. -/
theorem optional (h : Fragment.Sound encloses P code size) (greedy : Bool) :
    Fragment.Sound encloses P
      (fun start next => choose greedy (start + 1) next :: code (start + 1) next) (size + 1) where
  length_eq start next := by rw [List.length_cons, h.length_eq]
  balanced start next current := by
    rw [openAfter_cons, track_choose, h.balanced]
  keeps hP htracks hnext := by
    obtain ⟨hpc, htracks⟩ := htracks
    rw [track_choose] at htracks
    exact ⟨keeps_choose (htracks.head.trans hpc.symm) (hnext.trans hpc.symm),
      h.keeps hP htracks hnext⟩

/-- A fragment and a choice to go back to its start. -/
theorem oneOrMore (h : Fragment.Sound encloses P code size) (greedy : Bool) :
    Fragment.Sound encloses P (Pattern.oneOrMore greedy code size) (size + 1) where
  length_eq start next := by rw [Pattern.oneOrMore, List.length_append, h.length_eq]; rfl
  balanced start next current := by
    rw [Pattern.oneOrMore, openAfter_append, h.balanced, openAfter_cons, track_choose]
    rfl
  keeps hP htracks hnext := by
    rw [Pattern.oneOrMore, tracks_append, h.length_eq, h.balanced] at htracks
    obtain ⟨hfirst, hchoice⟩ := htracks
    rw [Pattern.oneOrMore, codeKeeps_append, h.length_eq]
    refine ⟨h.keeps hP hfirst hchoice.head, keeps_choose ?_ ?_, trivial⟩
    · exact hfirst.head.trans hchoice.head.symm
    · exact hnext.trans hchoice.head.symm

/-- Either of two fragments. -/
theorem alt (h : Fragment.Sound encloses P code size)
    (hother : Fragment.Sound encloses P other otherSize) :
    Fragment.Sound encloses P
      (fun start next => .split (start + 1) (start + 1 + size) ::
        code (start + 1) next ++ other (start + 1 + size) next)
      (size + otherSize + 1) where
  length_eq start next := by
    rw [List.cons_append, List.length_cons, List.length_append, h.length_eq, hother.length_eq]
  balanced start next current := by
    rw [openAfter_append, hother.balanced, openAfter_cons, h.balanced]
    rfl
  keeps hP htracks hnext := by
    rw [List.cons_append] at htracks ⊢
    obtain ⟨hpc, htracks⟩ := htracks
    rw [tracks_append, h.length_eq, h.balanced] at htracks
    obtain ⟨hfirst, hsecond⟩ := htracks
    refine ⟨⟨hfirst.head.trans hpc.symm, hsecond.head.trans hpc.symm⟩, ?_⟩
    rw [codeKeeps_append, h.length_eq]
    exact ⟨h.keeps hP hfirst hnext, hother.keeps hP hsecond hnext⟩

/-- A fragment between the notes of a group. -/
theorem capture {Q : List Nat → Prop} {group : Nat} (h : Fragment.Sound encloses Q code size)
    (hinside : ∀ current, P current → Q (group :: current))
    (hencloses : ∀ current, P current → ∀ outer ∈ current, encloses outer group) :
    Fragment.Sound encloses P
      (fun start next => .save (Regex.startSlot group) (start + 1) ::
        code (start + 1) (start + 1 + size) ++ [.save (Regex.startSlot group + 1) next])
      (size + 2) where
  length_eq start next := by
    rw [List.cons_append, List.length_cons, List.length_append, h.length_eq, List.length_singleton]
  balanced start next current := by
    rw [List.cons_append, openAfter_cons, track_startSlot, openAfter_append, h.balanced,
      openAfter_cons, track_stopSlot]
    rfl
  keeps {opens start next current} hP htracks hnext := by
    rw [List.cons_append] at htracks ⊢
    obtain ⟨hpc, htracks⟩ := htracks
    rw [track_startSlot, tracks_append, h.length_eq, h.balanced] at htracks
    obtain ⟨hbody, hstop⟩ := htracks
    refine ⟨.inl ⟨group, rfl, ?_, hpc ▸ hencloses current hP⟩, ?_⟩
    · rw [hbody.head, hpc]
    · rw [codeKeeps_append, h.length_eq]
      refine ⟨h.keeps (hinside current hP) hbody hstop.head, .inr ⟨group, rfl, ?_, ?_⟩, trivial⟩
      · rw [hstop.head, hnext]
      · rw [hnext]
        exact hencloses current hP

theorem nil : Fragment.Sound encloses P (fun _ _ => []) 0 where
  length_eq _ _ := rfl
  balanced _ _ _ := rfl
  keeps _ _ _ := trivial

end Fragment.Sound

/-! ## Repetitions -/

theorem copies_one (code : Fragment) (size : Nat) : copies code size 1 = code := by
  funext start next
  simp [copies, afterRound, List.range_succ]

theorem copies_succ_succ (code : Fragment) (size count : Nat) :
    copies code size (count + 2) = fun start next =>
      code start (start + size) ++ copies code size (count + 1) (start + size) next := by
  funext start next
  rw [copies, List.range_succ_eq_map, List.flatMap_cons, List.flatMap_map, copies]
  simp [afterRound, Nat.add_mul, Nat.add_assoc, Nat.add_comm size]

theorem optionalRounds_one (greedy : Bool) (code : Fragment) (size : Nat) :
    optionalRounds greedy code size 1 =
      fun start next => choose greedy (start + 1) next :: code (start + 1) next := by
  funext start next
  simp [optionalRounds, afterRound, List.range_succ]

theorem optionalRounds_succ_succ (greedy : Bool) (code : Fragment) (size count : Nat) :
    optionalRounds greedy code size (count + 2) = fun start next =>
      choose greedy (start + 1) next :: (code (start + 1) (start + 1 + size) ++
        optionalRounds greedy code size (count + 1) (start + 1 + size) next) := by
  funext start next
  have hplace (index : Nat) :
      start + (index + 1) * (size + 1) = start + 1 + size + index * (size + 1) := by
    rw [Nat.add_mul]
    omega
  rw [optionalRounds, List.range_succ_eq_map, List.flatMap_cons, List.flatMap_map, optionalRounds]
  simp only [Nat.succ_eq_add_one, hplace, Nat.zero_mul, Nat.add_zero, afterRound,
    Nat.add_right_cancel_iff]
  simp [Nat.add_assoc, Nat.add_comm size]

section Repetition

variable {P : List Nat → Prop} {code : Fragment} {size : Nat}

theorem Fragment.Sound.copies (h : Fragment.Sound encloses P code size) (count : Nat) :
    Fragment.Sound encloses P (Pattern.copies code size count) (size * count) := by
  match count with
  | 0 => exact .nil
  | 1 => rwa [copies_one, Nat.mul_one]
  | count + 2 =>
      have hsize : size * (count + 2) = size + size * (count + 1) := by
        rw [Nat.mul_succ, Nat.add_comm]
      rw [copies_succ_succ, hsize]
      exact h.seq (h.copies (count + 1))

theorem Fragment.Sound.optionalRounds (h : Fragment.Sound encloses P code size) (greedy : Bool)
    (count : Nat) :
    Fragment.Sound encloses P (Pattern.optionalRounds greedy code size count)
      ((size + 1) * count) := by
  match count with
  | 0 => exact .nil
  | 1 =>
      rw [optionalRounds_one, Nat.mul_one]
      exact h.optional greedy
  | count + 2 =>
      have hsize : (size + 1) * (count + 2) = size + (size + 1) * (count + 1) + 1 := by
        rw [Nat.mul_succ]
        omega
      rw [optionalRounds_succ_succ, hsize]
      exact (h.seq (h.optionalRounds greedy (count + 1))).optional greedy

theorem Fragment.Sound.rounds (h : Fragment.Sound encloses P code size) (greedy : Bool)
    (least : Nat) (most : Option Nat) :
    Fragment.Sound encloses P (Pattern.rounds greedy code size least most)
      (Regex.roundsSize size least most) := by
  cases most with
  | none =>
      cases least with
      | zero => exact (h.oneOrMore greedy).optional greedy
      | succ fixed =>
          have hsize : Regex.roundsSize size (fixed + 1) none = size * fixed + (size + 1) := by
            rw [Regex.roundsSize, if_neg (Nat.succ_ne_zero fixed), Nat.mul_succ, Nat.add_assoc]
          rw [hsize]
          exact (h.copies fixed).seq (h.oneOrMore greedy)
  | some most =>
      by_cases hfixed : most - least = 0
      · by_cases hleast : least = 0
        · have hrounds : Pattern.rounds greedy code size least (some most) =
              fun _ next => [.jump next] := by
            funext start next
            simp only [Pattern.rounds, if_pos hfixed, if_pos hleast]
          rw [hrounds, Regex.roundsSize, if_pos ⟨hfixed, hleast⟩]
          exact .single (fun _ _ => rfl) id
        · have hrounds : Pattern.rounds greedy code size least (some most) =
              Pattern.copies code size least := by
            funext start next
            simp only [Pattern.rounds, if_pos hfixed, if_neg hleast]
          rw [hrounds, Regex.roundsSize, if_neg (fun hboth => hleast hboth.2), hfixed,
            Nat.mul_zero, Nat.add_zero]
          exact h.copies least
      · have hrounds : Pattern.rounds greedy code size least (some most) = fun start next =>
            Pattern.copies code size least start (start + size * least) ++
              Pattern.optionalRounds greedy code size (most - least) (start + size * least)
                next := by
          funext start next
          simp only [Pattern.rounds, if_neg hfixed]
        rw [hrounds, Regex.roundsSize, if_neg (fun hboth => hfixed hboth.1)]
        exact (h.copies least).seq (h.optionalRounds greedy (most - least))

end Repetition

/-! ## Expressions -/

namespace Regex

/-- The code of an expression leads where it should, if entered inside groups that enclose all of
its groups. -/
theorem sound_code (r : Regex) (henclosed : ∀ outer inner, r.Encloses outer inner →
      encloses outer inner) :
    Fragment.Sound encloses
      (fun current => ∀ outer ∈ current, ∀ inner ∈ r.groups, encloses outer inner) r.code
      r.codeSize := by
  induction r with
  | empty => exact .single (fun _ _ => rfl) id
  | chars set => exact .single (fun _ _ => rfl) id
  | anchor condition => exact .single (fun _ _ => rfl) id
  | cat a b iha ihb =>
      have ha := iha fun outer inner h => henclosed outer inner (.inl h)
      have hb := ihb fun outer inner h => henclosed outer inner (.inr h)
      exact (ha.mono fun current h outer houter inner hinner =>
          h outer houter inner (List.mem_append_left _ hinner)).seq
        (hb.mono fun current h outer houter inner hinner =>
          h outer houter inner (List.mem_append_right _ hinner))
  | alt a b iha ihb =>
      have ha := iha fun outer inner h => henclosed outer inner (.inl h)
      have hb := ihb fun outer inner h => henclosed outer inner (.inr h)
      exact (ha.mono fun current h outer houter inner hinner =>
          h outer houter inner (List.mem_append_left _ hinner)).alt
        (hb.mono fun current h outer houter inner hinner =>
          h outer houter inner (List.mem_append_right _ hinner))
  | repetition body least most greedy ih => exact (ih henclosed).rounds greedy least most
  | capture group body ih =>
      refine (ih fun outer inner h => henclosed outer inner (.inr h)).capture ?_ ?_
      · intro current h outer houter inner hinner
        rcases List.mem_cons.1 houter with rfl | houter
        · exact henclosed outer inner (.inl ⟨rfl, hinner⟩)
        · exact h outer houter inner (List.mem_cons_of_mem _ hinner)
      · exact fun current h outer houter => h outer houter group List.mem_cons_self

/-- The groups open at a place of the program of an expression. -/
def opensAt (r : Regex) (pc : Nat) : List Nat := openAfter [] (r.program.take pc)

/-- Every instruction of a program leads where it should. -/
theorem keeps_of_getElem? {r : Regex} {pc : Nat} {instruction : Instruction}
    (h : r.program[pc]? = some instruction) : instruction.Keeps r.Encloses r.opensAt pc := by
  have hcode := r.sound_code fun outer inner h => h
  have htracks : Tracks r.opensAt 0 [] r.program := tracks_take [] r.program
  have hkeeps : CodeKeeps r.Encloses r.opensAt 0 r.program := by
    rw [program, tracks_append, hcode.length_eq, hcode.balanced] at htracks
    obtain ⟨hbody, haccept⟩ := htracks
    have hend : r.opensAt r.codeSize = [] := by simpa using haccept.head
    rw [program, codeKeeps_append, hcode.length_eq]
    exact ⟨hcode.keeps (by simp) hbody hend, haccept.head, trivial⟩
  simpa using hkeeps.getElem? h

end Regex

end PatternScan.Pattern
