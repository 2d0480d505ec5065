import Mathlib.Data.List.Basic
import PatternScan.Script.Token

/-!
# Tokens of a composed name

A name is cut at its delimiters from the left. Two names joined by a delimiter are cut at that
delimiter, and the tokens are those of both, unless an earlier delimiter takes its first
underscore away: this happens just where the first name ends in the rest of a delimiter.
-/

namespace PatternScan.Script

open Text (lowerAscii)

/-- The characters are a delimiter, in any case. -/
def IsDelimiter (cs : List Char) : Prop := cs.map lowerAscii = delimiter

instance (cs : List Char) : Decidable (IsDelimiter cs) := inferInstanceAs (Decidable (_ = _))

/-- The characters end in a delimiter, in any case, but for its last underscore. -/
def EndsInAnd (cs : List Char) : Prop := delimiter.dropLast <:+ cs.map lowerAscii

instance (cs : List Char) : Decidable (EndsInAnd cs) := inferInstanceAs (Decidable (_ <:+ _))

variable {cs d : List Char} {c : Char}

theorem EndsInAnd.cons (h : EndsInAnd cs) : EndsInAnd (c :: cs) :=
  List.IsSuffix.trans h (List.suffix_cons _ _)

/-- A text starts with a lead if it does so without regard to case. -/
theorem isSome_stripLead? (lead cs : List Char) :
    (stripLead? lead cs).isSome = true ↔ lead.map lowerAscii <+: cs.map lowerAscii := by
  induction lead generalizing cs with
  | nil => simp [stripLead?]
  | cons l ls ih =>
      cases cs with
      | nil => simp [stripLead?]
      | cons c cs =>
          rw [stripLead?, List.map_cons, List.map_cons, List.cons_prefix_cons]
          by_cases h : lowerAscii l = lowerAscii c
          · rw [if_pos (beq_iff_eq.2 h), ih]
            simp [h]
          · rw [if_neg fun heq => h (beq_iff_eq.1 heq)]
            simp [h]

theorem startsDelimiter_iff :
    (stripLead? delimiter cs).isSome = true ↔ delimiter <+: cs.map lowerAscii :=
  isSome_stripLead? delimiter cs

/-- A delimiter begins in the first of two joined names only where one begins without the
other: one that went on into the second would overlap the delimiter between them, and it can
do so by an underscore only. -/
theorem startsDelimiter_append_iff (hd : IsDelimiter d) (hcs : ¬ EndsInAnd (c :: cs))
    (rest : List Char) :
    (stripLead? delimiter (c :: (cs ++ (d ++ rest)))).isSome = true ↔
      (stripLead? delimiter (c :: cs)).isSome = true := by
  rw [← List.cons_append, startsDelimiter_iff, startsDelimiter_iff, List.map_append,
    List.map_append, hd]
  rw [EndsInAnd] at hcs
  -- What decides is how many characters of the delimiter the first name has room for.
  match hlower : (c :: cs).map lowerAscii with
  | [] => cases hlower
  | [x] => simp [delimiter]
  | [x, y] => simp [delimiter]
  | [x, y, z] => simp [delimiter]
  | [x, y, z, w] =>
      rw [hlower] at hcs
      simp only [delimiter, List.dropLast_cons_cons, List.dropLast_singleton] at hcs
      simp only [delimiter, List.cons_append, List.nil_append, List.cons_prefix_cons,
        List.nil_prefix, and_true]
      constructor
      · rintro ⟨rfl, rfl, rfl, rfl⟩
        exact absurd (List.suffix_refl _) hcs
      · simp
  | x :: y :: z :: w :: v :: more => simp [delimiter]

/-- The rest of a delimiter that was met is passed over. -/
theorem splitFrom_length (piece passed rest : List Char) :
    splitFrom piece passed.length (passed ++ rest) = splitFrom piece 0 rest := by
  induction passed with
  | nil => rfl
  | cons c passed ih => exact ih

theorem splitFrom_delimiter (piece : List Char) (hd : IsDelimiter d) (rest : List Char) :
    splitFrom piece 0 (d ++ rest) = piece.reverse :: splitFrom [] 0 rest := by
  have hlength : d.length = delimiter.length := by
    rw [← hd, List.length_map]
  cases d with
  | nil => cases hlength
  | cons c passed =>
      have hstarts : (stripLead? delimiter (c :: (passed ++ rest))).isSome = true := by
        rw [startsDelimiter_iff, ← List.cons_append, List.map_append, hd]
        exact List.prefix_append _ _
      have hpassed : delimiter.length - 1 = passed.length := by
        rw [← hlength, List.length_cons, Nat.add_sub_cancel]
      rw [List.cons_append, splitFrom, if_pos hstarts, hpassed, splitFrom_length]

/-- Pieces are cut from the first of two joined names as from that name alone. -/
theorem splitFrom_append (hd : IsDelimiter d) (hcs : ¬ EndsInAnd cs) (rest piece : List Char)
    {skip : Nat} (hskip : skip ≤ cs.length) :
    splitFrom piece skip (cs ++ (d ++ rest)) =
      splitFrom piece skip cs ++ splitFrom [] 0 rest := by
  induction cs generalizing piece skip with
  | nil =>
      obtain rfl : skip = 0 := Nat.le_zero.1 hskip
      exact splitFrom_delimiter piece hd rest
  | cons c cs ih =>
      have htail : ¬ EndsInAnd cs := fun h => hcs h.cons
      cases skip with
      | succ skip => exact ih htail piece (Nat.le_of_succ_le_succ hskip)
      | zero =>
          rw [List.cons_append, splitFrom, splitFrom]
          by_cases hstarts : (stripLead? delimiter (c :: cs)).isSome = true
          · have hroom := (startsDelimiter_iff.1 hstarts).length_le
            rw [List.length_map, List.length_cons] at hroom
            rw [if_pos hstarts, if_pos ((startsDelimiter_append_iff hd hcs rest).2 hstarts),
              ih htail [] (by omega), List.cons_append]
          · rw [if_neg hstarts, if_neg (mt (startsDelimiter_append_iff hd hcs rest).1 hstarts),
              ih htail (c :: piece) (Nat.zero_le _)]

/-- The tokens of two names joined by a delimiter are those of both. -/
theorem tokens_append {a d b : String} (hd : IsDelimiter d.toList) (ha : ¬ EndsInAnd a.toList) :
    tokens (a ++ d ++ b) = tokens a ++ tokens b := by
  rw [tokens, String.toList_append, String.toList_append, List.append_assoc,
    splitFrom_append hd ha b.toList [] (Nat.zero_le _), List.filter_append]
  rfl

/-- The ordering index of two joined names is that of the first one, if it gives one. -/
theorem orderingIndex?_append {a d b : String} (hd : IsDelimiter d.toList)
    (ha : ¬ EndsInAnd a.toList) :
    orderingIndex? (a ++ d ++ b) = (orderingIndex? a).or (orderingIndex? b) := by
  rw [orderingIndex?, tokens_append hd ha, List.findSome?_append]
  rfl

/-- An ordering index is a number of 32 bits. -/
theorem le_of_orderingIndex? {name : String} {index : Nat} (h : orderingIndex? name = some index) :
    index ≤ Number.maxNat32 := by
  obtain ⟨token, -, hread⟩ := List.exists_of_findSome?_eq_some h
  obtain ⟨rest, -, hindex⟩ := Option.bind_eq_some_iff.1 hread
  exact of_decide_eq_true (Option.filter_eq_some_iff.1 hindex).2

end PatternScan.Script
