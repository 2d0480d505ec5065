import Mathlib.Data.List.TakeDrop
import Mathlib.Data.List.TakeWhile
import Mathlib.Data.Nat.Digits.Defs
import PatternScan.Number.Decimal

/-!
# The notation of numbers

What a number looks like, said without a reader: a numeral is a run of digits, an integer is a
numeral with an optional sign, and a fractional number has at most one point and an optional
exponent besides, or is a word. Each reader accepts just the texts of its notation, an integer only
within the bounds.
-/

namespace PatternScan

namespace Text

/-- The characters are one of the words, in any case. -/
def Spells (words : List String) (cs : List Char) : Prop :=
  ∃ word ∈ words, sameAsciiText word.toList cs = true

theorem spells_iff {words : List String} {cs : List Char}
    (hsmall : ∀ word ∈ words, word.toList.map lowerAscii = word.toList) :
    Spells words cs ↔ ∃ word ∈ words, cs.map lowerAscii = word.toList := by
  refine exists_congr fun word => and_congr_right fun hword => ?_
  rw [sameAsciiText, hsmall word hword, beq_iff_eq, eq_comm]

end Text

namespace Number

open Text (Spells)

variable {cs ds rest : List Char} {c : Char} {value n d : Nat} {i : Int} {text : String}

/-! ## Numerals -/

/-- The characters are digits, at least one. -/
structure IsNumeral (cs : List Char) : Prop where
  ne_nil : cs ≠ []
  isDigit : ∀ c ∈ cs, c.isDigit = true

/-- The value of digits in the decimal system. -/
def numeralValue (cs : List Char) : Nat :=
  Nat.ofDigits 10 (cs.reverse.map fun c => c.toNat - '0'.toNat)

theorem digitValue?_eq (c : Char) :
    digitValue? c = if c.isDigit then some (c.toNat - '0'.toNat) else none := rfl

theorem digitValue?_eq_some_iff :
    digitValue? c = some d ↔ c.isDigit = true ∧ d = c.toNat - '0'.toNat := by
  rw [digitValue?_eq, Option.ite_none_right_eq_some, Option.some_inj, @eq_comm _ d]

theorem isSome_digitValue? (c : Char) : (digitValue? c).isSome = c.isDigit := by
  rw [digitValue?_eq]
  cases c.isDigit <;> rfl

theorem numeralValue_nil : numeralValue [] = 0 := rfl

theorem numeralValue_cons (c : Char) (cs : List Char) :
    numeralValue (c :: cs) = (c.toNat - '0'.toNat) * 10 ^ cs.length + numeralValue cs := by
  rw [numeralValue, List.reverse_cons, List.map_append, Nat.ofDigits_append, List.length_map,
    List.length_reverse, List.map_singleton, Nat.ofDigits_singleton, numeralValue]
  ring

theorem readDigitsFrom_eq_some_iff :
    readDigitsFrom value cs = some n ↔
      (∀ c ∈ cs, c.isDigit = true) ∧ n = value * 10 ^ cs.length + numeralValue cs := by
  induction cs generalizing value with
  | nil =>
      rw [readDigitsFrom, Option.some_inj, numeralValue_nil, List.length_nil, Nat.pow_zero,
        Nat.mul_one, Nat.add_zero]
      exact ⟨fun h => ⟨nofun, h.symm⟩, fun h => h.2.symm⟩
  | cons c cs ih =>
      have hvalue (d : Nat) : (value * 10 + d) * 10 ^ cs.length + numeralValue cs =
          value * 10 ^ (cs.length + 1) + (d * 10 ^ cs.length + numeralValue cs) := by ring
      simp only [readDigitsFrom, Option.bind_eq_some_iff, digitValue?_eq_some_iff, ih,
        List.forall_mem_cons, List.length_cons, numeralValue_cons, hvalue]
      constructor
      · rintro ⟨d, ⟨hc, rfl⟩, hcs, rfl⟩
        exact ⟨⟨hc, hcs⟩, rfl⟩
      · rintro ⟨⟨hc, hcs⟩, rfl⟩
        exact ⟨_, ⟨hc, rfl⟩, hcs, rfl⟩

/-- Digits are read just from numerals, and what is read is the value. -/
theorem readDigits?_eq_some_iff :
    readDigits? cs = some n ↔ IsNumeral cs ∧ n = numeralValue cs := by
  rw [readDigits?]
  split
  · next hempty =>
      obtain rfl := List.isEmpty_iff.1 hempty
      exact iff_of_false nofun fun h => h.1.ne_nil rfl
  · next hempty =>
      rw [readDigitsFrom_eq_some_iff, Nat.zero_mul, Nat.zero_add]
      have hne : cs ≠ [] := fun heq => hempty (List.isEmpty_iff.2 heq)
      exact and_congr_left fun _ => ⟨fun h => ⟨hne, h⟩, IsNumeral.isDigit⟩

theorem isSome_readDigits? : (readDigits? cs).isSome = true ↔ IsNumeral cs := by
  simp [Option.isSome_iff_exists, readDigits?_eq_some_iff]

theorem not_isNumeral_of_sign (hc : c = '+' ∨ c = '-') : ¬ IsNumeral (c :: cs) := by
  intro h
  have hdigit := h.isDigit c List.mem_cons_self
  rcases hc with rfl | rfl
  · exact absurd hdigit (by decide)
  · exact absurd hdigit (by decide)

/-! ## Integers -/

/-- The characters write an integer: a numeral, after a sign or without one. -/
inductive Writes : List Char → Int → Prop where
  | plain {digits : List Char} (h : IsNumeral digits) : Writes digits (numeralValue digits)
  | plus {digits : List Char} (h : IsNumeral digits) : Writes ('+' :: digits) (numeralValue digits)
  | minus {digits : List Char} (h : IsNumeral digits) :
      Writes ('-' :: digits) (-(numeralValue digits : Int))

theorem writes_plus_iff : Writes ('+' :: ds) i ↔ IsNumeral ds ∧ i = numeralValue ds := by
  constructor
  · intro h
    cases h with
    | plain h => exact absurd h (not_isNumeral_of_sign (.inl rfl))
    | plus h => exact ⟨h, rfl⟩
  · rintro ⟨h, rfl⟩
    exact .plus h

theorem writes_minus_iff : Writes ('-' :: ds) i ↔ IsNumeral ds ∧ i = -(numeralValue ds : Int) := by
  constructor
  · intro h
    cases h with
    | plain h => exact absurd h (not_isNumeral_of_sign (.inr rfl))
    | minus h => exact ⟨h, rfl⟩
  · rintro ⟨h, rfl⟩
    exact .minus h

theorem writes_plain_iff (hminus : ∀ ds, cs ≠ '-' :: ds) (hplus : ∀ ds, cs ≠ '+' :: ds) :
    Writes cs i ↔ IsNumeral cs ∧ i = numeralValue cs := by
  constructor
  · intro h
    cases h with
    | plain h => exact ⟨h, rfl⟩
    | plus h => exact absurd rfl (hplus _)
    | minus h => exact absurd rfl (hminus _)
  · rintro ⟨h, rfl⟩
    exact .plain h

theorem map_neg_lift (x : Option Nat) :
    Option.map (fun i : Int => -i) (do let n ← x; pure (n : Int)) =
      x.map fun n : Nat => -(n : Int) := by
  cases x <;> rfl

/-- An integer is read just from a text that writes it, within the bounds. -/
theorem readInt?_eq_some_iff {limit : Nat} :
    readInt? limit text = some i ↔
      Writes text.toList i ∧ -(limit : Int) - 1 ≤ i ∧ i ≤ limit := by
  have hread (cs : List Char) (bound : Nat) (f : Nat → Int) :
      ((readDigits? cs).filter (· ≤ bound)).map f = some i ↔
        IsNumeral cs ∧ numeralValue cs ≤ bound ∧ f (numeralValue cs) = i := by
    simp only [Option.map_eq_some_iff, Option.filter_eq_some_iff, readDigits?_eq_some_iff,
      decide_eq_true_iff]
    constructor
    · rintro ⟨n, ⟨⟨hcs, rfl⟩, hle⟩, hi⟩
      exact ⟨hcs, hle, hi⟩
    · rintro ⟨hcs, hle, hi⟩
      exact ⟨_, ⟨⟨hcs, rfl⟩, hle⟩, hi⟩
  rw [readInt?]
  split
  · next ds htext =>
      rw [map_neg_lift, hread, htext, writes_minus_iff, and_assoc]
      refine and_congr_right fun _ => ⟨?_, ?_⟩ <;> omega
  · next ds htext =>
      rw [hread, htext, writes_plus_iff, and_assoc, Int.ofNat_eq_natCast]
      refine and_congr_right fun _ => ⟨?_, ?_⟩ <;> omega
  · next hminus hplus =>
      rw [hread, writes_plain_iff hminus hplus, and_assoc, Int.ofNat_eq_natCast]
      refine and_congr_right fun _ => ⟨?_, ?_⟩ <;> omega

/-! ## Fractional numbers -/

/-- Nothing, or a mark and an integer. -/
inductive IsExponent : List Char → Prop where
  | absent : IsExponent []
  | given {mark : Char} {cs : List Char} {i : Int} (hmark : mark = 'e' ∨ mark = 'E')
      (h : Writes cs i) : IsExponent (mark :: cs)

/-- A numeral, which a point may divide or stand beside, and an exponent. -/
inductive IsDecimal : List Char → Prop where
  | whole {digits exponent : List Char} (hdigits : IsNumeral digits)
      (hexponent : IsExponent exponent) : IsDecimal (digits ++ exponent)
  | pointed {digits fraction exponent : List Char} (hdigits : IsNumeral (digits ++ fraction))
      (hexponent : IsExponent exponent) : IsDecimal (digits ++ '.' :: (fraction ++ exponent))

/-- The words for what is no decimal number. -/
def specialWords : List String := ["inf", "infinity", "nan"]

/-- A number without its sign. -/
def IsMagnitude (cs : List Char) : Prop := Spells specialWords cs ∨ IsDecimal cs

/-- The characters write a fractional number, after a sign or without one. -/
inductive WritesFloat : List Char → Prop where
  | plain {magnitude : List Char} (h : IsMagnitude magnitude) : WritesFloat magnitude
  | signed {sign : Char} {magnitude : List Char} (hsign : sign = '+' ∨ sign = '-')
      (h : IsMagnitude magnitude) : WritesFloat (sign :: magnitude)

theorem isSome_readExponent?_cons {mark : Char} :
    (readExponent? (mark :: cs)).isSome = true ↔
      (mark = 'e' ∨ mark = 'E') ∧ ∃ i, Writes cs i := by
  have hmark : (mark == 'e' || mark == 'E') = true ↔ mark = 'e' ∨ mark = 'E' := by simp
  simp only [readExponent?]
  split
  · next h =>
      rw [and_iff_right (hmark.1 h)]
      split
      · simp only [map_neg_lift, Option.isSome_map, isSome_readDigits?, writes_minus_iff,
          exists_and_left, exists_eq, and_true]
      · simp only [Option.isSome_map, isSome_readDigits?, writes_plus_iff, exists_and_left,
          exists_eq, and_true]
      · next hminus hplus =>
          simp only [Option.isSome_map, isSome_readDigits?, writes_plain_iff hminus hplus,
            exists_and_left, exists_eq, and_true]
  · next h => exact iff_of_false nofun fun hgiven => h (hmark.2 hgiven.1)

theorem isSome_readExponent? : (readExponent? cs).isSome = true ↔ IsExponent cs := by
  cases cs with
  | nil => exact iff_of_true rfl .absent
  | cons mark cs =>
      rw [isSome_readExponent?_cons]
      constructor
      · rintro ⟨hmark, i, h⟩
        exact .given hmark h
      · intro h
        cases h with
        | given hmark h => exact ⟨hmark, _, h⟩

theorem IsExponent.head (h : IsExponent cs) : ∀ c ∈ cs.head?, c = 'e' ∨ c = 'E' := by
  cases h with
  | absent => nofun
  | given hmark _ =>
      rintro c ⟨⟩
      exact hmark

theorem IsExponent.head_not_isDigit (h : IsExponent cs) : ∀ c ∈ cs.head?, c.isDigit = false := by
  intro c hc
  rcases h.head c hc with rfl | rfl <;> rfl

theorem spanDigits_eq (cs : List Char) :
    spanDigits cs = (cs.takeWhile Char.isDigit, cs.dropWhile Char.isDigit) := by
  rw [spanDigits, List.span_eq_takeWhile_dropWhile]
  simp only [isSome_digitValue?]

theorem spanDigits_append (hcs : ∀ c ∈ cs, c.isDigit = true)
    (hrest : ∀ c ∈ rest.head?, c.isDigit = false) : spanDigits (cs ++ rest) = (cs, rest) := by
  have htake : rest.takeWhile Char.isDigit = [] ∧ rest.dropWhile Char.isDigit = rest := by
    cases rest with
    | nil => exact ⟨rfl, rfl⟩
    | cons c rest =>
        have hc := hrest c rfl
        exact ⟨by rw [List.takeWhile_cons, hc]; rfl, by rw [List.dropWhile_cons, hc]; rfl⟩
  rw [spanDigits_eq, List.takeWhile_append_of_pos hcs, List.dropWhile_append_of_pos hcs, htake.1,
    htake.2, List.append_nil]

theorem isSome_readParts (f : Nat → Int → Decimal) :
    ((readDigits? cs).bind fun n => (readExponent? rest).map (f n)).isSome = true ↔
      IsNumeral cs ∧ IsExponent rest := by
  rw [← isSome_readDigits?, ← isSome_readExponent?]
  cases readDigits? cs <;> simp

/-- Digits without a point: what follows them can only be the exponent. -/
theorem isSome_readDecimal?_whole (hcs : ∀ c ∈ cs, c.isDigit = true)
    (hrest : ∀ c ∈ rest.head?, c.isDigit = false) (hpoint : ∀ ds, rest ≠ '.' :: ds) :
    (readDecimal? (cs ++ rest)).isSome = true ↔ IsNumeral cs ∧ IsExponent rest := by
  rw [readDecimal?, spanDigits_append hcs hrest]
  simp only [List.append_nil, isSome_readParts]

theorem isSome_readDecimal?_pointed (hcs : ∀ c ∈ cs, c.isDigit = true)
    (hds : ∀ c ∈ ds, c.isDigit = true) (hrest : ∀ c ∈ rest.head?, c.isDigit = false) :
    (readDecimal? (cs ++ '.' :: (ds ++ rest))).isSome = true ↔
      IsNumeral (cs ++ ds) ∧ IsExponent rest := by
  have hpoint : ∀ c ∈ ('.' :: (ds ++ rest)).head?, c.isDigit = false := by
    rintro c ⟨⟩
    rfl
  rw [readDecimal?, spanDigits_append hcs hpoint]
  simp only [spanDigits_append hds hrest, isSome_readParts]

theorem exists_digits_append (cs : List Char) :
    ∃ ds rest, cs = ds ++ rest ∧ (∀ c ∈ ds, c.isDigit = true) ∧
      ∀ c ∈ rest.head?, c.isDigit = false := by
  refine ⟨_, _, (List.takeWhile_append_dropWhile (p := Char.isDigit)).symm, ?_, ?_⟩
  · exact fun c hc => List.mem_takeWhile_imp hc
  · intro c hc
    have hhead := List.head?_dropWhile_not Char.isDigit cs
    rwa [hc] at hhead

/-- A decimal is read just from a text of its notation. -/
theorem isSome_readDecimal? : (readDecimal? cs).isSome = true ↔ IsDecimal cs := by
  constructor
  · intro h
    obtain ⟨digits, rest, rfl, hdigits, hrest⟩ := exists_digits_append cs
    by_cases hpoint : ∃ after, rest = '.' :: after
    · obtain ⟨after, rfl⟩ := hpoint
      obtain ⟨fraction, exponent, rfl, hfraction, hexponent⟩ := exists_digits_append after
      obtain ⟨hnumeral, hwritten⟩ :=
        (isSome_readDecimal?_pointed hdigits hfraction hexponent).1 h
      exact .pointed hnumeral hwritten
    · obtain ⟨hnumeral, hwritten⟩ :=
        (isSome_readDecimal?_whole hdigits hrest (not_exists.1 hpoint)).1 h
      exact .whole hnumeral hwritten
  · intro h
    cases h with
    | whole hdigits hexponent =>
        refine (isSome_readDecimal?_whole hdigits.isDigit hexponent.head_not_isDigit ?_).2
          ⟨hdigits, hexponent⟩
        rintro ds rfl
        exact absurd (hexponent.head '.' rfl) (by decide)
    | pointed hdigits hexponent =>
        obtain ⟨hwhole, hfraction⟩ := List.forall_mem_append.1 hdigits.isDigit
        exact (isSome_readDecimal?_pointed hwhole hfraction hexponent.head_not_isDigit).2
          ⟨hdigits, hexponent⟩

theorem spells_specialWords_iff :
    Spells specialWords cs ↔
      cs.map Text.lowerAscii = "inf".toList ∨ cs.map Text.lowerAscii = "infinity".toList ∨
        cs.map Text.lowerAscii = "nan".toList := by
  rw [Text.spells_iff (by decide), specialWords]
  simp only [List.mem_cons, List.not_mem_nil, or_false, exists_eq_or_imp, exists_eq_left]

theorem isSome_readMagnitude? : (readMagnitude? cs).isSome = true ↔ IsMagnitude cs := by
  rw [IsMagnitude, spells_specialWords_iff, readMagnitude?, ← isSome_readDecimal?]
  simp only [Bool.or_eq_true, beq_iff_eq]
  split
  · next hword => exact iff_of_true rfl (.inl (or_assoc.1 (.inl hword)))
  · next hword =>
      split
      · next hnan => exact iff_of_true rfl (.inl (.inr (.inr hnan)))
      · next hnan =>
          rw [Option.isSome_map, or_iff_right]
          rintro (h | h | h)
          · exact hword (.inl h)
          · exact hword (.inr h)
          · exact hnan h

theorem IsDecimal.head (h : IsDecimal cs) : ∀ c ∈ cs.head?, c.isDigit = true ∨ c = '.' := by
  cases h with
  | whole hdigits _ =>
      obtain ⟨d, digits, rfl⟩ := List.exists_cons_of_ne_nil hdigits.ne_nil
      rintro c ⟨⟩
      exact .inl (hdigits.isDigit d List.mem_cons_self)
  | @pointed digits _ _ hdigits _ =>
      cases digits with
      | nil =>
          rintro c ⟨⟩
          exact .inr rfl
      | cons d digits =>
          rintro c ⟨⟩
          exact .inl (hdigits.isDigit d List.mem_cons_self)

theorem not_isMagnitude_of_sign (hc : c = '+' ∨ c = '-') : ¬ IsMagnitude (c :: cs) := by
  have hsign : Text.lowerAscii c ≠ 'i' ∧ Text.lowerAscii c ≠ 'n' ∧ c.isDigit = false ∧ c ≠ '.' := by
    rcases hc with rfl | rfl <;> decide
  rintro (hword | hdecimal)
  · rw [spells_specialWords_iff, List.map_cons] at hword
    rcases hword with h | h | h
    · exact hsign.1 (List.head_eq_of_cons_eq h)
    · exact hsign.1 (List.head_eq_of_cons_eq h)
    · exact hsign.2.1 (List.head_eq_of_cons_eq h)
  · rcases hdecimal.head c rfl with hdigit | hpoint
    · exact Bool.false_ne_true (hsign.2.2.1.symm.trans hdigit)
    · exact hsign.2.2.2 hpoint

theorem writesFloat_signed_iff (hc : c = '+' ∨ c = '-') :
    WritesFloat (c :: cs) ↔ IsMagnitude cs := by
  constructor
  · intro h
    cases h with
    | plain h => exact absurd h (not_isMagnitude_of_sign hc)
    | signed _ h => exact h
  · exact .signed hc

theorem writesFloat_plain_iff (hminus : ∀ ds, cs ≠ '-' :: ds) (hplus : ∀ ds, cs ≠ '+' :: ds) :
    WritesFloat cs ↔ IsMagnitude cs := by
  constructor
  · intro h
    cases h with
    | plain h => exact h
    | signed hsign _ =>
        rcases hsign with rfl | rfl
        · exact absurd rfl (hplus _)
        · exact absurd rfl (hminus _)
  · exact .plain

/-- A fractional number is read just from a text that writes one. -/
theorem isSome_readFloat? : (readFloat? text).isSome = true ↔ WritesFloat text.toList := by
  rw [readFloat?]
  split
  · next htext =>
      rw [Option.isSome_map, isSome_readMagnitude?, htext, writesFloat_signed_iff (.inr rfl)]
  · next htext =>
      rw [Option.isSome_map, isSome_readMagnitude?, htext, writesFloat_signed_iff (.inl rfl)]
  · next hminus hplus =>
      rw [Option.isSome_map, isSome_readMagnitude?, writesFloat_plain_iff hminus hplus]

end Number

end PatternScan
