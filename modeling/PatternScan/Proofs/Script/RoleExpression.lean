import PatternScan.Proofs.Script.RoleGrammar
import PatternScan.Script.RoleExpression

/-!
# Two readings of a role token

The expression takes the first alternative that fits and folds the case of every alphabet, the
lookup behind it knows the case of unaccented letters only, and the grammar asks for the longest
identifier. They agree because a longer identifier stands before the one that it goes on from,
and because it goes on with letters onto which no character of another alphabet folds.
-/

namespace PatternScan

namespace Text

variable {c d : Char} {cs ds : List Char}

/-- The character is an unaccented small letter. -/
def IsSmall (c : Char) : Prop := 'a'.toNat ≤ c.toNat ∧ c.toNat ≤ 'z'.toNat

instance (c : Char) : Decidable (IsSmall c) := inferInstanceAs (Decidable (_ ∧ _))

/-- No character of another alphabet folds onto the letter: the long s and the Kelvin sign fold
onto two that are left out. -/
def IsPlain (c : Char) : Prop := IsSmall c ∧ c ≠ 's' ∧ c ≠ 'k'

instance (c : Char) : Decidable (IsPlain c) := inferInstanceAs (Decidable (_ ∧ _))

/-- Small letters fold onto themselves: the table has no entry for them. -/
theorem simpleFold_of_isSmall (hc : IsSmall c) : simpleFold c = c.toNat := by
  have htable : ∀ p ∈ foldPairs, ¬ ('a'.toNat ≤ p.source ∧ p.source ≤ 'z'.toNat) := by
    decide +kernel
  have hnone : (foldPairs.find? fun p => p.source == c.toNat) = none := by
    rw [List.find?_eq_none]
    intro p hp hsource
    rw [beq_iff_eq] at hsource
    exact htable p hp (hsource ▸ hc)
  rw [simpleFold, hnone, Option.map_none, Option.getD_none]

theorem lowerAscii_cases (c : Char) :
    lowerAscii c = c ∨ IsSmall (lowerAscii c) ∧ simpleFold c = (lowerAscii c).toNat := by
  rw [lowerAscii]
  split
  · next hcapital =>
      rw [Bool.and_eq_true, decide_eq_true_iff, decide_eq_true_iff, Char.le_def, Char.le_def,
        UInt32.le_iff_toNat_le, UInt32.le_iff_toNat_le] at hcapital
      -- The capitals are the first entries of the table.
      have hcapitals : ∀ n < 'Z'.toNat + 1, 'A'.toNat ≤ (Char.ofNat n).toNat →
          IsSmall (Char.ofNat ((Char.ofNat n).toNat + 32)) ∧
            simpleFold (Char.ofNat n) = (Char.ofNat ((Char.ofNat n).toNat + 32)).toNat := by
        decide +kernel
      have hc := hcapitals c.toNat (Nat.lt_succ_of_le hcapital.2)
      rw [Char.ofNat_toNat] at hc
      exact .inr (hc hcapital.1)
  · exact .inl rfl

/-- A capital folds onto its small letter. -/
theorem simpleFold_lowerAscii (c : Char) : simpleFold (lowerAscii c) = simpleFold c := by
  rcases lowerAscii_cases c with hsame | ⟨hsmall, hfold⟩
  · rw [hsame]
  · rw [hfold, simpleFold_of_isSmall hsmall]

/-- What folds onto a plain letter is this letter or its capital. -/
theorem lowerAscii_eq_of_simpleFold (hd : IsPlain d) (h : simpleFold c = d.toNat) :
    lowerAscii c = d := by
  have htable : ∀ p ∈ foldPairs, IsPlain (Char.ofNat p.target) → p.target < 128 →
      lowerAscii (Char.ofNat p.source) = Char.ofNat p.target := by decide +kernel
  have hlt : d.toNat < 128 := Nat.lt_of_le_of_lt hd.1.2 (by decide)
  rw [simpleFold] at h
  cases hfound : foldPairs.find? fun p => p.source == c.toNat with
  | none =>
      rw [hfound, Option.map_none, Option.getD_none] at h
      have hletters : ∀ n < 128, IsPlain (Char.ofNat n) →
          lowerAscii (Char.ofNat n) = Char.ofNat n := by decide +kernel
      have hsame := hletters d.toNat hlt
      rw [Char.ofNat_toNat] at hsame
      rw [Char.toNat_inj.1 h]
      exact hsame hd
  | some p =>
      rw [hfound, Option.map_some, Option.getD_some] at h
      have hsource : p.source = c.toNat := by simpa using List.find?_some hfound
      have hp := htable p (List.mem_of_find?_eq_some hfound)
      rw [h, hsource, Char.ofNat_toNat, Char.ofNat_toNat] at hp
      exact hp hd hlt

theorem sameFoldedText_iff : sameFoldedText cs ds = true ↔ cs.map simpleFold = ds.map simpleFold :=
  beq_iff_eq

theorem sameFoldedText_of_sameAsciiText (h : sameAsciiText cs ds = true) :
    sameFoldedText cs ds = true := by
  have hfold (l : List Char) : l.map simpleFold = (l.map lowerAscii).map simpleFold := by
    rw [List.map_map]
    exact List.map_congr_left fun c _ => (simpleFold_lowerAscii c).symm
  rw [sameFoldedText_iff, hfold, hfold ds]
  exact congrArg _ (beq_iff_eq.1 h)

theorem map_simpleFold_of_isSmall (h : ∀ c ∈ cs, IsSmall (lowerAscii c)) :
    cs.map simpleFold = (cs.map lowerAscii).map Char.toNat := by
  rw [List.map_map]
  refine List.map_congr_left fun c hc => ?_
  rw [Function.comp_apply, ← simpleFold_lowerAscii, simpleFold_of_isSmall (h c hc)]

theorem map_lowerAscii_eq_of_simpleFold (hds : ∀ d ∈ ds, IsPlain d)
    (h : cs.map simpleFold = ds.map Char.toNat) : cs.map lowerAscii = ds := by
  induction ds generalizing cs with
  | nil => rw [List.map_nil, List.map_eq_nil_iff] at h; rw [h, List.map_nil]
  | cons d ds ih =>
      rw [List.map_cons, List.map_eq_cons_iff] at h
      obtain ⟨c, cs, rfl, hc, hrest⟩ := h
      rw [List.map_cons, lowerAscii_eq_of_simpleFold (hds d List.mem_cons_self) hc,
        ih (fun e he => hds e (List.mem_cons_of_mem d he)) hrest]

end Text

namespace Script.RoleToken

open Text (lowerAscii sameAsciiText sameFoldedText simpleFold isWord IsSmall IsPlain)

variable {R : Type} {roles : List R} {identifier : R → String} {token rest : List Char}
  {role other : R}

/-- What lets the first alternative be the longest: identifiers are letters, one that goes on
from another stands before it, and it goes on with plain letters. -/
structure Alternatives (roles : List R) (identifier : R → String) : Prop
    extends Distinguish roles identifier where
  letters : ∀ a ∈ roles, ∀ c ∈ (identifier a).toList, IsSmall (lowerAscii c)
  ordered : roles.Pairwise fun a b =>
    ¬ (identifier a).toList.map lowerAscii <+: (identifier b).toList.map lowerAscii
  plain : ∀ a ∈ roles, ∀ b ∈ roles,
    (identifier a).toList.map lowerAscii <+: (identifier b).toList.map lowerAscii →
      ∀ c ∈ ((identifier b).toList.map lowerAscii).drop (identifier a).length, IsPlain c

/-- The token starts with the identifier of the role, in any case of any alphabet. -/
def StartsFolded (identifier : R → String) (token : List Char) (role : R) : Prop :=
  sameFoldedText (identifier role).toList (token.take (identifier role).length) = true

/-- The token starts with the identifier of the role, in any case of unaccented letters. -/
def StartsPlainly (identifier : R → String) (token : List Char) (role : R) : Prop :=
  sameAsciiText (identifier role).toList (token.take (identifier role).length) = true

theorem startsWith_iff :
    StartsWith identifier token role rest ↔
      StartsPlainly identifier token role ∧ token.drop (identifier role).length = rest := by
  constructor
  · rintro ⟨head, rfl, hsame⟩
    have hlength : (identifier role).length = head.length := by
      rw [← String.length_toList, length_eq_of_sameAsciiText hsame]
    rw [StartsPlainly, hlength, List.take_left, List.drop_left]
    exact ⟨hsame, rfl⟩
  · rintro ⟨hsame, rfl⟩
    exact ⟨_, (List.take_append_drop _ token).symm, hsame⟩

theorem StartsPlainly.startsFolded (h : StartsPlainly identifier token role) :
    StartsFolded identifier token role :=
  Text.sameFoldedText_of_sameAsciiText h

namespace Alternatives

/-- All of this can be checked. -/
theorem of_checked (h : Distinguish roles identifier)
    (hletters : (roles.all fun a =>
      (identifier a).toList.all fun c => IsSmall (lowerAscii c)) = true)
    (hordered : roles.Pairwise fun a b =>
      ¬ (identifier a).toList.map lowerAscii <+: (identifier b).toList.map lowerAscii)
    (hplain : (roles.all fun a => roles.all fun b =>
      !((identifier a).toList.map lowerAscii).isPrefixOf ((identifier b).toList.map lowerAscii) ||
        (((identifier b).toList.map lowerAscii).drop (identifier a).length).all
          fun c => IsPlain c) = true) : Alternatives roles identifier where
  toDistinguish := h
  letters := by simpa only [List.all_eq_true, decide_eq_true_eq] using hletters
  ordered := hordered
  plain := by
    intro a ha b hb hbegins
    have hchecked := List.all_eq_true.1 (List.all_eq_true.1 hplain a ha) b hb
    rw [List.isPrefixOf_iff_prefix.2 hbegins, Bool.not_true, Bool.false_or] at hchecked
    simpa only [List.all_eq_true, decide_eq_true_eq] using hchecked

theorem startsFolded_iff (h : Alternatives roles identifier) (hrole : role ∈ roles) :
    StartsFolded identifier token role ↔
      ((identifier role).toList.map lowerAscii).map Char.toNat =
        (token.take (identifier role).length).map simpleFold := by
  rw [StartsFolded, Text.sameFoldedText_iff, Text.map_simpleFold_of_isSmall (h.letters role hrole)]

/-- Of two identifiers that a token starts with, the shorter one begins the longer one. -/
theorem prefix_of_startsFolded (h : Alternatives roles identifier) (hrole : role ∈ roles)
    (hother : other ∈ roles) (hle : (identifier role).length ≤ (identifier other).length)
    (hstarts : StartsFolded identifier token role)
    (hstarts' : StartsFolded identifier token other) :
    (identifier role).toList.map lowerAscii <+: (identifier other).toList.map lowerAscii := by
  have hcodes : (token.take (identifier role).length).map simpleFold <+:
      (token.take (identifier other).length).map simpleFold :=
    (List.take_prefix_take_left hle).map simpleFold
  rw [← (h.startsFolded_iff hrole).1 hstarts, ← (h.startsFolded_iff hother).1 hstarts'] at hcodes
  exact (List.prefix_map_iff_of_injective fun c d hcd => Char.toNat_inj.1 hcd).1 hcodes

/-- A token that starts plainly with one identifier starts plainly with each identifier that it
starts with at all. -/
theorem startsPlainly_of_startsFolded (h : Alternatives roles identifier) (hrole : role ∈ roles)
    (hother : other ∈ roles) (hstarts : StartsFolded identifier token role)
    (hplainly : StartsPlainly identifier token other) :
    StartsPlainly identifier token role := by
  have hstarts' := hplainly.startsFolded
  rw [StartsPlainly, sameAsciiText_iff] at hplainly ⊢
  rcases Nat.le_total (identifier role).length (identifier other).length with hle | hle
  · have hbegins := h.prefix_of_startsFolded hrole hother hle hstarts hstarts'
    calc
      (identifier role).toList.map lowerAscii
          = ((identifier other).toList.map lowerAscii).take (identifier role).length := by
        conv_lhs => rw [List.prefix_iff_eq_take.1 hbegins]
        rw [List.length_map, String.length_toList]
      _ = (token.take (identifier role).length).map lowerAscii := by
        rw [hplainly, ← List.map_take, List.take_take, Nat.min_eq_left hle]
  · -- The token goes on as the longer identifier does, by letters that fold on no others.
    obtain ⟨suffix, hsuffix⟩ := h.prefix_of_startsFolded hother hrole hle hstarts' hstarts
    have hplain : ∀ c ∈ suffix, IsPlain c := by
      intro c hc
      refine h.plain other hother role hrole ⟨suffix, hsuffix⟩ c ?_
      rw [← hsuffix, ← String.length_toList, ← List.length_map lowerAscii, List.drop_left]
      exact hc
    have hcut : token.take (identifier role).length =
        token.take (identifier other).length ++ (token.drop (identifier other).length).take
          ((identifier role).length - (identifier other).length) := by
      rw [← List.take_add, Nat.add_sub_cancel' hle]
    have hcodes := (h.startsFolded_iff hrole).1 hstarts
    rw [← hsuffix, hcut, List.map_append, List.map_append,
      (h.startsFolded_iff hother).1 hstarts', List.append_cancel_left_eq] at hcodes
    rw [← hsuffix, hcut, List.map_append, ← hplainly,
      Text.map_lowerAscii_eq_of_simpleFold hplain hcodes.symm]

end Alternatives

/-! ## The first alternative -/

/-- The expression matches with the identifier of the role. -/
def Fits (identifier : R → String) (token : List Char) (role : R) : Prop :=
  StartsFolded identifier token role ∧
    ∀ c ∈ token.drop (identifier role).length, isWord c = true

theorem fits_iff :
    Fits identifier token role ↔
      (sameFoldedText (identifier role).toList (token.take (identifier role).length) &&
        (token.drop (identifier role).length).all isWord) = true := by
  rw [Fits, StartsFolded, Bool.and_eq_true, List.all_eq_true]

theorem capture?_eq_none_iff :
    capture? roles identifier token = none ↔ ∀ role ∈ roles, ¬ Fits identifier token role := by
  simp only [capture?, List.findSome?_eq_none_iff, ite_eq_right_iff, reduceCtorEq, imp_false,
    fits_iff]

theorem exists_of_capture? {found : RoleCapture}
    (h : capture? roles identifier token = some found) :
    ∃ before role after, roles = before ++ role :: after ∧ Fits identifier token role ∧
      (∀ other ∈ before, ¬ Fits identifier token other) ∧
      found.head = token.take (identifier role).length ∧
      AfterUnderscore (token.drop (identifier role).length) found.body := by
  obtain ⟨before, role, after, hroles, hrole, hbefore⟩ := List.findSome?_eq_some_iff.1 h
  refine ⟨before, role, after, hroles, ?_⟩
  dsimp only at hrole hbefore
  split at hrole
  · next hfits =>
      cases hrole
      refine ⟨fits_iff.2 hfits, ?_, rfl, afterUnderscore_iff.2 rfl⟩
      intro other hother hfits'
      have hnone := hbefore other hother
      rw [if_pos (fits_iff.1 hfits')] at hnone
      cases hnone
  · cases hrole

theorem Longest.fits (h : Longest roles identifier token role rest)
    (hword : ∀ c ∈ rest, isWord c = true) : Fits identifier token role := by
  obtain ⟨hplainly, rfl⟩ := startsWith_iff.1 h.starts
  exact ⟨hplainly.startsFolded, hword⟩

theorem ofIdentifier?_eq_some (h : Distinguish roles identifier) (hrole : role ∈ roles)
    {text : List Char} (hsame : sameAsciiText (identifier role).toList text = true) :
    ofIdentifier? roles identifier (String.ofList text) = some role := by
  rw [ofIdentifier?, String.toList_ofList]
  cases hfound : roles.find? fun role => sameAsciiText (identifier role).toList text with
  | none => exact absurd hsame (List.find?_eq_none.1 hfound role hrole)
  | some other =>
      have hsame' := List.find?_some hfound
      refine congrArg some (h.injective other (List.mem_of_find?_eq_some hfound) role hrole ?_)
      rw [sameAsciiText_iff] at *
      exact hsame'.trans hsame.symm

theorem ofIdentifier?_eq_none {text : List Char}
    (h : ∀ role ∈ roles, ¬ sameAsciiText (identifier role).toList text = true) :
    ofIdentifier? roles identifier (String.ofList text) = none := by
  rw [ofIdentifier?, String.toList_ofList, List.find?_eq_none]
  exact h

namespace Alternatives

/-- The first identifier with which the expression matches is the longest. -/
theorem longest_of_first (h : Alternatives roles identifier) {before after : List R}
    (hroles : roles = before ++ role :: after) (hfits : Fits identifier token role)
    (hbefore : ∀ other ∈ before, ¬ Fits identifier token other)
    (hplainly : StartsPlainly identifier token role) :
    Longest roles identifier token role (token.drop (identifier role).length) := by
  have hrole : role ∈ roles := by rw [hroles]; simp
  refine ⟨hrole, startsWith_iff.2 ⟨hplainly, rfl⟩, ?_⟩
  intro other hother rest' hstarts'
  by_contra hlonger
  rw [Nat.not_le] at hlonger
  have hstarts' := (startsWith_iff.1 hstarts').1.startsFolded
  have hbegins :=
    h.prefix_of_startsFolded hrole hother (Nat.le_of_lt hlonger) hfits.1 hstarts'
  have hordered := h.ordered
  rw [hroles, List.mem_append, List.mem_cons] at hother
  rw [hroles, List.pairwise_append, List.pairwise_cons] at hordered
  obtain ⟨-, ⟨hafter, -⟩, -⟩ := hordered
  rcases hother with hother | rfl | hother
  · refine hbefore other hother ⟨hstarts', fun c hc => hfits.2 c ?_⟩
    exact List.drop_subset_drop_left token (Nat.le_of_lt hlonger) hc
  · exact Nat.lt_irrefl _ hlonger
  · exact hafter other hother hbegins

/-- What the expression captures under another spelling is looked up in vain, and the token
starts plainly with no identifier. -/
theorem readCaptured?_eq_read? (h : Alternatives roles identifier) (token : List Char) :
    readCaptured? roles identifier token = read? roles identifier token := by
  rw [readCaptured?]
  cases hcapture : capture? roles identifier token with
  | none =>
      rw [Option.bind_none, eq_comm, Option.eq_none_iff_forall_ne_some]
      rintro ⟨role, body⟩ hread
      obtain ⟨rest, hlongest, hword, -⟩ := (read?_eq_some_iff h.toDistinguish).1 hread
      exact capture?_eq_none_iff.1 hcapture role hlongest.mem (hlongest.fits hword)
  | some found =>
      obtain ⟨before, role, after, hroles, hfits, hbefore, hhead, hbody⟩ :=
        exists_of_capture? hcapture
      have hrole : role ∈ roles := by rw [hroles]; simp
      rw [Option.bind_some, hhead]
      by_cases hplainly : StartsPlainly identifier token role
      · have hlongest := h.longest_of_first hroles hfits hbefore hplainly
        rw [ofIdentifier?_eq_some h.toDistinguish hrole hplainly, Option.map_some, eq_comm,
          read?_eq_some_iff h.toDistinguish]
        exact ⟨_, hlongest, hfits.2, hbody⟩
      · rw [ofIdentifier?_eq_none, Option.map_none, eq_comm, Option.eq_none_iff_forall_ne_some]
        · rintro ⟨other, body⟩ hread
          obtain ⟨rest, hlongest, -, -⟩ := (read?_eq_some_iff h.toDistinguish).1 hread
          exact hplainly (h.startsPlainly_of_startsFolded hrole hlongest.mem hfits.1
            (startsWith_iff.1 hlongest.starts).1)
        · intro other hother hsame
          have hlength : (identifier other).length =
              (token.take (identifier role).length).length := by
            rw [← String.length_toList, length_eq_of_sameAsciiText hsame]
          have hother' : StartsPlainly identifier token other := by
            rw [StartsPlainly, hlength, ← List.prefix_iff_eq_take.1 (List.take_prefix _ token)]
            exact hsame
          exact hplainly (h.startsPlainly_of_startsFolded hrole hother hfits.1 hother')

end Alternatives

end Script.RoleToken

namespace Script

open Text (sameAsciiText isWord)
open RoleToken (Alternatives ReadBy readCaptured?)

theorem SequenceRole.alternatives_identifier :
    Alternatives SequenceRole.all SequenceRole.identifier :=
  .of_checked SequenceRole.distinguish_identifier (by decide +kernel) (by decide +kernel)
    (by decide +kernel)

theorem PlotRole.alternatives_identifier : Alternatives PlotRole.all PlotRole.identifier :=
  .of_checked PlotRole.distinguish_identifier (by decide +kernel) (by decide +kernel)
    (by decide +kernel)

/-- Role tokens follow one grammar. A token that starts with the identifier of a role names the
role with the longest such identifier, if word characters follow up to its end; less one
underscore, these are the literal of a sequence role, and cut at underscores the parameters of a
plot role. So a role is read back with its literal, and with its parameters. The expression with
the lookup behind it reads tokens in the same way. -/
theorem role_tokens_follow_grammar :
    ReadBy SequenceRole.all SequenceRole.identifier
        (fun body => if body = [] then none else some (String.ofList body))
        SequenceRole.ofToken? ∧
      ReadBy PlotRole.all PlotRole.identifier
        (fun body => ((body.splitOn '_').filter (· ≠ [])).map String.ofList)
        PlotRole.ofToken? ∧
      (∀ (role : SequenceRole) (head word : List Char),
        sameAsciiText role.identifier.toList head = true →
        word ≠ [] → (∀ c ∈ word, isWord c = true) →
          SequenceRole.ofToken? (head ++ '_' :: word) = some (role, some (String.ofList word))) ∧
      (∀ (role : PlotRole) (head : List Char) (pieces : List (List Char)),
        sameAsciiText role.identifier.toList head = true →
        (∀ piece ∈ pieces, piece ≠ [] ∧ ∀ c ∈ piece, isWord c = true ∧ c ≠ '_') →
          PlotRole.ofToken? (head ++ '_' :: ['_'].intercalate pieces) =
            some (role, pieces.map String.ofList)) ∧
      ∀ token,
        SequenceRole.ofToken? token =
          ((readCaptured? SequenceRole.all SequenceRole.identifier token).map fun found =>
            (found.role, if found.rest = [] then none else some (String.ofList found.rest))) ∧
        PlotRole.ofToken? token =
          ((readCaptured? PlotRole.all PlotRole.identifier token).map fun found =>
            (found.role, ((found.rest.splitOn '_').filter (· ≠ [])).map String.ofList)) := by
  have hliteral : SequenceRole.ofToken? = fun token =>
      (RoleToken.read? SequenceRole.all SequenceRole.identifier token).map fun found =>
        (found.role, if found.rest = [] then none else some (String.ofList found.rest)) := by
    funext token
    simp only [SequenceRole.ofToken?, List.isEmpty_iff]
  have hparameters := funext PlotRole.ofToken?_eq
  have hsequence := SequenceRole.distinguish_identifier.readBy fun body =>
    if body = [] then none else some (String.ofList body)
  have hplot := PlotRole.distinguish_identifier.readBy fun body =>
    ((body.splitOn '_').filter (· ≠ [])).map String.ofList
  rw [← hliteral] at hsequence
  rw [← hparameters] at hplot
  refine ⟨hsequence, hplot, ?_, ?_, ?_⟩
  · intro role head word hhead hne hword
    rw [hsequence.written role (SequenceRole.mem_all role) head hhead word hword, if_neg hne]
  · intro role head pieces hhead hpieces
    rw [hplot.written role (PlotRole.mem_all role) head hhead, PlotRole.filter_splitOn_intercalate]
    · intro piece hpiece
      exact ⟨(hpieces piece hpiece).1, fun c hc => ((hpieces piece hpiece).2 c hc).2⟩
    · apply PlotRole.isWord_of_mem_intercalate
      intro piece hpiece c hc
      exact ((hpieces piece hpiece).2 c hc).1
  · intro token
    rw [SequenceRole.alternatives_identifier.readCaptured?_eq_read?,
      PlotRole.alternatives_identifier.readCaptured?_eq_read?, hliteral, hparameters]
    exact ⟨rfl, rfl⟩

/-- What follows the underscore does not go on the identifier. The long s stands for a letter of
an identifier in the expression but not in the lookup. -/
theorem role_tokens_follow_grammar_underscore :
    SequenceRole.ofToken? "us_id".toList = some (.service, some "id") ∧
      PlotRole.ofToken? "PGE_ID_7".toList = some (.ganttEvent, ["ID", "7"]) ∧
      RoleToken.capture? SequenceRole.all SequenceRole.identifier "Uſ_id".toList =
        some ⟨['U', 'ſ'], ['i', 'd']⟩ ∧
      SequenceRole.ofToken? "Uſ_id".toList = none := by
  obtain ⟨-, -, hliteral, hparameters, hcaptured⟩ := role_tokens_follow_grammar
  refine ⟨?_, ?_, by decide +kernel, ?_⟩
  · exact hliteral .service ['u', 's'] ['i', 'd'] (by decide) (by decide)
      (List.all_eq_true.1 (by decide +kernel))
  · refine hparameters .ganttEvent ['P', 'G', 'E'] [['I', 'D'], ['7']] (by decide) ?_
    have hword : [['I', 'D'], ['7']].all (fun piece =>
        !piece.isEmpty && piece.all fun c => isWord c && c != '_') = true := by decide +kernel
    simpa [List.all_eq_true] using hword
  · rw [(hcaptured _).1, Option.map_eq_none_iff]
    decide +kernel

end Script

end PatternScan
