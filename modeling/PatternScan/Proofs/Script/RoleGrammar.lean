import PatternScan.Proofs.Script.Token
import PatternScan.Script.PlotRole
import PatternScan.Script.SequenceRole

/-!
# The grammar of role tokens

A token reads as the role with the longest identifier that it starts with, in any case, if
nothing but word characters follow. No identifier goes on with an underscore, so a role written
with an underscore and what belongs to it is read back.
-/

namespace PatternScan.Script

open Text (lowerAscii sameAsciiText isWord)

variable {cs lead rest : List Char}

theorem sameAsciiText_iff {a b : List Char} :
    sameAsciiText a b = true ↔ a.map lowerAscii = b.map lowerAscii := beq_iff_eq

theorem length_eq_of_sameAsciiText {a b : List Char} (h : sameAsciiText a b = true) :
    a.length = b.length := by
  simpa only [List.length_map] using congrArg List.length (sameAsciiText_iff.1 h)

theorem stripLead?_eq_some_iff :
    stripLead? lead cs = some rest ↔
      ∃ head, cs = head ++ rest ∧ sameAsciiText lead head = true := by
  induction lead generalizing cs with
  | nil =>
      simp only [stripLead?, Option.some.injEq, sameAsciiText_iff, List.map_nil]
      constructor
      · rintro rfl
        exact ⟨[], rfl, rfl⟩
      · rintro ⟨head, rfl, hnil⟩
        rw [List.map_eq_nil_iff.1 hnil.symm, List.nil_append]
  | cons l lead ih =>
      cases cs with
      | nil =>
          refine iff_of_false (by simp [stripLead?]) ?_
          rintro ⟨head, hsplit, hsame⟩
          rw [(List.append_eq_nil_iff.1 hsplit.symm).1] at hsame
          exact absurd (length_eq_of_sameAsciiText hsame) (by simp)
      | cons c cs =>
          rw [stripLead?]
          split
          · next hletter =>
              rw [ih]
              constructor
              · rintro ⟨head, rfl, hsame⟩
                refine ⟨c :: head, rfl, ?_⟩
                rw [sameAsciiText_iff] at hsame ⊢
                rw [List.map_cons, List.map_cons, beq_iff_eq.1 hletter, hsame]
              · rintro ⟨head, hsplit, hsame⟩
                rw [sameAsciiText_iff, List.map_cons, eq_comm, List.map_eq_cons_iff] at hsame
                obtain ⟨d, head, rfl, -, hsame⟩ := hsame
                exact ⟨head, (List.cons.inj hsplit).2, sameAsciiText_iff.2 hsame.symm⟩
          · next hletter =>
              refine iff_of_false (by simp) ?_
              rintro ⟨head, hsplit, hsame⟩
              rw [sameAsciiText_iff, List.map_cons, eq_comm, List.map_eq_cons_iff] at hsame
              obtain ⟨d, head, rfl, hd, -⟩ := hsame
              rw [(List.cons.inj hsplit).1, hd, beq_self_eq_true] at hletter
              exact hletter rfl

/-- What is left of the rest of a token without one leading underscore, if it has one. -/
def AfterUnderscore (rest body : List Char) : Prop :=
  rest = '_' :: body ∨ rest.head? ≠ some '_' ∧ rest = body

theorem afterUnderscore_iff {body : List Char} :
    AfterUnderscore rest body ↔ body = (stripUnderscore? rest).getD rest := by
  rw [AfterUnderscore]
  unfold stripUnderscore?
  split
  · simp [eq_comm]
  · next hne =>
      have hhead : rest.head? ≠ some '_' := by
        cases rest with
        | nil => simp
        | cons c cs => exact fun h => hne cs (by rw [Option.some.inj h])
      simp only [hhead, Option.getD_none, ne_eq, not_false_eq_true, true_and, eq_comm]
      exact or_iff_right fun h => hne body h

theorem isWord_underscore : isWord '_' = true := by decide +kernel

namespace RoleToken

variable {R : Type} {roles : List R} {identifier : R → String} {token : List Char}
  {found : RoleToken R}

/-! ## The longest identifier -/

/-- The token consists of the identifier of the role, in any case, and the rest. -/
def StartsWith (identifier : R → String) (token : List Char) (role : R) (rest : List Char) :
    Prop :=
  ∃ head, token = head ++ rest ∧ sameAsciiText (identifier role).toList head = true

theorem StartsWith.length {role : R} (h : StartsWith identifier token role rest) :
    token.length = (identifier role).length + rest.length := by
  obtain ⟨head, rfl, hsame⟩ := h
  rw [List.length_append, ← length_eq_of_sameAsciiText hsame, String.length_toList]

/-- The identifier of the role is the longest that the token starts with. -/
structure Longest (roles : List R) (identifier : R → String) (token : List Char) (role : R)
    (rest : List Char) : Prop where
  mem : role ∈ roles
  starts : StartsWith identifier token role rest
  longest : ∀ other ∈ roles, ∀ rest', StartsWith identifier token other rest' →
    (identifier other).length ≤ (identifier role).length

theorem mem_candidates :
    found ∈ candidates roles identifier token ↔
      found.role ∈ roles ∧ StartsWith identifier token found.role found.rest := by
  simp only [candidates, List.mem_filterMap, Option.map_eq_some_iff, stripLead?_eq_some_iff]
  constructor
  · rintro ⟨role, hrole, rest, hstarts, rfl⟩
    exact ⟨hrole, hstarts⟩
  · rintro ⟨hrole, hstarts⟩
    exact ⟨found.role, hrole, found.rest, hstarts, rfl⟩

theorem longest?_eq_none_iff {l : List (RoleToken R)} : longest? l = none ↔ l = [] := by
  cases l with
  | nil => exact iff_of_true rfl rfl
  | cons a l =>
      refine iff_of_false ?_ (List.cons_ne_nil a l)
      rw [longest?]
      split <;> exact Option.some_ne_none _

/-- The longest reading is one of the readings, and none leaves less of the token. -/
theorem longest?_eq_some {l : List (RoleToken R)} (h : longest? l = some found) :
    found ∈ l ∧ ∀ other ∈ l, found.rest.length ≤ other.rest.length := by
  induction l generalizing found with
  | nil => cases h
  | cons a l ih =>
      rw [longest?] at h
      split at h
      · next hnone =>
          cases h
          rw [longest?_eq_none_iff.1 hnone]
          simp
      · next b hb =>
          cases h
          obtain ⟨hmem, hleast⟩ := ih hb
          rw [longer]
          split
          · next hlt =>
              refine ⟨List.mem_cons_of_mem a hmem, ?_⟩
              intro other hother
              rcases List.mem_cons.1 hother with rfl | hother
              · exact Nat.le_of_lt hlt
              · exact hleast other hother
          · next hge =>
              refine ⟨List.mem_cons_self, ?_⟩
              intro other hother
              rcases List.mem_cons.1 hother with rfl | hother
              · exact Nat.le_refl _
              · exact Nat.le_trans (Nat.not_lt.1 hge) (hleast other hother)

/-- Identifiers that differ in more than case, without underscores. -/
structure Distinguish (roles : List R) (identifier : R → String) : Prop where
  injective : ∀ a ∈ roles, ∀ b ∈ roles,
    sameAsciiText (identifier a).toList (identifier b).toList = true → a = b
  underscore : ∀ a ∈ roles, '_' ∉ (identifier a).toList.map lowerAscii

/-- Two identifiers of one length that a token starts with are the same but for case. -/
theorem Longest.unique (h : Distinguish roles identifier) {role role' : R}
    {rest rest' : List Char} (hlongest : Longest roles identifier token role rest)
    (hlongest' : Longest roles identifier token role' rest') : role = role' ∧ rest = rest' := by
  obtain ⟨head, hsplit, hsame⟩ := hlongest.starts
  obtain ⟨head', hsplit', hsame'⟩ := hlongest'.starts
  have hlength : head.length = head'.length := by
    rw [← length_eq_of_sameAsciiText hsame, ← length_eq_of_sameAsciiText hsame']
    apply Nat.le_antisymm
    · exact hlongest'.longest role hlongest.mem rest hlongest.starts
    · exact hlongest.longest role' hlongest'.mem rest' hlongest'.starts
  obtain ⟨rfl, rfl⟩ := List.append_inj (hsplit.symm.trans hsplit') hlength
  refine ⟨h.injective role hlongest.mem role' hlongest'.mem ?_, rfl⟩
  rw [sameAsciiText_iff] at *
  exact hsame.trans hsame'.symm

theorem longest_of_longest? (h : longest? (candidates roles identifier token) = some found) :
    Longest roles identifier token found.role found.rest := by
  obtain ⟨hmem, hleast⟩ := longest?_eq_some h
  obtain ⟨hrole, hstarts⟩ := mem_candidates.1 hmem
  refine ⟨hrole, hstarts, ?_⟩
  intro other hother rest' hstarts'
  have hrest : found.rest.length ≤ rest'.length :=
    hleast ⟨other, rest'⟩ (mem_candidates.2 ⟨hother, hstarts'⟩)
  have hlength := hstarts.length
  have hlength' := hstarts'.length
  omega

theorem exists_longest {role : R} (hrole : role ∈ roles)
    (hstarts : StartsWith identifier token role rest) :
    ∃ role rest, Longest roles identifier token role rest := by
  cases hfound : longest? (candidates roles identifier token) with
  | none =>
      have hmem : ⟨role, rest⟩ ∈ candidates roles identifier token :=
        mem_candidates.2 ⟨hrole, hstarts⟩
      rw [longest?_eq_none_iff.1 hfound] at hmem
      cases hmem
  | some found => exact ⟨found.role, found.rest, longest_of_longest? hfound⟩

/-- Where identifiers tell their roles apart, the longest one tells the reading. -/
theorem longest?_candidates_eq_some_iff (h : Distinguish roles identifier) :
    longest? (candidates roles identifier token) = some found ↔
      Longest roles identifier token found.role found.rest := by
  refine ⟨longest_of_longest?, fun hlongest => ?_⟩
  cases hfound : longest? (candidates roles identifier token) with
  | none =>
      have hmem := mem_candidates.2 ⟨hlongest.mem, hlongest.starts⟩
      rw [longest?_eq_none_iff.1 hfound] at hmem
      cases hmem
  | some other =>
      obtain ⟨hrole, hrest⟩ := (longest_of_longest? hfound).unique h hlongest
      cases other with
      | mk role' rest' =>
          dsimp only at hrole hrest
          rw [hrole, hrest]

/-- A token that is read is the longest identifier, an underscore if there is one, and word
characters. -/
theorem read?_eq_some_iff (h : Distinguish roles identifier) {role : R} {body : List Char} :
    read? roles identifier token = some ⟨role, body⟩ ↔
      ∃ rest, Longest roles identifier token role rest ∧ (∀ c ∈ rest, isWord c = true) ∧
        AfterUnderscore rest body := by
  simp only [read?, Option.bind_eq_some_iff, longest?_candidates_eq_some_iff h]
  constructor
  · rintro ⟨found, hlongest, hread⟩
    split at hread
    · next hword =>
        cases hread
        exact ⟨found.rest, hlongest, List.all_eq_true.1 hword, afterUnderscore_iff.2 rfl⟩
    · cases hread
  · rintro ⟨rest, hlongest, hword, hbody⟩
    refine ⟨⟨role, rest⟩, hlongest, ?_⟩
    rw [if_pos (List.all_eq_true.2 hword), afterUnderscore_iff.1 hbody]

/-! ## Tokens written for a role -/

/-- The identifier of a role and an underscore begin no longer identifier. -/
theorem longest_written (h : Distinguish roles identifier) {role : R} (hrole : role ∈ roles)
    {head : List Char} (hhead : sameAsciiText (identifier role).toList head = true)
    (body : List Char) :
    Longest roles identifier (head ++ '_' :: body) role ('_' :: body) := by
  refine ⟨hrole, ⟨head, rfl, hhead⟩, ?_⟩
  rintro other hother rest' ⟨head', hsplit, hhead'⟩
  by_contra hlonger
  have hlength : head.length < head'.length := by
    rw [← length_eq_of_sameAsciiText hhead, ← length_eq_of_sameAsciiText hhead']
    exact Nat.not_le.1 hlonger
  -- The longer identifier would go on with the underscore.
  have hmem : '_' ∈ head' := by
    refine List.mem_of_getElem? (i := head.length) ?_
    rw [← List.getElem?_append_left hlength, ← hsplit, List.getElem?_append_right (Nat.le_refl _)]
    simp
  apply h.underscore other hother
  rw [sameAsciiText_iff.1 hhead']
  exact List.mem_map.2 ⟨'_', hmem, by decide⟩

/-! ## The grammar -/

/-- Tokens are read by the grammar of the roles: a token names the role with the longest
identifier that it starts with, and `value` tells what becomes of the characters behind it. -/
structure ReadBy {V : Type} (roles : List R) (identifier : R → String) (value : List Char → V)
    (parse : List Char → Option (R × V)) : Prop where
  /-- Where the token starts with an identifier, one is the longest. -/
  longest : ∀ token, (∃ role ∈ roles, ∃ rest, StartsWith identifier token role rest) →
    ∃ role rest, Longest roles identifier token role rest ∧
      ∀ role' rest', Longest roles identifier token role' rest' → role' = role ∧ rest' = rest
  /-- A token without an identifier is refused, and so is one with other characters behind the
  longest identifier than word characters. -/
  refuses : ∀ token, parse token = none ↔
    ∀ role rest, Longest roles identifier token role rest → ∃ c ∈ rest, isWord c = false
  reads : ∀ token role rest body, Longest roles identifier token role rest →
    (∀ c ∈ rest, isWord c = true) → AfterUnderscore rest body →
      parse token = some (role, value body)
  /-- What is written for a role is read back. -/
  written : ∀ role ∈ roles, ∀ head, sameAsciiText (identifier role).toList head = true →
    ∀ body, (∀ c ∈ body, isWord c = true) → parse (head ++ '_' :: body) = some (role, value body)

theorem Distinguish.readBy (h : Distinguish roles identifier) {V : Type}
    (value : List Char → V) :
    ReadBy roles identifier value fun token =>
      (read? roles identifier token).map fun found => (found.role, value found.rest) := by
  have hreads : ∀ token role rest body, Longest roles identifier token role rest →
      (∀ c ∈ rest, isWord c = true) → AfterUnderscore rest body →
        (read? roles identifier token).map (fun found => (found.role, value found.rest)) =
          some (role, value body) := by
    intro token role rest body hlongest hword hbody
    rw [(read?_eq_some_iff h).2 ⟨rest, hlongest, hword, hbody⟩, Option.map_some]
  refine ⟨?_, ?_, hreads, ?_⟩
  · rintro token ⟨role, hrole, rest, hstarts⟩
    obtain ⟨role, rest, hlongest⟩ := exists_longest hrole hstarts
    exact ⟨role, rest, hlongest, fun role' rest' hlongest' => hlongest'.unique h hlongest⟩
  · intro token
    constructor
    · intro hnone role rest hlongest
      by_contra hno
      have hword : ∀ c ∈ rest, isWord c = true := by
        intro c hc
        by_contra hc'
        exact hno ⟨c, hc, Bool.eq_false_iff.2 hc'⟩
      rw [hreads token role rest _ hlongest hword (afterUnderscore_iff.2 rfl)] at hnone
      cases hnone
    · intro hrefused
      rw [Option.map_eq_none_iff, Option.eq_none_iff_forall_ne_some]
      rintro ⟨role, body⟩ hread
      obtain ⟨rest, hlongest, hword, -⟩ := (read?_eq_some_iff h).1 hread
      obtain ⟨c, hc, hc'⟩ := hrefused role rest hlongest
      rw [hword c hc] at hc'
      cases hc'
  · intro role hrole head hhead body hword
    refine hreads _ _ _ _ (longest_written h hrole hhead body) ?_ (.inl rfl)
    intro c hc
    rcases List.mem_cons.1 hc with rfl | hc
    · exact isWord_underscore
    · exact hword c hc

end RoleToken

theorem SequenceRole.distinguish_identifier :
    RoleToken.Distinguish SequenceRole.all SequenceRole.identifier :=
  ⟨by decide +kernel, by decide +kernel⟩

namespace PlotRole

theorem distinguish_identifier : RoleToken.Distinguish all identifier :=
  ⟨by decide +kernel, by decide +kernel⟩

theorem splitPieces_eq_splitOn (piece cs : List Char) :
    splitPieces piece cs = cs.splitOnPPrepend (· == '_') piece := by
  induction cs generalizing piece with
  | nil => rw [splitPieces, List.splitOnPPrepend_nil]
  | cons c cs ih => rw [splitPieces, List.splitOnPPrepend_cons_eq_if, List.splitOnP, ih, ih]

/-- The parameters are the pieces between underscores that are not empty. -/
theorem ofToken?_eq (token : List Char) :
    ofToken? token = (RoleToken.read? all identifier token).map fun found =>
      (found.role, ((found.rest.splitOn '_').filter (· ≠ [])).map String.ofList) := by
  rw [ofToken?]
  refine congrArg (fun f => (RoleToken.read? all identifier token).map f) (funext fun found => ?_)
  rw [splitPieces_eq_splitOn, List.splitOn, List.splitOnP]
  refine congrArg (fun l => (found.role, l.map String.ofList)) (List.filter_congr fun piece _ => ?_)
  cases piece <;> rfl

/-- Pieces written with underscores between them are told apart again. -/
theorem filter_splitOn_intercalate {pieces : List (List Char)}
    (h : ∀ piece ∈ pieces, piece ≠ [] ∧ ∀ c ∈ piece, c ≠ '_') :
    ((['_'].intercalate pieces).splitOn '_').filter (· ≠ []) = pieces := by
  cases pieces with
  | nil => rfl
  | cons piece pieces =>
      rw [List.splitOn_intercalate '_' (fun p hp hmem => (h p hp).2 _ hmem rfl)
        (List.cons_ne_nil _ _), List.filter_eq_self]
      intro p hp
      exact decide_eq_true (h p hp).1

theorem isWord_of_mem_intercalate {pieces : List (List Char)}
    (h : ∀ piece ∈ pieces, ∀ c ∈ piece, isWord c = true) :
    ∀ c ∈ ['_'].intercalate pieces, isWord c = true := by
  induction pieces with
  | nil => simp
  | cons piece pieces ih =>
      have hpiece := h piece List.mem_cons_self
      have hpieces := ih fun p hp => h p (List.mem_cons_of_mem piece hp)
      cases pieces with
      | nil => simpa using hpiece
      | cons next pieces =>
          intro c hc
          rw [List.intercalate_cons_cons, List.mem_append, List.mem_append,
            List.mem_singleton] at hc
          rcases hc with (hc | rfl) | hc
          · exact hpiece c hc
          · exact isWord_underscore
          · exact hpieces c hc

end PlotRole

end PatternScan.Script
