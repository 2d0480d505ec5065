import PatternScan.Pattern.Compiled

/-!
# Numbers of groups

Every capturing group takes the next number when its parenthesis is read. What has been read, on
the stack of open groups and in the level at hand, therefore holds each number up to the count of
groups just once. Giving an outline its meaning keeps its groups in order, and leaves out at most
those of a repetition without rounds. So no two groups of an expression have one number.
-/

namespace PatternScan.Pattern

/-! ## Groups of an expression put together -/

namespace Regex

variable {rs : List Regex}

theorem groups_chain (rs : List Regex) : (chain rs).groups = rs.flatMap groups := by
  induction rs using chain.induct with
  | case1 => rfl
  | case2 r => simp [chain]
  | case3 r rest hrest ih => simp [chain, groups, ih]

theorem groups_prefer (rs : List Regex) : (prefer rs).groups = rs.flatMap groups := by
  induction rs using prefer.induct with
  | case1 => rfl
  | case2 r => simp [prefer]
  | case3 r rest hrest ih => simp [prefer, groups, ih]

/-- Expressions that are nothing at all capture no group. -/
theorem groups_catAll (rs : List Regex) : (catAll rs).groups = rs.flatMap groups := by
  rw [catAll, groups_chain]
  induction rs with
  | nil => rfl
  | cons r rest ih =>
      cases r with
      | empty => simpa [isEmpty, groups] using ih
      | _ => simpa [isEmpty] using ih

theorem flatMap_groups_alternatives (r : Regex) : r.alternatives.flatMap groups = r.groups := by
  induction r with
  | alt a b iha ihb => rw [alternatives, List.flatMap_append, iha, ihb, groups]
  | _ => simp [alternatives]

/-- Alternatives of one character each capture no group. -/
theorem groups_altAll_sublist (rs : List Regex) :
    (altAll rs).groups.Sublist (rs.flatMap groups) := by
  have hall : (rs.flatMap alternatives).flatMap groups = rs.flatMap groups := by
    rw [List.flatMap_assoc]
    simp only [flatMap_groups_alternatives]
  rw [← hall, altAll]
  split
  · next r hone =>
      rw [hone]
      simp
  · split
    · exact List.nil_sublist _
    · simp only [groups_prefer, List.Sublist.refl]

/-- A repetition without rounds takes the groups inside away with it. -/
theorem groups_repeated_sublist (body : Regex) (least : Nat) (most : Option Nat) (greedy : Bool) :
    (repeated body least most greedy).groups.Sublist body.groups := by
  rw [repeated]
  split
  split
  · exact List.nil_sublist _
  · exact List.Sublist.refl _
  · exact List.Sublist.refl _

end Regex

/-! ## Groups of an outline -/

/-- The group that an opening parenthesis captures, if it does. -/
def GroupOpening.groups : GroupOpening → List Nat
  | capturing group => [group]
  | flagged _ => []

namespace Outline

mutual

/-- The groups of an outline, in order of appearance. -/
def groups : Outline → List Nat
  | group opening body _ => opening.groups ++ body.groups
  | repetition body _ _ _ _ => body.groups
  | sequence parts _ | choice parts _ => groupsOf parts
  | nothing _ | flags _ _ | item _ _ | dot _ | bracket _ => []

/-- The groups of outlines one after another. -/
def groupsOf : List Outline → List Nat
  | [] => []
  | part :: rest => part.groups ++ groupsOf rest

end

theorem groupsOf_eq_flatMap (parts : List Outline) : groupsOf parts = parts.flatMap groups := by
  induction parts with
  | nil => rw [groupsOf, List.flatMap_nil]
  | cons part rest ih => rw [groupsOf, ih, List.flatMap_cons]

end Outline

/-- What comes of a computation that goes on after another one, if that comes to something. -/
theorem bind_eq_ok {ε α β : Type} {x : Except ε α} {next : α → Except ε β} {b : β}
    (h : x >>= next = .ok b) : ∃ a, x = .ok a ∧ next a = .ok b := by
  cases x with
  | error e => cases h
  | ok a => exact ⟨a, rfl, h⟩

theorem map_eq_ok {ε α β : Type} {x : Except ε α} {f : α → β} {b : β} (h : x.map f = .ok b) :
    ∃ a, x = .ok a ∧ f a = b := by
  cases x with
  | error e => cases h
  | ok a => exact ⟨a, rfl, Except.ok.inj h⟩

theorem groups_of_itemMeaning {flags : Flags} {i : Item} {extent : Extent} {r : Regex}
    (h : i.meaning flags extent = .ok r) : r.groups = [] := by
  cases i with
  | literal l =>
      obtain ⟨c, -, hr⟩ := bind_eq_ok h
      rw [← Except.ok.inj hr, Regex.groups]
  | escapedSet set negated =>
      obtain ⟨s, -, rfl⟩ := map_eq_ok h
      rw [Regex.groups]
  | anchor sign => rw [← Except.ok.inj h, Regex.groups]

namespace Outline

mutual

/-- The groups of an expression are groups of its outline, in the same order. -/
theorem groups_of_meaning (outline : Outline) {flags : Flags} {m : Meant Regex}
    (h : outline.meaning flags = .ok m) : m.value.groups.Sublist outline.groups := by
  cases outline with
  | nothing | flags =>
      rw [meaning] at h
      obtain rfl := Except.ok.inj h
      exact List.nil_sublist _
  | item i extent =>
      rw [meaning] at h
      obtain ⟨r, hr, rfl⟩ := map_eq_ok h
      rw [groups_of_itemMeaning hr]
      exact List.nil_sublist _
  | dot extent =>
      rw [meaning] at h
      obtain ⟨s, -, rfl⟩ := map_eq_ok h
      exact List.nil_sublist _
  | bracket outline =>
      rw [meaning] at h
      obtain ⟨s, -, rfl⟩ := map_eq_ok h
      exact List.nil_sublist _
  | group opening body extent =>
      cases opening with
      | capturing number =>
          rw [meaning] at h
          obtain ⟨inner, hinner, hm⟩ := bind_eq_ok h
          obtain rfl := Except.ok.inj hm
          rw [groups]
          exact (groups_of_meaning body hinner).cons_cons number
      | flagged items =>
          rw [meaning] at h
          obtain ⟨inner, hinner, hm⟩ := bind_eq_ok h
          obtain rfl := Except.ok.inj hm
          have hbody := groups_of_meaning body hinner
          rwa [groups]
  | repetition body least most greedy extent =>
      rw [meaning] at h
      obtain ⟨inner, hinner, hm⟩ := bind_eq_ok h
      obtain rfl := Except.ok.inj hm
      rw [groups]
      exact (Regex.groups_repeated_sublist _ _ _ _).trans (groups_of_meaning body hinner)
  | sequence parts extent =>
      rw [meaning] at h
      obtain ⟨inner, hinner, hm⟩ := bind_eq_ok h
      obtain rfl := Except.ok.inj hm
      rw [groups, Regex.groups_catAll]
      exact groups_of_meaningsOf parts hinner
  | choice branches extent =>
      rw [meaning] at h
      obtain ⟨inner, hinner, hm⟩ := bind_eq_ok h
      obtain rfl := Except.ok.inj hm
      rw [groups]
      exact (Regex.groups_altAll_sublist _).trans (groups_of_meaningsOf branches hinner)

theorem groups_of_meaningsOf (parts : List Outline) {flags : Flags} {m : Meant (List Regex)}
    (h : meaningsOf flags parts = .ok m) :
    (m.value.flatMap Regex.groups).Sublist (groupsOf parts) := by
  cases parts with
  | nil =>
      rw [meaningsOf] at h
      obtain rfl := Except.ok.inj h
      exact List.nil_sublist _
  | cons part rest =>
      rw [meaningsOf] at h
      obtain ⟨first, hfirst, h⟩ := bind_eq_ok h
      obtain ⟨others, hothers, hm⟩ := bind_eq_ok h
      obtain rfl := Except.ok.inj hm
      rw [groupsOf, List.flatMap_cons]
      exact (groups_of_meaning part hfirst).append (groups_of_meaningsOf rest hothers)

end

end Outline

/-! ## Groups of what has been read -/

namespace Level

/-- The groups of a level, the last ones read first. -/
def groups (level : Level) : List Nat :=
  level.parts.flatMap Outline.groups ++ level.branches.flatMap Outline.groups

theorem groups_current (level : Level) (stop : Nat) :
    (level.current stop).groups.Perm (level.parts.flatMap Outline.groups) := by
  rw [current]
  split
  · next hparts => simp [hparts, Outline.groups]
  · next part hparts => simp [hparts]
  · rw [Outline.groups, Outline.groupsOf_eq_flatMap]
    exact (List.reverse_perm _).flatMap_right _

theorem groups_alternate (level : Level) (pos : Nat) :
    (level.alternate pos).groups.Perm level.groups := by
  rw [groups, alternate, List.flatMap_nil, List.nil_append, List.flatMap_cons]
  exact (groups_current level pos).append_right _

theorem groups_close (level : Level) (stop : Nat) :
    (level.close stop).groups.Perm level.groups := by
  rw [close]
  split
  · next hbranches =>
      rw [groups, hbranches, List.flatMap_nil, List.append_nil]
      exact groups_current level stop
  · rw [Outline.groups, Outline.groupsOf_eq_flatMap]
    refine ((List.reverse_perm _).flatMap_right _).trans ?_
    rw [List.flatMap_cons, groups]
    exact (groups_current level stop).append_right _

theorem groups_add (level : Level) (part : Outline) :
    (level.add part).groups = part.groups ++ level.groups := by
  rw [groups, add, List.flatMap_cons, List.append_assoc, groups]

end Level

/-- The groups of a group that is still open: its own and those of the level around it. -/
def OpenGroup.groups (g : OpenGroup) : List Nat := g.opening.groups ++ g.level.groups

namespace Reading

/-- The groups of what has been read. -/
def groups (r : Reading) : List Nat := r.level.groups ++ r.outer.flatMap OpenGroup.groups

/-- The groups read have the numbers up to their count, each once. -/
def Numbered (r : Reading) : Prop := r.groups.Perm (List.range' 1 r.groupCount)

/-- A step either keeps the groups or adds one with the next number. -/
inductive Goes (r r' : Reading) : Prop where
  | keeps (hgroups : r'.groups.Perm r.groups) (hcount : r'.groupCount = r.groupCount)
  | opens (hgroups : r'.groups.Perm (r.nextGroup :: r.groups))
      (hcount : r'.groupCount = r.nextGroup)

variable {r r' rest : Reading} {part : Outline} {pos start : Nat} {found : Found Reading}
  {src : Source}

theorem Numbered.goes (h : r.Numbered) (hgoes : Goes r r') : r'.Numbered := by
  rw [Numbered] at h ⊢
  cases hgoes with
  | keeps hgroups hcount => exact hcount ▸ hgroups.trans h
  | opens hgroups hcount =>
      rw [hcount, nextGroup, List.range'_concat, Nat.one_mul, Nat.add_comm 1]
      exact hgroups.trans ((h.cons _).trans (List.perm_append_singleton _ _).symm)

theorem groups_add (r : Reading) (part : Outline) :
    (r.add part).groups = part.groups ++ r.groups := by
  rw [groups, add, Level.groups_add, List.append_assoc, groups]

theorem goes_add (hpart : part.groups = []) : Goes r (r.add part) := by
  refine .keeps ?_ rfl
  rw [groups_add, hpart, List.nil_append]

theorem goes_closeGroup (h : r.closeGroup pos = .ok r') : Goes r r' := by
  rw [closeGroup] at h
  split at h
  · cases h
  · next g outer houter =>
      obtain rfl := Except.ok.inj h
      refine .keeps ?_ rfl
      have hinner := Level.groups_close r.level pos
      simp only [groups, houter, Level.groups_add, Outline.groups, List.flatMap_cons,
        OpenGroup.groups, List.append_assoc]
      refine List.perm_append_comm_assoc _ _ _ |>.trans ?_
      exact hinner.append_right _

theorem goes_repeat (h : r.takePart pos = .ok (part, rest)) (least : Nat) (most : Option Nat)
    (greedy : Bool) (stop : Nat) : Goes r (rest.addRepetition part least most greedy stop) := by
  rw [takePart] at h
  split at h
  · next last parts hparts =>
      split at h
      · obtain ⟨rfl, rfl⟩ := Prod.mk.inj (Except.ok.inj h)
        refine .keeps ?_ rfl
        simp [groups, addRepetition, add, Level.groups, Level.add, Outline.groups, hparts]
      · cases h
  · cases h

theorem groups_openGroup (r : Reading) (start pos : Nat) (opening : GroupOpening)
    (verbose : Bool) :
    (r.openGroup start pos opening verbose).groups = opening.groups ++ r.groups := by
  simp [groups, openGroup, Level.groups, Level.startingAt, OpenGroup.groups]

theorem goes_openNamed (h : openNamed src r start pos = .ok found) : Goes r found.value := by
  obtain ⟨name, -, h⟩ := bind_eq_ok h
  dsimp only at h
  split at h
  · cases h
  · obtain rfl := Except.ok.inj h
    exact .opens (List.Perm.of_eq (groups_openGroup r _ _ _ r.verbose)) rfl

theorem goes_openFlagged (h : openFlagged src r start pos = .ok found) : Goes r found.value := by
  rw [openFlagged] at h
  split at h
  · cases h
  · obtain ⟨items, -, h⟩ := bind_eq_ok h
    dsimp only at h
    split at h
    · obtain rfl := Except.ok.inj h
      exact .keeps (List.Perm.of_eq (groups_openGroup r _ _ _ _)) rfl
    · split at h
      · cases h
      · obtain rfl := Except.ok.inj h
        exact .keeps (List.Perm.of_eq (groups_add r (.flags _ _))) rfl

theorem goes_readOpening (h : readOpening src r start = .ok found) : Goes r found.value := by
  rw [readOpening] at h
  split at h
  · cases h
  · split at h
    · cases h
    · split at h
      · exact goes_openNamed h
      · split at h
        · exact goes_openNamed h
        · split at h
          · exact goes_openFlagged h
          · obtain rfl := Except.ok.inj h
            exact .opens (List.Perm.of_eq (groups_openGroup r _ _ _ r.verbose)) rfl

theorem goes_readSign {least : Nat} {most : Option Nat}
    (h : readSign src r pos least most = .ok found) : Goes r found.value := by
  obtain ⟨⟨part, rest⟩, htake, h⟩ := bind_eq_ok h
  obtain rfl := Except.ok.inj h
  exact goes_repeat htake _ _ _ _

theorem goes_readBraces (h : readBraces src r pos = .ok found) : Goes r found.value := by
  obtain ⟨⟨part, rest⟩, htake, h⟩ := bind_eq_ok h
  obtain ⟨counts, -, h⟩ := bind_eq_ok h
  dsimp only at h
  split at h
  · cases h
  · obtain rfl := Except.ok.inj h
    exact goes_repeat htake _ _ _ _

theorem goes_readItem {c : Char} (h : readItem src r pos c = .ok found) : Goes r found.value := by
  unfold readItem at h
  split at h
  case h_4 =>
    obtain ⟨item, -, h⟩ := bind_eq_ok h
    obtain rfl := Except.ok.inj h
    exact goes_add rfl
  all_goals
    obtain rfl := Except.ok.inj h
    exact goes_add rfl

/-- One step of the reading keeps the groups or opens one. -/
theorem goes_readStep {c : Char} (h : readStep src r pos c = .ok found) : Goes r found.value := by
  unfold readStep at h
  split at h
  · exact goes_readOpening h
  · obtain ⟨closed, hclosed, h⟩ := bind_eq_ok h
    obtain rfl := Except.ok.inj h
    exact goes_closeGroup hclosed
  · obtain rfl := Except.ok.inj h
    exact .keeps ((Level.groups_alternate r.level pos).append_right _) rfl
  · obtain ⟨outline, -, h⟩ := bind_eq_ok h
    obtain rfl := Except.ok.inj h
    exact goes_add rfl
  · exact goes_readSign h
  · exact goes_readSign h
  · exact goes_readSign h
  · exact goes_readBraces h
  · exact goes_readItem h

theorem numbered_readFrom {fuel : Nat} (hr : r.Numbered)
    (h : readFrom src fuel r pos = .ok found) : found.value.Numbered := by
  induction fuel generalizing r pos with
  | zero =>
      obtain rfl := Except.ok.inj h
      exact hr
  | succ fuel ih =>
      rw [readFrom] at h
      split at h
      · obtain rfl := Except.ok.inj h
        exact hr
      · obtain ⟨next, hstep, h⟩ := bind_eq_ok h
        exact ih (hr.goes (goes_readStep hstep)) h

end Reading

/-- A pattern that can be read has as many groups as were opened, and each has a number of its
own. -/
theorem groups_of_parse {source : String} {parsed : Parsed} (h : parse source = .ok parsed) :
    ∃ count, parsed.outline.groups.Perm (List.range' 1 count) := by
  obtain ⟨found, hread, h⟩ := bind_eq_ok h
  split at h
  · cases h
  · next houter =>
      obtain rfl := Except.ok.inj h
      have hstart : Reading.start.Numbered := List.Perm.refl _
      have hnumbered := Reading.numbered_readFrom hstart hread
      rw [Reading.Numbered, Reading.groups, houter, List.flatMap_nil, List.append_nil] at hnumbered
      exact ⟨_, (Level.groups_close _ _).trans hnumbered⟩

end PatternScan.Pattern

namespace PatternScan.CompiledPattern

/-- No two groups of a pattern's expression have one number. -/
theorem nodup_groups_of_expressionOf {source : String} {r : Pattern.Regex}
    {names : List Pattern.GroupName} (h : expressionOf source = .ok (r, names)) :
    r.groups.Nodup := by
  obtain ⟨parsed, hparsed, h⟩ := Pattern.bind_eq_ok h
  obtain ⟨-, -, h⟩ := Pattern.bind_eq_ok h
  obtain ⟨regex, hregex, h⟩ := Pattern.bind_eq_ok h
  obtain ⟨rfl, -⟩ := Prod.mk.inj (Except.ok.inj h)
  obtain ⟨m, hm, rfl⟩ := Pattern.map_eq_ok hregex
  obtain ⟨count, hgroups⟩ := Pattern.groups_of_parse hparsed
  have hnodup : parsed.outline.groups.Nodup := hgroups.nodup_iff.2 List.nodup_range'
  exact hnodup.sublist (Pattern.Outline.groups_of_meaning _ hm)

end PatternScan.CompiledPattern
