import PatternScan.Proofs.Analysis.ResultSet

/-!
# Places by bisection

A record's place among results in ascending order is found by halving the stretch in which it can
be. What a collection finds, and what it becomes when a result is put into it, is what the place
found in this way says. Among results out of order it may be no place at all.
-/

namespace PatternScan.Analysis.ResultSet

/-- Where the result of a record is, or where it would have to be put. -/
inductive Place where
  | taken (i : Nat)
  | vacant (i : Nat)
  deriving DecidableEq

namespace Place

/-- The result that is there. -/
def read? (rs : List RecordResult) : Place → Option RecordResult
  | taken i => rs[i]?
  | vacant _ => none

/-- The results with another one there. -/
def put (rs : List RecordResult) (r : RecordResult) : Place → List RecordResult
  | taken i => rs.set i r
  | vacant i => rs.take i ++ r :: rs.drop i

/-- The place is the record's: its result is there, or what is before it and what is behind it
are of smaller and of greater numbers. -/
def Fits (rs : List RecordResult) (id : RecordId) : Place → Prop
  | taken i => ∃ before s after, rs = before ++ s :: after ∧ before.length = i ∧ s.id = id
  | vacant i => ∃ before after, rs = before ++ after ∧ before.length = i ∧
      (∀ s ∈ before, s.id < id) ∧ ∀ s ∈ after, id < s.id

end Place

/-- The place of a record among the results from `lo` on and before `hi`. -/
def bisect (rs : List RecordResult) (id : RecordId) (lo hi : Nat) : Place :=
  if lo < hi then
    let mid := (lo + hi) / 2
    match rs[mid]? with
    | some s =>
        if s.id = id then .taken mid
        else if s.id < id then bisect rs id (mid + 1) hi
        else bisect rs id lo mid
    | none => .vacant lo
  else .vacant lo
termination_by hi - lo

/-- The place of a record among all results. -/
def place (rs : List RecordResult) (id : RecordId) : Place := bisect rs id 0 rs.length

variable {rs before after : List RecordResult} {id : RecordId} {r s : RecordResult} {lo hi : Nat}

/-! ## The search -/

/-- Everything up to a result is of numbers no greater. -/
theorem Ascending.lt_of_mem_take (h : Ascending rs) {mid : Nat} (hs : rs[mid]? = some s)
    (hid : s.id < id) : ∀ x ∈ rs.take (mid + 1), x.id < id := by
  intro x hx
  rw [List.take_add_one, hs, Option.toList_some, List.mem_append, List.mem_singleton] at hx
  rcases hx with hx | rfl
  · obtain ⟨hmid, rfl⟩ := List.getElem?_eq_some_iff.1 hs
    rw [← List.take_append_drop mid rs, List.drop_eq_getElem_cons hmid] at h
    exact Nat.lt_trans ((List.pairwise_append.1 h).2.2 x hx _ List.mem_cons_self) hid
  · exact hid

theorem Ascending.lt_of_mem_drop (h : Ascending rs) {mid : Nat} (hs : rs[mid]? = some s)
    (hid : id < s.id) : ∀ x ∈ rs.drop mid, id < x.id := by
  obtain ⟨hmid, rfl⟩ := List.getElem?_eq_some_iff.1 hs
  intro x hx
  have hdrop : Ascending (rs.drop mid) := h.sublist (List.drop_sublist mid rs)
  rw [List.drop_eq_getElem_cons hmid] at hx hdrop
  rcases List.mem_cons.1 hx with rfl | hx
  · exact hid
  · exact Nat.lt_trans hid ((List.pairwise_cons.1 hdrop).1 x hx)

/-- As long as the place is between the bounds, halving finds it. -/
theorem fits_bisect (h : Ascending rs) (hbounds : lo ≤ hi) (hhi : hi ≤ rs.length)
    (hbelow : ∀ s ∈ rs.take lo, s.id < id) (habove : ∀ s ∈ rs.drop hi, id < s.id) :
    (bisect rs id lo hi).Fits rs id := by
  induction lo, hi using bisect.induct rs id with
  | case1 lo hi hlt mid s hs hid =>
      rw [bisect, if_pos hlt]
      simp only [mid] at hs
      simp only [hs, if_pos hid]
      obtain ⟨hmid, rfl⟩ := List.getElem?_eq_some_iff.1 hs
      exact ⟨rs.take mid, _, rs.drop (mid + 1), by simp [mid], by simp [mid]; omega, hid⟩
  | case2 lo hi hlt mid s hs hne hid ih =>
      rw [bisect, if_pos hlt]
      simp only [mid] at hs ih
      simp only [hs, if_neg hne, if_pos hid]
      exact ih (by omega) hhi (h.lt_of_mem_take hs hid) habove
  | case3 lo hi hlt mid s hs hne hid ih =>
      rw [bisect, if_pos hlt]
      simp only [mid] at hs ih
      simp only [hs, if_neg hne, if_neg hid]
      exact ih (by omega) (by omega) hbelow
        (h.lt_of_mem_drop hs (Nat.lt_of_le_of_ne (Nat.not_lt.1 hid) (Ne.symm hne)))
  | case4 lo hi hlt mid hs =>
      have hmid := List.getElem?_eq_none_iff.1 hs
      exact absurd hmid (by simp only [mid]; omega)
  | case5 lo hi hlt =>
      obtain rfl : lo = hi := by omega
      rw [bisect, if_neg hlt]
      exact ⟨rs.take lo, rs.drop lo, (List.take_append_drop lo rs).symm,
        List.length_take_of_le hhi, hbelow, habove⟩

theorem fits_place (h : Ascending rs) : (place rs id).Fits rs id :=
  fits_bisect h (Nat.zero_le _) (Nat.le_refl _) (by simp) (by simp)

/-! ## Reading and writing at the place -/

theorem insertSorted_append (h : ∀ s ∈ before, s.id < r.id) :
    insertSorted r (before ++ after) = before ++ insertSorted r after := by
  induction before with
  | nil => rfl
  | cons s rest ih =>
      have hs := h s List.mem_cons_self
      rw [List.cons_append, insertSorted, if_neg (Nat.lt_asymm hs), if_neg (Nat.ne_of_gt hs),
        ih fun x hx => h x (List.mem_cons_of_mem s hx), List.cons_append]

/-- A collection in order finds a record where its place is. -/
theorem Ascending.find?_eq_read? (h : Ascending rs) :
    (rs.find? fun s => s.id = id) = (place rs id).read? rs := by
  have hfits : (place rs id).Fits rs id := fits_place h
  match hplace : place rs id with
  | .taken i =>
      rw [hplace] at hfits
      obtain ⟨before, s, after, rfl, rfl, hid⟩ := hfits
      have hbefore : ∀ x ∈ before, (decide (x.id = id)) = false := fun x hx =>
        decide_eq_false (hid ▸ Nat.ne_of_lt
          ((List.pairwise_append.1 h).2.2 x hx s List.mem_cons_self))
      rw [List.find?_append, List.find?_eq_none.2 fun x hx => by simp [hbefore x hx]]
      simp [Place.read?, hid]
  | .vacant i =>
      rw [hplace] at hfits
      obtain ⟨before, after, rfl, -, hbefore, hafter⟩ := hfits
      refine List.find?_eq_none.2 fun x hx => ?_
      rcases List.mem_append.1 hx with hx | hx
      · simpa using Nat.ne_of_lt (hbefore x hx)
      · simpa using Nat.ne_of_gt (hafter x hx)

/-- A result is put where its record's place is. -/
theorem Ascending.insertSorted_eq_put (h : Ascending rs) :
    insertSorted r rs = (place rs r.id).put rs r := by
  have hfits : (place rs r.id).Fits rs r.id := fits_place h
  match hplace : place rs r.id with
  | .taken i =>
      rw [hplace] at hfits
      obtain ⟨before, s, after, rfl, rfl, hid⟩ := hfits
      have hbefore : ∀ x ∈ before, x.id < r.id := fun x hx =>
        hid ▸ (List.pairwise_append.1 h).2.2 x hx s List.mem_cons_self
      rw [insertSorted_append hbefore, insertSorted, if_neg (Nat.not_lt.2 (Nat.le_of_eq hid)),
        if_pos hid.symm]
      simp [Place.put]
  | .vacant i =>
      rw [hplace] at hfits
      obtain ⟨before, after, rfl, rfl, hbefore, hafter⟩ := hfits
      have hput : insertSorted r after = r :: after := by
        cases after with
        | nil => rfl
        | cons s rest => rw [insertSorted, if_pos (hafter s List.mem_cons_self)]
      rw [insertSorted_append hbefore, hput, Place.put, List.take_left, List.drop_left]

end PatternScan.Analysis.ResultSet
