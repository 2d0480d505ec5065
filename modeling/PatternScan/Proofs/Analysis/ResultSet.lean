import PatternScan.Analysis.ResultSet

/-!
# Sorted collections

Collected results stay strictly ascending by record number. Where no two results are of one
record, none takes the place of another: the collection then holds what was put into it,
sorted, and the order in which batches arrive does not matter.
-/

namespace PatternScan.Analysis.ResultSet

/-- The results are in strictly ascending order of their record numbers. -/
def Ascending (rs : List RecordResult) : Prop := rs.Pairwise fun a b => a.id < b.id

/-- No two results are of one record. -/
def Distinct (rs : List RecordResult) : Prop := rs.Pairwise fun a b => a.id ≠ b.id

/-- Puts results at their places, one after another. -/
def insertAll (rs batch : List RecordResult) : List RecordResult :=
  batch.foldl (fun rs r => insertSorted r rs) rs

variable {r : RecordResult} {rs batch : List RecordResult}

/-! ## Insertion -/

theorem mem_insertSorted {x : RecordResult} (h : x ∈ insertSorted r rs) : x = r ∨ x ∈ rs := by
  induction rs with
  | nil => exact .inl (List.mem_singleton.1 h)
  | cons s rest ih =>
      rw [insertSorted] at h
      split at h
      · exact List.mem_cons.1 h
      · split at h
        · rcases List.mem_cons.1 h with hr | hrest
          · exact .inl hr
          · exact .inr (List.mem_cons_of_mem s hrest)
        · rcases List.mem_cons.1 h with rfl | hrest
          · exact .inr List.mem_cons_self
          · rcases ih hrest with hr | hrest
            · exact .inl hr
            · exact .inr (List.mem_cons_of_mem s hrest)

/-- Insertion keeps results in strictly ascending order. -/
theorem ascending_insertSorted (h : Ascending rs) : Ascending (insertSorted r rs) := by
  induction rs with
  | nil => exact List.pairwise_singleton _ r
  | cons s rest ih =>
      obtain ⟨hfirst, hrest⟩ := List.pairwise_cons.1 h
      rw [insertSorted]
      split
      · next hlt =>
          refine List.pairwise_cons.2 ⟨fun x hx => ?_, h⟩
          rcases List.mem_cons.1 hx with rfl | hx
          · exact hlt
          · exact Nat.lt_trans hlt (hfirst x hx)
      · split
        · next heq => exact List.pairwise_cons.2 ⟨fun x hx => heq ▸ hfirst x hx, hrest⟩
        · next hlt hne =>
            refine List.pairwise_cons.2 ⟨fun x hx => ?_, ih hrest⟩
            rcases mem_insertSorted hx with rfl | hx
            · exact Nat.lt_of_le_of_ne (Nat.not_lt.1 hlt) (Ne.symm hne)
            · exact hfirst x hx

/-- A result of a record that is not there yet is added to the others. -/
theorem insertSorted_perm (h : ∀ s ∈ rs, r.id ≠ s.id) : (insertSorted r rs).Perm (r :: rs) := by
  induction rs with
  | nil => exact List.Perm.refl _
  | cons s rest ih =>
      rw [insertSorted]
      split
      · exact List.Perm.refl _
      · -- No record is met twice, so nothing is replaced.
        rw [if_neg (h s List.mem_cons_self)]
        exact ((ih fun x hx => h x (List.mem_cons_of_mem s hx)).cons s).trans
          (List.Perm.swap r s rest)

theorem ascending_insertAll (h : Ascending rs) : Ascending (insertAll rs batch) := by
  induction batch generalizing rs with
  | nil => exact h
  | cons r rest ih => exact ih (ascending_insertSorted h)

theorem insertAll_perm (h : Distinct (rs ++ batch)) : (insertAll rs batch).Perm (rs ++ batch) := by
  induction batch generalizing rs with
  | nil => rw [List.append_nil, insertAll, List.foldl_nil]
  | cons r rest ih =>
      have hsymm : ∀ {a b : RecordResult}, a.id ≠ b.id → b.id ≠ a.id := Ne.symm
      have hmiddle : (rs ++ r :: rest).Perm (r :: rs ++ rest) := List.perm_middle
      have hnew : ∀ s ∈ rs, r.id ≠ s.id := fun s hs =>
        Ne.symm ((List.pairwise_append.1 h).2.2 s hs r List.mem_cons_self)
      have hfirst := insertSorted_perm hnew
      have hdistinct : Distinct (insertSorted r rs ++ rest) :=
        (h.perm (hmiddle.trans (hfirst.symm.append_right rest)) hsymm)
      exact (ih hdistinct).trans ((hfirst.append_right rest).trans hmiddle.symm)

/-- Results of different records, put in one after another, come out sorted. -/
theorem insertAll_nil_eq_mergeSort {expected : List RecordResult} (hperm : batch.Perm expected)
    (hdistinct : Distinct expected) :
    insertAll [] batch = expected.mergeSort fun a b => a.id ≤ b.id := by
  have hsymm : ∀ {a b : RecordResult}, a.id ≠ b.id → b.id ≠ a.id := Ne.symm
  have hbatch : Distinct batch := hdistinct.perm hperm.symm hsymm
  have hinsert : (insertAll [] batch).Perm ([] ++ batch) := insertAll_perm hbatch
  have hascending : Ascending (insertAll [] batch) := ascending_insertAll List.Pairwise.nil
  have hsort : (expected.mergeSort fun a b => a.id ≤ b.id).Perm expected :=
    List.mergeSort_perm expected _
  have hsorted : (expected.mergeSort fun a b => a.id ≤ b.id).Pairwise fun a b => a.id ≤ b.id := by
    have h := @List.pairwise_mergeSort RecordResult (fun a b => decide (a.id ≤ b.id))
      (fun a b c hab hbc =>
        decide_eq_true (Nat.le_trans (of_decide_eq_true hab) (of_decide_eq_true hbc)))
      (fun a b => by simpa using Nat.le_total a.id b.id) expected
    exact h.imp fun hab => of_decide_eq_true hab
  have hstrict : Ascending (expected.mergeSort fun a b => a.id ≤ b.id) :=
    (hsorted.and (hdistinct.perm hsort.symm hsymm)).imp fun h => Nat.lt_of_le_of_ne h.1 h.2
  refine List.Perm.eq_of_pairwise (fun a b _ _ hab hba => ?_) hascending hstrict
    ((hinsert.trans hperm).trans hsort.symm)
  exact absurd hab (Nat.lt_asymm hba)

/-! ## Notifications taken in -/

theorem extend_eq (set : ResultSet) (batch : List RecordResult) :
    set.extend batch = { set with results := insertAll set.results batch } := by
  induction batch generalizing set with
  | nil => rfl
  | cons r rest ih => exact ih (set.insert r)

theorem apply_of_accepts {set : ResultSet} {n : Notification} (h : set.accepts n = true) :
    set.apply n =
      { set with
        results := insertAll set.results n.batch
        percent := n.percent
        state := some n.state
        duplicateRole := set.duplicateRole || n.duplicateRole
        error := n.error <|> set.error } := by
  rw [apply, if_pos h, extend_eq]

/-- Further results are added, and nothing else but the percentage and the state changes. -/
theorem foldl_apply_progress {id : RequestId} (set : ResultSet) {ns : List Notification}
    (hset : set.request = some id) (hns : ∀ n ∈ ns, n = .progress id n.percent n.batch) :
    ∃ percent state, ns.foldl apply set =
      { set with
        results := insertAll set.results (ns.flatMap Notification.batch)
        percent
        state
        duplicateRole := set.duplicateRole ||
          (ns.flatMap Notification.batch).any RecordResult.hasDuplicateRole } := by
  induction ns generalizing set with
  | nil => exact ⟨set.percent, set.state, by simp [insertAll]⟩
  | cons n rest ih =>
      have hn := hns n List.mem_cons_self
      have haccepts : set.accepts n = true := by
        rw [hn, accepts, hset]
        simp [Notification.progress]
      have hset' : (set.apply n).request = some id := by rw [apply_of_accepts haccepts]; exact hset
      obtain ⟨percent, state, hrest⟩ :=
        ih (set.apply n) hset' fun m hm => hns m (List.mem_cons_of_mem n hm)
      refine ⟨percent, state, ?_⟩
      have hduplicate : n.duplicateRole = n.batch.any RecordResult.hasDuplicateRole :=
        congrArg Notification.duplicateRole hn
      have herror : n.error = none := congrArg Notification.error hn
      rw [List.foldl_cons, hrest, apply_of_accepts haccepts, hduplicate, herror]
      simp [insertAll, List.foldl_append, Bool.or_assoc]

/-- Notifications of other requests change nothing. -/
theorem foldl_apply_eq_filter {id : RequestId} {set : ResultSet} (ns : List Notification)
    (hset : set.request = some id) :
    ns.foldl apply set = (ns.filter fun n => n.request = id).foldl apply set := by
  induction ns generalizing set with
  | nil => rfl
  | cons n rest ih =>
      by_cases h : n.request = id
      · have haccepts : set.accepts n = true := by simp [accepts, hset, h]
        have hset' : (set.apply n).request = some id := by
          rw [apply_of_accepts haccepts]
          exact hset
        rw [List.filter_cons_of_pos (by simpa using h), List.foldl_cons, List.foldl_cons,
          ih hset']
      · have hrefuses : set.accepts n = false := by simp [accepts, hset, h]
        have hsame : set.apply n = set := by
          rw [apply, hrefuses]
          rfl
        rw [List.filter_cons_of_neg (by simpa using h), List.foldl_cons, hsame, ih hset]

/-- A set that has taken in all notifications of a request that ended well holds the results
of its batches. -/
theorem foldl_apply_of_successful {id : RequestId} {ns : List Notification}
    (hns : ∀ n ∈ ns, n = .progress id n.percent n.batch) :
    (ns ++ [Notification.successful id]).foldl apply (empty (some id)) =
      ⟨some id, insertAll [] (ns.flatMap Notification.batch), 100, some .successful,
        (ns.flatMap Notification.batch).any RecordResult.hasDuplicateRole, none⟩ := by
  obtain ⟨percent, state, hset⟩ := foldl_apply_progress (empty (some id)) rfl hns
  rw [List.foldl_append, hset, List.foldl_cons, List.foldl_nil, apply_of_accepts]
  · simp [Notification.successful, insertAll, empty]
  · simp [accepts, empty, Notification.successful]

end PatternScan.Analysis.ResultSet
