import Mathlib.Data.List.Dedup
import Mathlib.Data.List.Induction
import Mathlib.Data.List.Perm.Basic
import PatternScan.Proofs.Analysis.Bisection

/-!
# The latest result of each record

Whatever is done to collected results, they stay in ascending order of their records, and of each
record there is the result that was put in last since the collection was cleared. Where no record
comes twice, the order in which results are put in leaves no trace.
-/

namespace PatternScan.Analysis.ResultSet

/-- What may be done to collected results. -/
inductive Change where
  | insert (r : RecordResult)
  | extend (batch : List RecordResult)
  | apply (n : Notification)
  | clear
  deriving DecidableEq

/-- The set after a change. -/
def change (set : ResultSet) : Change → ResultSet
  | .insert r => set.insert r
  | .extend batch => set.extend batch
  | .apply n => set.apply n
  | .clear => set.clear

/-- A set made for a request, or for all of them, after one change after another. -/
def ofChanges (request : Option RequestId) (changes : List Change) : ResultSet :=
  changes.foldl change (empty request)

/-- What has been put in after a change, where `log` was put in before it. -/
def Change.after (request : Option RequestId) (log : List RecordResult) :
    Change → List RecordResult
  | insert r => log ++ [r]
  | extend batch => log ++ batch
  | apply n => if request = none ∨ request = some n.request then log ++ n.batch else log
  | clear => []

/-- Everything put in since the last clearing, in its order. -/
def written (request : Option RequestId) (changes : List Change) : List RecordResult :=
  changes.foldl (Change.after request) []

/-- The last of the results that is of the record. -/
def latest? (log : List RecordResult) (id : RecordId) : Option RecordResult :=
  (log.filter fun r => r.id = id).getLast?

variable {request : Option RequestId} {set set' : ResultSet} {r : RecordResult}
  {rs rs' log log' batch : List RecordResult} {id : RecordId}

/-! ## The last result of a record -/

theorem latest?_append :
    latest? (log ++ batch) id = (latest? batch id).or (latest? log id) := by
  rw [latest?, List.filter_append, List.getLast?_append, latest?, latest?]

theorem latest?_singleton : latest? [r] id = if r.id = id then some r else none := by
  rw [latest?]
  split <;> simp [*]

theorem latest?_isSome : (latest? log id).isSome = true ↔ id ∈ log.map RecordResult.id := by
  rw [latest?, List.getLast?_isSome, List.mem_map, ← List.isEmpty_eq_false_iff,
    List.isEmpty_eq_false_iff_exists_mem]
  simp only [List.mem_filter, decide_eq_true_eq]

/-- Where no two results are of one record, their order does not matter. -/
theorem latest?_eq_of_perm (hperm : log.Perm log') (hdistinct : Distinct log) :
    latest? log id = latest? log' id := by
  have hfilter := hperm.filter fun r => r.id = id
  have hone : (log.filter fun r => r.id = id).Pairwise fun _ _ => False := by
    refine (hdistinct.filter _).imp_of_mem fun {a b} ha hb hne => hne ?_
    exact (of_decide_eq_true (List.mem_filter.1 ha).2).trans
      (of_decide_eq_true (List.mem_filter.1 hb).2).symm
  rw [latest?, latest?]
  generalize (log.filter fun r => r.id = id) = found at hfilter hone
  match found with
  | [] => rw [hfilter.nil_eq]
  | [r] => rw [List.perm_singleton.1 hfilter.symm]
  | r :: s :: rest => exact ((List.pairwise_cons.1 hone).1 s List.mem_cons_self).elim

/-! ## What a collection finds -/

theorem find?_insertSorted :
    (insertSorted r rs).find? (fun s => s.id = id) =
      if r.id = id then some r else rs.find? fun s => s.id = id := by
  induction rs with
  | nil => by_cases h : r.id = id <;> simp [insertSorted, h]
  | cons s rest ih =>
      rw [insertSorted]
      split
      · by_cases h : r.id = id <;> simp [h]
      · split
        · next heq => by_cases h : r.id = id <;> simp [h, ← heq]
        · next hne =>
            by_cases h : s.id = id
            · have hr : r.id ≠ id := fun hr => hne (hr.trans h.symm)
              simp [h, hr]
            · simp [h, ih]

theorem find?_insertAll :
    (insertAll rs batch).find? (fun s => s.id = id) =
      (latest? batch id).or (rs.find? fun s => s.id = id) := by
  induction batch generalizing rs with
  | nil => rfl
  | cons r rest ih =>
      have hrest : insertAll rs (r :: rest) = insertAll (insertSorted r rs) rest := rfl
      rw [hrest, ih, find?_insertSorted, ← List.singleton_append, latest?_append,
        latest?_singleton, Option.or_assoc]
      split <;> simp

/-- In ascending order, a result is there just if looking its record up finds it. -/
theorem Ascending.mem_iff (h : Ascending rs) :
    r ∈ rs ↔ rs.find? (fun s => s.id = r.id) = some r := by
  refine ⟨fun hr => ?_, List.mem_of_find?_eq_some⟩
  induction rs with
  | nil => cases hr
  | cons s rest ih =>
      obtain ⟨hfirst, hrest⟩ := List.pairwise_cons.1 h
      rcases List.mem_cons.1 hr with rfl | hr
      · simp
      · rw [List.find?_cons_of_neg (by simpa using Nat.ne_of_lt (hfirst r hr))]
        exact ih hrest hr

/-- Collections that find the same are the same. -/
theorem Ascending.ext (h : Ascending rs) (h' : Ascending rs')
    (hfind : ∀ id, rs.find? (fun s => s.id = id) = rs'.find? fun s => s.id = id) : rs = rs' := by
  have hnodup {rs : List RecordResult} (h : Ascending rs) : rs.Nodup :=
    h.imp fun hlt heq => Nat.ne_of_lt hlt (congrArg RecordResult.id heq)
  refine List.Perm.eq_of_pairwise (fun a b _ _ hab hba => absurd hab (Nat.lt_asymm hba)) h h'
    ((List.perm_ext_iff_of_nodup (hnodup h) (hnodup h')).2 fun r => ?_)
  rw [h.mem_iff, h'.mem_iff, hfind]

/-! ## Changes -/

/-- The set is in order, and finds of each record the last result in the log. -/
structure Holds (set : ResultSet) (log : List RecordResult) : Prop where
  ascending : Ascending set.results
  latest : ∀ id, set.get? id = latest? log id

theorem holds_empty (request : Option RequestId) : (empty request).Holds [] :=
  ⟨List.Pairwise.nil, fun _ => rfl⟩

theorem Holds.insertAll (h : set.Holds log)
    (hset : set'.results = ResultSet.insertAll set.results batch) :
    set'.Holds (log ++ batch) where
  ascending := hset ▸ ascending_insertAll h.ascending
  latest := by
    intro id
    rw [get?, hset, find?_insertAll, latest?_append, ← h.latest id]
    rfl

theorem accepts_iff {n : Notification} :
    set.accepts n = true ↔ set.request = none ∨ set.request = some n.request := by
  rw [accepts]
  cases set.request with
  | none => simp
  | some id => simp [eq_comm]

/-- A notification of another request changes nothing. -/
theorem apply_of_refuses {n : Notification} (h : set.accepts n = false) : set.apply n = set := by
  rw [apply, h]
  rfl

theorem request_change (set : ResultSet) (c : Change) : (set.change c).request = set.request := by
  cases c with
  | insert r => rfl
  | extend batch => rw [change, extend_eq]
  | apply n =>
      cases h : set.accepts n with
      | true => rw [change, apply_of_accepts h]
      | false => rw [change, apply_of_refuses h]
  | clear => rfl

theorem Holds.change (h : set.Holds log) (c : Change) :
    (set.change c).Holds (c.after set.request log) := by
  cases c with
  | insert r => exact h.insertAll rfl
  | extend batch => exact h.insertAll (congrArg results (extend_eq set batch))
  | apply n =>
      change (set.apply n).Holds (if set.request = none ∨ set.request = some n.request
        then log ++ n.batch else log)
      split
      · next haccepts =>
          exact h.insertAll (by rw [apply_of_accepts (accepts_iff.2 haccepts)])
      · next hrefuses =>
          rw [apply_of_refuses (Bool.eq_false_iff.2 fun h => hrefuses (accepts_iff.1 h))]
          exact h
  | clear => exact holds_empty set.request

theorem holds_foldl (h : set.Holds log) (changes : List Change) :
    (changes.foldl ResultSet.change set).Holds (changes.foldl (Change.after set.request) log) := by
  induction changes generalizing set log with
  | nil => exact h
  | cons c rest ih =>
      have hrest := ih (h.change c)
      rwa [request_change] at hrest

theorem holds_ofChanges (request : Option RequestId) (changes : List Change) :
    (ofChanges request changes).Holds (written request changes) :=
  holds_foldl (holds_empty request) changes

/-! ## Number, order and strangers -/

/-- Each record counts once. -/
theorem Holds.size_eq (h : set.Holds log) :
    set.size = (log.map RecordResult.id).dedup.length := by
  have hids : (set.results.map RecordResult.id).Nodup :=
    List.pairwise_map.2 (h.ascending.imp Nat.ne_of_lt)
  have hperm : (set.results.map RecordResult.id).Perm (log.map RecordResult.id).dedup := by
    refine (List.perm_ext_iff_of_nodup hids (List.nodup_dedup _)).2 fun id => ?_
    rw [List.mem_dedup]
    refine Iff.trans ?_ latest?_isSome
    rw [← h.latest id, get?, List.find?_isSome, List.mem_map]
    simp only [decide_eq_true_eq]
  rw [size, ← hperm.length_eq, List.length_map]

/-- As long as nothing is forgotten, what is put in comes behind what was there before. -/
theorem foldl_after (changes : List Change) (hclear : Change.clear ∉ changes) :
    changes.foldl (Change.after request) log = log ++ written request changes := by
  induction changes using List.reverseRecOn with
  | nil => exact (List.append_nil log).symm
  | append_singleton changes c ih =>
      have hrest := ih fun h => hclear (List.mem_append_left _ h)
      rw [written, List.foldl_append, List.foldl_append, hrest, ← written]
      cases c with
      | clear => exact absurd (List.mem_append_right _ List.mem_cons_self) hclear
      | apply n =>
          simp only [List.foldl_cons, List.foldl_nil, Change.after]
          split
          · exact List.append_assoc ..
          · rfl
      | _ => exact List.append_assoc ..

/-- Different results of one record each lead to the same collection in whatever order. -/
theorem Holds.results_eq_of_perm (h : set.Holds log) {later later' : List Change}
    (hclear : Change.clear ∉ later) (hclear' : Change.clear ∉ later')
    (hperm : (written set.request later).Perm (written set.request later'))
    (hdistinct : Distinct (written set.request later)) :
    (later.foldl ResultSet.change set).results = (later'.foldl ResultSet.change set).results := by
  have hlater := holds_foldl h later
  have hlater' := holds_foldl h later'
  refine hlater.ascending.ext hlater'.ascending fun id => ?_
  have hget := hlater.latest id
  have hget' := hlater'.latest id
  rw [foldl_after later hclear, latest?_append, latest?_eq_of_perm hperm hdistinct] at hget
  rw [foldl_after later' hclear', latest?_append] at hget'
  exact hget.trans hget'.symm

theorem request_foldl (changes : List Change) :
    (changes.foldl change set).request = set.request := by
  induction changes generalizing set with
  | nil => rfl
  | cons c rest ih => exact ih.trans (request_change set c)

/-- A set made for one request, or for all of them, is at all times the map of the results put in
last since it was cleared, listed in ascending order: a look-up by bisection finds just those, and
an insertion by bisection is an insertion into the map. Results of different records may be put in
in any order, and a notification of a request that the set is not made for is refused and changes
nothing. -/
theorem ofChanges_is_latest_map (request : Option RequestId) (changes : List Change) :
    Ascending (ofChanges request changes).results ∧
      (∀ id, (ofChanges request changes).get? id = latest? (written request changes) id ∧
        (place (ofChanges request changes).results id).read? (ofChanges request changes).results =
          latest? (written request changes) id) ∧
      (∀ r, ((ofChanges request changes).insert r).results =
        (place (ofChanges request changes).results r.id).put
          (ofChanges request changes).results r) ∧
      (∀ r, r ∈ (ofChanges request changes).results ↔
        latest? (written request changes) r.id = some r) ∧
      (ofChanges request changes).size =
        ((written request changes).map RecordResult.id).dedup.length ∧
      (∀ later later', Change.clear ∉ later → Change.clear ∉ later' →
        (written request later).Perm (written request later') →
        Distinct (written request later) →
        (later.foldl change (ofChanges request changes)).results =
          (later'.foldl change (ofChanges request changes)).results) ∧
      ∀ id n, request = some id → n.request ≠ id →
        (ofChanges request changes).accepts n = false ∧
          (ofChanges request changes).apply n = ofChanges request changes := by
  have h := holds_ofChanges request changes
  have hrequest : (ofChanges request changes).request = request := request_foldl changes
  refine ⟨h.ascending, fun id => ⟨h.latest id, ?_⟩, fun r => h.ascending.insertSorted_eq_put,
    fun r => ?_, h.size_eq, fun later later' hclear hclear' hperm hdistinct => ?_,
    fun id n hid hn => ?_⟩
  · rw [← h.ascending.find?_eq_read?, ← h.latest id, get?]
  · rw [h.ascending.mem_iff, ← h.latest r.id, get?]
  · rw [← hrequest] at hperm hdistinct
    exact h.results_eq_of_perm hclear hclear' hperm hdistinct
  · have hrefuses : (ofChanges request changes).accepts n = false := by
      rw [accepts, hrequest, hid]
      exact decide_eq_false hn
    exact ⟨hrefuses, apply_of_refuses hrefuses⟩

/-- A result of a record, told from others by its size. -/
def sized (id size : Nat) : RecordResult := { (default : RecordResult) with id, size }

/-- Two records are put in twice, and one of them once more among the later results. -/
def replacing : List Change :=
  [.insert (sized 7 0), .clear, .insert (sized 9 0), .extend [sized 4 0, sized 9 1],
    .apply (.progress 2 50 [sized 4 1, sized 1 0])]

theorem ofChanges_is_latest_map_replacing :
    (ofChanges (some 2) replacing).get? 9 = some (sized 9 1) ∧
      (ofChanges (some 2) replacing).get? 7 = none ∧
      (ofChanges (some 2) replacing).size = 3 ∧
      ([.insert (sized 9 2), .apply (.progress 2 60 [sized 3 0])].foldl change
          (ofChanges (some 2) replacing)).results =
        ([.extend [sized 3 0, sized 9 2]].foldl change (ofChanges (some 2) replacing)).results ∧
      (ofChanges (some 2) replacing).accepts (.successful 1) = false ∧
      (ofChanges (some 2) replacing).apply (.successful 1) = ofChanges (some 2) replacing := by
  obtain ⟨-, hget, -, -, hsize, horder, hforeign⟩ := ofChanges_is_latest_map (some 2) replacing
  exact ⟨(hget 9).1.trans (by decide), (hget 7).1.trans (by decide), hsize.trans (by decide),
    horder _ _ (by decide) (by decide) (by decide) (by simp +decide [Distinct]),
    hforeign 2 _ rfl (by decide)⟩

end PatternScan.Analysis.ResultSet
