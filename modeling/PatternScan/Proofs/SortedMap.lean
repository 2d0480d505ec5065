import Mathlib.Data.List.Nodup
import PatternScan.SortedMap

/-!
# Sorted maps

Looking up a key after a binding gives the new value for that key and the old one for any
other, whether the entries are sorted or not. Binding keeps the entries in ascending order of
their keys, and a map in that order lists the bindings of all keys in turn.
-/

namespace PatternScan.SortedMap

variable {K V : Type} [Ord K]

/-- The keys stand in ascending order, each of them once. -/
def Ascending (m : SortedMap K V) : Prop :=
  m.entries.Pairwise fun a b => compare a.1 b.1 = .lt

instance (m : SortedMap K V) : Decidable m.Ascending :=
  inferInstanceAs (Decidable (m.entries.Pairwise fun a b => compare a.1 b.1 = .lt))

theorem ascending_empty : (empty : SortedMap K V).Ascending := .nil

theorem get?_empty (key : K) : (empty : SortedMap K V).get? key = none := rfl

theorem mem_insertEntry {key : K} {value : V} {e : K × V} {entries : List (K × V)}
    (h : e ∈ insertEntry key value entries) : e = (key, value) ∨ e ∈ entries := by
  induction entries with
  | nil => exact Or.inl (List.mem_singleton.1 h)
  | cons a rest ih =>
      rw [insertEntry] at h
      split at h
      · exact List.mem_cons.1 h
      · exact (List.mem_cons.1 h).imp_right (List.mem_cons_of_mem a)
      · rcases List.mem_cons.1 h with rfl | h
        · exact Or.inr List.mem_cons_self
        · exact (ih h).imp_right (List.mem_cons_of_mem a)

variable [Std.LawfulEqOrd K]

theorem compare_beq_eq [DecidableEq K] (a b : K) : (compare a b == .eq) = decide (a = b) := by
  rw [Bool.eq_iff_iff, beq_iff_eq, decide_eq_true_eq, Std.LawfulEqCmp.compare_eq_iff_eq]

/-- In an ascending map the binding of a key is its only entry. -/
theorem Ascending.get?_eq_some_iff {m : SortedMap K V} (h : m.Ascending) {key : K} {value : V} :
    m.get? key = some value ↔ (key, value) ∈ m.entries := by
  obtain ⟨entries⟩ := m
  change entries.Pairwise _ at h
  change (entries.find? _).map _ = _ ↔ (key, value) ∈ entries
  induction entries with
  | nil => simp
  | cons e rest ih =>
      obtain ⟨hfirst, hrest⟩ := List.pairwise_cons.1 h
      rw [List.find?_cons]
      split
      · next heq =>
          obtain rfl := Std.LawfulEqOrd.eq_of_compare (beq_iff_eq.1 heq)
          have hnot : (e.1, value) ∉ rest := fun hmem => by simpa using hfirst _ hmem
          simp [hnot, Prod.ext_iff, eq_comm]
      · next hne =>
          have hkey : key ≠ e.1 := fun heq => by simp [heq] at hne
          rw [ih hrest, List.mem_cons]
          simp [Prod.ext_iff, hkey]

section Lookup

variable [DecidableEq K]

/-- The entries of a key in an ascending map are its binding. -/
theorem Ascending.filterMap_key {m : SortedMap K V} (h : m.Ascending) (key : K) :
    m.entries.filterMap (fun e => if e.1 = key then some e.2 else none) =
      (m.get? key).toList := by
  obtain ⟨entries⟩ := m
  change entries.Pairwise _ at h
  change _ = ((entries.find? _).map _).toList
  simp only [compare_beq_eq]
  induction entries with
  | nil => rfl
  | cons e rest ih =>
      obtain ⟨hfirst, hrest⟩ := List.pairwise_cons.1 h
      by_cases hkey : key = e.1
      · subst hkey
        have hnone : rest.filterMap (fun a => if a.1 = e.1 then some a.2 else none) = [] := by
          refine List.filterMap_eq_nil_iff.2 fun a ha => if_neg fun heq => ?_
          simpa [heq] using hfirst a ha
        simp [hnone]
      · simpa [hkey, Ne.symm hkey] using ih hrest

/-- The keys are those that have a binding. -/
theorem mem_keys {m : SortedMap K V} {key : K} :
    key ∈ m.keys ↔ ∃ value, m.get? key = some value := by
  simp only [get?, compare_beq_eq, keys, List.mem_map, Option.map_eq_some_iff]
  constructor
  · rintro ⟨e, he, rfl⟩
    have hsome : (m.entries.find? fun a => decide (e.1 = a.1)).isSome = true :=
      List.find?_isSome.2 ⟨e, he, decide_eq_true rfl⟩
    obtain ⟨found, hfound⟩ := Option.isSome_iff_exists.1 hsome
    exact ⟨found.2, found, hfound, rfl⟩
  · rintro ⟨value, e, hfound, -⟩
    have hkey : key = e.1 := by simpa using List.find?_some hfound
    exact ⟨e, List.mem_of_find?_eq_some hfound, hkey.symm⟩

theorem find?_insertEntry (key other : K) (value : V) (entries : List (K × V)) :
    (insertEntry key value entries).find? (fun e => compare other e.1 == .eq) =
      if other = key then some (key, value)
      else entries.find? fun e => compare other e.1 == .eq := by
  simp only [compare_beq_eq]
  induction entries with
  | nil => by_cases h : other = key <;> simp [insertEntry, h]
  | cons e rest ih =>
      rw [insertEntry]
      split
      · by_cases h : other = key <;> simp [h]
      · next heq =>
          have hkey := Std.LawfulEqOrd.eq_of_compare heq
          by_cases h : other = key <;> simp [h, ← hkey]
      · next hgt =>
          have hne : key ≠ e.1 := fun h => by simp [h] at hgt
          rw [List.find?_cons, List.find?_cons, ih]
          by_cases h : other = key
          · simp [h, hne]
          · simp [h]

/-- A binding is seen at its key only. -/
theorem get?_insert (m : SortedMap K V) (key other : K) (value : V) :
    (m.insert key value).get? other = if other = key then some value else m.get? other := by
  rw [get?, insert, find?_insertEntry]
  split <;> rfl

theorem get?_update (m : SortedMap K V) (key other : K) (start : V) (change : V → V) :
    (m.update key start change).get? other =
      if other = key then some (change ((m.get? key).getD start)) else m.get? other :=
  get?_insert m key other _

end Lookup

section Order

variable [Std.TransOrd K]

/-- Binding a key keeps the order. -/
theorem Ascending.insert {m : SortedMap K V} (h : m.Ascending) (key : K) (value : V) :
    (m.insert key value).Ascending := by
  obtain ⟨entries⟩ := m
  change (insertEntry key value entries).Pairwise _
  change entries.Pairwise _ at h
  induction entries with
  | nil => exact List.pairwise_singleton _ _
  | cons a rest ih =>
      obtain ⟨hfirst, hrest⟩ := List.pairwise_cons.1 h
      rw [insertEntry]
      split
      · next hlt =>
          refine List.pairwise_cons.2 ⟨fun b hb => ?_, h⟩
          rcases List.mem_cons.1 hb with rfl | hb
          · exact hlt
          · exact Std.TransCmp.lt_trans hlt (hfirst b hb)
      · next heq =>
          obtain rfl := Std.LawfulEqOrd.eq_of_compare heq
          exact List.pairwise_cons.2 ⟨hfirst, hrest⟩
      · next hgt =>
          refine List.pairwise_cons.2 ⟨fun b hb => ?_, ih hrest⟩
          rcases mem_insertEntry hb with rfl | hb
          · exact Std.OrientedCmp.lt_of_gt hgt
          · exact hfirst b hb

/-- Ascending maps with the same bindings are the same map. -/
theorem Ascending.ext {m m' : SortedMap K V} (h : m.Ascending) (h' : m'.Ascending)
    (hget : ∀ key, m.get? key = m'.get? key) : m = m' := by
  have hnodup {n : SortedMap K V} (hn : n.Ascending) : n.entries.Nodup :=
    hn.imp fun hlt heq => by simp [heq] at hlt
  have hperm : m.entries.Perm m'.entries := by
    refine (List.perm_ext_iff_of_nodup (hnodup h) (hnodup h')).2 fun e => ?_
    obtain ⟨key, value⟩ := e
    rw [← h.get?_eq_some_iff, ← h'.get?_eq_some_iff, hget]
  have hentries : m.entries = m'.entries := by
    refine hperm.eq_of_pairwise (fun a b _ _ hab hba => ?_) h h'
    rw [Std.OrientedCmp.gt_of_lt hba] at hab
    cases hab
  obtain ⟨entries⟩ := m
  exact congrArg SortedMap.mk hentries

/-- An ascending map lists the bindings of all keys in their order. -/
theorem Ascending.entries_eq_filterMap {m : SortedMap K V} (h : m.Ascending) {all : List K}
    (hall : all.Pairwise fun a b => compare a b = .lt) (hmem : ∀ key, key ∈ all) :
    m.entries = all.filterMap fun key => (m.get? key).map fun value => (key, value) := by
  have hlisted : Ascending
      ⟨all.filterMap fun key => (m.get? key).map fun value => (key, value)⟩ := by
    refine List.pairwise_filterMap.2 (hall.imp fun hlt e he e' he' => ?_)
    obtain ⟨_, -, rfl⟩ := Option.map_eq_some_iff.1 he
    obtain ⟨_, -, rfl⟩ := Option.map_eq_some_iff.1 he'
    exact hlt
  refine congrArg SortedMap.entries (h.ext hlisted fun key => Option.ext fun value => ?_)
  rw [hlisted.get?_eq_some_iff, List.mem_filterMap]
  constructor
  · intro hvalue
    exact ⟨key, hmem key, by rw [hvalue]; rfl⟩
  · rintro ⟨other, -, hother⟩
    obtain ⟨_, hvalue, heq⟩ := Option.map_eq_some_iff.1 hother
    obtain ⟨rfl, rfl⟩ := Prod.mk.inj heq
    exact hvalue

/-! ## One map on top of another -/

/-- Binding the keys of a map keeps the order. -/
theorem Ascending.override {m : SortedMap K V} (h : m.Ascending) (later : SortedMap K V) :
    (m.override later).Ascending := by
  obtain ⟨entries⟩ := later
  change (entries.foldl (fun acc e => acc.insert e.1 e.2) m).Ascending
  induction entries generalizing m with
  | nil => exact h
  | cons e rest ih => exact ih (h.insert e.1 e.2)

omit [Std.TransOrd K] in
/-- A key has the binding of the later map, if it has one there. -/
theorem Ascending.get?_override [DecidableEq K] {later : SortedMap K V} (h : later.Ascending)
    (m : SortedMap K V) (key : K) :
    (m.override later).get? key = (later.get? key).or (m.get? key) := by
  obtain ⟨entries⟩ := later
  change entries.Pairwise _ at h
  change (entries.foldl (fun acc e => acc.insert e.1 e.2) m).get? key = _
  induction entries generalizing m with
  | nil => rfl
  | cons e rest ih =>
      obtain ⟨hfirst, hrest⟩ := List.pairwise_cons.1 h
      rw [List.foldl_cons, ih _ hrest, get?_insert]
      simp only [get?, compare_beq_eq]
      by_cases hkey : key = e.1
      · subst hkey
        have hnone : rest.find? (fun a => decide (e.1 = a.1)) = none := by
          refine List.find?_eq_none.2 fun a ha heq => ?_
          simpa [of_decide_eq_true heq] using hfirst a ha
        simp [hnone]
      · simp [hkey]

end Order

/-! ## Changed values -/

section MapValues

variable {W : Type} (f : V → W)

/-- The map with every value changed. -/
def mapValues (m : SortedMap K V) : SortedMap K W := ⟨m.entries.map fun e => (e.1, f e.2)⟩

omit [Std.LawfulEqOrd K] in
theorem get?_mapValues (m : SortedMap K V) (key : K) :
    (m.mapValues f).get? key = (m.get? key).map f := by
  rw [get?, mapValues, List.find?_map, Option.map_map, get?, Option.map_map]
  rfl

omit [Std.LawfulEqOrd K] in
theorem mapValues_insert (m : SortedMap K V) (key : K) (value : V) :
    (m.insert key value).mapValues f = (m.mapValues f).insert key (f value) := by
  obtain ⟨entries⟩ := m
  refine congrArg SortedMap.mk ?_
  change (insertEntry key value entries).map (fun e => (e.1, f e.2)) =
    insertEntry key (f value) (entries.map fun e => (e.1, f e.2))
  induction entries with
  | nil => rfl
  | cons e rest ih =>
      rw [insertEntry, List.map_cons, insertEntry]
      split
      · rfl
      · rfl
      · rw [List.map_cons, ih]

omit [Std.LawfulEqOrd K] in
theorem mapValues_override (m later : SortedMap K V) :
    (m.override later).mapValues f = (m.mapValues f).override (later.mapValues f) := by
  obtain ⟨entries⟩ := later
  change (entries.foldl (fun acc e => acc.insert e.1 e.2) m).mapValues f =
    (entries.map fun e => (e.1, f e.2)).foldl (fun acc e => acc.insert e.1 e.2) (m.mapValues f)
  induction entries generalizing m with
  | nil => rfl
  | cons e rest ih => rw [List.foldl_cons, ih, mapValues_insert, List.map_cons, List.foldl_cons]

end MapValues

end PatternScan.SortedMap
