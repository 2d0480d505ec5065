import PatternScan.Source.Memory

/-!
# Positions of filtered records

A record in memory keeps the number of the place at which it was added. A filter lists the
numbers asked for in ascending order, each once, so the positions in sight and the numbers of
their records are in the same order, and a range of numbers is a range of positions. A number
that is asked for takes a position even where no record has it; such positions come last.
-/

namespace PatternScan

open Analysis (ScanRange)

namespace MemorySource

/-! ## Ascending numbers -/

variable {ids : List RecordId}

theorem mem_dropRepeats {id : RecordId} : id ∈ dropRepeats ids ↔ id ∈ ids := by
  fun_induction dropRepeats ids with
  | case1 a rest ih => simp [ih]
  | case2 a b rest hne ih => rw [List.mem_cons, ih, List.mem_cons (b := a)]
  | case3 ids hshort => rfl

/-- Of ascending numbers, those without repetitions ascend strictly. -/
theorem pairwise_dropRepeats (h : ids.Pairwise (· ≤ ·)) : (dropRepeats ids).Pairwise (· < ·) := by
  fun_induction dropRepeats ids with
  | case1 a rest ih => exact ih h.of_cons
  | case2 a b rest hne ih =>
      refine List.pairwise_cons.2 ⟨fun id hid => ?_, ih h.of_cons⟩
      have hab : a ≤ b := List.rel_of_pairwise_cons h List.mem_cons_self
      rcases List.mem_cons.1 (mem_dropRepeats.1 hid) with rfl | hid
      · exact Nat.lt_of_le_of_ne hab hne
      · have hbid : b ≤ id := List.rel_of_pairwise_cons h.of_cons hid
        exact Nat.lt_of_lt_of_le (Nat.lt_of_le_of_ne hab hne) hbid
  | case3 ids hshort =>
      match ids with
      | [] => exact List.Pairwise.nil
      | [a] => exact List.pairwise_singleton _ a
      | a :: b :: rest => exact (hshort a b rest rfl).elim

/-- The numbers that a filter keeps of those asked for. -/
def ascending (ids : List RecordId) : List RecordId := dropRepeats (ids.mergeSort (· ≤ ·))

theorem mem_ascending {id : RecordId} : id ∈ ascending ids ↔ id ∈ ids := by
  rw [ascending, mem_dropRepeats, List.mem_mergeSort]

theorem pairwise_ascending (ids : List RecordId) : (ascending ids).Pairwise (· < ·) := by
  have hsorted : (ids.mergeSort (· ≤ ·)).Pairwise fun a b => decide (a ≤ b) :=
    List.pairwise_mergeSort (by simpa using fun a b c => Nat.le_trans)
      (by simpa using Nat.le_total) ids
  exact pairwise_dropRepeats (hsorted.imp fun hle => of_decide_eq_true hle)

/-- No other list of these numbers ascends strictly. -/
theorem ascending_eq {l : List RecordId} (hl : l.Pairwise (· < ·)) (hids : ∀ id ∈ ids, id ∈ l)
    (hall : ∀ id ∈ l, id ∈ ids) : ascending ids = l := by
  have hnodup := (pairwise_ascending ids).imp fun hlt => Nat.ne_of_lt hlt
  have hperm : (ascending ids).Perm l :=
    (List.perm_ext_iff_of_nodup hnodup (hl.imp fun hlt => Nat.ne_of_lt hlt)).2 fun id =>
      ⟨fun h => hids id (mem_ascending.1 h), fun h => mem_ascending.2 (hall id h)⟩
  exact hperm.eq_of_pairwise (fun _ _ _ _ hlt hlt' => absurd hlt (Nat.lt_asymm hlt'))
    (pairwise_ascending ids) hl

/-- Among ascending numbers, those below a bound come first. -/
theorem countBelow_le_iff (h : ids.Pairwise (· < ·)) (bound : RecordId) {p : Nat}
    (hp : p < ids.length) : countBelow ids bound ≤ p ↔ bound ≤ ids[p] := by
  induction ids generalizing p with
  | nil => cases hp
  | cons id rest ih =>
      by_cases hbelow : id < bound
      · rw [countBelow, List.takeWhile_cons_of_pos (by simpa using hbelow), List.length_cons]
        cases p with
        | zero => simpa using hbelow
        | succ p => simpa [countBelow] using ih h.of_cons (Nat.lt_of_succ_lt_succ hp)
      · rw [countBelow, List.takeWhile_cons_of_neg (by simpa using hbelow)]
        have hfirst : id ≤ (id :: rest)[p] := by
          cases p with
          | zero => exact Nat.le_refl _
          | succ p => exact Nat.le_of_lt (List.rel_of_pairwise_cons h (List.getElem_mem _))
        simp only [List.length_nil, Nat.zero_le, true_iff]
        exact Nat.le_trans (Nat.not_lt.1 hbelow) hfirst

/-! ## What is done to records in memory -/

/-- A record is added, or a filter is set or taken away. -/
inductive Change where
  | push (record : Record)
  | pushLine (line : String)
  | setFilter (ids : Option (List RecordId))

namespace Change

/-- The record that is added, whatever number it comes with. -/
def added? : Change → Option Record
  | push record => some record
  | pushLine line => some (Record.ofText 0 line)
  | setFilter _ => none

/-- The numbers that the filter asks for, once the change is made. -/
def askedAfter (asked : Option (List RecordId)) : Change → Option (List RecordId)
  | setFilter ids => ids
  | _ => asked

end Change

/-- Makes a change. -/
def change (s : MemorySource) : Change → MemorySource
  | .push record => s.push record
  | .pushLine line => s.pushLine line
  | .setFilter ids => s.setFilter ids

/-- A source that is begun with lines and then changed. -/
def ofChanges (lines : List String) (changes : List Change) : MemorySource :=
  changes.foldl change (ofLines lines)

/-- The records that are handed in, in this order. -/
def handedIn (lines : List String) (changes : List Change) : List Record :=
  lines.map (Record.ofText 0) ++ changes.filterMap Change.added?

/-- The numbers that the filter last set asks for. -/
def asked (changes : List Change) : Option (List RecordId) :=
  changes.foldl Change.askedAfter none

/-- The records as they are stored, each with the number of its place. -/
def numbered (records : List Record) : List Record := records.mapIdx fun id r => { r with id }

theorem length_numbered (records : List Record) : (numbered records).length = records.length :=
  List.length_mapIdx

/-- The source keeps the records handed in and the numbers asked for. -/
structure Keeps (s : MemorySource) (added : List Record) (asked : Option (List RecordId)) :
    Prop where
  records_eq : s.records = numbered added
  filter_eq : s.filter = asked.map ascending

variable {s : MemorySource} {added : List Record} {asked' : Option (List RecordId)}

theorem Keeps.change (h : s.Keeps added asked') (c : Change) :
    (s.change c).Keeps (added ++ c.added?.toList) (c.askedAfter asked') := by
  have hlength : s.records.length = added.length := by rw [h.records_eq, length_numbered]
  cases c with
  | push record =>
      refine ⟨?_, h.filter_eq⟩
      change s.records ++ [{ record with id := s.records.length }] = _
      rw [hlength, h.records_eq, numbered, numbered, Change.added?, Option.toList_some,
        List.mapIdx_concat]
  | pushLine line =>
      refine ⟨?_, h.filter_eq⟩
      change s.records ++ [Record.ofText s.records.length line] = _
      rw [hlength, h.records_eq, numbered, numbered, Change.added?, Option.toList_some,
        List.mapIdx_concat]
      rfl
  | setFilter ids =>
      refine ⟨?_, rfl⟩
      rw [Change.added?, Option.toList_none, List.append_nil]
      exact h.records_eq

theorem Keeps.foldl (h : s.Keeps added asked') (changes : List Change) :
    (changes.foldl MemorySource.change s).Keeps (added ++ changes.filterMap Change.added?)
      (changes.foldl Change.askedAfter asked') := by
  induction changes generalizing s added asked' with
  | nil => simpa using h
  | cons c rest ih =>
      have hrest := ih (h.change c)
      rw [List.append_assoc] at hrest
      cases hadded : c.added? with
      | none => simpa [hadded] using hrest
      | some record => simpa [hadded] using hrest

theorem keeps_ofChanges (lines : List String) (changes : List Change) :
    (ofChanges lines changes).Keeps (handedIn lines changes) (asked changes) := by
  have hlines : (ofLines lines).Keeps (lines.map (Record.ofText 0)) none := by
    refine ⟨List.ext_getElem (by simp [ofLines, numbered]) fun i h h' => ?_, rfl⟩
    simp only [ofLines, numbered, List.getElem_map, List.getElem_zipIdx, List.getElem_mapIdx]
    simp [Record.ofText]
  exact hlines.foldl changes

/-! ## Positions and numbers -/

theorem Keeps.length_records (h : s.Keeps added asked') : s.records.length = added.length := by
  rw [h.records_eq, length_numbered]

theorem Keeps.id_of_getElem? (h : s.Keeps added asked') {id : RecordId} {record : Record}
    (hrecord : s.records[id]? = some record) : record.id = id := by
  rw [h.records_eq, numbered, List.getElem?_mapIdx] at hrecord
  obtain ⟨handed, -, rfl⟩ := Option.map_eq_some_iff.1 hrecord
  rfl

/-- The numbers in sight, in the order of their positions. -/
def inSight (s : MemorySource) : List RecordId := s.filter.getD (List.range s.records.length)

theorem size_eq_length_inSight (s : MemorySource) : s.size = s.inSight.length := by
  rw [size, inSight]
  cases s.filter <;> simp

theorem getElem?_inSight (s : MemorySource) {p : Nat} (hp : p < s.size) :
    s.inSight[p]? = some (s.realPosition p) := by
  rw [size] at hp
  rw [inSight, realPosition]
  cases hfilter : s.filter with
  | none =>
      rw [hfilter] at hp
      exact List.getElem?_range hp
  | some ids =>
      rw [hfilter] at hp
      simp [List.getElem?_eq_getElem hp]

theorem map_realPosition (s : MemorySource) :
    (List.range s.size).map s.realPosition = s.inSight := by
  refine List.ext_getElem? fun p => ?_
  rw [List.getElem?_map]
  rcases Nat.lt_or_ge p s.size with hp | hp
  · rw [List.getElem?_range hp, getElem?_inSight s hp, Option.map_some]
  · rw [List.getElem?_eq_none (by simpa using hp), Option.map_none,
      List.getElem?_eq_none (size_eq_length_inSight s ▸ hp)]

theorem Keeps.inSight_eq (h : s.Keeps added asked') :
    s.inSight = (asked'.map ascending).getD (List.range added.length) := by
  rw [inSight, h.filter_eq, h.length_records]

theorem Keeps.pairwise_inSight (h : s.Keeps added asked') : s.inSight.Pairwise (· < ·) := by
  rw [h.inSight_eq]
  cases asked' with
  | none => exact List.pairwise_lt_range
  | some ids => exact pairwise_ascending ids

/-- The positions of a range of numbers are those whose numbers lie in the range. -/
theorem Keeps.mem_normalize_iff (h : s.Keeps added asked') (range : ScanRange) {p : Nat}
    (hp : p < s.size) :
    (s.normalize range).start ≤ p ∧ p < (s.normalize range).stop ↔
      range.start ≤ s.realPosition p ∧ s.realPosition p < range.stop := by
  cases hfilter : s.filter with
  | none => rw [normalize, realPosition, hfilter]
  | some ids =>
      have hids : s.inSight = ids := by rw [inSight, hfilter, Option.getD_some]
      have hreal := getElem?_inSight s hp
      obtain ⟨hlt, hreal⟩ := List.getElem?_eq_some_iff.1 (hids ▸ hreal)
      have hstart := countBelow_le_iff (hids ▸ h.pairwise_inSight) range.start hlt
      have hstop := countBelow_le_iff (hids ▸ h.pairwise_inSight) range.stop hlt
      rw [hreal] at hstart hstop
      rw [normalize, hfilter, hstart, ← Nat.not_le, ← Nat.not_le, hstop]

/-- A record is read at a position just if there is one with the number. -/
theorem exists_get_iff (s : MemorySource) (p : Nat) :
    (∃ record, s.get p = .ok record) ↔ s.realPosition p < s.records.length := by
  rw [get]
  split
  · next record hrecord => simpa using (List.getElem?_eq_some_iff.1 hrecord).1
  · next hnone => simpa using hnone

theorem Keeps.get_eq_ok (h : s.Keeps added asked') {p : Nat} {record : Record}
    (hget : s.get p = .ok record) :
    s.records[s.realPosition p]? = some record ∧ record.id = s.realPosition p := by
  rw [get] at hget
  split at hget
  · next stored hstored =>
      obtain rfl := Except.ok.inj hget
      exact ⟨hstored, h.id_of_getElem? hstored⟩
  · cases hget

/-- Whatever was added and however filters were set, each record is stored with the number of its
place. The positions under a filter enumerate the numbers asked for in ascending order, each once,
and without a filter every position is its own number. A record is read where there is one with the
number of the position, and is that one. A position lies in the positions of a range of numbers
just if its number lies in the range. -/
theorem positions_follow_numbers (lines : List String) (changes : List Change) :
    let s := ofChanges lines changes
    s.records = numbered (handedIn lines changes) ∧
    (∀ (id : Nat) (record : Record), s.records[id]? = some record → record.id = id) ∧
    s.isFiltered = (asked changes).isSome ∧
    (∀ ids, asked changes = some ids →
      ((List.range s.size).map s.realPosition).Pairwise (· < ·) ∧
      ∀ id, id ∈ (List.range s.size).map s.realPosition ↔ id ∈ ids) ∧
    (asked changes = none → s.size = s.records.length ∧ ∀ p, s.realPosition p = p) ∧
    (∀ p, ((∃ record, s.get p = .ok record) ↔ s.realPosition p < s.records.length) ∧
      ∀ record, s.get p = .ok record →
        s.records[s.realPosition p]? = some record ∧ record.id = s.realPosition p) ∧
    ∀ (range : ScanRange) (p : Nat), p < s.size →
      ((s.normalize range).start ≤ p ∧ p < (s.normalize range).stop ↔
        range.start ≤ s.realPosition p ∧ s.realPosition p < range.stop) := by
  intro s
  have h : s.Keeps (handedIn lines changes) (asked changes) := keeps_ofChanges lines changes
  refine ⟨h.records_eq, fun id record => h.id_of_getElem?, ?_, fun ids hids => ?_, fun hnone => ?_,
    fun p => ⟨exists_get_iff s p, fun record => h.get_eq_ok⟩,
    fun range p => h.mem_normalize_iff range⟩
  · rw [isFiltered, h.filter_eq, Option.isSome_map]
  · rw [map_realPosition]
    refine ⟨h.pairwise_inSight, fun id => ?_⟩
    rw [h.inSight_eq, hids]
    exact mem_ascending
  · have hfilter : s.filter = none := by rw [h.filter_eq, hnone, Option.map_none]
    refine ⟨?_, fun p => ?_⟩
    · rw [size, hfilter]
    · rw [realPosition, hfilter]

/-- A filter that names numbers out of order, one of them twice and one that no record has, and a
record that is added under it. -/
def narrowed : List Change := [.setFilter (some [4, 1, 9, 1, 2]), .pushLine "r4"]

theorem positions_follow_numbers_narrowed :
    let s := ofChanges ["r0", "r1", "r2", "r3"] narrowed
    (∃ record, s.get 2 = .ok record ∧ record.id = 4) ∧
    ((s.normalize ⟨2, 9⟩).start ≤ 2 ∧ 2 < (s.normalize ⟨2, 9⟩).stop) ∧
    ¬ ((s.normalize ⟨9, 2⟩).start ≤ 2 ∧ 2 < (s.normalize ⟨9, 2⟩).stop) := by
  intro s
  have hfilter : s.filter = some [1, 2, 4, 9] := by
    rw [(keeps_ofChanges _ _).filter_eq]
    exact congrArg some (ascending_eq (by decide) (by decide) (by decide))
  have hsize : s.size = 4 := by
    rw [size, hfilter]
    rfl
  have hreal : s.realPosition 2 = 4 := by
    rw [realPosition, hfilter]
    rfl
  have hcount : s.records.length = 5 := rfl
  obtain ⟨-, -, -, -, -, hget, hrange⟩ :=
    positions_follow_numbers ["r0", "r1", "r2", "r3"] narrowed
  obtain ⟨hread, hfound⟩ := hget 2
  obtain ⟨record, hrecord⟩ := hread.2 (hreal ▸ hcount ▸ by decide)
  refine ⟨⟨record, hrecord, (hfound record hrecord).2.trans hreal⟩, ?_, ?_⟩
  · exact (hrange ⟨2, 9⟩ 2 (hsize ▸ by decide)).2 (hreal ▸ by decide)
  · intro hinside
    have hreversed := (hrange ⟨9, 2⟩ 2 (hsize ▸ by decide)).1 hinside
    exact absurd (hreal ▸ hreversed) (by decide)

/-! ## Positions without a record -/

/-- With fewer records than there are numbers, no record is read beyond the last position. -/
theorem lt_size_of_realPosition_lt (hfit : s.records.length ≤ noRecord) {p : Nat}
    (hp : s.realPosition p < s.records.length) : p < s.size := by
  rw [realPosition] at hp
  rw [size]
  cases hfilter : s.filter with
  | none =>
      rw [hfilter] at hp
      exact hp
  | some ids =>
      rw [hfilter] at hp
      refine Nat.not_le.1 fun hbeyond => Nat.not_le.2 hp ?_
      simpa [List.getElem?_eq_none hbeyond] using hfit

/-- The positions of the first so many numbers are the first positions. -/
theorem Keeps.lt_stop_normalize_iff (h : s.Keeps added asked') (count : Nat) {p : Nat}
    (hp : p < s.size) : p < (s.normalize ⟨0, count⟩).stop ↔ s.realPosition p < count := by
  have hstart : (s.normalize ⟨0, count⟩).start = 0 := by
    rw [normalize]
    cases s.filter with
    | none => rfl
    | some ids => cases ids <;> rfl
  have hrange := h.mem_normalize_iff ⟨0, count⟩ hp
  simpa [hstart] using hrange

theorem stop_normalize_le_size (s : MemorySource) :
    (s.normalize ⟨0, s.records.length⟩).stop ≤ s.size := by
  rw [normalize, size]
  cases s.filter with
  | none => exact Nat.le_refl _
  | some ids => exact (List.takeWhile_sublist _).length_le

theorem Keeps.forall_realPosition_lt_iff (h : s.Keeps added asked') :
    (∀ p, p < s.size → s.realPosition p < s.records.length) ↔
      ∀ ids, asked' = some ids → ∀ id ∈ ids, id < s.records.length := by
  have hpositions : (∀ p, p < s.size → s.realPosition p < s.records.length) ↔
      ∀ id ∈ s.inSight, id < s.records.length := by
    rw [← map_realPosition]
    simp
  rw [hpositions, h.inSight_eq, h.length_records]
  cases asked' with
  | none => simp
  | some ids => simp [mem_ascending]

/-- With fewer records than there are numbers, just those positions are read to which the numbers
of the records there come. These are all positions just if each number asked for is that of a
record. -/
theorem readable_positions (lines : List String) (changes : List Change)
    (hfit : (handedIn lines changes).length ≤ noRecord) :
    let s := ofChanges lines changes
    (∀ p, (∃ record, s.get p = .ok record) ↔ p < (s.normalize ⟨0, s.records.length⟩).stop) ∧
    ((∀ p, (∃ record, s.get p = .ok record) ↔ p < s.size) ↔
      ∀ ids, asked changes = some ids → ∀ id ∈ ids, id < s.records.length) := by
  intro s
  have h : s.Keeps (handedIn lines changes) (asked changes) := keeps_ofChanges lines changes
  have hinside {p : Nat} : s.realPosition p < s.records.length → p < s.size :=
    lt_size_of_realPosition_lt (h.length_records ▸ hfit)
  refine ⟨fun p => ?_, ?_⟩
  · rw [exists_get_iff]
    constructor
    · exact fun hp => (h.lt_stop_normalize_iff _ (hinside hp)).2 hp
    · intro hp
      exact (h.lt_stop_normalize_iff _ (Nat.lt_of_lt_of_le hp s.stop_normalize_le_size)).1 hp
  · rw [← h.forall_realPosition_lt_iff]
    refine forall_congr' fun p => ?_
    rw [exists_get_iff]
    exact ⟨Iff.mpr, fun hp => ⟨hinside, hp⟩⟩

theorem filter_absent : (ofChanges ["r0"] [.setFilter (some [5, 0])]).filter = some [0, 5] := by
  rw [(keeps_ofChanges _ _).filter_eq]
  exact congrArg some (ascending_eq (by decide) (by decide) (by decide))

/-- A filter that names a number which no record has. -/
theorem readable_positions_absent :
    let s := ofChanges ["r0"] [.setFilter (some [5, 0])]
    (∃ record, s.get 0 = .ok record) ∧ ¬ ∀ p, (∃ record, s.get p = .ok record) ↔ p < s.size := by
  intro s
  have hcount : s.records.length = 1 := rfl
  have hstop : (s.normalize ⟨0, s.records.length⟩).stop = 1 := by
    rw [normalize, filter_absent]
    rfl
  obtain ⟨hread, hall⟩ := readable_positions ["r0"] [.setFilter (some [5, 0])] (by decide)
  refine ⟨(hread 0).2 (hstop ▸ by decide), fun hclaim => ?_⟩
  exact absurd (hcount ▸ hall.1 hclaim [5, 0] rfl 5 (by decide)) (by decide)

/-- A position that a filter gives to a number without a record counts, but cannot be read. -/
theorem absent_record_takes_position :
    (ofChanges ["r0"] [.setFilter (some [5, 0])]).size = 2 ∧
      (ofChanges ["r0"] [.setFilter (some [5, 0])]).get 1 = .error (.recordOutOfRange 5) := by
  constructor
  · rw [size, filter_absent]
    rfl
  · rw [get, realPosition, filter_absent]
    rfl

end MemorySource

end PatternScan
