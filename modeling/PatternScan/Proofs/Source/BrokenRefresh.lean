import Mathlib.Data.List.Perm.Basic
import PatternScan.Proofs.Source.FileLines

/-!
# Refreshes that break off

A refresh lists each further line as soon as it has been read, but moves the part indexed on only
when all of them are in. Where it breaks off in between, the lines listed so far are read and
listed once more by the next refresh, and stay listed twice for as long as the file only grows.
Refreshes that break off anywhere else leave nothing behind.
-/

namespace PatternScan

namespace LineIndex

/-! ## Where an attempt breaks off -/

theorem Attempt.broken_of_faultAt? {a : Attempt} {point : BreakPoint} {fault : FileFault}
    (h : a.faultAt? point = some fault) : a.broken = some (point, fault) := by
  rw [faultAt?] at h
  split at h
  · next p fault' hbroken =>
      split at h
      · next hp => rw [hbroken, hp, Option.some.inj h]
      · cases h
  · cases h

/-- How many lines beyond the part indexed an attempt has found when it breaks off among them. -/
def foundInVain (index : LineIndex) (a : Attempt) : Nat :=
  match a.lineFault? (lineLengths 0 (a.bytes.drop index.indexedTo)).length with
  | some (read, _) => read
  | none => 0

theorem foundInVain_of_broken {index : LineIndex} {a : Attempt} {point : BreakPoint}
    {fault : FileFault} (h : a.broken = some (point, fault)) (hpoint : ∀ read, point ≠ .line read) :
    index.foundInVain a = 0 := by
  rw [foundInVain, Attempt.lineFault?, h]
  cases point with
  | line read => exact (hpoint read rfl).elim
  | _ => rfl

theorem Attempt.read_le_of_lineFault? {a : Attempt} {available read : Nat} {fault : FileFault}
    (h : a.lineFault? available = some (read, fault)) : read ≤ available := by
  rw [lineFault?] at h
  split at h
  · split at h
    · next hread =>
        obtain ⟨rfl, -⟩ := Prod.mk.inj (Option.some.inj h)
        exact hread
    · cases h
  · cases h

theorem foundInVain_of_end {index : LineIndex} {a : Attempt}
    (h : a.bytes.length = index.indexedTo) : index.foundInVain a = 0 := by
  rw [foundInVain, List.drop_eq_nil_of_le (Nat.le_of_eq h)]
  split
  · next read fault hfault => exact Nat.le_zero.1 (Attempt.read_le_of_lineFault? hfault)
  · rfl

/-! ## What an index lists -/

/-- The index has taken in the complete lines of `seen`, a first part of the content, and lists
`again` lines besides, each of which starts where one of the content does. -/
structure Lists (index : LineIndex) (seen content : Bytes) (again : Nat) : Prop where
  within : seen <+: content
  indexedTo_eq : index.indexedTo = (completeLines seen).length
  head_prefix : index.head <+: completeLines seen
  length_starts : index.starts.length = seen.count lineFeed + again
  starts_subset : index.starts ⊆ lineStarts content
  starts_eq : again = 0 → index.starts = lineStarts seen

theorem lineStarts_completeLines (bytes : Bytes) :
    lineStarts (completeLines bytes) = lineStarts bytes :=
  congrArg LineIndex.starts (ofBytes_completeLines bytes)

theorem startsFrom_take (offset : Nat) (lengths : List Nat) (count : Nat) :
    startsFrom offset (lengths.take count) = (startsFrom offset lengths).take count := by
  induction lengths generalizing offset count with
  | nil => simp [startsFrom]
  | cons length rest ih =>
      cases count with
      | zero => rfl
      | succ count => rw [List.take_succ_cons, startsFrom, startsFrom, ih, List.take_succ_cons]

variable {index : LineIndex} {seen content : Bytes} {again : Nat}

theorem lists_ofBytes (bytes : Bytes) : (ofBytes bytes).Lists bytes bytes 0 where
  within := List.prefix_refl _
  indexedTo_eq := rfl
  head_prefix := head_ofBytes_isPrefix bytes
  length_starts := length_lineStarts bytes
  starts_subset := List.Subset.refl _
  starts_eq := fun _ => rfl

theorem lineStarts_subset_append (content more : Bytes) :
    lineStarts content ⊆ lineStarts (content ++ more) := by
  obtain ⟨unfinished, hcontent⟩ := completeLines_isPrefix content
  have hmore : content ++ more = completeLines content ++ (unfinished ++ more) := by
    rw [← List.append_assoc, hcontent]
  rw [hmore, lineStarts_append (endsLine_completeLines content), lineStarts_completeLines]
  exact List.subset_append_left _ _

theorem Lists.written (h : index.Lists seen content again) (more : Bytes) :
    index.Lists seen (content ++ more) again :=
  { h with
    within := h.within.trans (List.prefix_append _ _)
    starts_subset := List.Subset.trans h.starts_subset (lineStarts_subset_append _ _) }

theorem Lists.exists_rest (h : index.Lists seen content again) :
    ∃ rest, content = completeLines seen ++ rest ∧ content.drop index.indexedTo = rest := by
  obtain ⟨rest, rfl⟩ := (completeLines_isPrefix seen).trans h.within
  exact ⟨rest, rfl, by rw [h.indexedTo_eq, List.drop_left]⟩

/-- A content that goes on behind the complete lines is not taken for another one. -/
theorem Lists.not_isReplaced (h : index.Lists seen content again) :
    index.isReplaced content = false := by
  obtain ⟨rest, rfl, -⟩ := h.exists_rest
  exact isReplaced_append (endsLine_completeLines seen) h.indexedTo_eq h.head_prefix rest

/-- The further lines start where those behind the complete ones do. -/
theorem Lists.lineStarts_eq (h : index.Lists seen content again) :
    lineStarts content = lineStarts seen ++
      startsFrom index.indexedTo (lineLengths 0 (content.drop index.indexedTo)) := by
  obtain ⟨rest, rfl, hdrop⟩ := h.exists_rest
  rw [hdrop, h.indexedTo_eq, startsFrom_lineLengths,
    lineStarts_append (endsLine_completeLines seen), lineStarts_completeLines]

theorem Lists.count_eq (h : index.Lists seen content again) :
    content.count lineFeed = seen.count lineFeed +
      (lineLengths 0 (content.drop index.indexedTo)).length := by
  rw [← length_lineStarts, h.lineStarts_eq, List.length_append, length_lineStarts,
    length_startsFrom]

theorem Lists.length_completeLines (h : index.Lists seen content again) :
    (completeLines content).length =
      (lineLengths 0 (content.drop index.indexedTo)).foldl (· + ·) index.indexedTo := by
  obtain ⟨rest, rfl, hdrop⟩ := h.exists_rest
  rw [hdrop, h.indexedTo_eq, foldl_lineLengths, completeLines_append (endsLine_completeLines seen),
    List.length_append]

/-! ## What an attempt leaves -/

/-- Lines found before an attempt breaks off are listed besides. -/
theorem Lists.addLines (h : index.Lists seen content again) {read : Nat}
    (hread : read ≤ (lineLengths 0 (content.drop index.indexedTo)).length) :
    (index.addLines ((lineLengths 0 (content.drop index.indexedTo)).take read)).Lists
      seen content (again + read) where
  within := h.within
  indexedTo_eq := h.indexedTo_eq
  head_prefix := h.head_prefix
  length_starts := by
    rw [LineIndex.addLines, List.length_append, h.length_starts, length_startsFrom,
      List.length_take, Nat.min_eq_left hread, Nat.add_assoc]
  starts_subset := by
    refine List.append_subset.2 ⟨h.starts_subset, ?_⟩
    rw [startsFrom_take, h.lineStarts_eq]
    exact List.Subset.trans (List.take_subset _ _) (List.subset_append_right _ _)
  starts_eq := by
    intro hnone
    obtain ⟨rfl, rfl⟩ := Nat.add_eq_zero_iff.1 hnone
    rw [LineIndex.addLines, List.take_zero, startsFrom, List.append_nil, h.starts_eq rfl]

/-- With all further lines in, everything is taken in, whatever first bytes are remembered. -/
theorem Lists.moveOn (h : index.Lists seen content again) {head : Bytes}
    (hhead : head <+: completeLines content) :
    ({ (index.addLines (lineLengths 0 (content.drop index.indexedTo))).moveOn
        (lineLengths 0 (content.drop index.indexedTo)) with head } : LineIndex).Lists
      content content again where
  within := List.prefix_refl _
  indexedTo_eq := h.length_completeLines.symm
  head_prefix := hhead
  length_starts := by
    change (index.starts ++ startsFrom index.indexedTo _).length = _
    rw [List.length_append, h.length_starts, length_startsFrom, h.count_eq]
    omega
  starts_subset := by
    change index.starts ++ startsFrom index.indexedTo _ ⊆ _
    refine List.append_subset.2 ⟨h.starts_subset, ?_⟩
    rw [h.lineStarts_eq]
    exact List.subset_append_right _ _
  starts_eq := by
    intro hnone
    change index.starts ++ startsFrom index.indexedTo _ = _
    rw [h.starts_eq hnone, h.lineStarts_eq]

theorem Lists.head_prefix_content (h : index.Lists seen content again) :
    index.head <+: completeLines content := by
  obtain ⟨rest, rfl, -⟩ := h.exists_rest
  rw [completeLines_append (endsLine_completeLines seen)]
  exact h.head_prefix.trans (List.prefix_append _ _)

theorem take_prefix_completeLines (bytes : Bytes) (limit : Nat) :
    bytes.take (min (completeLines bytes).length limit) <+: completeLines bytes := by
  obtain ⟨unfinished, hbytes⟩ := completeLines_isPrefix bytes
  have htake : bytes.take (min (completeLines bytes).length limit) =
      (completeLines bytes).take (min (completeLines bytes).length limit) :=
    (congrArg (List.take _) hbytes.symm).trans
      (List.take_append_of_le_length (Nat.min_le_left _ _))
  exact htake ▸ List.take_prefix _ _

theorem Lists.sampleHead (h : index.Lists content content again) :
    (index.sampleHead content).Lists content content again := by
  rw [LineIndex.sampleHead]
  split
  · refine { h with head_prefix := ?_ }
    rw [h.indexedTo_eq]
    exact take_prefix_completeLines content headSample
  · exact h

/-- What an attempt may leave of an index that lists `again` lines besides: it lists the lines found
in vain besides too, has lost nothing of what was seen, and has seen the whole content where a
number is told. -/
def Leaves (seen : Bytes) (a : Attempt) (again vain : Nat)
    (left : Except FileFault Nat × Refreshed) : Prop :=
  left.2.anew = false ∧ ∃ seen', seen <+: seen' ∧
    left.2.index.Lists seen' a.bytes (again + vain) ∧
    ∀ count, left.1 = .ok count → count = left.2.index.lineCount ∧ seen' = a.bytes ∧ vain = 0

variable {a : Attempt}

theorem Lists.leaves_fault {seen' : Bytes} {vain : Nat}
    (h : index.Lists seen' a.bytes (again + vain)) (hmore : seen <+: seen') (fault : FileFault) :
    Leaves seen a again vain (.error fault, ⟨index, false⟩) :=
  ⟨rfl, seen', hmore, h, by simp⟩

theorem Lists.leaves_count (h : index.Lists a.bytes a.bytes again) (hmore : seen <+: a.bytes) :
    Leaves seen a again 0 (.ok index.lineCount, ⟨index, false⟩) :=
  ⟨rfl, a.bytes, hmore, h, fun _ hcount => ⟨(Except.ok.inj hcount).symm, rfl, rfl⟩⟩

theorem Lists.finish (h : index.Lists a.bytes a.bytes again) (hmore : seen <+: a.bytes) :
    Leaves seen a again 0 (finish index false a) := by
  rw [LineIndex.finish]
  split
  · next fault hfault => exact leaves_fault h hmore fault
  · exact h.sampleHead.leaves_count hmore

theorem Lists.grow (h : index.Lists seen a.bytes again) :
    Leaves seen a again (index.foundInVain a) (grow index false a) := by
  have hall := h.moveOn h.head_prefix_content
  rw [LineIndex.grow]
  split
  · next hend =>
      -- Nothing comes after the part indexed.
      rw [List.drop_eq_nil_of_le (Nat.le_of_eq hend), lineLengths, LineIndex.addLines, startsFrom,
        List.append_nil] at hall
      rw [foundInVain_of_end hend]
      exact leaves_count hall h.within
  · simp only
    split
    · next read fault hfault =>
        have hvain : index.foundInVain a = read := by rw [foundInVain, hfault]
        have hread := Attempt.read_le_of_lineFault? hfault
        rw [hvain]
        exact (h.addLines hread).leaves_fault (List.prefix_refl _) fault
    · next hfault =>
        have hvain : index.foundInVain a = 0 := by rw [foundInVain, hfault]
        rw [hvain]
        exact Lists.finish hall h.within

/-- A refresh lists as many lines besides as its attempt found in vain. -/
theorem Lists.refresh (h : index.Lists seen a.bytes again) :
    Leaves seen a again (index.foundInVain a) (index.refresh a) := by
  have hunchanged {fault : FileFault} {point : BreakPoint}
      (hfault : a.faultAt? point = some fault) (hpoint : ∀ read, point ≠ .line read) :
      Leaves seen a again (index.foundInVain a) (.error fault, ⟨index, false⟩) := by
    rw [foundInVain_of_broken (Attempt.broken_of_faultAt? hfault) hpoint]
    exact leaves_fault h (List.prefix_refl _) fault
  rw [LineIndex.refresh]
  split
  · next fault hfault => exact hunchanged hfault (by simp)
  · simp only
    split
    · next fault hfault =>
        rw [ite_eq_iff] at hfault
        obtain ⟨-, hfault⟩ := hfault.resolve_right (by simp)
        exact hunchanged hfault (by simp)
    · rw [h.not_isReplaced, if_neg Bool.false_ne_true]
      exact h.grow

theorem exists_grow_of_unbroken (index : LineIndex) (anew : Bool) (bytes : Bytes) :
    ∃ count after, grow index anew ⟨bytes, none⟩ = (.ok count, after) := by
  rw [grow]
  split
  · exact ⟨_, _, rfl⟩
  · simp only [Attempt.lineFault?, finish_of_unbroken]
    exact ⟨_, _, rfl⟩

/-- An attempt that breaks off nowhere succeeds. -/
theorem exists_refresh_of_unbroken (index : LineIndex) (bytes : Bytes) :
    ∃ count after, index.refresh ⟨bytes, none⟩ = (.ok count, after) := by
  rw [refresh_of_unbroken]
  split
  · exact exists_grow_of_unbroken empty true bytes
  · exact exists_grow_of_unbroken index false bytes

/-- Without lines listed besides, the index tells the lines as that of the content does. -/
theorem Lists.bounds?_eq (h : index.Lists seen content 0) (id : Nat) :
    index.bounds? id = (ofBytes seen).bounds? id := by
  rw [bounds?, bounds?, h.starts_eq rfl, h.indexedTo_eq]
  rfl

/-- Once the content is taken in, an index that lists lines besides is not ascending: it lists more
lines than there are. -/
theorem Lists.pairwise_starts_iff (h : index.Lists content content again) :
    index.starts.Pairwise (· < ·) ↔ again = 0 := by
  constructor
  · intro hascending
    have hnodup : index.starts.Nodup := hascending.imp Nat.ne_of_lt
    have hle := (List.subperm_of_subset hnodup h.starts_subset).length_le
    rw [h.length_starts, length_lineStarts] at hle
    omega
  · intro hnone
    rw [h.starts_eq hnone]
    exact List.pairwise_lt_range.filter _

end LineIndex

namespace TextFile

open LineIndex

/-! ## Files -/

/-- What may happen to a file that is open, in any order: more is written behind its content, an
attempt is made to refresh it, a record is asked for while the file can be read or cannot, and a
column pattern is set. The number is that of the lines found by attempts that then broke off. -/
inductive Trial (path : String) (capacity : Nat) : Bytes → TextFile → Nat → Prop where
  | opened (content : Bytes) (f : TextFile) (h : ofPath path capacity (.ok content) = .ok f) :
      Trial path capacity content f 0
  | written (content : Bytes) (f : TextFile) (again : Nat) (more : Bytes)
      (h : Trial path capacity content f again) : Trial path capacity (content ++ more) f again
  | tried (f : TextFile) (again : Nat) (a : Attempt) (h : Trial path capacity a.bytes f again) :
      Trial path capacity a.bytes (f.refreshThrough a).2 (again + f.index.foundInVain a)
  | asked (content : Bytes) (f : TextFile) (again position : Nat)
      (h : Trial path capacity content f again) :
      Trial path capacity content (f.get (.ok content) position).2 again
  | denied (content : Bytes) (f : TextFile) (again position : Nat) (fault : FileFault)
      (h : Trial path capacity content f again) :
      Trial path capacity content (f.get (.error fault) position).2 again
  | split (content : Bytes) (f f' : TextFile) (again : Nat) (pattern : String)
      (h : Trial path capacity content f again) (hcolumns : f.withColumns pattern = .ok f') :
      Trial path capacity content f' again

/-- The index has taken in the complete lines of a first part of the content; if it lists no others,
the records remembered are those of its lines. -/
structure Tracks (f : TextFile) (capacity : Nat) (seen content : Bytes) (again : Nat) : Prop where
  index : f.index.Lists seen content again
  cache : again = 0 → f.cache.Remembers (max capacity 1)
    (IsSeen content f.columns (seen.count lineFeed))

variable {path : String} {capacity again position : Nat} {seen content : Bytes} {f : TextFile}

/-- A file that lists no lines besides is in step once it has the index of what was taken in. -/
theorem Tracks.inStep (h : f.Tracks capacity seen content 0) :
    InStep capacity content { f with index := ofBytes seen } (seen.count lineFeed) :=
  ⟨⟨seen, h.index.within, rfl, rfl⟩, h.cache rfl⟩

theorem Tracks.readLine_eq (h : f.Tracks capacity seen content 0) (reading : Except FileFault Bytes)
    (id : RecordId) :
    f.readLine reading id = readLine { f with index := ofBytes seen } reading id := by
  rw [readLine, readLine, h.index.bounds?_eq id]

/-- A record that is asked for is that of the line that stands there. -/
theorem Tracks.get_eq (h : f.Tracks capacity seen content 0) {id : RecordId}
    (hid : id < seen.count lineFeed) :
    ∃ before line, IsLine content id before line ∧
      (f.get (.ok content) id).1 = .ok (recordOfLine f.columns id line) := by
  obtain ⟨before, line, hline, hread⟩ := h.inStep.readLine_eq hid
  rw [← h.readLine_eq] at hread
  refine ⟨before, line, hline, ?_⟩
  rw [get]
  split
  · next record cache hfound =>
      obtain ⟨⟨-, before', line', hline', rfl⟩, -⟩ := (h.cache rfl).lookup hfound
      rw [hline.unique hline']
  · rw [hread]

/-! ### Each step keeps track -/

theorem InStep.exists_tracks {count : Nat} (h : InStep capacity content f count) :
    ∃ seen, f.Tracks capacity seen content 0 := by
  obtain ⟨seen, ⟨more, rfl⟩, hindex, rfl⟩ := h.exists_seen
  exact ⟨seen, hindex ▸ (lists_ofBytes seen).written more, fun _ => h.cache⟩

theorem Tracks.written (h : f.Tracks capacity seen content again) (more : Bytes) :
    f.Tracks capacity seen (content ++ more) again := by
  refine ⟨h.index.written more, fun hnone => (h.cache hnone).mono ?_⟩
  rintro id record ⟨hid, before, line, hline, hrecord⟩
  exact ⟨hid, before, line, hline.of_prefix (List.prefix_append _ _), hrecord⟩

theorem Tracks.asked (h : f.Tracks capacity seen content again) (position : Nat) :
    (f.get (.ok content) position).2.Tracks capacity seen content again := by
  refine ⟨index_get f _ position ▸ h.index, fun hnone => ?_⟩
  subst hnone
  rw [columns_get]
  refine remembers_get (h.cache rfl) fun record hread => ?_
  rw [h.readLine_eq] at hread
  exact h.inStep.isSeen_of_readLine hread

theorem readLine_error (f : TextFile) (fault : FileFault) (id : RecordId) (record : Record) :
    f.readLine (.error fault) id ≠ .ok record := by
  rw [readLine]
  split <;> simp

theorem Tracks.denied (h : f.Tracks capacity seen content again) (position : Nat)
    (fault : FileFault) : (f.get (.error fault) position).2.Tracks capacity seen content again := by
  refine ⟨index_get f _ position ▸ h.index, fun hnone => ?_⟩
  rw [columns_get]
  exact remembers_get (h.cache hnone) fun record hread => (readLine_error f fault _ _ hread).elim

theorem Tracks.tried {a : Attempt} (h : f.Tracks capacity seen a.bytes again) :
    ∃ seen', (f.refreshThrough a).2.Tracks capacity seen' a.bytes (again + f.index.foundInVain a) ∧
      ∀ count, (f.refreshThrough a).1 = .ok count →
        count = a.bytes.count lineFeed + again ∧ seen' = a.bytes ∧ f.index.foundInVain a = 0 := by
  obtain ⟨hkept, seen', hmore, hindex, hanswer⟩ := h.index.refresh
  refine ⟨seen', ⟨hindex, fun hnone => ?_⟩, fun count hcount => ?_⟩
  · rw [cache_refreshThrough, hkept, if_neg Bool.false_ne_true]
    refine (h.cache (Nat.add_eq_zero_iff.1 hnone).1).mono ?_
    rintro id record ⟨hid, hline⟩
    exact ⟨Nat.lt_of_lt_of_le hid (hmore.sublist.count_le _), hline⟩
  · obtain ⟨rfl, rfl, hvain⟩ := hanswer count hcount
    refine ⟨?_, rfl, hvain⟩
    rw [lineCount, hindex.length_starts, hvain, Nat.add_zero]

theorem Tracks.split {f' : TextFile} {pattern : String} (h : f.Tracks capacity seen content again)
    (hcolumns : f.withColumns pattern = .ok f') : f'.Tracks capacity seen content again := by
  rw [withColumns] at hcolumns
  split at hcolumns
  · obtain rfl := Except.ok.inj hcolumns
    exact ⟨h.index, fun hnone => (h.cache hnone).clear _⟩
  · cases hcolumns

theorem Trial.exists_tracks (h : Trial path capacity content f again) :
    ∃ seen, f.Tracks capacity seen content again := by
  induction h with
  | opened content f h =>
      obtain ⟨f', hopened, hstep, -⟩ := exists_ofPath path capacity content
      obtain rfl := Except.ok.inj (h.symm.trans hopened)
      exact hstep.exists_tracks
  | written content f again more h ih =>
      obtain ⟨seen, ih⟩ := ih
      exact ⟨seen, ih.written more⟩
  | tried f again a h ih =>
      obtain ⟨seen, ih⟩ := ih
      obtain ⟨seen', htracks, -⟩ := ih.tried
      exact ⟨seen', htracks⟩
  | asked content f again position h ih =>
      obtain ⟨seen, ih⟩ := ih
      exact ⟨seen, ih.asked position⟩
  | denied content f again position fault h ih =>
      obtain ⟨seen, ih⟩ := ih
      exact ⟨seen, ih.denied position fault⟩
  | split content f f' again pattern h hcolumns ih =>
      obtain ⟨seen, ih⟩ := ih
      exact ⟨seen, ih.split hcolumns⟩

/-! ## The next refresh that succeeds -/

/-- After any trial of a file that only grows, a refresh succeeds where the content can be read. One
that succeeds counts each line once, and once more each line that an attempt found in vain. So the
lines ascend strictly just if no attempt broke off after it had found lines; each record asked for
is then that of the line with its number. -/
theorem refresh_after_broken_ones (h : Trial path capacity content f again) :
    (f.refresh (.ok content)).1 = .ok (content.count lineFeed + again) ∧
    ∀ (a : Attempt) (count : Nat) (f' : TextFile), a.bytes = content →
      f.refreshThrough a = (.ok count, f') →
      count = content.count lineFeed + again ∧ f'.index.starts.length = count ∧
      (f'.index.starts.Pairwise (· < ·) ↔ again = 0) ∧
      (again = 0 → f'.index.starts = lineStarts content ∧
        ∀ id, id < count → ∃ before line, IsLine content id before line ∧
          (f'.get (.ok content) id).1 = .ok (recordOfLine f'.columns id line)) := by
  obtain ⟨seen, htracks⟩ := h.exists_tracks
  constructor
  · obtain ⟨_, -, hanswer⟩ := Tracks.tried (a := ⟨content, none⟩) htracks
    obtain ⟨count, after, hrefresh⟩ := exists_refresh_of_unbroken f.index content
    have hok : (f.refresh (.ok content)).1 = .ok count := congrArg Prod.fst hrefresh
    rw [hok, (hanswer count hok).1]
  · rintro a count f' rfl hrefresh
    obtain ⟨seen', htracks', hanswer⟩ := htracks.tried
    obtain ⟨rfl, rfl, hvain⟩ := hanswer count (congrArg Prod.fst hrefresh)
    obtain rfl : (f.refreshThrough a).2 = f' := congrArg Prod.snd hrefresh
    rw [hvain, Nat.add_zero] at htracks'
    refine ⟨rfl, htracks'.index.length_starts, htracks'.index.pairwise_starts_iff,
      fun hnone => ?_⟩
    subst hnone
    exact ⟨htracks'.index.starts_eq rfl, fun id hid => htracks'.get_eq hid⟩

/-- An empty file that has been opened. -/
def emptyFile : TextFile := (refresh ⟨"f.log", .empty, .empty 4, none⟩ (.ok [])).2

/-- An attempt to read two lines that breaks off at the point. -/
def brokenAt (point : BreakPoint) : Attempt :=
  ⟨[97, 10, 98, 10], some (point, .other 5 "Input/output error")⟩

/-- The file after attempts that broke off before and after all lines were read. -/
def retriedFile : TextFile :=
  (((emptyFile.refreshThrough (brokenAt .opening)).2.refreshThrough
    (brokenAt (.line 0))).2.refreshThrough (brokenAt .sampling)).2

theorem refresh_after_broken_ones_harmless :
    (retriedFile.refresh (.ok [97, 10, 98, 10])).1 = .ok 2 ∧
      (retriedFile.refresh (.ok [97, 10, 98, 10])).2.index.starts = [0, 2] := by
  have hopened : Trial "f.log" 4 [97, 10, 98, 10] emptyFile 0 :=
    .written [] emptyFile 0 [97, 10, 98, 10] (.opened [] emptyFile rfl)
  have hretried : Trial "f.log" 4 [97, 10, 98, 10] retriedFile 0 :=
    .tried _ _ (brokenAt .sampling)
      (.tried _ _ (brokenAt (.line 0)) (.tried _ _ (brokenAt .opening) hopened))
  obtain ⟨hcount, hindex⟩ := refresh_after_broken_ones hretried
  obtain ⟨-, -, -, hstarts⟩ := hindex ⟨[97, 10, 98, 10], none⟩ 2 _ rfl rfl
  exact ⟨hcount.trans (by decide), (hstarts rfl).1.trans (by decide)⟩

/-- A refresh that breaks off after the first of two lines makes the next one list that line
twice. -/
theorem broken_refresh_lists_line_twice :
    (emptyFile.refreshThrough (brokenAt (.line 1))).1 = .error (.other 5 "Input/output error") ∧
      ((emptyFile.refreshThrough (brokenAt (.line 1))).2.refresh (.ok [97, 10, 98, 10])).1 = .ok 3 ∧
      ((emptyFile.refreshThrough (brokenAt (.line 1))).2.refresh
        (.ok [97, 10, 98, 10])).2.index.starts = [0, 0, 2] :=
  ⟨rfl, rfl, rfl⟩

end TextFile

end PatternScan
