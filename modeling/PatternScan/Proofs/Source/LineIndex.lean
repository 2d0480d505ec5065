import Mathlib.Algebra.GroupWithZero.Nat
import Mathlib.Data.List.Basic
import Mathlib.Data.List.Range
import Mathlib.Data.List.TakeWhile
import PatternScan.Source.TextFile

/-!
# The index of a file taken in bit by bit

What an index holds can be told from the content of the file alone: the offsets at which the
lines that end with a line feed start, and where the last of them ends. Complete lines stay
what they are when more is written behind them, so an index that takes in only what comes
after them is the index of the whole content. A file that was replaced is told from one that
grew by its first bytes and its last line end.
-/

namespace PatternScan.LineIndex

/-! ## The index that a content has -/

/-- The complete lines of a content: everything up to its last line feed. -/
def completeLines (bytes : Bytes) : Bytes := (bytes.reverse.dropWhile (· != lineFeed)).reverse

/-- A complete line starts at the offset: the byte before it, if there is one, ends a line, and
a line feed follows. -/
def startsLine (bytes : Bytes) (offset : Nat) : Bool :=
  (offset == 0 || bytes[offset - 1]? == some lineFeed) && (bytes.drop offset).contains lineFeed

/-- The offsets at which complete lines start. -/
def lineStarts (bytes : Bytes) : List Nat := (List.range bytes.length).filter (startsLine bytes)

/-- The index of a content. -/
def ofBytes (bytes : Bytes) : LineIndex where
  starts := lineStarts bytes
  indexedTo := (completeLines bytes).length
  head := bytes.take (min headSample (completeLines bytes).length)

/-- Nothing comes after the last line end. -/
def EndsLine (bytes : Bytes) : Prop := ∀ b, bytes.getLast? = some b → b = lineFeed

theorem endsLine_nil : EndsLine [] := nofun

theorem endsLine_append_lineFeed (bytes : Bytes) : EndsLine (bytes ++ [lineFeed]) := by
  intro b hb
  simpa using hb.symm

theorem endsLine_completeLines (bytes : Bytes) : EndsLine (completeLines bytes) := by
  intro b hb
  rw [completeLines, List.getLast?_reverse] at hb
  have hhead := List.head?_dropWhile_not (fun b : UInt8 => b != lineFeed) bytes.reverse
  rw [hb] at hhead
  simpa using hhead

theorem exists_unfinished (bytes : Bytes) :
    ∃ unfinished, lineFeed ∉ unfinished ∧ bytes = completeLines bytes ++ unfinished := by
  refine ⟨(bytes.reverse.takeWhile (· != lineFeed)).reverse, fun hmem => ?_, ?_⟩
  · have hne := List.mem_takeWhile_imp (List.mem_reverse.1 hmem)
    simp at hne
  · rw [completeLines, ← List.reverse_append, List.takeWhile_append_dropWhile,
      List.reverse_reverse]

theorem completeLines_isPrefix (bytes : Bytes) : completeLines bytes <+: bytes := by
  obtain ⟨unfinished, -, hbytes⟩ := exists_unfinished bytes
  exact ⟨unfinished, hbytes.symm⟩

theorem completeLines_nil : completeLines [] = [] := rfl

theorem ofBytes_nil : ofBytes [] = empty := rfl

/-! ## More behind complete lines -/

section Append

variable {done : Bytes} (hdone : EndsLine done) (rest : Bytes)

include hdone

theorem completeLines_append : completeLines (done ++ rest) = done ++ completeLines rest := by
  rw [completeLines, List.reverse_append, List.dropWhile_append]
  split
  · next hempty =>
      have hrest : completeLines rest = [] := by
        rw [completeLines, List.isEmpty_iff.1 hempty, List.reverse_nil]
      have hkept : done.reverse.dropWhile (· != lineFeed) = done.reverse := by
        cases hreverse : done.reverse with
        | nil => rfl
        | cons b bs =>
            have hb : b = lineFeed := hdone b (by rw [← List.head?_reverse, hreverse]; rfl)
            exact List.dropWhile_cons_of_neg (by simp [hb])
      rw [hkept, hrest, List.reverse_reverse, List.append_nil]
  · rw [List.reverse_append, List.reverse_reverse]
    rfl

theorem completeLines_of_endsLine : completeLines done = done := by
  have h := completeLines_append hdone []
  rwa [List.append_nil, completeLines_nil, List.append_nil] at h

theorem mem_drop_of_endsLine {offset : Nat} (h : offset < done.length) :
    lineFeed ∈ done.drop offset := by
  have hne : done.drop offset ≠ [] := by simpa using h
  have hlast : (done.drop offset).getLast hne = lineFeed := by
    refine hdone _ ?_
    rw [List.getLast_drop, List.getLast?_eq_some_getLast]
  exact hlast ▸ List.getLast_mem hne

/-- The lines behind complete ones start as far behind them as they would by themselves. -/
theorem lineStarts_append :
    lineStarts (done ++ rest) = lineStarts done ++ (lineStarts rest).map (done.length + ·) := by
  rw [lineStarts, List.length_append, List.range_add, List.filter_append, List.filter_map,
    lineStarts, lineStarts]
  congr 1
  · refine List.filter_congr fun offset hoffset => ?_
    have hlt := List.mem_range.1 hoffset
    have hmem := mem_drop_of_endsLine hdone hlt
    rw [startsLine, startsLine, List.getElem?_append_left (by omega)]
    simp [List.drop_append, hmem]
  · congr 1
    refine List.filter_congr fun offset _ => ?_
    rw [Function.comp_apply, startsLine, startsLine, List.drop_append,
      List.drop_eq_nil_of_le (by omega), List.nil_append, Nat.add_sub_cancel_left]
    congr 1
    cases offset with
    | zero =>
        -- The byte before the first one of `rest` is the last one of `done`.
        cases hlast : done.getLast? with
        | none => simp [List.getLast?_eq_none_iff.1 hlast]
        | some b =>
            have hb := hdone b hlast
            rw [List.getLast?_eq_getElem?] at hlast
            have hlt := (List.getElem?_eq_some_iff.1 hlast).1
            simp [List.getElem?_append_left hlt, hlast, hb]
    | succ offset =>
        rw [List.getElem?_append_right (by omega)]
        simp [← Nat.add_assoc]

end Append

/-! ## Line by line -/

/-- A content is an unfinished line, or a line and what comes after its line feed. -/
theorem lineInduction {motive : Bytes → Prop}
    (unfinished : ∀ line, lineFeed ∉ line → motive line)
    (line : ∀ line rest, lineFeed ∉ line → motive rest → motive (line ++ [lineFeed] ++ rest))
    (bytes : Bytes) : motive bytes := by
  -- The induction is on what comes after the bytes `begun` of the first line.
  have hbegun (begun : Bytes) (h : lineFeed ∉ begun) : motive (begun ++ bytes) := by
    induction bytes generalizing begun with
    | nil =>
        rw [List.append_nil]
        exact unfinished begun h
    | cons b bytes ih =>
        rw [List.append_cons]
        by_cases hb : b = lineFeed
        · subst hb
          exact line begun bytes h (ih [] List.not_mem_nil)
        · exact ih (begun ++ [b]) (by simpa [eq_comm] using ⟨h, hb⟩)
  exact hbegun [] List.not_mem_nil

section Line

variable {line : Bytes} (h : lineFeed ∉ line)

include h

theorem lineStarts_of_notMem : lineStarts line = [] := by
  refine List.filter_eq_nil_iff.2 fun offset _ hstarts => h ?_
  have hmem : lineFeed ∈ line.drop offset := by
    simpa using (Bool.and_eq_true_iff.1 hstarts).2
  exact List.mem_of_mem_drop hmem

theorem lineStarts_line : lineStarts (line ++ [lineFeed]) = [0] := by
  rw [lineStarts, List.length_append, List.length_singleton, List.range_succ_eq_map,
    List.filter_cons_of_pos (by simp [startsLine])]
  congr 1
  refine List.filter_eq_nil_iff.2 fun offset hoffset hstarts => ?_
  obtain ⟨before, hbefore, rfl⟩ := List.mem_map.1 hoffset
  have hlt := List.mem_range.1 hbefore
  have hbyte : line.get ⟨before, hlt⟩ = lineFeed := by
    have hfirst := (Bool.and_eq_true_iff.1 hstarts).1
    simpa [List.getElem?_append_left hlt, hlt] using hfirst
  exact h (hbyte ▸ List.get_mem line ⟨before, hlt⟩)

theorem completeLines_of_notMem : completeLines line = [] := by
  have hall : ∀ b ∈ line.reverse, (b != lineFeed) = true := fun b hb =>
    bne_iff_ne.2 fun heq => h (heq ▸ List.mem_reverse.1 hb)
  rw [completeLines, List.dropWhile_eq_nil_iff.2 hall, List.reverse_nil]

theorem lineLengths_of_notMem (begun : Nat) : lineLengths begun line = [] := by
  induction line generalizing begun with
  | nil => rfl
  | cons b line ih =>
      obtain ⟨hb, hline⟩ := not_or.1 (mt List.mem_cons.2 h)
      rw [lineLengths, if_neg (by simpa using Ne.symm hb)]
      exact ih hline _

theorem lineLengths_line (begun : Nat) (rest : Bytes) :
    lineLengths begun (line ++ [lineFeed] ++ rest) =
      (begun + (line.length + 1)) :: lineLengths 0 rest := by
  induction line generalizing begun with
  | nil => rfl
  | cons b line ih =>
      obtain ⟨hb, hline⟩ := not_or.1 (mt List.mem_cons.2 h)
      rw [List.cons_append, List.cons_append, lineLengths, if_neg (by simpa using Ne.symm hb),
        ih hline]
      simp [Nat.add_assoc, Nat.add_comm 1]

end Line

/-! ## The lengths of the lines -/

/-- The lines found in a content start where its complete lines start. -/
theorem startsFrom_lineLengths (offset : Nat) (bytes : Bytes) :
    startsFrom offset (lineLengths 0 bytes) = (lineStarts bytes).map (offset + ·) := by
  induction bytes using lineInduction generalizing offset with
  | unfinished line h =>
      rw [lineLengths_of_notMem h, lineStarts_of_notMem h]
      rfl
  | line line rest h ih =>
      rw [lineLengths_line h, lineStarts_append (endsLine_append_lineFeed line),
        lineStarts_line h, startsFrom, ih]
      simp [Function.comp_def, Nat.add_assoc]

/-- The lines found in a content are as long together as its complete lines. -/
theorem foldl_lineLengths (offset : Nat) (bytes : Bytes) :
    (lineLengths 0 bytes).foldl (· + ·) offset = offset + (completeLines bytes).length := by
  induction bytes using lineInduction generalizing offset with
  | unfinished line h =>
      rw [lineLengths_of_notMem h, completeLines_of_notMem h]
      rfl
  | line line rest h ih =>
      rw [lineLengths_line h, completeLines_append (endsLine_append_lineFeed line),
        List.foldl_cons, ih, List.length_append, List.length_append]
      simp [Nat.add_assoc]

theorem length_lineLengths (bytes : Bytes) :
    (lineLengths 0 bytes).length = bytes.count lineFeed := by
  induction bytes using lineInduction with
  | unfinished line h =>
      rw [lineLengths_of_notMem h, List.count_eq_zero_of_not_mem h, List.length_nil]
  | line line rest h ih =>
      rw [lineLengths_line h, List.length_cons, ih, List.count_append, List.count_append,
        List.count_eq_zero_of_not_mem h, List.count_singleton_self]
      omega

theorem pos_of_mem_lineLengths {length : Nat} {bytes : Bytes} (h : length ∈ lineLengths 0 bytes) :
    0 < length := by
  induction bytes using lineInduction with
  | unfinished line hline => simp [lineLengths_of_notMem hline] at h
  | line line rest hline ih =>
      rw [lineLengths_line hline] at h
      rcases List.mem_cons.1 h with rfl | h
      · omega
      · exact ih h

theorem length_startsFrom (offset : Nat) (lengths : List Nat) :
    (startsFrom offset lengths).length = lengths.length := by
  induction lengths generalizing offset with
  | nil => rfl
  | cons length rest ih => rw [startsFrom, List.length_cons, List.length_cons, ih]

theorem length_lineStarts (bytes : Bytes) : (lineStarts bytes).length = bytes.count lineFeed := by
  have hstarts := congrArg List.length (startsFrom_lineLengths 0 bytes)
  rw [List.length_map, length_startsFrom, length_lineLengths] at hstarts
  exact hstarts.symm

/-! ## Refreshing -/

/-- How a content may follow another one: it goes on behind the complete lines, or it differs
from them where the index looks. -/
def Follows (old new : Bytes) : Prop :=
  completeLines old <+: new ∨
    new.length < (completeLines old).length ∨
    new.take (min headSample (completeLines old).length) ≠
      old.take (min headSample (completeLines old).length) ∨
    new[(completeLines old).length - 1]? ≠ some lineFeed

instance (old new : Bytes) : Decidable (Follows old new) :=
  inferInstanceAs (Decidable (_ ∨ _))

theorem finish_of_unbroken (index : LineIndex) (anew : Bool) (bytes : Bytes) :
    finish index anew ⟨bytes, none⟩ =
      (.ok (index.sampleHead bytes).lineCount, ⟨index.sampleHead bytes, anew⟩) := by
  simp [finish, Attempt.faultAt?]

/-- Of a content that goes on behind complete lines the same first bytes are remembered,
whether they were read before or are read now. -/
theorem sampleHead_append (done rest : Bytes) (starts : List Nat) {indexedTo : Nat}
    (h : done.length ≤ indexedTo) :
    sampleHead ⟨starts, indexedTo, done.take headSample⟩ (done ++ rest) =
      ⟨starts, indexedTo, (done ++ rest).take (min headSample indexedTo)⟩ := by
  rw [sampleHead]
  split
  · rw [Nat.min_comm]
  · next henough =>
      have hlong : min indexedTo headSample ≤ min headSample done.length := by
        rw [← List.length_take]
        exact Nat.not_lt.1 fun hshort => henough (decide_eq_true hshort)
      congr 1
      rw [List.take_append, Nat.sub_eq_zero_of_le (by omega), List.take_zero, List.append_nil,
        List.take_eq_take_iff]
      omega

/-- Going on behind complete lines comes to the index of the whole content. -/
theorem grow_ofBytes {done : Bytes} (hdone : EndsLine done) (rest : Bytes) (anew : Bool) :
    grow (ofBytes done) anew ⟨done ++ rest, none⟩ =
      (.ok ((done ++ rest).count lineFeed), ⟨ofBytes (done ++ rest), anew⟩) := by
  have hdoneIndex : ofBytes done = ⟨lineStarts done, done.length, done.take headSample⟩ := by
    rw [ofBytes, completeLines_of_endsLine hdone, LineIndex.mk.injEq, List.take_eq_take_iff]
    exact ⟨rfl, rfl, by omega⟩
  have hcomplete := congrArg List.length (completeLines_append hdone rest)
  rw [List.length_append] at hcomplete
  rw [grow, hdoneIndex, List.drop_left]
  split
  · next hsame =>
      obtain rfl : rest = [] := by simpa using hsame
      rw [List.append_nil, ← hdoneIndex, lineCount, ofBytes, length_lineStarts]
  · have hgrown : ((⟨lineStarts done, done.length, done.take headSample⟩ : LineIndex).addLines
        (lineLengths 0 rest)).moveOn (lineLengths 0 rest) =
          ⟨lineStarts (done ++ rest), (completeLines (done ++ rest)).length,
            done.take headSample⟩ := by
      rw [addLines, moveOn, startsFrom_lineLengths, foldl_lineLengths, hcomplete,
        lineStarts_append hdone]
    simp only [Attempt.lineFault?]
    rw [hgrown, finish_of_unbroken, sampleHead_append done rest _ (by omega), lineCount,
      length_lineStarts]
    rfl

theorem finish_of_ok {index : LineIndex} {anew : Bool} {a : Attempt} {count : Nat}
    {after : Refreshed} (h : finish index anew a = (.ok count, after)) :
    finish index anew ⟨a.bytes, none⟩ = (.ok count, after) := by
  rw [finish] at h
  split at h
  · cases h
  · rw [finish_of_unbroken]
    exact h

theorem grow_of_ok {index : LineIndex} {anew : Bool} {a : Attempt} {count : Nat}
    {after : Refreshed} (h : grow index anew a = (.ok count, after)) :
    grow index anew ⟨a.bytes, none⟩ = (.ok count, after) := by
  rw [grow] at h ⊢
  split at h
  · next hsame => rw [if_pos hsame, h]
  · next hnew =>
      rw [if_neg hnew]
      simp only at h ⊢
      split at h
      · cases h
      · exact finish_of_ok h

theorem refresh_of_unbroken (index : LineIndex) (bytes : Bytes) :
    index.refresh ⟨bytes, none⟩ =
      if index.isReplaced bytes then grow empty true ⟨bytes, none⟩
      else grow index false ⟨bytes, none⟩ := by
  simp [refresh, Attempt.faultAt?]

/-- An attempt that succeeds is as good as one that breaks off nowhere. -/
theorem refresh_of_ok {index : LineIndex} {a : Attempt} {count : Nat} {after : Refreshed}
    (h : index.refresh a = (.ok count, after)) :
    index.refresh ⟨a.bytes, none⟩ = (.ok count, after) := by
  rw [refresh_of_unbroken]
  rw [refresh] at h
  split at h
  · cases h
  · simp only at h
    split at h
    · cases h
    · split at h
      · next hreplaced => rw [if_pos hreplaced, grow_of_ok h]
      · next hkept => rw [if_neg hkept, grow_of_ok h]

theorem ofBytes_completeLines (bytes : Bytes) : ofBytes (completeLines bytes) = ofBytes bytes := by
  obtain ⟨unfinished, hunfinished, hbytes⟩ := exists_unfinished bytes
  have hends := endsLine_completeLines bytes
  have hstarts : lineStarts bytes = lineStarts (completeLines bytes) := by
    rw [hbytes, lineStarts_append hends, lineStarts_of_notMem hunfinished, ← hbytes, List.map_nil,
      List.append_nil]
  have hhead : bytes.take (min headSample (completeLines bytes).length) =
      (completeLines bytes).take (min headSample (completeLines bytes).length) :=
    (congrArg (List.take _) hbytes).trans
      (List.take_append_of_le_length (Nat.min_le_right _ _))
  rw [ofBytes, completeLines_of_endsLine hends, ← hstarts, ← hhead]
  rfl

/-- A content that goes on behind the complete lines is not taken for another one. -/
theorem isReplaced_append {index : LineIndex} {done : Bytes} (hends : EndsLine done)
    (hindexed : index.indexedTo = done.length) (hhead : index.head <+: done) (rest : Bytes) :
    index.isReplaced (done ++ rest) = false := by
  have hsample : (done ++ rest).take index.head.length = index.head :=
    (List.prefix_iff_eq_take.1 (hhead.trans (List.prefix_append _ _))).symm
  rw [isReplaced, stillMatches, hindexed, hsample]
  cases hlast : done.getLast? with
  | none => simp [List.getLast?_eq_none_iff.1 hlast]
  | some b =>
      obtain rfl := hends b hlast
      rw [List.getLast?_eq_getElem?] at hlast
      have hlt := (List.getElem?_eq_some_iff.1 hlast).1
      simp [List.getElem?_append_left hlt, hlast]

theorem head_ofBytes_isPrefix (bytes : Bytes) : (ofBytes bytes).head <+: completeLines bytes := by
  rw [← ofBytes_completeLines]
  exact List.take_prefix _ _

/-- A content that differs from the complete lines where the index looks is taken for another
one. -/
theorem isReplaced_of_follows {old new : Bytes} (h : Follows old new)
    (hnot : ¬ completeLines old <+: new) : (ofBytes old).isReplaced new = true := by
  have hpos : (completeLines old).length ≠ 0 := fun hzero =>
    hnot (List.eq_nil_of_length_eq_zero hzero ▸ List.nil_prefix)
  have hhead : (old.take (min headSample (completeLines old).length)).length =
      min headSample (completeLines old).length := by
    rw [List.length_take, Nat.min_eq_left]
    exact Nat.le_trans (Nat.min_le_right _ _) (completeLines_isPrefix old).length_le
  rw [isReplaced, stillMatches, ofBytes, hhead]
  rcases h.resolve_left hnot with hshort | hdiffers | hfeed
  · simp [hshort]
  · simp [hpos, hdiffers]
  · simp [hpos, hfeed]

/-- The index of a content, brought up to one that may follow it, is the index of that. -/
theorem refresh_ofBytes {old new : Bytes} (h : Follows old new) :
    ∃ anew, (ofBytes old).refresh ⟨new, none⟩ =
      (.ok (new.count lineFeed), ⟨ofBytes new, anew⟩) := by
  rw [refresh_of_unbroken]
  by_cases hgrown : completeLines old <+: new
  · obtain ⟨rest, rfl⟩ := hgrown
    refine ⟨false, ?_⟩
    have hkept := isReplaced_append (endsLine_completeLines old) rfl (head_ofBytes_isPrefix old)
    rw [hkept, if_neg Bool.false_ne_true, ← ofBytes_completeLines old]
    exact grow_ofBytes (endsLine_completeLines old) rest false
  · refine ⟨true, ?_⟩
    rw [if_pos (isReplaced_of_follows h hgrown)]
    exact grow_ofBytes endsLine_nil new true

/-- Any attempt that succeeds leaves the index of the content that it reads. -/
theorem index_of_refresh {old : Bytes} {a : Attempt} {count : Nat} {after : Refreshed}
    (hfollows : Follows old a.bytes) (h : (ofBytes old).refresh a = (.ok count, after)) :
    after.index = ofBytes a.bytes ∧ count = a.bytes.count lineFeed := by
  obtain ⟨anew, hgrown⟩ := refresh_ofBytes hfollows
  have hsame := (refresh_of_ok h).symm.trans hgrown
  obtain ⟨hcount, hafter⟩ := Prod.mk.inj hsame
  exact ⟨congrArg Refreshed.index hafter, Except.ok.inj hcount⟩

end PatternScan.LineIndex
