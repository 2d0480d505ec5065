import Mathlib.Algebra.Order.Ring.Nat
import Mathlib.Data.List.Basic
import PatternScan.Proofs.Analysis.Course

/-!
# Percentages of a scan

The batches of a scan are turned into notifications one after another, each with the percentage
done up to it. A percentage grows with the number of records that are done and never goes beyond
100, even where the product from which it is computed is cut off. Behind the notifications of
batches stands either the last notification of the request or, where the request stays alive, an
empty one at 100 with whatever follows at 100.
-/

namespace PatternScan.Analysis

/-- A batch as it is taken: the number of records scanned for it, and the results among them. -/
structure Batch where
  processed : Nat
  results : List RecordResult
  deriving DecidableEq, Repr

/-- The number of records that the batches tell of as scanned. -/
def done (batches : List Batch) : Nat := (batches.map Batch.processed).sum

@[simp] theorem done_nil : done [] = 0 := rfl

@[simp] theorem done_cons (b : Batch) (batches : List Batch) :
    done (b :: batches) = b.processed + done batches := rfl

@[simp] theorem done_append (batches batches' : List Batch) :
    done (batches ++ batches') = done batches + done batches' := by
  rw [done, List.map_append, List.sum_append]
  rfl

theorem done_take_le (batches : List Batch) (k : Nat) : done (batches.take k) ≤ done batches := by
  conv_rhs => rw [← List.take_append_drop k batches, done_append]
  exact Nat.le_add_right _ _

/-- Batches that tell of some record each tell of more with every batch. -/
theorem done_take_lt {batches : List Batch} (h : ∀ b ∈ batches, 0 < b.processed) {k : Nat}
    (hk : k < batches.length) : done (batches.take k) < done batches := by
  conv_rhs => rw [← List.take_append_drop k batches, done_append,
    List.drop_eq_getElem_cons hk, done_cons]
  have hpos := h _ (List.getElem_mem hk)
  omega

/-! ## Percentages -/

section Percentages

variable {processed processed' total : Nat}

theorem percentOf_le (processed total : Nat) : percentOf processed total ≤ 100 := by
  rw [percentOf]
  split
  · exact le_rfl
  · exact min_le_left _ _

theorem percentOf_mono (h : processed ≤ processed') :
    percentOf processed total ≤ percentOf processed' total := by
  rw [percentOf, percentOf]
  split
  · exact le_rfl
  · gcongr

theorem percentOf_eq (htotal : 0 < total) (hle : processed ≤ total)
    (hsmall : 100 * processed < 2 ^ 64) :
    percentOf processed total = 100 * processed / total := by
  have hproduct : min (processed * 100) Number.maxNat64 = 100 * processed := by
    rw [Number.maxNat64, Nat.mul_comm, min_eq_left]
    omega
  rw [percentOf, if_neg htotal.ne', hproduct, min_eq_right]
  calc
    100 * processed / total ≤ 100 * total / total := by gcongr
    _ = 100 := Nat.mul_div_cancel _ htotal

theorem percentOf_self (htotal : 0 < total) (hsmall : 100 * total < 2 ^ 64) :
    percentOf total total = 100 := by
  rw [percentOf_eq htotal le_rfl hsmall, Nat.mul_div_cancel _ htotal]

theorem percentOf_lt (hlt : processed < total) (hsmall : 100 * total < 2 ^ 64) :
    percentOf processed total < 100 := by
  rw [percentOf_eq (Nat.zero_lt_of_lt hlt) hlt.le (by omega)]
  exact Nat.div_lt_of_lt_mul (by omega)

end Percentages

/-! ## Notifications of batches -/

/-- The notifications of batches of which one is taken after another, from so many records on that
are done. -/
def notices (id : RequestId) (total : Nat) : Nat → List Batch → List Notification
  | _, [] => []
  | processed, b :: batches =>
      .progress id (percentOf (processed + b.processed) total) b.results ::
        notices id total (processed + b.processed) batches

section Notices

variable {id : RequestId} {total processed : Nat} {batches : List Batch}

@[simp] theorem length_notices (id : RequestId) (total processed : Nat) (batches : List Batch) :
    (notices id total processed batches).length = batches.length := by
  induction batches generalizing processed with
  | nil => rfl
  | cons b batches ih => rw [notices, List.length_cons, ih, List.length_cons]

theorem getElem?_notices (k : Nat) :
    (notices id total processed batches)[k]? =
      batches[k]?.map fun b =>
        .progress id (percentOf (processed + done (batches.take (k + 1))) total) b.results := by
  induction batches generalizing processed k with
  | nil => rfl
  | cons b batches ih =>
      cases k with
      | zero => simp [notices]
      | succ k =>
          rw [notices, List.getElem?_cons_succ, List.getElem?_cons_succ, ih, List.take_succ_cons,
            done_cons, Nat.add_assoc]

/-- Another batch is turned into another notification. -/
theorem notices_snoc (b : Batch) :
    notices id total processed (batches ++ [b]) =
      notices id total processed batches ++
        [.progress id (percentOf (processed + (done batches + b.processed)) total) b.results] := by
  induction batches generalizing processed with
  | nil => simp [notices]
  | cons c batches ih =>
      rw [List.cons_append, notices, notices, ih, List.cons_append, done_cons, Nat.add_assoc,
        Nat.add_assoc]

theorem le_percent_of_mem_notices {n : Notification}
    (hn : n ∈ notices id total processed batches) :
    n.state = .progress ∧ percentOf processed total ≤ n.percent ∧ n.percent ≤ 100 := by
  induction batches generalizing processed with
  | nil => cases hn
  | cons b batches ih =>
      have hmono : percentOf processed total ≤ percentOf (processed + b.processed) total :=
        percentOf_mono (Nat.le_add_right _ _)
      rcases List.mem_cons.1 hn with rfl | hn
      · exact ⟨rfl, hmono, percentOf_le _ _⟩
      · obtain ⟨hstate, hle, hbound⟩ := ih hn
        exact ⟨hstate, hmono.trans hle, hbound⟩

theorem pairwise_notices :
    (notices id total processed batches).Pairwise fun n m => n.percent ≤ m.percent := by
  induction batches generalizing processed with
  | nil => exact List.Pairwise.nil
  | cons b batches ih =>
      refine List.pairwise_cons.2 ⟨fun n hn => ?_, ih⟩
      exact (le_percent_of_mem_notices hn).2.1

end Notices

/-- The percentage of the last notification, and 0 if there is none. -/
def lastPercent (ns : List Notification) : Nat := (ns.getLast?.map Notification.percent).getD 0

@[simp] theorem lastPercent_snoc (ns : List Notification) (n : Notification) :
    lastPercent (ns ++ [n]) = n.percent := by
  rw [lastPercent, List.getLast?_concat, Option.map_some, Option.getD_some]

theorem lastPercent_cases (ns : List Notification) :
    ns = [] ∧ lastPercent ns = 0 ∨ ∃ n ∈ ns, lastPercent ns = n.percent := by
  rcases List.eq_nil_or_concat' ns with rfl | ⟨most, n, rfl⟩
  · exact .inl ⟨rfl, rfl⟩
  · exact .inr ⟨n, by simp, lastPercent_snoc most n⟩

/-- Behind notifications in ascending order the last one has the greatest percentage. -/
theorem percent_le_lastPercent {ns : List Notification}
    (h : ns.Pairwise fun n m => n.percent ≤ m.percent) {n : Notification} (hn : n ∈ ns) :
    n.percent ≤ lastPercent ns := by
  rcases List.eq_nil_or_concat' ns with rfl | ⟨most, last, rfl⟩
  · cases hn
  · rw [lastPercent_snoc]
    rcases List.mem_append.1 hn with hmost | hlast
    · exact (List.pairwise_append.1 h).2.2 n hmost last List.mem_cons_self
    · rw [List.mem_singleton.1 hlast]

/-! ## What follows the batches -/

/-- An error that ends the request has this percentage. -/
def Ending.Tells (last : Nat) (e : Ending) : Prop := ∀ percent error, e = .failed percent error →
  percent = last

theorem Ending.cancelled_tells (last : Nat) : Ending.cancelled.Tells last := nofun

theorem Ending.succeeded_tells (last : Nat) : Ending.succeeded.Tells last := nofun

theorem Ending.failed_tells (last : Nat) (error : String) : (Ending.failed last error).Tells last :=
  fun _ _ h => (Ending.failed.inj h).1.symm

/-- What is told when the batches are: the last notification, where an error carries the
percentage told last, or that the request is alive and then that all is done. -/
inductive Aftermath (id : RequestId) (last : Nat) : List Notification → Prop where
  | ended (e : Ending) (h : e.Tells last) : Aftermath id last (e.farewell id).toList
  | alive (more : List Notification) (h : ∀ n ∈ more, n.percent = 100) :
      Aftermath id last (.progress id 100 [] :: more)

namespace Aftermath

variable {id : RequestId} {last : Nat} {rest rest' : List Notification}

theorem nil : Aftermath id last [] := .ended .cancelled (Ending.cancelled_tells last)

theorem of_prefix (h : Aftermath id last rest) (hbegins : rest' <+: rest) :
    Aftermath id last rest' := by
  cases rest' with
  | nil => exact .nil
  | cons n rest' =>
      cases h with
      | ended e htells =>
          cases hfarewell : e.farewell id with
          | none =>
              rw [hfarewell] at hbegins
              cases List.prefix_nil.1 hbegins
          | some m =>
              rw [hfarewell, Option.toList_some, List.cons_prefix_cons, List.prefix_nil] at hbegins
              obtain ⟨rfl, rfl⟩ := hbegins
              have hended : Aftermath id last (e.farewell id).toList := .ended e htells
              rwa [hfarewell] at hended
      | alive more hfull =>
          rw [List.cons_prefix_cons] at hbegins
          obtain ⟨rfl, hbegins⟩ := hbegins
          exact .alive rest' fun m hm => hfull m (hbegins.subset hm)

theorem percent_mem (h : Aftermath id last rest) {n : Notification} (hn : n ∈ rest) :
    n.percent = 100 ∨ n.percent = last := by
  cases h with
  | ended e htells =>
      cases e with
      | cancelled => cases hn
      | succeeded =>
          obtain rfl := List.mem_singleton.1 hn
          exact .inl rfl
      | failed percent error =>
          obtain rfl := List.mem_singleton.1 hn
          exact .inr (htells percent error rfl)
  | alive more hfull =>
      rcases List.mem_cons.1 hn with rfl | hn
      · exact .inl rfl
      · exact .inl (hfull n hn)

theorem pairwise (h : Aftermath id last rest) :
    rest.Pairwise fun n m => n.percent ≤ m.percent := by
  cases h with
  | ended e htells =>
      cases e.farewell id with
      | none => exact List.Pairwise.nil
      | some n => exact List.pairwise_singleton _ n
  | alive more hfull =>
      refine List.pairwise_cons.2 ⟨fun n hn => (hfull n hn).ge, ?_⟩
      exact List.pairwise_of_forall_mem_list fun n hn m hm => by rw [hfull n hn, hfull m hm]

/-- An error is the first that follows the batches, or all that precedes it is at 100. -/
theorem error_cases {between late : List Notification} {n : Notification}
    (h : Aftermath id last (between ++ n :: late)) (herror : n.state = .error) :
    between = [] ∧ n.percent = last ∨
      between ≠ [] ∧ n.percent = 100 ∧ ∀ m ∈ between, m.percent = 100 := by
  generalize hrest : between ++ n :: late = rest at h
  cases h with
  | ended e htells =>
      cases hlast : e.farewell id with
      | none => exact absurd (hlast ▸ hrest) (by simp)
      | some m =>
          rw [hlast, Option.toList_some, List.append_eq_singleton_iff] at hrest
          obtain ⟨rfl, hn⟩ := hrest.resolve_right fun hright => List.cons_ne_nil _ _ hright.2
          obtain ⟨rfl, -⟩ := List.cons.inj hn
          refine .inl ⟨rfl, ?_⟩
          cases e with
          | cancelled => cases hlast
          | succeeded =>
              cases hlast
              cases herror
          | failed percent error =>
              cases hlast
              exact htells percent error rfl
  | alive more hfull =>
      cases between with
      | nil =>
          obtain ⟨rfl, -⟩ := List.cons.inj hrest
          cases herror
      | cons m between =>
          obtain ⟨rfl, rfl⟩ := List.cons.inj hrest
          refine .inr ⟨List.cons_ne_nil _ _, hfull n (by simp), ?_⟩
          exact List.forall_mem_cons.2 ⟨rfl, fun m hm => hfull m (List.mem_append_left _ hm)⟩

end Aftermath

section Told

variable {id : RequestId} {total : Nat} {told rest : List Notification}

/-- Notifications of batches and what follows them are in ascending order up to 100. -/
theorem pairwise_told (hpairwise : told.Pairwise fun n m => n.percent ≤ m.percent)
    (hbound : ∀ n ∈ told, n.percent ≤ 100) (hrest : Aftermath id (lastPercent told) rest) :
    ((told ++ rest).Pairwise fun n m => n.percent ≤ m.percent) ∧
      ∀ n ∈ told ++ rest, n.percent ≤ 100 := by
  refine ⟨List.pairwise_append.2 ⟨hpairwise, hrest.pairwise, fun n hn m hm => ?_⟩, ?_⟩
  · rcases hrest.percent_mem hm with hfull | hlast
    · exact hfull ▸ hbound n hn
    · exact hlast ▸ percent_le_lastPercent hpairwise hn
  · intro n hn
    rcases List.mem_append.1 hn with hn | hn
    · exact hbound n hn
    · rcases hrest.percent_mem hn with hfull | hlast
      · exact hfull.le
      · rcases lastPercent_cases told with ⟨-, hnone⟩ | ⟨m, hm, hsome⟩
        · rw [hlast, hnone]
          exact Nat.zero_le _
        · rw [hlast, hsome]
          exact hbound m hm

/-- An error carries the percentage of the notification before it. -/
theorem percent_of_error (hstate : ∀ n ∈ told, n.state = .progress)
    (hrest : Aftermath id (lastPercent told) rest) {early late : List Notification}
    {n : Notification} (hposted : told ++ rest = early ++ n :: late) (herror : n.state = .error) :
    n.percent = lastPercent early := by
  obtain ⟨between, rfl, hbetween⟩ :
      ∃ between, early = told ++ between ∧ rest = between ++ n :: late := by
    rcases List.append_eq_append_iff.1 hposted with ⟨between, hearly, hrest'⟩ | ⟨ns, htold, hns⟩
    · exact ⟨between, hearly, hrest'⟩
    · cases ns with
      | nil => exact ⟨[], by simp [htold], hns.symm⟩
      | cons m ns =>
          -- The error would be a notification of a batch.
          obtain ⟨rfl, -⟩ := List.cons.inj hns
          cases (hstate n (by simp [htold])).symm.trans herror
  rw [hbetween] at hrest
  rcases hrest.error_cases herror with ⟨rfl, hlast⟩ | ⟨hne, hfull, hbefore⟩
  · rw [hlast, List.append_nil]
  · obtain ⟨most, m, rfl⟩ := (List.eq_nil_or_concat' between).resolve_left hne
    rw [hfull, ← List.append_assoc, lastPercent_snoc, hbefore m (by simp)]

end Told

end PatternScan.Analysis
