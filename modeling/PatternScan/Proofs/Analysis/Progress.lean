import Mathlib.Algebra.Ring.Nat
import PatternScan.Analysis.Session
import PatternScan.Proofs.Analysis.Undisturbed

/-!
# Scans that come to an end

What a request has still to do is weighed: mostly the records that are not scanned yet, and a
little for the reports and phases that follow. Every move of a request that is left alone takes
some of the weight away, and as long as the request is not over one more move is possible.
-/

namespace PatternScan.Analysis

/-! ## Weights -/

/-- The worker has something to report. -/
def Worker.holds (w : Worker) : Bool := 0 < w.processed || !w.results.isEmpty

/-- The weight of what a worker has still to do. -/
def Worker.remaining (w : Worker) : Nat :=
  match w.stage with
  | .pulling => 8 * (w.stop - w.position) + if w.holds then 7 else 1
  | .loading => 8 * (w.stop - w.position) + if w.holds then 6 else 0
  | .flushing => 8 * (w.stop - w.position) + 6
  | .reporting _ => 8 * (w.stop - w.position) + 5
  | .stopped => 0

/-- The weight of a part for which no worker is started yet. -/
def ScanRange.remaining (part : ScanRange) : Nat := 8 * part.size + 3

/-- The weight of the phases that are still to come. -/
def Phase.remaining : Phase → Nat
  | starting parts => 7 + (parts.map ScanRange.remaining).sum
  | hiring part rest => 9 + 8 * part.size + (rest.map ScanRange.remaining).sum
  | collecting => 6
  | finishing => 5
  | leaving _ => 4
  | asking _ next => 2 + next.remaining
  | telling _ next => 1 + next.remaining
  | retiring => 1
  | _ => 0

/-- The weight of what a run has still to do. -/
def Run.remaining (run : Run) : Nat :=
  run.phase.remaining + (run.workers.map Worker.remaining).sum + 3 * run.events.length

theorem sum_map_set {α : Type} (f : α → Nat) {xs : List α} {i : Nat} {x : α} (y : α)
    (hx : xs[i]? = some x) : ((xs.set i y).map f).sum + f x = (xs.map f).sum + f y := by
  induction xs generalizing i with
  | nil => cases hx
  | cons head rest ih =>
      cases i with
      | zero =>
          obtain rfl := Option.some.inj hx
          simp only [List.set_cons_zero, List.map_cons, List.sum_cons]
          omega
      | succ i =>
          have hrest := ih hx
          simp only [List.set_cons_succ, List.map_cons, List.sum_cons]
          omega

/-! ## The weight of a new run -/

namespace ScanRange

theorem length_split_le (start count workers : Nat) :
    (split start count workers).length ≤ max workers 1 := by
  rw [length_split]
  exact Nat.min_le_left _ _

theorem EndToEnd.sum_remaining {parts : List ScanRange} {first last : Nat}
    (h : EndToEnd first parts last) :
    (parts.map ScanRange.remaining).sum = 8 * (last - first) + 3 * parts.length := by
  induction parts generalizing first with
  | nil =>
      obtain rfl := h
      simp
  | cons part rest ih =>
      obtain ⟨rfl, hle, hrest⟩ := h
      have hlast := hrest.le
      rw [List.map_cons, List.sum_cons, ih hrest, ScanRange.remaining, ScanRange.size,
        List.length_cons]
      omega

end ScanRange

/-- The bound on the steps of a scan is enough for a run from its beginning on. -/
theorem Run.remaining_ofJob_le (id : RequestId) (job : Job) :
    (ofJob id job).remaining ≤ (ofJob id job).workload := by
  have hparts := (ofJob id job).parts_endToEnd.sum_remaining
  have hcount := ScanRange.length_split_le job.range.start job.range.size job.workers
  change 7 + ((ofJob id job).parts.map ScanRange.remaining).sum + 0 + 3 * 0 ≤
    16 * (job.range.size + job.workers + 4)
  have hsize : job.range.start + job.range.size - job.range.start = job.range.size :=
    Nat.add_sub_cancel_left _ _
  have hlength : (ofJob id job).parts.length ≤ max job.workers 1 := hcount
  have hsum : ((ofJob id job).parts.map ScanRange.remaining).sum =
      8 * job.range.size + 3 * (ofJob id job).parts.length := hsize ▸ hparts
  omega

/-! ## Every move takes weight away -/

/-- A step of a worker weighs more than the report that it makes. -/
theorem Worker.Unbroken.remaining_step {w next : Worker} {event : Option WorkerEvent}
    (h : w.Unbroken) (hstep : w.step false true = some (next, event)) :
    next.remaining + 3 * event.toList.length < w.remaining := by
  cases hstage : w.stage with
  | pulling =>
      simp only [Worker.step, hstage, Option.some.injEq, Prod.mk.injEq] at hstep
      obtain ⟨rfl, rfl⟩ := hstep
      have hpulling : w.remaining = 8 * (w.stop - w.position) + if w.holds then 7 else 1 := by
        rw [remaining, hstage]
      rw [hpulling, pull]
      split
      · have hloading : (w.enter .loading).remaining =
            8 * (w.stop - w.position) + if w.holds then 6 else 0 := rfl
        simp only [Bool.false_eq_true, if_false, hloading, Option.toList_none, List.length_nil]
        split <;> omega
      · split
        · next hholds =>
            rw [if_pos (show w.holds = true from hholds)]
            change 8 * (w.stop - w.position) + 6 + 0 < _
            omega
        · change 0 + 0 < _
          split <;> omega
  | loading => simp [Worker.step, hstage] at hstep
  | flushing =>
      simp only [Worker.step, hstage, Option.some.injEq, Prod.mk.injEq] at hstep
      obtain ⟨rfl, rfl⟩ := hstep
      simp only [remaining, hstage]
      change 8 * (w.stop - w.position) + 5 + 0 < _
      omega
  | reporting report =>
      obtain ⟨processed, results, rfl⟩ := h.reporting report hstage
      simp only [Worker.step, hstage, Option.some.injEq, Prod.mk.injEq] at hstep
      obtain ⟨rfl, rfl⟩ := hstep
      simp only [remaining, hstage]
      change 8 * (w.stop - w.position) + 1 + 3 < _
      omega
  | stopped => simp [Worker.step, hstage] at hstep

/-- A read takes the weight of a record away. -/
theorem Worker.remaining_load {w : Worker} {context : Context} {chunkSize : Nat} {record : Record}
    (hstage : w.stage = .loading) (hlt : w.position < w.stop) :
    (w.load context chunkSize (.ok record)).remaining < w.remaining := by
  have hloading : 8 * (w.stop - w.position) ≤ w.remaining := by
    rw [remaining, hstage]
    exact Nat.le_add_right _ _
  have hnext : (w.load context chunkSize (.ok record)).remaining ≤
      8 * (w.stop - (w.position + 1)) + 7 := by
    by_cases hfull : w.processed + 1 = max chunkSize 1
    · simp only [load, if_pos hfull, remaining]
      omega
    · simp only [load, if_neg hfull, remaining]
      split <;> omega
  omega

namespace Run.Undisturbed

variable {find : Nat → Option RecordResult} {run run' : Run} {posted : List Notification}
  {stage : Stage} {event : RequestEvent} {effect : Effect}

/-- A worker reads inside the range that was asked for. -/
theorem position_lt (h : run.Undisturbed find posted stage) {index : Nat} {w : Worker}
    (hworker : run.workers[index]? = some w) (hstage : w.stage = .loading) :
    w.position < w.stop ∧ w.stop ≤ run.job.range.start + run.job.range.size := by
  obtain ⟨order, -, htally⟩ := h.tally
  obtain ⟨part, done, hpart, -, hfollows⟩ := htally.exists_part hworker
  rw [hfollows.stop]
  exact ⟨hfollows.loading hstage, (run.parts_endToEnd.bounds (List.mem_of_getElem? hpart)).2.2⟩

/-- Every move of a run that is left alone takes weight away. -/
theorem remaining_lt (h : run.Undisturbed find posted stage) (hjob : run.job.continuous = false)
    (hmove : run.Moves false false event run' effect) {record : Nat → Record}
    (hread : event.readsFrom record = true) : run'.remaining < run.remaining := by
  have hcalm := h.phase
  cases hmove with
  | start parts hphase =>
      cases parts with
      | nil =>
          simp only [Run.start, Run.enter, Run.remaining, hphase, Phase.remaining, List.map_nil,
            List.sum_nil]
          omega
      | cons part rest =>
          simp only [Run.start, Run.enter, Run.remaining, hphase, Phase.remaining,
            Bool.false_eq_true, if_false, List.map_cons, List.sum_cons, ScanRange.remaining]
          omega
  | hire part rest hphase =>
      have hnew : (Worker.ofRange part).remaining = 8 * part.size + 1 := rfl
      simp only [Run.hire, Run.remaining, hphase, Phase.remaining, List.map_append, List.map_cons,
        List.map_nil, List.sum_append, List.sum_cons, List.sum_nil, hnew]
      omega
  | take event rest hphase hevents =>
      obtain ⟨processed, results, rfl⟩ := h.batches event (hevents ▸ List.mem_cons_self)
      simp only [Run.take, Run.remaining, hphase, hevents, Phase.remaining, List.length_cons]
      omega
  | close hphase hevents hidle =>
      have hafter : run.afterScan = .finishing := by simp [afterScan, h.initial]
      simp only [Run.enter, Run.remaining, hphase, hafter, Phase.remaining]
      omega
  | finish hphase =>
      have hfinish : run.finish false = run.enter (.leaving (some (.successful run.id))) := by
        simp [Run.finish, hjob]
      simp only [hfinish, Run.enter, Run.remaining, hphase, Phase.remaining]
      omega
  | fail percent error hphase =>
      rw [hphase] at hcalm
      cases hcalm
  | leave farewell hphase =>
      rw [hphase] at hcalm
      cases hcalm
      simp only [Run.enter, Run.remaining, hphase, Run.afterLeaving, Phase.remaining]
      omega
  | ask n next hphase =>
      simp only [Run.enter, Run.remaining, hphase, Bool.false_eq_true, if_false, Phase.remaining]
      omega
  | tell n next hphase =>
      simp only [Run.enter, Run.remaining, hphase, Phase.remaining]
      omega
  | rest hphase =>
      rw [hphase] at hcalm
      cases hcalm
  | poll answer hphase =>
      rw [hphase] at hcalm
      cases hcalm
  | retire hphase =>
      simp only [Run.enter, Run.remaining, hphase, Phase.remaining]
      omega
  | work index w next event hworker hstep =>
      rw [h.listening] at hstep
      have hstepped := (h.unbroken w (List.mem_of_getElem? hworker)).remaining_step hstep
      have hsum := sum_map_set Worker.remaining next hworker
      simp only [Run.afterWork, Run.remaining, h.listening, if_true, List.length_append]
      omega
  | load index w answer hworker hstage =>
      obtain rfl := RequestEvent.eq_ok_of_readsFrom hread
      have hlt := (h.position_lt hworker hstage).1
      have hloaded : (w.load run.job.context run.job.chunkSize
          (.ok (record w.position))).remaining < w.remaining := Worker.remaining_load hstage hlt
      have hsum := sum_map_set Worker.remaining
        (w.load run.job.context run.job.chunkSize (.ok (record w.position))) hworker
      simp only [Run.afterLoad, Run.remaining]
      omega

end Run.Undisturbed

end PatternScan.Analysis
