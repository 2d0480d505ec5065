import Mathlib.Algebra.Order.BigOperators.Group.List
import PatternScan.Proofs.Analysis.Moments
import PatternScan.Proofs.Analysis.Percent
import PatternScan.Proofs.Analysis.Progress
import PatternScan.Proofs.Analysis.WorkerEvents

/-!
# Batches of a scan

Every record of a range that is scanned is accounted for at any moment: it was told of in a batch
that was taken, or it is told of in a batch that waits, it was scanned since the last batch, lies
ahead of a worker or belongs to a part for which no worker is started. No move of a run changes
the sum, whether or not it fails or is cancelled. The batches taken can therefore never tell of
more records than the range has, and of a scan that comes to its end they tell of all.
-/

namespace PatternScan.Analysis

/-! ## Workers -/

namespace Worker

/-- The records that the worker has still to tell of. -/
def due (w : Worker) : Nat := w.processed + (w.stop - w.position)

/-- The worker reads inside its range, and no batch of it is empty. -/
structure Steady (w : Worker) : Prop where
  loading : w.stage = .loading → w.position < w.stop
  flushing : w.stage = .flushing → 0 < w.processed
  results : w.results ≠ [] → 0 < w.processed
  reporting : ∀ processed results, w.stage = .reporting (.batch processed results) →
    processed = w.processed ∧ 0 < processed

namespace Steady

variable {w next : Worker} {event : Option WorkerEvent}

theorem ofRange (part : ScanRange) : (Worker.ofRange part).Steady :=
  ⟨nofun, nofun, fun h => absurd rfl h, nofun⟩

/-- A worker at a stage at which it is not about to read or to report. -/
theorem enter (h : w.Steady) {stage : WorkerStage} (hloading : stage ≠ .loading)
    (hflushing : stage = .flushing → 0 < w.processed)
    (hreporting : ∀ processed results, stage ≠ .reporting (.batch processed results)) :
    (w.enter stage).Steady :=
  ⟨fun hstage => absurd hstage hloading, hflushing, h.results,
    fun processed results hstage => absurd hstage (hreporting processed results)⟩

theorem pull (h : w.Steady) (cancelled : Bool) :
    (w.pull cancelled).Steady ∧ (w.pull cancelled).due = w.due ∧
      (cancelled = false → (w.pull cancelled).stage = .stopped → w.due = 0) := by
  unfold Worker.pull
  split
  · next hlt =>
      cases cancelled with
      | true => exact ⟨h.enter nofun nofun nofun, rfl, nofun⟩
      | false => exact ⟨⟨fun _ => hlt, nofun, h.results, nofun⟩, rfl, nofun⟩
  · next hend =>
      split
      · next hholds =>
          have hpos : 0 < w.processed := by
            rw [Bool.or_eq_true, decide_eq_true_iff, Bool.not_eq_true', List.isEmpty_eq_false_iff]
              at hholds
            exact hholds.elim id h.results
          exact ⟨h.enter nofun (fun _ => hpos) nofun, rfl, nofun⟩
      · next hnone =>
          refine ⟨h.enter nofun nofun nofun, rfl, fun _ _ => ?_⟩
          rw [Bool.or_eq_true, decide_eq_true_iff, not_or] at hnone
          rw [due]
          omega

/-- A report is told of if it is taken, and else what it tells of stays due. -/
theorem afterReport (h : w.Steady) {report : WorkerEvent} (hstage : w.stage = .reporting report)
    (taken : Bool) :
    (w.afterReport report taken).Steady ∧
      (if taken then report.processed else 0) + (w.afterReport report taken).due = w.due := by
  have hstopped : (w.enter .stopped).Steady := h.enter nofun nofun nofun
  cases report with
  | failed error => cases taken <;> exact ⟨hstopped, Nat.zero_add _⟩
  | batch processed results =>
      cases taken with
      | false => exact ⟨hstopped, Nat.zero_add _⟩
      | true =>
          obtain ⟨rfl, -⟩ := h.reporting processed results hstage
          refine ⟨⟨nofun, nofun, fun hne => absurd rfl hne, nofun⟩, ?_⟩
          simp [WorkerEvent.processed, due, Worker.afterReport]

/-- A step of a worker tells of nothing but what was due, and leaves the rest due. -/
theorem step (h : w.Steady) {cancelled taken : Bool}
    (hstep : w.step cancelled taken = some (next, event)) :
    next.Steady ∧
      ((if taken then event.toList else []).map WorkerEvent.processed).sum + next.due = w.due ∧
      ∀ processed results, event = some (.batch processed results) → 0 < processed := by
  cases hstage : w.stage with
  | pulling =>
      simp only [Worker.step, hstage, Option.some.injEq, Prod.mk.injEq] at hstep
      obtain ⟨rfl, rfl⟩ := hstep
      obtain ⟨hnext, hdue, -⟩ := h.pull cancelled
      exact ⟨hnext, by simp [hdue], by simp⟩
  | loading => simp [Worker.step, hstage] at hstep
  | flushing =>
      simp only [Worker.step, hstage, Option.some.injEq, Prod.mk.injEq] at hstep
      obtain ⟨rfl, rfl⟩ := hstep
      have hpos := h.flushing hstage
      cases cancelled with
      | true =>
          exact ⟨h.enter (by simp) (by simp) (by simp), by simp [Worker.flush, due, Worker.enter],
            by simp⟩
      | false =>
          refine ⟨⟨by simp [Worker.flush, Worker.enter], by simp [Worker.flush, Worker.enter],
            h.results, ?_⟩, by simp [Worker.flush, due, Worker.enter], by simp⟩
          intro processed results hreport
          obtain ⟨rfl, -⟩ := WorkerEvent.batch.inj (WorkerStage.reporting.inj hreport)
          exact ⟨rfl, hpos⟩
  | reporting report =>
      simp only [Worker.step, hstage, Option.some.injEq, Prod.mk.injEq] at hstep
      obtain ⟨rfl, rfl⟩ := hstep
      obtain ⟨hnext, hdue⟩ := h.afterReport hstage taken
      refine ⟨hnext, ?_, ?_⟩
      · rw [← hdue]
        cases taken <;> simp
      · intro processed results hreport
        obtain rfl := Option.some.inj hreport
        exact (h.reporting processed results hstage).2
  | stopped => simp [Worker.step, hstage] at hstep

/-- A worker that is not told to stop, and whose reports are taken, stops when nothing is due. -/
theorem due_eq_zero_of_stopped (h : w.Steady)
    (hreport : ∀ error, w.stage ≠ .reporting (.failed error))
    (hstep : w.step false true = some (next, event)) (hstopped : next.stage = .stopped) :
    next.due = 0 := by
  cases hstage : w.stage with
  | pulling =>
      simp only [Worker.step, hstage, Option.some.injEq, Prod.mk.injEq] at hstep
      obtain ⟨rfl, rfl⟩ := hstep
      obtain ⟨-, hdue, hdone⟩ := h.pull false
      rw [hdue, hdone rfl hstopped]
  | loading => simp [Worker.step, hstage] at hstep
  | flushing =>
      simp only [Worker.step, hstage, Option.some.injEq, Prod.mk.injEq] at hstep
      obtain ⟨rfl, rfl⟩ := hstep
      cases hstopped
  | reporting report =>
      simp only [Worker.step, hstage, Option.some.injEq, Prod.mk.injEq] at hstep
      obtain ⟨rfl, rfl⟩ := hstep
      cases report with
      | failed error => exact absurd hstage (hreport error)
      | batch processed results => cases hstopped
  | stopped => simp [Worker.step, hstage] at hstep

theorem load (h : w.Steady) (hstage : w.stage = .loading) (context : Context) (chunkSize : Nat)
    (answer : Except ScanError Record) :
    (w.load context chunkSize answer).Steady ∧
      (w.load context chunkSize answer).due = w.due ∧
      (w.load context chunkSize answer).stage ≠ .stopped := by
  have hlt := h.loading hstage
  cases answer with
  | error e =>
      exact ⟨h.enter (by simp) (by simp) (by simp), rfl, by simp [Worker.load, Worker.enter]⟩
  | ok record =>
      refine ⟨⟨?_, fun _ => Nat.succ_pos _, fun _ => Nat.succ_pos _, ?_⟩, ?_, ?_⟩
      · simp only [Worker.load]
        split <;> simp
      · simp only [Worker.load]
        split <;> simp
      · simp only [due, Worker.load]
        omega
      · simp only [Worker.load]
        split <;> simp

end Steady

end Worker

/-! ## Runs -/

theorem ScanRange.EndToEnd.sum_size {parts : List ScanRange} {first last : Nat}
    (h : EndToEnd first parts last) : (parts.map ScanRange.size).sum = last - first := by
  induction parts generalizing first with
  | nil =>
      obtain rfl : first = last := h
      simp
  | cons part rest ih =>
      obtain ⟨rfl, hle, hrest⟩ := h
      have hlast := hrest.le
      rw [List.map_cons, List.sum_cons, ih hrest, ScanRange.size]
      omega

namespace Run

/-- Every record of the range that is scanned is accounted for, where these parts are left without
a worker. -/
structure Accounts (run : Run) (parts : List ScanRange) : Prop where
  workers : ∀ w ∈ run.workers, w.Steady
  events : ∀ processed results, .batch processed results ∈ run.events → 0 < processed
  left : ∀ left, run.phase.left? = some left → parts = left
  total : run.scan.processed + ((run.events.map WorkerEvent.processed).sum +
    ((run.workers.map Worker.due).sum + (parts.map ScanRange.size).sum)) = run.scan.range.size

theorem accounts_begin (run : Run) {scan : Scan} (hnone : scan.processed = 0) :
    (run.begin scan).Accounts
      (ScanRange.split scan.range.start scan.range.size run.job.workers) where
  workers := nofun
  events := nofun
  left := fun _ hleft => Option.some.inj hleft
  total := by
    have hsum := (ScanRange.split_endToEnd scan.range.start scan.range.size
      run.job.workers).sum_size
    simp only [Run.begin, hnone, List.map_nil, List.sum_nil, hsum]
    omega

namespace Accounts

variable {run run' : Run} {parts : List ScanRange} {halted silenced : Bool}
  {event : RequestEvent} {effect : Effect} {posted : List Notification} {c : Course}

/-- A run that enters another phase, with no parts left or the same. -/
theorem enter (h : run.Accounts parts) {phase : Phase}
    (hleft : phase.left? = none ∨ phase.left? = run.phase.left?) :
    (run.enter phase).Accounts parts where
  workers := h.workers
  events := h.events
  left := by
    intro left hphase
    rcases hleft with hnone | hsame
    · cases hnone.symm.trans hphase
    · exact h.left left (hsame.symm.trans hphase)
  total := h.total

theorem fail (h : run.Accounts parts) (percent : Nat) (error : String) :
    (run.fail percent error).Accounts parts :=
  ⟨h.workers, h.events, nofun, h.total⟩

theorem hire (h : run.Accounts parts) {part : ScanRange} {rest : List ScanRange}
    (hphase : run.phase = .hiring part rest) : (run.hire part rest).Accounts rest where
  workers := by
    intro w hw
    rcases List.mem_append.1 hw with hold | hnew
    · exact h.workers w hold
    · exact List.mem_singleton.1 hnew ▸ .ofRange part
  events := h.events
  left := fun _ hleft => Option.some.inj hleft
  total := by
    have hparts : parts = part :: rest := h.left _ (by rw [hphase]; rfl)
    have htotal := h.total
    have hdue : (Worker.ofRange part).due = part.size := Nat.zero_add _
    rw [hparts, List.map_cons, List.sum_cons] at htotal
    simp only [Run.hire, List.map_append, List.sum_append, List.map_cons, List.map_nil,
      List.sum_cons, List.sum_nil, hdue]
    omega

/-- What a report tells of is taken over from the report. -/
theorem take (h : run.Accounts parts) (event : WorkerEvent) {rest : List WorkerEvent}
    (hevents : run.events = event :: rest) : (run.take event rest).Accounts parts := by
  have htotal := h.total
  rw [hevents, List.map_cons, List.sum_cons] at htotal
  have hrest : ∀ processed results, .batch processed results ∈ rest → 0 < processed :=
    fun processed results hmem => h.events processed results (hevents ▸ List.mem_cons_of_mem _ hmem)
  have hleft : ∀ left, (run.take event rest).phase.left? = some left → parts = left := by
    intro left hsome
    cases event <;> cases hsome
  cases event with
  | batch processed results =>
      refine ⟨h.workers, hrest, hleft, ?_⟩
      simp only [Run.take, Scan.advance]
      simp only [WorkerEvent.processed] at htotal
      omega
  | failed error =>
      refine ⟨h.workers, hrest, hleft, ?_⟩
      simp only [Run.take]
      simp only [WorkerEvent.processed] at htotal
      omega

/-- What one worker tells of or has still to tell of, the run has to. -/
theorem work (h : run.Accounts parts) {index : Nat} {w next : Worker}
    {event : Option WorkerEvent} (hworker : run.workers[index]? = some w)
    (hstep : w.step halted run.listening = some (next, event)) :
    (run.afterWork index next event).Accounts parts := by
  obtain ⟨hnext, hdue, hpos⟩ := (h.workers w (List.mem_of_getElem? hworker)).step hstep
  have hset := sum_map_set Worker.due next hworker
  have htotal := h.total
  refine ⟨?_, ?_, h.left, ?_⟩
  · intro v hv
    rcases List.mem_or_eq_of_mem_set hv with hold | rfl
    · exact h.workers v hold
    · exact hnext
  · intro processed results hmem
    simp only [afterWork] at hmem
    split at hmem
    · rcases List.mem_append.1 hmem with hold | hnew
      · exact h.events processed results hold
      · exact hpos processed results (Option.mem_toList.1 hnew)
    · exact h.events processed results hmem
  · simp only [afterWork]
    cases hlistening : run.listening with
    | true =>
        simp only [hlistening, if_true, List.map_append, List.sum_append] at hdue ⊢
        omega
    | false =>
        simp only [hlistening, Bool.false_eq_true, if_false, List.map_nil, List.sum_nil] at hdue ⊢
        omega

theorem load (h : run.Accounts parts) {index : Nat} {w : Worker}
    (hworker : run.workers[index]? = some w) (hstage : w.stage = .loading)
    (answer : Except ScanError Record) : (run.afterLoad index w answer).Accounts parts := by
  obtain ⟨hnext, hdue, -⟩ := (h.workers w (List.mem_of_getElem? hworker)).load hstage
    run.job.context run.job.chunkSize answer
  have hset := sum_map_set Worker.due (w.load run.job.context run.job.chunkSize answer) hworker
  have htotal := h.total
  refine ⟨?_, h.events, h.left, ?_⟩
  · intro v hv
    rcases List.mem_or_eq_of_mem_set hv with hold | rfl
    · exact h.workers v hold
    · exact hnext
  · simp only [afterLoad]
    omega

/-- Every move of a run keeps all records accounted for. The parts left are those that the phase
names, unless the run stops starting workers because it is cancelled. -/
theorem moves (h : run.Accounts parts) (hcourse : run.OnCourse posted c)
    (hmove : run.Moves halted silenced event run' effect) :
    ∃ parts', run'.Accounts parts' ∧
      ((halted = true → run.phase.left? = none) → parts = run.phase.left?.getD [] →
        parts' = run'.phase.left?.getD []) := by
  have hstay {next : Run} (hnext : next.Accounts parts)
      (hleft : next.phase.left?.getD [] = run.phase.left?.getD []) :
      ∃ parts', next.Accounts parts' ∧
        ((halted = true → run.phase.left? = none) → parts = run.phase.left?.getD [] →
          parts' = next.phase.left?.getD []) :=
    ⟨parts, hnext, fun _ hparts => hparts.trans hleft.symm⟩
  cases hmove with
  | start left hphase =>
      cases left with
      | nil => exact hstay (h.enter (.inl rfl)) (by rw [hphase]; rfl)
      | cons part rest =>
          cases halted with
          | false => exact hstay (h.enter (.inr (by rw [hphase]; rfl))) (by rw [hphase]; rfl)
          | true =>
              refine ⟨parts, h.enter (.inl rfl), fun hscanning => ?_⟩
              rw [hphase] at hscanning
              cases hscanning rfl
  | hire part rest hphase => exact ⟨rest, h.hire hphase, fun _ _ => rfl⟩
  | take event rest hphase hevents =>
      refine hstay (h.take event hevents) ?_
      rw [hphase]
      cases event <;> rfl
  | close hphase hevents hidle =>
      have hafter : run.afterScan.left? = none := by
        rw [afterScan]
        split <;> rfl
      refine hstay (h.enter (.inl hafter)) ?_
      rw [hphase, Run.enter, hafter]
      rfl
  | finish hphase =>
      rw [Run.finish]
      split
      · exact hstay (h.enter (.inl rfl)) (by rw [hphase]; rfl)
      · split <;> exact hstay (h.enter (.inl rfl)) (by rw [hphase]; rfl)
  | fail percent error hphase =>
      exact hstay (h.fail percent error) (by rw [hphase]; rfl)
  | leave farewell hphase =>
      cases farewell <;> exact hstay (h.enter (.inl rfl)) (by rw [hphase]; rfl)
  | ask n next hphase =>
      have hon := hcourse.phase
      rw [hphase] at hon
      have hleft : next.left? = none := by cases hon <;> rfl
      cases silenced with
      | true =>
          exact hstay (h.enter (.inl hleft)) (by rw [hphase, Run.enter, if_pos rfl, hleft]; rfl)
      | false => exact hstay (h.enter (.inl rfl)) (by rw [hphase]; rfl)
  | tell n next hphase =>
      have hon := hcourse.phase
      rw [hphase] at hon
      have hleft : next.left? = none := by cases hon <;> rfl
      exact hstay (h.enter (.inl hleft)) (by rw [hphase, Run.enter, hleft]; rfl)
  | rest hphase =>
      cases halted <;> exact hstay (h.enter (.inl rfl)) (by rw [hphase]; rfl)
  | poll answer hphase =>
      have hfailing (error : String) := by
        have hnext : (run.enter (.failing 100 error)).Accounts parts := h.enter (.inl rfl)
        exact hstay hnext (by rw [hphase]; rfl)
      cases answer with
      | error e => exact hfailing _
      | ok size =>
          simp only [Run.poll]
          split
          · exact hfailing _
          · split
            · exact hstay (h.enter (.inl rfl)) (by rw [hphase]; rfl)
            · exact ⟨_, accounts_begin run rfl, fun _ _ => rfl⟩
  | retire hphase => exact hstay (h.enter (.inl rfl)) (by rw [hphase]; rfl)
  | work index w next event hworker hstep => exact hstay (h.work hworker hstep) rfl
  | load index w answer hworker hstage => exact hstay (h.load hworker hstage answer) rfl

end Accounts

/-- Every record is accounted for with the parts that the phase names, and the workers that have
stopped have nothing due. -/
structure Whole (run : Run) : Prop where
  accounts : run.Accounts (run.phase.left?.getD [])
  stopped : ∀ w ∈ run.workers, w.stage = .stopped → w.due = 0

theorem whole_ofJob (id : RequestId) (job : Job) : (ofJob id job).Whole :=
  ⟨accounts_begin _ rfl, nofun⟩

namespace Whole

variable {run run' : Run} {answers : List (Except ScanError Nat)} {reads : List (Nat × Record)}
  {posted : List Notification} {c : Course} {halted : Bool} {event : RequestEvent}
  {effect : Effect}

/-- As long as nothing fails and nobody cancels the request, a worker stops only when nothing is
due. -/
theorem stopped_of_moves (h : run.Whole) (hlaws : run.Conserves answers reads posted)
    (hunhalted : run.phase.isScanning = true → halted = false)
    (hmove : run.Moves halted false event run' effect) :
    ∀ w ∈ run'.workers, w.stage = .stopped → w.due = 0 := by
  have hset {index : Nat} {next : Worker} (hnext : next.stage = .stopped → next.due = 0) :
      ∀ w ∈ run.workers.set index next, w.stage = .stopped → w.due = 0 := by
    intro w hw
    rcases List.mem_or_eq_of_mem_set hw with hold | rfl
    · exact h.stopped w hold
    · exact hnext
  cases hmove with
  | start parts hphase =>
      cases parts with
      | nil => exact h.stopped
      | cons part rest => cases halted <;> exact h.stopped
  | hire part rest hphase =>
      exact List.forall_mem_append.2 ⟨h.stopped, List.forall_mem_singleton.2 nofun⟩
  | take event rest hphase hevents => cases event <;> exact h.stopped
  | finish hphase =>
      rw [Run.finish]
      split
      · exact h.stopped
      · split <;> exact h.stopped
  | poll answer hphase =>
      cases answer with
      | error e => exact h.stopped
      | ok size =>
          simp only [Run.poll]
          split
          · exact h.stopped
          · split
            · exact h.stopped
            · exact List.forall_mem_nil _
  | work index w next event hworker hstep =>
      have hscanning := hlaws.isScanning_of_ne_stopped hworker (Worker.ne_stopped_of_step hstep)
      have hw : w ∈ run.workers := List.mem_of_getElem? hworker
      rw [hunhalted hscanning, hlaws.listening hscanning] at hstep
      refine hset ((h.accounts.workers w hw).due_eq_zero_of_stopped (fun error hstage => ?_) hstep)
      cases (hlaws.workers w hw).reporting _ hstage
  | load index w answer hworker hstage =>
      have hnext := (h.accounts.workers w (List.mem_of_getElem? hworker)).load hstage
        run.job.context run.job.chunkSize answer
      exact hset fun hstopped => absurd hstopped hnext.2.2
  | _ => exact h.stopped

theorem moves (h : run.Whole) (hlaws : run.Conserves answers reads posted)
    (hcourse : run.OnCourse posted c) (hhalted : halted = true → run.listening = false)
    (hmove : run.Moves halted false event run' effect) : run'.Whole := by
  have hunhalted (hscanning : run.phase.isScanning = true) : halted = false :=
    Bool.eq_false_iff.2 fun hraised =>
      absurd ((hlaws.listening hscanning).symm.trans (hhalted hraised)) nofun
  have hleft (hraised : halted = true) : run.phase.left? = none := by
    cases hphase : run.phase with
    | starting | hiring =>
        rw [hphase] at hunhalted
        cases (hunhalted rfl).symm.trans hraised
    | _ => rfl
  obtain ⟨parts, haccounts, hparts⟩ := h.accounts.moves hcourse hmove
  rw [hparts hleft rfl] at haccounts
  exact ⟨haccounts, h.stopped_of_moves hlaws hunhalted hmove⟩

/-- A scan that is over has told of all records. -/
theorem processed_eq (h : run.Whole) (hlaws : run.Conserves answers reads posted)
    (hover : run.phase.isScanning = false) : run.scan.processed = run.scan.range.size := by
  obtain ⟨hevents, hidle⟩ := hlaws.settled hover
  have hleft : run.phase.left? = none := by
    cases hphase : run.phase with
    | starting | hiring => rw [hphase] at hover; cases hover
    | _ => rfl
  have hdue : (run.workers.map Worker.due).sum = 0 := by
    rw [List.sum_eq_zero_iff]
    simp only [List.mem_map, forall_exists_index, and_imp, forall_apply_eq_imp_iff₂]
    exact fun w hw => h.stopped w hw (stopped_of_idle hidle hw)
  have htotal := h.accounts.total
  rw [hevents, hdue, hleft] at htotal
  simpa using htotal

end Whole

end Run

end PatternScan.Analysis
