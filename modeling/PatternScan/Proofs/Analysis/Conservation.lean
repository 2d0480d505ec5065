import Mathlib.Data.List.Induction
import PatternScan.Proofs.Analysis.Reports
import PatternScan.Proofs.Analysis.Undisturbed

/-!
# What a scan conserves

A position that a request comes to is one that was read, one that some worker still has ahead, or
one of a part that is left without a worker, and it is so once. A result found in a record that
was read is posted, ready to be sent, in a report to be taken or held by a worker. As long as
nothing fails and nobody cancels the request, no move of its run changes either of these, over
all the ranges that it scans. Between two scans, therefore, every position up to the end of the
last range was read once, and what was found there was posted once.
-/

namespace PatternScan.Analysis

/-! ## Events -/

namespace RequestEvent

/-- The record that was read, with its position. -/
def read? : RequestEvent → Option (Nat × Record)
  | read position (.ok record) => some (position, record)
  | _ => none

/-- Neither a read nor a look at the size of the source fails. -/
def succeeds : RequestEvent → Bool
  | read _ answer => answer.isOk
  | polled answer => answer.isOk
  | _ => true

end RequestEvent

/-! ## Positions of ranges -/

namespace ScanRange

/-- The positions of a range. -/
def positions (r : ScanRange) : List Nat := List.range' r.start r.size

theorem EndToEnd.flatMap_positions {first last : Nat} {parts : List ScanRange}
    (h : EndToEnd first parts last) :
    parts.flatMap positions = List.range' first (last - first) := by
  induction parts generalizing first with
  | nil =>
      obtain rfl : first = last := h
      simp
  | cons part rest ih =>
      obtain ⟨rfl, hle, hrest⟩ := h
      have hlast := hrest.le
      have hsize : last - part.start = part.size + (last - part.stop) := by
        rw [size]
        omega
      have hstop : part.start + part.size = part.stop := Nat.add_sub_cancel' hle
      rw [List.flatMap_cons, ih hrest, hsize, ← List.range'_append_1, hstop, positions]

end ScanRange

/-- A request scans its own range, and then ranges by which its source has grown, each from the
end of the one before it up to a size of the source. -/
theorem Job.ranges_eq_cons {job : Job} (h : job.range.start ≤ job.range.stop)
    (answers : List (Except ScanError Nat)) :
    ∃ earlier later last, job.ranges answers = earlier ++ [last] ∧
      job.ranges answers = job.range :: later ∧
      ScanRange.EndToEnd job.range.start (job.range :: later) last.stop ∧
      ∀ r ∈ later, r.start < r.stop ∧ .ok r.stop ∈ answers := by
  induction answers using List.reverseRecOn with
  | nil => exact ⟨[], [], job.range, rfl, rfl, ⟨rfl, h, rfl⟩, nofun⟩
  | append_singleton answers answer ih =>
      obtain ⟨earlier, later, last, hlast, hfirst, hchain, hlater⟩ := ih
      have hkept : ∀ r ∈ later, r.start < r.stop ∧ .ok r.stop ∈ answers ++ [answer] :=
        fun r hr => ⟨(hlater r hr).1, List.mem_append_left _ (hlater r hr).2⟩
      have hsame (hranges : job.ranges (answers ++ [answer]) = earlier ++ [last]) :
          ∃ earlier later last, job.ranges (answers ++ [answer]) = earlier ++ [last] ∧
            job.ranges (answers ++ [answer]) = job.range :: later ∧
            ScanRange.EndToEnd job.range.start (job.range :: later) last.stop ∧
            ∀ r ∈ later, r.start < r.stop ∧ .ok r.stop ∈ answers ++ [answer] :=
        ⟨earlier, later, last, hranges, hranges.trans (hlast.symm.trans hfirst), hchain, hkept⟩
      cases answer with
      | error e => exact hsame (Job.ranges_snoc hlast)
      | ok size =>
          have hranges : job.ranges (answers ++ [.ok size]) =
              if last.stop < size then (earlier ++ [last]) ++ [⟨last.stop, size⟩]
              else earlier ++ [last] := Job.ranges_snoc hlast
          split at hranges
          · next hgrown =>
              refine ⟨earlier ++ [last], later ++ [⟨last.stop, size⟩], ⟨last.stop, size⟩, hranges,
                ?_, ?_, fun r hr => ?_⟩
              · rw [hranges, ← hlast, hfirst, List.cons_append]
              · exact hchain.append ⟨rfl, Nat.le_of_lt hgrown, rfl⟩
              · rcases List.mem_append.1 hr with hr | hr
                · exact hkept r hr
                · obtain rfl := List.mem_singleton.1 hr
                  exact ⟨hgrown, List.mem_append_right _ List.mem_cons_self⟩
          · exact hsame hranges

/-! ## One worker -/

namespace Worker

/-- The positions that the worker has not read yet. -/
def ahead (w : Worker) : List Nat := List.range' w.position (w.stop - w.position)

/-- The worker reads inside its range, reports what it holds, and stops at the end of its range
with nothing held. -/
structure Thorough (w : Worker) : Prop where
  loading : w.stage = .loading → w.position < w.stop
  reporting : ∀ event, w.stage = .reporting event → event = .batch w.processed w.results
  stopped : w.stage = .stopped → w.ahead = [] ∧ w.results = []

namespace Thorough

variable {w next : Worker} {event : Option WorkerEvent}

theorem ofRange (part : ScanRange) : (Worker.ofRange part).Thorough := ⟨nofun, nofun, nofun⟩

/-- A look whether to go on. -/
theorem pull (w : Worker) : (w.pull false).Thorough ∧ (w.pull false).ahead = w.ahead ∧
    (w.pull false).results = w.results := by
  unfold Worker.pull
  split
  · next hlt => exact ⟨⟨fun _ => hlt, nofun, nofun⟩, rfl, rfl⟩
  · next hend =>
      split
      · exact ⟨⟨nofun, nofun, nofun⟩, rfl, rfl⟩
      · next hnone =>
          simp only [Bool.or_eq_true, Bool.not_eq_true', not_or, Bool.not_eq_false,
            List.isEmpty_iff] at hnone
          refine ⟨⟨nofun, nofun, fun _ => ⟨?_, hnone.2⟩⟩, rfl, rfl⟩
          exact congrArg (List.range' w.position) (Nat.sub_eq_zero_of_le (Nat.not_lt.1 hend))

/-- A worker that is not told to stop, and whose reports are taken, keeps what it has ahead, and
what it held is reported or still held. -/
theorem step (h : w.Thorough) (hstep : w.step false true = some (next, event)) :
    next.Thorough ∧ next.ahead = w.ahead ∧
      event.toList.flatMap WorkerEvent.results ++ next.results = w.results ∧
      ∀ e ∈ event.toList, e.IsBatch := by
  cases hstage : w.stage with
  | pulling =>
      simp only [Worker.step, hstage, Option.some.injEq, Prod.mk.injEq] at hstep
      obtain ⟨rfl, rfl⟩ := hstep
      obtain ⟨hnext, hahead, hresults⟩ := pull w
      exact ⟨hnext, hahead, hresults, List.forall_mem_nil _⟩
  | loading => simp [Worker.step, hstage] at hstep
  | flushing =>
      simp only [Worker.step, hstage, Option.some.injEq, Prod.mk.injEq] at hstep
      obtain ⟨rfl, rfl⟩ := hstep
      refine ⟨⟨by simp [flush, enter], fun _ hreport => ?_, by simp [flush, enter]⟩, rfl, rfl,
        List.forall_mem_nil _⟩
      exact (WorkerStage.reporting.inj hreport).symm
  | reporting report =>
      obtain rfl := h.reporting report hstage
      simp only [Worker.step, hstage, Option.some.injEq, Prod.mk.injEq] at hstep
      obtain ⟨rfl, rfl⟩ := hstep
      refine ⟨⟨by simp [afterReport], by simp [afterReport], by simp [afterReport]⟩, rfl, ?_,
        fun e he => ⟨_, _, List.mem_singleton.1 he⟩⟩
      simp [WorkerEvent.results, afterReport]
  | stopped => simp [Worker.step, hstage] at hstep

/-- A record that is read is no longer ahead, and what it gives is held. -/
theorem load (h : w.Thorough) (hstage : w.stage = .loading) (context : Context)
    (chunkSize : Nat) (record : Record) :
    (w.load context chunkSize (.ok record)).Thorough ∧
      w.ahead = w.position :: (w.load context chunkSize (.ok record)).ahead ∧
      (w.load context chunkSize (.ok record)).results =
        w.results ++ (context.analyze? record).toList := by
  have hlt := h.loading hstage
  have hsize : w.stop - w.position = (w.stop - (w.position + 1)) + 1 := by omega
  refine ⟨?_, ?_, rfl⟩
  · constructor <;> simp only [Worker.load] <;> split <;> simp
  · rw [ahead, hsize, List.range'_succ]
    rfl

end Thorough

end Worker

/-- What one element of a list loses or gains, the list does. -/
theorem perm_flatMap_set {α β : Type} (f : α → List β) (gained lost : List β) {l : List α}
    {i : Nat} {a b : α} (h : l[i]? = some a) (hf : (gained ++ f a).Perm (lost ++ f b)) :
    (gained ++ l.flatMap f).Perm (lost ++ (l.set i b).flatMap f) := by
  induction l generalizing i with
  | nil => cases h
  | cons c rest ih =>
      cases i with
      | zero =>
          obtain rfl := Option.some.inj h
          rw [List.set_cons_zero, List.flatMap_cons, List.flatMap_cons, ← List.append_assoc,
            ← List.append_assoc]
          exact hf.append_right _
      | succ i =>
          rw [List.set_cons_succ, List.flatMap_cons, List.flatMap_cons]
          calc gained ++ (f c ++ rest.flatMap f)
            _ |>.Perm (f c ++ (gained ++ rest.flatMap f)) := List.perm_append_comm_assoc _ _ _
            _ |>.Perm (f c ++ (lost ++ (rest.set i b).flatMap f)) := (ih h).append_left _
            _ |>.Perm (lost ++ (f c ++ (rest.set i b).flatMap f)) :=
              List.perm_append_comm_assoc _ _ _

/-! ## Runs -/

/-- Workers are started, or their reports are taken. -/
def Phase.isScanning : Phase → Bool
  | starting _ | hiring _ _ | collecting => true
  | asking _ next | telling _ next => next.isScanning
  | _ => false

namespace Run

/-- What a run conserves, after it was told these sizes of its source, has read these records and
has posted these notifications. -/
structure Conserves (run : Run) (answers : List (Except ScanError Nat))
    (reads : List (Nat × Record)) (posted : List Notification) : Prop where
  proper : run.job.range.start ≤ run.job.range.stop
  ranges : ∃ earlier, run.job.ranges answers = earlier ++ [run.scan.range]
  workers : ∀ w ∈ run.workers, w.Thorough
  batches : ∀ event ∈ run.events, event.IsBatch
  settled : run.phase.isScanning = false → run.events = [] ∧ run.isWorking = false
  listening : run.phase.isScanning = true → run.listening = true
  positions : (reads.map Prod.fst ++ (run.workers.flatMap Worker.ahead ++
    (run.phase.left?.getD []).flatMap ScanRange.positions)).Perm
      (List.range' run.job.range.start (run.scan.range.stop - run.job.range.start))
  results : (results posted ++ (results run.phase.pending ++
    (run.events.flatMap WorkerEvent.results ++ run.workers.flatMap Worker.results))).Perm
      (reads.filterMap fun (_, record) => run.job.context.analyze? record)

theorem conserves_ofJob (id : RequestId) {job : Job} (h : job.range.start ≤ job.range.stop) :
    (ofJob id job).Conserves [] [] [] where
  proper := h
  ranges := ⟨[], rfl⟩
  workers := nofun
  batches := nofun
  settled := nofun
  listening := fun _ => rfl
  positions := by
    have hparts := (job.split_endToEnd h).flatMap_positions
    change ((job.split job.range).flatMap ScanRange.positions).Perm _
    rw [hparts]
    exact .refl _
  results := .refl _

namespace Conserves

variable {run run' : Run} {answers : List (Except ScanError Nat)} {reads : List (Nat × Record)}
  {posted posted' : List Notification} {halted : Bool} {event : RequestEvent} {effect : Effect}
  {c : Course}

/-- The ranges scanned so far. -/
theorem chain (h : run.Conserves answers reads posted) :
    ∃ later, run.job.ranges answers = run.job.range :: later ∧
      ScanRange.EndToEnd run.job.range.start (run.job.range :: later) run.scan.range.stop ∧
      ∀ r ∈ later, r.start < r.stop ∧ .ok r.stop ∈ answers := by
  obtain ⟨earlier, hlast⟩ := h.ranges
  obtain ⟨earlier', later, last, hlast', hfirst, hchain, hlater⟩ :=
    Job.ranges_eq_cons h.proper answers
  obtain ⟨-, hsame⟩ := List.append_inj' (hlast.symm.trans hlast') rfl
  rw [← (List.cons.inj hsame).1] at hchain
  exact ⟨later, hfirst, hchain, hlater⟩

/-- A run that enters another phase, with the same parts left and the same results posted or
ready. -/
theorem enter (h : run.Conserves answers reads posted) {phase : Phase}
    (hkind : phase.isScanning = run.phase.isScanning ∨
      phase.isScanning = false ∧ run.events = [] ∧ run.isWorking = false)
    (hleft : phase.left?.getD [] = run.phase.left?.getD [])
    (hresults : Analysis.results posted' ++ Analysis.results phase.pending =
      Analysis.results posted ++ Analysis.results run.phase.pending) :
    (run.enter phase).Conserves answers reads posted' where
  proper := h.proper
  ranges := h.ranges
  workers := h.workers
  batches := h.batches
  settled := by
    intro hover
    rcases hkind with hsame | ⟨-, hidle⟩
    · exact h.settled (hsame.symm.trans hover)
    · exact hidle
  listening := by
    intro hscanning
    rcases hkind with hsame | ⟨hover, -⟩
    · exact h.listening (hsame.symm.trans hscanning)
    · cases hover.symm.trans hscanning
  positions := by
    rw [Run.enter, hleft]
    exact h.positions
  results := by
    have hold := h.results
    rw [← List.append_assoc, ← hresults, List.append_assoc] at hold
    exact hold

/-- A worker is started on the first part that is left. -/
theorem hire (h : run.Conserves answers reads posted) {part : ScanRange} {rest : List ScanRange}
    (hphase : run.phase = .hiring part rest) :
    (run.hire part rest).Conserves answers reads posted where
  proper := h.proper
  ranges := h.ranges
  workers := by
    intro w hw
    rcases List.mem_append.1 hw with hold | hnew
    · exact h.workers w hold
    · exact List.mem_singleton.1 hnew ▸ .ofRange part
  batches := h.batches
  settled := nofun
  listening := fun _ => h.listening (by rw [hphase]; rfl)
  positions := by
    have hold := h.positions
    rw [hphase] at hold
    simp only [Run.hire, List.flatMap_append, List.flatMap_singleton, List.append_assoc]
    exact hold
  results := by
    have hold := h.results
    rw [hphase] at hold
    simp only [Run.hire, List.flatMap_append, List.flatMap_singleton]
    simpa [Phase.pending, Analysis.results, Worker.ofRange] using hold

/-- A report is turned into a notification. -/
theorem take (h : run.Conserves answers reads posted) {event : WorkerEvent}
    {rest : List WorkerEvent} (hphase : run.phase = .collecting)
    (hevents : run.events = event :: rest) :
    (run.take event rest).Conserves answers reads posted := by
  obtain ⟨processed, batch, rfl⟩ := h.batches event (hevents ▸ List.mem_cons_self)
  have hpositions := h.positions
  have hresults := h.results
  rw [hphase] at hpositions hresults
  rw [hevents, List.flatMap_cons] at hresults
  exact {
    proper := h.proper
    ranges := h.ranges
    workers := h.workers
    batches := fun e he => h.batches e (hevents ▸ List.mem_cons_of_mem _ he)
    settled := nofun
    listening := fun _ => h.listening (by rw [hphase]; rfl)
    positions := hpositions
    results := by
      simpa [Run.take, Phase.pending, Analysis.results, Notification.progress,
        WorkerEvent.results] using hresults }

/-- A scan that is over has read every position, and everything found is posted or ready. -/
theorem complete (h : run.Conserves answers reads posted) (hover : run.phase.isScanning = false) :
    (reads.map Prod.fst).Perm
        (List.range' run.job.range.start (run.scan.range.stop - run.job.range.start)) ∧
      (Analysis.results posted ++ Analysis.results run.phase.pending).Perm
        (reads.filterMap fun (_, record) => run.job.context.analyze? record) := by
  obtain ⟨hevents, hidle⟩ := h.settled hover
  have hstopped : ∀ w ∈ run.workers, w.ahead = [] ∧ w.results = [] := fun w hw =>
    (h.workers w hw).stopped (stopped_of_idle hidle hw)
  have hahead : run.workers.flatMap Worker.ahead = [] :=
    List.flatMap_eq_nil_iff.2 fun w hw => (hstopped w hw).1
  have hheld : run.workers.flatMap Worker.results = [] :=
    List.flatMap_eq_nil_iff.2 fun w hw => (hstopped w hw).2
  have hleft : run.phase.left?.getD [] = [] := by
    cases hphase : run.phase with
    | starting | hiring => rw [hphase] at hover; cases hover
    | _ => rfl
  have hpositions := h.positions
  have hresults := h.results
  rw [hahead, hleft] at hpositions
  rw [hevents, hheld] at hresults
  simpa using And.intro hpositions hresults

/-- What the source has grown by is scanned when all before it is done. -/
theorem begin (h : run.Conserves answers reads posted) (hover : run.phase.isScanning = false)
    {size : Nat} (hsize : run.scan.range.stop < size)
    (hpending : Analysis.results run.phase.pending = []) :
    (run.begin (.further ⟨run.scan.range.stop, size⟩)).Conserves (answers ++ [.ok size]) reads
      posted where
  proper := h.proper
  ranges := by
    obtain ⟨earlier, hranges⟩ := h.ranges
    exact ⟨_, (Job.ranges_snoc hranges).trans (if_pos hsize)⟩
  workers := nofun
  batches := nofun
  settled := nofun
  listening := fun _ => rfl
  positions := by
    have hparts := (run.job.split_endToEnd
      (r := ⟨run.scan.range.stop, size⟩) (Nat.le_of_lt hsize)).flatMap_positions
    obtain ⟨later, -, hchain, -⟩ := h.chain
    have hrange := hchain.le
    have htotal : size - run.job.range.start =
        (run.scan.range.stop - run.job.range.start) + (size - run.scan.range.stop) := by omega
    change (reads.map Prod.fst ++ (run.job.split ⟨run.scan.range.stop, size⟩).flatMap
      ScanRange.positions).Perm (List.range' run.job.range.start (size - run.job.range.start))
    rw [hparts, htotal, ← List.range'_append_1, Nat.add_sub_cancel' hrange]
    exact (h.complete hover).1.append_right _
  results := by
    have hdone := (h.complete hover).2
    rw [hpending, List.append_nil] at hdone
    have hnew : Analysis.results posted ++ ([] ++ ([] ++ [])) = Analysis.results posted :=
      List.append_nil _
    exact (List.Perm.of_eq hnew).trans hdone

/-- A request that is alive learns the size of its source. -/
theorem poll (h : run.Conserves answers reads posted) (hphase : run.phase = .polling)
    (answer : Except ScanError Nat) :
    (run.poll answer).Conserves (answers ++ [answer]) reads posted := by
  have hover : run.phase.isScanning = false := by rw [hphase]; rfl
  -- Unless its source has grown, the run stays in its range.
  have hstay (phase : Phase) (hkind : phase.isScanning = false) (hleft : phase.left? = none)
      (hpending : phase.pending = [])
      (hranges : ∀ earlier, run.job.ranges answers = earlier ++ [run.scan.range] →
        run.job.ranges (answers ++ [answer]) = earlier ++ [run.scan.range]) :
      (run.enter phase).Conserves (answers ++ [answer]) reads posted := by
    have hnext : (run.enter phase).Conserves answers reads posted := by
      refine h.enter (.inl (hkind.trans hover.symm)) ?_ ?_
      · rw [hleft, hphase]
        rfl
      · rw [hpending, hphase]
        rfl
    obtain ⟨earlier, hold⟩ := h.ranges
    exact { hnext with ranges := ⟨earlier, hranges earlier hold⟩ }
  cases answer with
  | error e => exact hstay _ rfl rfl rfl fun earlier hold => Job.ranges_snoc hold
  | ok size =>
      have hunchanged (hle : size ≤ run.scan.range.stop) (earlier : List ScanRange)
          (hold : run.job.ranges answers = earlier ++ [run.scan.range]) :
          run.job.ranges (answers ++ [.ok size]) = earlier ++ [run.scan.range] :=
        (Job.ranges_snoc hold).trans (if_neg (Nat.not_lt.2 hle))
      rw [Run.poll]
      rcases Nat.lt_trichotomy size run.scan.range.stop with hshrunk | hsame | hgrown
      · rw [if_pos hshrunk]
        exact hstay _ rfl rfl rfl (hunchanged (Nat.le_of_lt hshrunk))
      · rw [if_neg (Nat.not_lt.2 (Nat.le_of_eq hsame.symm)), if_pos hsame]
        exact hstay _ rfl rfl rfl (hunchanged (Nat.le_of_eq hsame))
      · rw [if_neg (Nat.lt_asymm hgrown), if_neg (Nat.ne_of_gt hgrown)]
        exact h.begin hover hgrown (by rw [hphase]; rfl)

/-- While some worker has steps left, the run is scanning. -/
theorem isScanning_of_ne_stopped (h : run.Conserves answers reads posted) {index : Nat}
    {w : Worker} (hworker : run.workers[index]? = some w) (hstage : w.stage ≠ .stopped) :
    run.phase.isScanning = true := by
  by_contra hover
  obtain ⟨-, hidle⟩ := h.settled (Bool.not_eq_true _ ▸ hover)
  exact hstage (stopped_of_idle hidle (List.mem_of_getElem? hworker))

/-- A worker goes on, and may report. -/
theorem work (h : run.Conserves answers reads posted) {index : Nat} {w next : Worker}
    {event : Option WorkerEvent} (hworker : run.workers[index]? = some w)
    (hscanning : run.phase.isScanning = true)
    (hstep : w.step false true = some (next, event)) :
    (run.afterWork index next event).Conserves answers reads posted := by
  obtain ⟨hnext, hahead, hheld, hbatch⟩ := (h.workers w (List.mem_of_getElem? hworker)).step hstep
  have hevents : (run.afterWork index next event).events = run.events ++ event.toList := by
    simp [afterWork, h.listening hscanning]
  exact {
    proper := h.proper
    ranges := h.ranges
    workers := fun v hv => (List.mem_or_eq_of_mem_set hv).elim (h.workers v) (· ▸ hnext)
    batches := by
      intro e he
      rw [hevents] at he
      rcases List.mem_append.1 he with hold | hnew
      · exact h.batches e hold
      · exact hbatch e hnew
    settled := fun hover => absurd (hover.symm.trans hscanning) Bool.false_ne_true
    listening := h.listening
    positions := by
      have hset := perm_flatMap_set Worker.ahead [] [] hworker (.of_eq hahead.symm)
      exact ((hset.symm.append_right _).append_left _).trans h.positions
    results := by
      have hset := perm_flatMap_set Worker.results [] _ hworker (.of_eq hheld.symm)
      rw [hevents, List.flatMap_append, List.append_assoc]
      exact (((hset.symm.append_left _).append_left _).append_left _).trans h.results }

/-- A worker gets a record. -/
theorem load (h : run.Conserves answers reads posted) {index : Nat} {w : Worker}
    (hworker : run.workers[index]? = some w) (hstage : w.stage = .loading) (record : Record) :
    (run.afterLoad index w (.ok record)).Conserves answers (reads ++ [(w.position, record)])
      posted := by
  have hscanning := h.isScanning_of_ne_stopped hworker (by rw [hstage]; nofun)
  obtain ⟨hnext, hahead, hheld⟩ := (h.workers w (List.mem_of_getElem? hworker)).load hstage
    run.job.context run.job.chunkSize record
  exact {
    proper := h.proper
    ranges := h.ranges
    workers := fun v hv => (List.mem_or_eq_of_mem_set hv).elim (h.workers v) (· ▸ hnext)
    batches := h.batches
    settled := fun hover => absurd (hscanning.symm.trans hover) nofun
    listening := h.listening
    positions := by
      have hset := perm_flatMap_set Worker.ahead [] [w.position] hworker (.of_eq hahead)
      have hold := ((hset.append_right _).append_left _).symm.trans h.positions
      simpa [afterLoad] using hold
    results := by
      have hgained : ((run.job.context.analyze? record).toList ++ w.results).Perm
          ([] ++ (w.load run.job.context run.job.chunkSize (.ok record)).results) :=
        List.perm_append_comm.trans (.of_eq hheld.symm)
      have hset := perm_flatMap_set Worker.results _ [] hworker hgained
      have hold := h.results
      rw [List.filterMap_append, filterMap_singleton]
      simp only [← List.append_assoc] at hold ⊢
      refine (hset.symm.append_left _).trans ((List.perm_append_comm_assoc _ _ _).trans ?_)
      exact (hold.append_left _).trans List.perm_append_comm }

theorem fail (h : run.Conserves answers reads posted) {percent : Nat} {error : String}
    (hphase : run.phase = .failing percent error) :
    (run.fail percent error).Conserves answers reads posted :=
  have hnext : (run.enter (.leaving (some (.failure run.id percent error)))).Conserves answers
      reads posted :=
    h.enter (.inl (by rw [hphase]; rfl)) (by rw [hphase]; rfl) (by rw [hphase]; rfl)
  { hnext with listening := nofun }

/-- Every move of a run conserves all this, as long as it succeeds and no cancellation comes
in. -/
theorem moves (h : run.Conserves answers reads posted) (hcourse : run.OnCourse posted' c)
    (hhalted : halted = true → run.listening = false)
    (hmove : run.Moves halted false event run' effect) (hsucceeds : event.succeeds = true) :
    run'.Conserves (answers ++ event.polled?.toList) (reads ++ event.read?.toList)
      (posted ++ event.posted?.toList) := by
  have hquiet {r : Run} (hr : r.Conserves answers reads posted) :
      r.Conserves (answers ++ []) (reads ++ []) (posted ++ []) := by
    simpa only [List.append_nil] using hr
  have hsame (phase : Phase) (hkind : phase.isScanning = run.phase.isScanning)
      (hleft : phase.left?.getD [] = run.phase.left?.getD [])
      (hpending : Analysis.results phase.pending = Analysis.results run.phase.pending) :
      (run.enter phase).Conserves (answers ++ []) (reads ++ []) (posted ++ []) :=
    hquiet (h.enter (.inl hkind) hleft (congrArg (Analysis.results posted ++ ·) hpending))
  have hunhalted (hscanning : run.phase.isScanning = true) : halted = false :=
    Bool.eq_false_iff.2 fun hraised =>
      absurd ((h.listening hscanning).symm.trans (hhalted hraised)) nofun
  cases hmove with
  | start parts hphase =>
      obtain rfl := hunhalted (by rw [hphase]; rfl)
      cases parts <;>
        exact hsame _ (by rw [hphase]; rfl) (by rw [hphase]; rfl) (by rw [hphase]; rfl)
  | hire part rest hphase => exact hquiet (h.hire hphase)
  | take event rest hphase hevents => exact hquiet (h.take hphase hevents)
  | close hphase hevents hidle =>
      have hafter : run.afterScan.isScanning = false ∧ run.afterScan.left? = none ∧
          run.afterScan.pending = [] := by
        rw [afterScan]
        split <;> exact ⟨rfl, rfl, rfl⟩
      obtain ⟨hover, hleft, hpending⟩ := hafter
      refine hquiet (h.enter (.inr ⟨hover, hevents, hidle⟩) ?_ ?_)
      · rw [hleft, hphase]
        rfl
      · rw [hpending, hphase]
        rfl
  | finish hphase =>
      cases halted with
      | true => exact hsame _ (by rw [hphase]; rfl) (by rw [hphase]; rfl) (by rw [hphase]; rfl)
      | false =>
          simp only [Run.finish, Bool.false_eq_true, if_false]
          split <;> exact hsame _ (by rw [hphase]; rfl) (by rw [hphase]; rfl) (by rw [hphase]; rfl)
  | fail percent error hphase => exact hquiet (h.fail hphase)
  | leave farewell hphase =>
      cases farewell <;>
        exact hsame _ (by rw [hphase]; rfl) (by rw [hphase]; rfl) (by rw [hphase]; rfl)
  | ask n next hphase =>
      exact hsame _ (by rw [hphase]; rfl) (by rw [hphase]; rfl) (by rw [hphase]; rfl)
  | tell n next hphase =>
      have hon := hcourse.phase
      rw [hphase] at hon
      have hnext : (run.enter next).Conserves answers reads (posted ++ [n]) := by
        refine h.enter (.inl (by rw [hphase]; rfl)) ?_ ?_
        · rw [hphase]
          cases hon <;> rfl
        · rw [hphase]
          simp [Analysis.results, Phase.pending]
      rw [← List.append_nil answers, ← List.append_nil reads] at hnext
      exact hnext
  | rest hphase =>
      cases halted <;>
        exact hsame _ (by rw [hphase]; rfl) (by rw [hphase]; rfl) (by rw [hphase]; rfl)
  | poll answer hphase =>
      have hnext := h.poll hphase answer
      rw [← List.append_nil reads, ← List.append_nil posted] at hnext
      exact hnext
  | retire hphase =>
      exact hsame _ (by rw [hphase]; rfl) (by rw [hphase]; rfl) (by rw [hphase]; rfl)
  | work index w next event hworker hstep =>
      have hscanning := h.isScanning_of_ne_stopped hworker (Worker.ne_stopped_of_step hstep)
      obtain rfl := hunhalted hscanning
      rw [h.listening hscanning] at hstep
      exact hquiet (h.work hworker hscanning hstep)
  | load index w answer hworker hstage =>
      cases answer with
      | error e => cases hsucceeds
      | ok record =>
          have hnext := h.load hworker hstage record
          rw [← List.append_nil answers, ← List.append_nil posted] at hnext
          exact hnext

end Conserves

/-- A run that no longer listens to its workers does not do so again. -/
theorem Moves.listening_eq_false {run run' : Run} {posted : List Notification} {c : Course}
    {halted silenced : Bool} {event : RequestEvent} {effect : Effect}
    (hmove : run.Moves halted silenced event run' effect) (hcourse : run.OnCourse posted c)
    (h : run.listening = false) : run'.listening = false := by
  cases hmove with
  | start parts hphase =>
      cases parts with
      | nil => exact h
      | cons part rest => cases halted <;> exact h
  | take event rest hphase hevents => cases event <;> exact h
  | finish hphase =>
      cases halted with
      | true => exact h
      | false =>
          simp only [Run.finish, Bool.false_eq_true, if_false]
          split <;> exact h
  | fail percent error hphase => rfl
  | poll answer hphase =>
      -- The source is asked for its size only by a run that listens.
      have hon := hcourse.phase
      rw [hphase] at hon
      cases hon
      cases (hcourse.listening rfl).symm.trans h
  | _ => exact h

end Run

/-! ## Requests -/

/-- What a request conserves. Its stop flag is raised only by a run that stops listening. -/
structure RequestView.Conserves (answers : List (Except ScanError Nat))
    (reads : List (Nat × Record)) (posted : List Notification) (v : RequestView) : Prop where
  unlaunched : v.run = none → v.halted = false ∧ answers = [] ∧ reads = [] ∧ posted = []
  launched : ∀ run, v.run = some run → run.Conserves answers reads posted ∧
    (v.halted = true → run.listening = false)

theorem RequestStep.conserves {id : RequestId} {v v' : RequestView} {event : RequestEvent}
    {answers : List (Except ScanError Nat)} {reads : List (Nat × Record)}
    {posted : List Notification} (hstep : RequestStep id v event v')
    (h : v.Conserves answers reads posted) (hcourse : v.OnCourse id posted)
    (hsilenced : v.silenced = false) (hevent : event.isCancelling = false)
    (hsucceeds : event.succeeds = true) :
    v'.Conserves (answers ++ event.polled?.toList) (reads ++ event.read?.toList)
      (posted ++ event.posted?.toList) := by
  have hquiet {u : RequestView} (hu : u.Conserves answers reads posted) :
      u.Conserves (answers ++ []) (reads ++ []) (posted ++ []) := by
    simpa only [List.append_nil] using hu
  cases hstep with
  | elsewhere | activate | register | retire => exact hquiet ⟨h.unlaunched, h.launched⟩
  | silence | withdraw | halt => cases hevent
  | launch job hrun hregistered hrange =>
      obtain ⟨hhalted, rfl, rfl, rfl⟩ := h.unlaunched hrun
      refine ⟨nofun, fun run hsome => ?_⟩
      obtain rfl := Option.some.inj hsome
      exact ⟨Run.conserves_ofJob id hrange,
        fun hraised => absurd (hhalted.symm.trans hraised) nofun⟩
  | deliver n rest hmail =>
      rw [hsilenced, if_neg Bool.false_ne_true]
      exact hquiet ⟨h.unlaunched, h.launched⟩
  | move run run' event effect hrun hmove =>
      have hrun' : (v.after run' effect).run = some run' := by cases effect <;> rfl
      obtain ⟨hconserves, hhalted⟩ := h.launched run hrun
      obtain ⟨-, c, hon, -⟩ := hcourse.launched run hrun
      rw [hsilenced] at hmove
      refine ⟨fun hnone => absurd (hrun'.symm.trans hnone) nofun, fun r hr => ?_⟩
      obtain rfl := Option.some.inj (hrun'.symm.trans hr)
      refine ⟨hconserves.moves hon hhalted hmove hsucceeds, fun hraised => ?_⟩
      cases effect with
      | halt =>
          cases hmove
          rfl
      | _ => exact hmove.listening_eq_false hon (hhalted hraised)

/-- In any order of its steps, a request that nobody cancels and that meets no failure conserves
all this. -/
theorem RequestRun.conserves {id : RequestId} {events : List RequestEvent} {v : RequestView}
    (h : RequestRun id events v) (hquiet : ∀ event ∈ events, event.isCancelling = false)
    (hsucceeds : ∀ event ∈ events, event.succeeds = true) :
    v.Conserves (events.filterMap RequestEvent.polled?) (events.filterMap RequestEvent.read?)
      (events.filterMap RequestEvent.posted?) := by
  induction h with
  | nil => exact ⟨fun _ => ⟨rfl, rfl, rfl, rfl⟩, nofun⟩
  | snoc events event v v' hrun hstep ih =>
      have hquiet' : ∀ e ∈ events, e.isCancelling = false := fun e he =>
        hquiet e (List.mem_append_left _ he)
      have hlast : event ∈ events ++ [event] := List.mem_append_right _ List.mem_cons_self
      simp only [List.filterMap_append, filterMap_singleton]
      exact hstep.conserves (ih hquiet' fun e he => hsucceeds e (List.mem_append_left _ he))
        hrun.onCourse (hrun.posted_eq_delivered_append hquiet').1 (hquiet event hlast)
        (hsucceeds event hlast)

end PatternScan.Analysis
