import PatternScan.Proofs.Analysis.Cancellation
import PatternScan.Proofs.Analysis.ParallelScan
import PatternScan.Proofs.Analysis.Progress

/-!
# A request by itself

A dispatch that runs a single request, which nobody cancels and whose source yields what it reads.
In whatever order its steps are taken, there are only so many of them, one more is possible until
the last notification is received, and what has been received by then is what a sequential scan
finds.
-/

namespace PatternScan.Analysis

/-- The step is one that nobody outside the dispatch asks for. -/
def Step.isInternal : Step → Bool
  | .submit _ _ | .cancel _ | .shutdown | .call _ => false
  | _ => true

theorem Step.isCancelling_event (step : Step) (run : Run) :
    (step.event run).isCancelling = false := by
  cases step with
  | drive | load =>
      simp only [Step.event]
      split <;> rfl
  | _ => rfl

/-- The step of a move of the request. A read gets this answer. -/
def Move.step (id : RequestId) (answer : Except ScanError Record) : Move → Step
  | drive => .drive id
  | work index => .work id index
  | load index _ => .load id index answer

/-- The answer to a read of the move, if it makes one, is the record at the position. -/
def Move.AnsweredBy (record : Nat → Record) (answer : Except ScanError Record) : Move → Prop
  | load _ position => answer = .ok (record position)
  | _ => True

namespace Move

variable (id : RequestId) (answer : Except ScanError Record) (move : Move)

theorem target?_step : (move.step id answer).target? = some id := by cases move <;> rfl

theorem isInternal_step : (move.step id answer).isInternal = true := by cases move <;> rfl

theorem exists_answeredBy (record : Nat → Record) : ∃ answer, move.AnsweredBy record answer := by
  cases move with
  | load index position => exact ⟨.ok (record position), rfl⟩
  | _ => exact ⟨.error .configGrammar, trivial⟩

end Move

/-- One request is being run. It ends by itself, nobody cancels it, and each read yields the record
at its position. -/
structure Alone (record : Nat → Record) (trace : List Moment) (d : Dispatch) (run : Run) :
    Prop where
  exists_start : ∃ maxWorkers, Execution (.empty maxWorkers) trace d
  runs : d.runs = [run]
  once : run.job.continuous = false
  room : 0 < d.maxWorkers
  quiet : ∀ m ∈ trace, (m.event run.id).isCancelling = false
  reads : ∀ m ∈ trace, (m.event run.id).readsFrom record = true
  own : ∀ n ∈ delivered trace, n.request = run.id

namespace Alone

variable {record : Nat → Record} {trace more : List Moment} {d d' : Dispatch} {run : Run}
  {step : Step} {seen : Option Observation}

theorem run?_eq (h : Alone record trace d run) : d.run? run.id = some run := by
  simp [Dispatch.run?, h.runs]

theorem eq_of_run? (h : Alone record trace d run) {other : Run}
    (hrun : d.run? other.id = some other) : other = run := by
  simpa [h.runs] using Dispatch.mem_of_run? hrun

/-- What the request has posted is what was delivered, and behind it what is queued. -/
theorem posted_eq (h : Alone record trace d run) :
    d.isSilenced run.id = false ∧
      postedBy run.id trace =
        delivered trace ++ (d.view run.id).mail.filterMap Envelope.notification? := by
  obtain ⟨maxWorkers, hexecution⟩ := h.exists_start
  obtain ⟨hsilenced, hposted⟩ := (hexecution.requestRun run.id).posted_eq_delivered_append
    (by simpa using h.quiet)
  have hown : (delivered trace).filter (fun n => n.request = run.id) = delivered trace :=
    List.filter_eq_self.2 fun n hn => decide_eq_true (h.own n hn)
  rw [← postedBy_eq, filterMap_event_eq_delivered, hown] at hposted
  exact ⟨hsilenced, hposted⟩

theorem undisturbed (h : Alone record trace d run) :
    d.isHalted run.id = false ∧ ∃ stage,
      run.Undisturbed (fun p => run.job.context.analyze? (record p)) (postedBy run.id trace)
        stage := by
  obtain ⟨maxWorkers, hexecution⟩ := h.exists_start
  have hview := (hexecution.requestRun run.id).undisturbed record (by simpa using h.quiet)
    (by simpa using h.reads)
  rw [postedBy_eq]
  exact hview.2 run h.run?_eq h.once

/-! ## Steps -/

/-- A step in which the request goes on takes some of its weight away. -/
theorem move (h : Alone record trace d run) (hstep : d.step? step = some (d', seen))
    (htarget : step.target? = some run.id)
    (hread : (Moment.event run.id ⟨d, step, seen⟩).readsFrom record = true) :
    ∃ run', Alone record (trace ++ [⟨d, step, seen⟩]) d' run' ∧ run'.id = run.id ∧
      run'.job = run.job ∧ run'.remaining < run.remaining ∧
      d'.queue.length ≤ d.queue.length + 1 := by
  obtain ⟨maxWorkers, hexecution⟩ := h.exists_start
  obtain ⟨hhalted, stage, hundisturbed⟩ := h.undisturbed
  cases Dispatch.steps_of_step? hstep with
  | run _ other run' effect hrun _ hmove =>
      obtain rfl := h.eq_of_run? hrun
      obtain ⟨hid, hjob⟩ := hmove.id_and_job
      have hevent : Moment.event other.id ⟨d, step, none⟩ = step.event other := by
        rw [Dispatch.event_of_run hrun htarget, if_pos rfl]
      rw [hevent] at hread
      rw [hhalted, h.posted_eq.1] at hmove
      have hweight := hundisturbed.remaining_lt h.once hmove hread
      refine ⟨run', ⟨⟨maxWorkers, .snoc trace d _ step none hexecution hstep⟩, ?_, hjob ▸ h.once,
        ?_, ?_, ?_, ?_⟩, hid, hjob, hweight, ?_⟩
      · have haffect : (d.affect other.id effect).runs = [other] := by
          rw [← h.runs]
          cases effect <;> rfl
        simp [Dispatch.setRun, haffect, hid]
      · cases effect <;> exact h.room
      · rw [hid]
        refine List.forall_mem_append.2 ⟨h.quiet, List.forall_mem_singleton.2 ?_⟩
        rw [hevent]
        exact step.isCancelling_event other
      · rw [hid]
        refine List.forall_mem_append.2 ⟨h.reads, List.forall_mem_singleton.2 ?_⟩
        rw [hevent]
        exact hread
      · rw [hid, delivered_append]
        simpa [Moment.delivered?, delivered] using h.own
      · cases effect <;> simp [Dispatch.affect, Dispatch.setRun, Dispatch.post, Dispatch.halt,
          Dispatch.deactivate]
  | _ => cases htarget

/-- A step of the receiver takes a message off the queue and leaves the request as it is. -/
theorem receive (h : Alone record trace d run) (hstep : d.step? .receive = some (d', seen)) :
    Alone record (trace ++ [⟨d, .receive, seen⟩]) d' run ∧
      d'.queue.length + 1 = d.queue.length := by
  obtain ⟨maxWorkers, hexecution⟩ := h.exists_start
  -- What is received is of a request that runs, and there is no other one.
  have hknown : ∀ e ∈ d.queue, e.request = run.id := fun e he => by
    simpa [Dispatch.launched, h.runs] using hexecution.orderly.queued e he
  have hdone : Execution (.empty maxWorkers) (trace ++ [⟨d, .receive, seen⟩]) d' :=
    .snoc trace d d' .receive seen hexecution hstep
  cases Dispatch.steps_of_step? hstep with
  | run _ other run' effect hrun htarget hmove => cases htarget
  | deliver n rest hqueue =>
      have hn : n.request = run.id :=
        hknown (.notification n) (hqueue ▸ List.mem_cons_self)
      have hevent : Moment.event run.id ⟨d, .receive,
          (if d.isSilenced n.request then none else some n).map .delivered⟩ = .delivered n := by
        rw [Dispatch.event_of_deliver, if_pos hn, h.posted_eq.1, if_neg Bool.false_ne_true]
      refine ⟨⟨⟨maxWorkers, hdone⟩, h.runs, h.once, h.room, ?_, ?_, ?_⟩, ?_⟩
      · refine List.forall_mem_append.2 ⟨h.quiet, List.forall_mem_singleton.2 ?_⟩
        rw [hevent]
        rfl
      · refine List.forall_mem_append.2 ⟨h.reads, List.forall_mem_singleton.2 ?_⟩
        rw [hevent]
        rfl
      · rw [hn, h.posted_eq.1, delivered_append]
        refine List.forall_mem_append.2 ⟨h.own, List.forall_mem_singleton.2 hn⟩
      · rw [hqueue]
        rfl
  | retire id rest hqueue =>
      refine ⟨⟨⟨maxWorkers, hdone⟩, h.runs, h.once, h.room, ?_, ?_, ?_⟩, ?_⟩
      · exact List.forall_mem_append.2 ⟨h.quiet, List.forall_mem_singleton.2 rfl⟩
      · exact List.forall_mem_append.2 ⟨h.reads, List.forall_mem_singleton.2 rfl⟩
      · rw [delivered_append]
        simpa [Moment.delivered?, delivered] using h.own
      · rw [hqueue]
        rfl

/-- A step of the dispatch by itself is one of the request or of the receiver. -/
theorem target_or_receive (h : Alone record trace d run) (hstep : d.step? step = some (d', seen))
    (hinternal : step.isInternal = true) : step.target? = some run.id ∨ step = .receive := by
  cases Dispatch.steps_of_step? hstep with
  | run _ other run' effect hrun htarget hmove =>
      obtain rfl := h.eq_of_run? hrun
      exact .inl htarget
  | deliver | retire => exact .inr rfl
  | _ => cases hinternal

/-- Every step takes weight away. A step of the request may leave a message to be received, so its
weight counts twice. -/
theorem next (h : Alone record trace d run) (hstep : d.step? step = some (d', seen))
    (hinternal : step.isInternal = true)
    (hread : (Moment.event run.id ⟨d, step, seen⟩).readsFrom record = true) :
    ∃ run', Alone record (trace ++ [⟨d, step, seen⟩]) d' run' ∧ run'.id = run.id ∧
      run'.job = run.job ∧
      2 * run'.remaining + d'.queue.length < 2 * run.remaining + d.queue.length := by
  rcases h.target_or_receive hstep hinternal with htarget | rfl
  · obtain ⟨run', halone, hid, hjob, hweight, hqueue⟩ := h.move hstep htarget hread
    exact ⟨run', halone, hid, hjob, by omega⟩
  · obtain ⟨halone, hqueue⟩ := h.receive hstep
    exact ⟨run, halone, rfl, rfl, by omega⟩

/-- In any order of steps the request stays by itself, and there are only as many of them as its
weight allows. -/
theorem execution (h : Alone record trace d run) (hmore : Execution d more d')
    (hinternal : ∀ m ∈ more, m.step.isInternal = true)
    (hreads : ∀ m ∈ more, (m.event run.id).readsFrom record = true) :
    ∃ run', Alone record (trace ++ more) d' run' ∧ run'.id = run.id ∧ run'.job = run.job ∧
      more.length + (2 * run'.remaining + d'.queue.length) ≤
        2 * run.remaining + d.queue.length := by
  induction hmore with
  | nil => exact ⟨run, by rwa [List.append_nil], rfl, rfl, by simp⟩
  | snoc more d₁ d₂ step seen hmore hstep ih =>
      obtain ⟨hinternal, hlast⟩ := List.forall_mem_append.1 hinternal
      obtain ⟨hreads, hread⟩ := List.forall_mem_append.1 hreads
      obtain ⟨run₁, halone, hid, hjob, hweight⟩ := ih hinternal hreads
      rw [List.forall_mem_singleton] at hlast hread
      obtain ⟨run₂, halone₂, hid₂, hjob₂, hless⟩ := halone.next hstep hlast (hid ▸ hread)
      rw [List.append_assoc] at halone₂
      refine ⟨run₂, halone₂, hid₂.trans hid, hjob₂.trans hjob, ?_⟩
      rw [List.length_append, List.length_singleton]
      omega

/-! ## There is always a next step -/

/-- A run that has to wait waits for a worker that has steps left. -/
theorem isWorking_of_drive?_eq_none (h : Alone record trace d run) (hphase : run.phase ≠ .gone)
    (hdrive : d.drive? run = none) : run.isWorking = true := by
  obtain ⟨-, stage, hundisturbed⟩ := h.undisturbed
  have hcalm := hundisturbed.phase
  cases hnow : run.phase with
  | hiring part rest =>
      have hbusy : d.maxWorkers ≤ run.workers.countP Worker.isRunning := by
        simpa [Dispatch.drive?, hnow, Dispatch.busyWorkers, h.runs] using hdrive
      obtain ⟨w, hw, hrunning⟩ := List.countP_pos_iff.1 (Nat.lt_of_lt_of_le h.room hbusy)
      exact List.any_eq_true.2 ⟨w, hw, hrunning⟩
  | collecting =>
      by_contra hidle
      cases hevents : run.events <;>
        simp [Dispatch.drive?, hnow, Run.collect?, hevents, hidle] at hdrive
  | polling =>
      rw [hnow] at hcalm
      cases hcalm
  | gone => exact absurd hnow hphase
  | _ => simp [Dispatch.drive?, hnow] at hdrive

theorem exists_work {index : Nat} {w : Worker} (hrun : d.run? run.id = some run)
    (hworker : run.workers[index]? = some w) (hrunning : w.isRunning = true)
    (hstage : w.stage ≠ .loading) : ∃ d', d.step? (.work run.id index) = some (d', none) := by
  have hgoes : (w.step (d.isHalted run.id) run.listening).isSome = true := by
    cases hnow : w.stage with
    | loading => exact absurd hnow hstage
    | stopped => simp [Worker.isRunning, hnow] at hrunning
    | _ => simp [Worker.step, hnow]
  obtain ⟨⟨next, event⟩, hstep⟩ := Option.isSome_iff_exists.1 hgoes
  exact ⟨d.setRun (run.afterWork index next event), by
    simp [Dispatch.step?, hrun, Dispatch.work?, hworker, hstep, Run.afterWork]⟩

theorem exists_load {index : Nat} {w : Worker} (hrun : d.run? run.id = some run)
    (hworker : run.workers[index]? = some w) (hstage : w.stage = .loading)
    (answer : Except ScanError Record) :
    ∃ d', d.step? (.load run.id index answer) = some (d', none) :=
  ⟨d.setRun (run.afterLoad index w answer), by
    simp [Dispatch.step?, hrun, Dispatch.load?, hworker, hstage, Run.afterLoad]⟩

/-- While some worker has steps left, the first such worker has the next move. -/
theorem workerMove?_eq {run : Run} (h : run.isWorking = true) :
    ∃ index w, run.workers[index]? = some w ∧ w.isRunning = true ∧
      Dispatch.workerMove? run =
        some (if w.stage = .loading then .load index w.position else .work index) := by
  obtain ⟨w, hw, hrunning⟩ := List.any_eq_true.1 h
  obtain ⟨index, hindex⟩ := Option.isSome_iff_exists.1
    (List.findIdx?_isSome.trans (List.any_eq_true.2 ⟨w, hw, hrunning⟩))
  obtain ⟨hlt, hfirst, -⟩ := List.findIdx?_eq_some_iff_getElem.1 hindex
  have hget := List.getElem?_eq_getElem hlt
  exact ⟨index, run.workers[index], hget, hfirst, by simp [Dispatch.workerMove?, hindex, hget]⟩

/-- A request that is not over has a next move. It reads inside its range, if it reads, and with
the right answer to that the move can be made. -/
theorem exists_move (h : Alone record trace d run) (hphase : run.phase ≠ .gone) :
    ∃ move, d.move? run = some move ∧
      (∀ index position, move = .load index position →
        position < run.job.range.start + run.job.range.size) ∧
      ∀ answer, move.AnsweredBy record answer → ∃ d',
        d.step? (move.step run.id answer) = some (d', none) ∧
        (Moment.event run.id ⟨d, move.step run.id answer, none⟩).readsFrom record = true := by
  obtain ⟨hhalted, stage, hundisturbed⟩ := h.undisturbed
  have hevent {step : Step} (htarget : step.target? = some run.id) :
      Moment.event run.id ⟨d, step, none⟩ = step.event run := by
    rw [Dispatch.event_of_run h.run?_eq htarget, if_pos rfl]
  have hactive : run.phase.isIdle = false := by
    have hcalm := hundisturbed.phase
    cases hnow : run.phase with
    | resting | polling =>
        rw [hnow] at hcalm
        cases hcalm
    | gone => exact absurd hnow hphase
    | _ => rfl
  cases hdrive : d.drive? run with
  | some d' =>
      refine ⟨.drive, by simp [Dispatch.move?, hactive, hdrive], fun _ _ h => ?_,
        fun answer _ => ⟨d', ?_, ?_⟩⟩
      · cases h
      · simp [Move.step, Dispatch.step?, h.run?_eq, hdrive]
      · rw [hevent rfl]
        simp only [Move.step, Step.event]
        split <;> rfl
  | none =>
      obtain ⟨index, w, hworker, hrunning, hmove⟩ :=
        workerMove?_eq (h.isWorking_of_drive?_eq_none hphase hdrive)
      have hnext : d.move? run = Dispatch.workerMove? run := by simp [Dispatch.move?, hdrive]
      rw [hnext, hmove]
      by_cases hstage : w.stage = .loading
      · rw [if_pos hstage]
        obtain ⟨hlt, hle⟩ := hundisturbed.position_lt hworker hstage
        refine ⟨_, rfl, ?_, fun answer hanswer => ?_⟩
        · rintro _ _ ⟨⟩
          exact Nat.lt_of_lt_of_le hlt hle
        · obtain rfl := hanswer
          obtain ⟨d', hstep⟩ := exists_load h.run?_eq hworker hstage (.ok (record w.position))
          refine ⟨d', hstep, ?_⟩
          rw [hevent rfl]
          simp [Move.step, Step.event, hworker, RequestEvent.readsFrom]
      · rw [if_neg hstage]
        obtain ⟨d', hstep⟩ := exists_work h.run?_eq hworker hrunning hstage
        refine ⟨_, rfl, fun _ _ h => ?_, fun answer _ => ⟨d', hstep, ?_⟩⟩
        · cases h
        · rw [hevent rfl]
          rfl

/-- Where no step is possible any more, the request has ended and everything is received. -/
theorem gone_of_stuck (h : Alone record trace d run)
    (hstuck : ∀ step, step.isInternal = true → d.step? step = none) :
    run.phase = .gone ∧ d.queue = [] := by
  constructor
  · by_contra hphase
    obtain ⟨move, -, -, hpossible⟩ := h.exists_move hphase
    obtain ⟨answer, hanswer⟩ := move.exists_answeredBy record
    obtain ⟨d', hstep, -⟩ := hpossible answer hanswer
    cases (hstuck _ (move.isInternal_step run.id answer)).symm.trans hstep
  · have hreceive := hstuck .receive rfl
    cases hqueue : d.queue with
    | nil => rfl
    | cons e rest => cases e <;> simp [Dispatch.step?, Dispatch.receive?, hqueue] at hreceive

/-! ## What is received -/

/-- A request that has ended, with everything received, has told its end. -/
theorem exists_terminal (h : Alone record trace d run) (hgone : run.phase = .gone)
    (hqueue : d.queue = []) : ∃ n ∈ delivered trace, n.isTerminal = true := by
  obtain ⟨-, stage, hundisturbed⟩ := h.undisturbed
  obtain ⟨batches, -, hposted, -⟩ := hundisturbed.ended hgone
  have hmail : (d.view run.id).mail = [] := by simp [Dispatch.view, hqueue]
  rw [h.posted_eq.2, hmail, List.filterMap_nil, List.append_nil] at hposted
  exact ⟨.successful run.id, by simp [hposted], rfl⟩

/-- Once the last notification is received, the batches received before it hold what a sequential
scan finds. -/
theorem received (h : Alone record trace d run)
    (hended : ∃ n ∈ delivered trace, n.isTerminal = true) :
    ∃ batches, delivered trace = batches ++ [.successful run.id] ∧
      (∀ n ∈ batches, n = .progress run.id n.percent n.batch) ∧
      (batches.flatMap Notification.batch).Perm
        (run.job.context.scan record run.job.range.start run.job.range.size) := by
  obtain ⟨-, stage, hundisturbed⟩ := h.undisturbed
  obtain ⟨last, hlast, hterminal⟩ := hended
  have hposted := h.posted_eq.2
  have hprogress {n : Notification} (hn : n = .progress run.id n.percent n.batch) :
      n.isTerminal = false := by
    rw [hn]
    rfl
  have hmem : last ∈ postedBy run.id trace := by
    rw [hposted]
    exact List.mem_append_left _ hlast
  cases stage with
  | told =>
      obtain ⟨batches, order, htold, hbatches, hresults, hperm, -⟩ := hundisturbed.of_told
      rw [htold] at hposted
      -- Nothing is left behind the last notification.
      have hmail : (d.view run.id).mail.filterMap Envelope.notification? = [] := by
        rcases List.eq_nil_or_concat
          ((d.view run.id).mail.filterMap Envelope.notification?) with hnil | ⟨init, n, hmail⟩
        · exact hnil
        · rw [hmail, List.concat_eq_append, ← List.append_assoc] at hposted
          have hbefore := (List.append_inj' hposted rfl).1
          have hearly : last ∈ batches := hbefore ▸ List.mem_append_left init hlast
          simp [hprogress (hbatches last hearly)] at hterminal
      rw [hmail, List.append_nil] at hposted
      refine ⟨batches, hposted.symm, hbatches, ?_⟩
      rw [hresults]
      exact hperm.filterMap _
  | _ => simp [hprogress (hundisturbed.told last hmem)] at hterminal

end Alone

end PatternScan.Analysis
