import PatternScan.Proofs.Analysis.Alone

/-!
# Sessions that settle

A session carries a submission to its end, lets the request run, and empties the queue. The steps
that it takes are steps of an execution in which the request is by itself, and the bound that the
session keeps to is never met: the request has ended before.
-/

namespace PatternScan.Analysis

variable {record : Nat → Record} {trace : List Moment} {d : Dispatch} {run : Run}

/-! ## The first submission -/

/-- A dispatch in which the first request is about to run. -/
def Dispatch.first (maxWorkers : Nat) (job : Job) : Dispatch :=
  ⟨max maxWorkers 1, 2, [1], [1], [], [], [], [.ofJob 1 job], []⟩

@[simp] theorem Dispatch.queue_first (maxWorkers : Nat) (job : Job) :
    (first maxWorkers job).queue = [] := rfl

section FirstSubmission

variable {maxWorkers : Nat} {s : Submission} {size : Except ScanError Nat} {job : Job}

/-- The first submission gets the first number. -/
theorem Dispatch.submit_empty (h : s.job (max maxWorkers 1) size = .ok job) :
    (Dispatch.empty maxWorkers).submit s size = (.ok 1, .first maxWorkers job) := by
  simp [submit, perform, step?, empty, h, callLength, finishCall, advance, setCall, first,
    Observation.answer?]

/-- The steps of a submission. -/
def submissionSteps (s : Submission) (size : Except ScanError Nat) : List Step :=
  [.submit s size, .call 0, .call 0, .call 0, .call 0]

theorem replay_submissionSteps (h : s.job (max maxWorkers 1) size = .ok job) :
    ((Dispatch.empty maxWorkers).replay (submissionSteps s size)).2 = .first maxWorkers job ∧
      ∀ m ∈ ((Dispatch.empty maxWorkers).replay (submissionSteps s size)).1,
        m.delivered? = none ∧ m.event 1 = .quiet := by
  simp [Dispatch.replay, submissionSteps, Dispatch.proceed, Dispatch.step?, Dispatch.empty, h,
    Dispatch.advance, Dispatch.setCall, Dispatch.first, Moment.delivered?, Moment.event, Call.event,
    Step.target?]

/-- The steps of the first submission leave its request by itself. -/
theorem alone_first (record : Nat → Record) (h : s.job (max maxWorkers 1) size = .ok job)
    (honce : job.continuous = false) :
    ∃ trace, delivered trace = [] ∧
      Alone record trace (.first maxWorkers job) (.ofJob 1 job) := by
  obtain ⟨hlast, hquiet⟩ := replay_submissionSteps h
  have hreplay := Execution.replay (.empty maxWorkers) (submissionSteps s size)
  rw [hlast] at hreplay
  have hnone : delivered ((Dispatch.empty maxWorkers).replay (submissionSteps s size)).1 = [] :=
    List.filterMap_eq_nil_iff.2 fun m hm => (hquiet m hm).1
  have hevent (m : Moment)
      (hm : m ∈ ((Dispatch.empty maxWorkers).replay (submissionSteps s size)).1) :
      m.event (Run.ofJob 1 job).id = .quiet := (hquiet m hm).2
  refine ⟨_, hnone, ⟨maxWorkers, hreplay⟩, rfl, honce, Nat.le_max_right _ _, fun m hm => ?_,
    fun m hm => ?_, ?_⟩
  · rw [hevent m hm]
    rfl
  · rw [hevent m hm]
    rfl
  · rw [hnone]
    exact nofun

end FirstSubmission

/-! ## Running until idle -/

/-- A request that is left alone and not over has some weight left. -/
theorem Phase.Calm.remaining_pos {id : RequestId} {phase : Phase} {stage : Stage}
    (h : phase.Calm id stage) (hphase : phase ≠ .gone) : 0 < phase.remaining := by
  cases h with
  | gone => exact absurd rfl hphase
  | asking | telling | askingLast | tellingLast => simp only [Phase.remaining]; omega
  | _ => simp only [Phase.remaining]; omega

namespace Alone

variable {S : Type} {reader : SourceReader S} {Good : S → Prop}

theorem remaining_pos (h : Alone record trace d run) (hphase : run.phase ≠ .gone) :
    0 < run.remaining := by
  obtain ⟨-, stage, hundisturbed⟩ := h.undisturbed
  have hpos := hundisturbed.phase.remaining_pos hphase
  rw [Run.remaining]
  omega

/-- A request that is over has no next move. -/
theorem move?_eq_none (h : Alone record trace d run) (hphase : run.phase = .gone) :
    d.move? run = none := by
  obtain ⟨-, stage, hundisturbed⟩ := h.undisturbed
  have hcalm := hundisturbed.phase
  rw [hphase] at hcalm
  cases hcalm
  have hidle : run.isWorking = false := (hundisturbed.closed.resolve_left nofun).2
  have hfind : run.workers.findIdx? Worker.isRunning = none := by
    simpa [Run.isWorking] using hidle
  simp [Dispatch.move?, hphase, Phase.isIdle, Dispatch.workerMove?, hfind]

/-- The reads of the request yield the records, whatever has been read before. -/
def Served (reader : SourceReader S) (record : Nat → Record) (Good : S → Prop) (run : Run) : Prop :=
  ∀ source, Good source → ∀ p < run.job.range.start + run.job.range.size,
    (reader.get source p).1 = .ok (record p) ∧ Good (reader.get source p).2

/-- From a trace on, the request comes to its end in this state, and nothing is received on the
way. -/
def EndsIn (record : Nat → Record) (Good : S → Prop) (trace : List Moment) (run : Run)
    (state : Dispatch × S) : Prop :=
  ∃ more run', Alone record (trace ++ more) state.1 run' ∧ run'.id = run.id ∧ run'.job = run.job ∧
    run'.phase = .gone ∧ delivered more = [] ∧ Good state.2

theorem endsIn_of_gone (h : Alone record trace d run) (hgone : run.phase = .gone) {source : S}
    (hsource : Good source) : EndsIn record Good trace run (d, source) :=
  ⟨[], run, by rwa [List.append_nil], rfl, rfl, hgone, rfl, hsource⟩

theorem EndsIn.of_next {m : Moment} {next : Run} {state : Dispatch × S}
    (h : EndsIn record Good (trace ++ [m]) next state) (hm : m.delivered? = none)
    (hid : next.id = run.id) (hjob : next.job = run.job) :
    EndsIn record Good trace run state := by
  obtain ⟨more, run', halone, hid', hjob', hgone, hnone, hgood⟩ := h
  rw [List.append_assoc] at halone
  refine ⟨[m] ++ more, run', halone, hid'.trans hid, hjob'.trans hjob, hgone, ?_, hgood⟩
  rw [delivered_append, hnone, List.append_nil]
  exact List.filterMap_eq_nil_iff.2 (List.forall_mem_singleton.2 hm)

/-- With as many steps as the request has weight, it comes to its end. -/
theorem runUntilIdle (h : Alone record trace d run) (hserved : Served reader record Good run)
    {fuel : Nat} (hfuel : run.remaining ≤ fuel) {source : S} (hsource : Good source) :
    EndsIn record Good trace run (Dispatch.runUntilIdle reader run.id fuel d source) := by
  induction fuel generalizing trace d run source with
  | zero =>
      have hgone : run.phase = .gone := by
        by_contra hphase
        exact Nat.not_lt.2 hfuel (h.remaining_pos hphase)
      exact h.endsIn_of_gone hgone hsource
  | succ fuel ih =>
      by_cases hgone : run.phase = .gone
      · have hstays : Dispatch.runUntilIdle reader run.id (fuel + 1) d source = (d, source) := by
          simp [Dispatch.runUntilIdle, h.run?_eq, h.move?_eq_none hgone]
        rw [hstays]
        exact h.endsIn_of_gone hgone hsource
      obtain ⟨move, hmove, hrange, hpossible⟩ := h.exists_move hgone
      -- After any step of the request, the steps left are enough for what is left to do.
      have hgo (answer : Except ScanError Record) (hanswer : move.AnsweredBy record answer)
          (after : S) (hafter : Good after) :
          EndsIn record Good trace run (Dispatch.runUntilIdle reader run.id fuel
            (d.take (move.step run.id answer)) after) := by
        obtain ⟨d', hstep, hread⟩ := hpossible answer hanswer
        obtain ⟨next, halone, hid, hjob, hless, -⟩ :=
          h.move hstep (move.target?_step run.id answer) hread
        have htake : d.take (move.step run.id answer) = d' := by simp [Dispatch.take, hstep]
        have hserved' : Served reader record Good next := by rwa [Served, hjob]
        have hends := ih halone hserved' (Nat.le_of_lt_succ (Nat.lt_of_lt_of_le hless hfuel)) hafter
        rw [htake]
        rw [hid] at hends
        exact hends.of_next rfl hid hjob
      cases move with
      | drive =>
          have hunfold : Dispatch.runUntilIdle reader run.id (fuel + 1) d source =
              Dispatch.runUntilIdle reader run.id fuel (d.take (.drive run.id)) source := by
            simp [Dispatch.runUntilIdle, h.run?_eq, hmove]
          rw [hunfold]
          exact hgo (.error .configGrammar) trivial source hsource
      | work index =>
          have hunfold : Dispatch.runUntilIdle reader run.id (fuel + 1) d source =
              Dispatch.runUntilIdle reader run.id fuel (d.take (.work run.id index)) source := by
            simp [Dispatch.runUntilIdle, h.run?_eq, hmove]
          rw [hunfold]
          exact hgo (.error .configGrammar) trivial source hsource
      | load index position =>
          obtain ⟨hanswer, hafter⟩ := hserved source hsource position (hrange index position rfl)
          have hunfold : Dispatch.runUntilIdle reader run.id (fuel + 1) d source =
              Dispatch.runUntilIdle reader run.id fuel
                (d.take (.load run.id index (reader.get source position).1))
                (reader.get source position).2 := by
            simp [Dispatch.runUntilIdle, h.run?_eq, hmove]
          rw [hunfold]
          exact hgo _ hanswer _ hafter

/-- A session that settles brings the request to its end. -/
theorem settle (h : Alone record trace d run) (hweight : run.remaining ≤ run.workload)
    {readerOf : RequestId → SourceReader S} (hserved : Served (readerOf run.id) record Good run)
    {source : S} (hsource : Good source) :
    EndsIn record Good trace run (d.settle readerOf source) := by
  have hidle : d.runToIdle (readerOf run.id) run.id source =
      Dispatch.runUntilIdle (readerOf run.id) run.id run.workload d source := by
    simp [Dispatch.runToIdle, h.run?_eq]
  have hends := h.runUntilIdle hserved hweight hsource
  rw [← hidle] at hends
  -- A request that is gone has nothing to look for at its source.
  have hlook : Dispatch.look (readerOf run.id) run.id
      (d.runToIdle (readerOf run.id) run.id source).1
      (d.runToIdle (readerOf run.id) run.id source).2 =
        (.absent, d.runToIdle (readerOf run.id) run.id source) := by
    obtain ⟨more, run', halone, hid, -, hgone, -⟩ := hends
    have hrun := halone.run?_eq
    rw [hid] at hrun
    simp [Dispatch.look, hrun, hgone]
  have hsettle : d.settle readerOf source = d.runToIdle (readerOf run.id) run.id source := by
    simp [Dispatch.settle, h.runs, Dispatch.settleRequest, Dispatch.settleRounds, hlook]
  rwa [hsettle]

/-! ## Emptying the queue -/

/-- Messages that are taken off the queue leave the request as it is. -/
theorem receiveMany (h : Alone record trace d run) (fuel : Nat) :
    ∃ more, Alone record (trace ++ more) (d.receiveMany fuel).1 run ∧
      delivered more = (d.receiveMany fuel).2 ∧
      (d.receiveMany fuel).1.queue.length = d.queue.length - fuel := by
  induction fuel generalizing trace d with
  | zero => exact ⟨[], by rwa [List.append_nil], rfl, rfl⟩
  | succ fuel ih =>
      rw [Dispatch.receiveMany]
      cases hreceive : d.receive? with
      | none =>
          have hqueue : d.queue = [] := by
            cases hqueue : d.queue with
            | nil => rfl
            | cons e rest => cases e <;> simp [Dispatch.receive?, hqueue] at hreceive
          exact ⟨[], by rwa [List.append_nil], rfl, by simp [hqueue]⟩
      | some next =>
          obtain ⟨d', n⟩ := next
          have hstep : d.step? .receive = some (d', n.map .delivered) := by
            simp [Dispatch.step?, hreceive]
          obtain ⟨halone, hqueue⟩ := h.receive hstep
          obtain ⟨more, hmore, hdelivered, hlength⟩ := ih halone
          rw [List.append_assoc] at hmore
          refine ⟨_, hmore, ?_, by dsimp only; omega⟩
          rw [delivered_append, hdelivered]
          cases n <;> rfl

/-- A session that has settled and emptied the queue has received the request's last
notification. -/
theorem settle_receiveAll (h : Alone record trace d run) (hweight : run.remaining ≤ run.workload)
    {readerOf : RequestId → SourceReader S} (hserved : Served (readerOf run.id) record Good run)
    {source : S} (hsource : Good source) :
    ∃ more run', Alone record (trace ++ more) (d.settle readerOf source).1.receiveAll.1 run' ∧
      run'.id = run.id ∧ run'.job = run.job ∧
      delivered more = (d.settle readerOf source).1.receiveAll.2 ∧
      (∃ n ∈ delivered (trace ++ more), n.isTerminal = true) ∧
      Good (d.settle readerOf source).2 := by
  obtain ⟨moves, run', halone, hid, hjob, hgone, hnone, hgood⟩ := h.settle hweight hserved hsource
  obtain ⟨receipts, hall, hdelivered, hlength⟩ :=
    halone.receiveMany (d.settle readerOf source).1.queue.length
  have hqueue : ((d.settle readerOf source).1.receiveMany
      (d.settle readerOf source).1.queue.length).1.queue = [] := by
    rw [← List.length_eq_zero_iff, hlength, Nat.sub_self]
  have hterminal := hall.exists_terminal hgone hqueue
  rw [List.append_assoc] at hall hterminal
  refine ⟨moves ++ receipts, run', hall, hid, hjob, ?_, hterminal, hgood⟩
  rw [delivered_append, hnone, List.nil_append]
  exact hdelivered

end Alone

end PatternScan.Analysis
