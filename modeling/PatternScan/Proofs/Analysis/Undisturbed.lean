import PatternScan.Proofs.Analysis.Tally
import PatternScan.Proofs.Analysis.Request

/-!
# Requests left alone

While nobody cancels a request and its source yields what it reads, its run goes through the
phases of a scan that ends well, and whatever its workers have reported is posted, ready to
be sent, or waiting to be taken. This is an invariant of the run's moves, and with it of all
steps of the request.
-/

namespace PatternScan.Analysis

/-- How far the scan of a request that is left alone has come. -/
inductive Stage where
  /-- Workers for these parts are still to be started. -/
  | scanning (left : List ScanRange)
  /-- All reports are taken. -/
  | over
  /-- The last notification is sent. -/
  | told

/-- The parts for which no worker has been started. -/
def Stage.left : Stage → List ScanRange
  | scanning left => left
  | _ => []

/-- The phases of a run that is neither cancelled nor fails nor stays alive. -/
inductive Phase.Calm (id : RequestId) : Phase → Stage → Prop where
  | starting (parts : List ScanRange) : Calm id (.starting parts) (.scanning parts)
  | hiring (part : ScanRange) (rest : List ScanRange) :
      Calm id (.hiring part rest) (.scanning (part :: rest))
  | collecting : Calm id .collecting (.scanning [])
  | asking (percent : Nat) (results : List RecordResult) :
      Calm id (.asking (.progress id percent results) .collecting) (.scanning [])
  | telling (percent : Nat) (results : List RecordResult) :
      Calm id (.telling (.progress id percent results) .collecting) (.scanning [])
  | finishing : Calm id .finishing .over
  | leaving : Calm id (.leaving (some (.successful id))) .over
  | askingLast : Calm id (.asking (.successful id) .retiring) .over
  | tellingLast : Calm id (.telling (.successful id) .retiring) .over
  | retiring : Calm id .retiring .told
  | gone : Calm id .gone .told

/-- The notifications posted up to a stage: batches only, and after the last one that the
request came to its end. -/
def Stage.Told (id : RequestId) : Stage → List Notification → Prop
  | told, ns => ∃ batches, ns = batches ++ [.successful id] ∧
      ∀ n ∈ batches, n = .progress id n.percent n.batch
  | _, ns => ∀ n ∈ ns, n = .progress id n.percent n.batch

namespace Run

/-- The parts that the workers of the first scan get. -/
def parts (run : Run) : List ScanRange :=
  ScanRange.split run.job.range.start run.job.range.size run.job.workers

/-- All results reported so far: those posted, those ready to be sent, and those in reports
that are not taken yet. -/
def stream (run : Run) (posted : List Notification) : List RecordResult :=
  (posted ++ run.phase.pending).flatMap Notification.batch ++
    run.events.flatMap WorkerEvent.results

/-- What holds of a run as long as nobody cancels it and no read fails. -/
structure Undisturbed (find : Nat → Option RecordResult) (run : Run)
    (posted : List Notification) (stage : Stage) : Prop where
  listening : run.listening = true
  initial : run.scan.live = false
  phase : run.phase.Calm run.id stage
  batches : ∀ event ∈ run.events, event.IsBatch
  unbroken : ∀ w ∈ run.workers, w.Unbroken
  tally : ∃ order, run.stream posted = order.filterMap find ∧
    Tally find (fun _ => True) run.parts run.workers order
  left : run.parts.drop run.workers.length = stage.left
  told : stage.Told run.id posted
  closed : (∃ left, stage = .scanning left) ∨ run.events = [] ∧ run.isWorking = false

theorem undisturbed_ofJob (find : Nat → Option RecordResult) (id : RequestId) (job : Job) :
    (ofJob id job).Undisturbed find [] (.scanning (ofJob id job).parts) where
  listening := rfl
  initial := rfl
  phase := .starting _
  batches := nofun
  unbroken := nofun
  tally := ⟨[], rfl, .nil _⟩
  left := rfl
  told := nofun
  closed := .inl ⟨_, rfl⟩

theorem parts_endToEnd (run : Run) :
    ScanRange.EndToEnd run.job.range.start run.parts
      (run.job.range.start + run.job.range.size) :=
  ScanRange.split_endToEnd _ _ _

theorem stopped_of_idle {run : Run} (h : run.isWorking = false) {w : Worker}
    (hw : w ∈ run.workers) : w.stage = .stopped := by
  have hall : ∀ w ∈ run.workers, w.isRunning = false := by simpa [isWorking] using h
  simpa [Worker.isRunning] using hall w hw

namespace Undisturbed

variable {find : Nat → Option RecordResult} {run run' : Run} {posted : List Notification}
  {stage : Stage} {event : RequestEvent} {effect : Effect} {part : ScanRange}
  {rest : List ScanRange}

/-- A run that only enters another phase, and has the same results posted or ready. -/
theorem enter (h : run.Undisturbed find posted stage) {posted' : List Notification}
    {phase : Phase} {stage' : Stage} (hphase : phase.Calm run.id stage')
    (hresults : (posted' ++ phase.pending).flatMap Notification.batch =
      (posted ++ run.phase.pending).flatMap Notification.batch)
    (hleft : stage'.left = stage.left) (htold : stage'.Told run.id posted')
    (hclosed : (∃ left, stage' = .scanning left) ∨ run.events = [] ∧ run.isWorking = false) :
    (run.enter phase).Undisturbed find posted' stage' where
  listening := h.listening
  initial := h.initial
  phase := hphase
  batches := h.batches
  unbroken := h.unbroken
  tally := by
    obtain ⟨order, hstream, htally⟩ := h.tally
    refine ⟨order, ?_, htally⟩
    rw [← hstream, stream, stream, ← hresults]
    rfl
  left := h.left.trans hleft.symm
  told := htold
  closed := hclosed

/-- A worker is started on the first part that is left. -/
theorem hire (h : run.Undisturbed find posted (.scanning (part :: rest)))
    (hphase : run.phase = .hiring part rest) :
    (run.hire part rest).Undisturbed find posted (.scanning rest) where
  listening := h.listening
  initial := h.initial
  phase := .starting rest
  batches := h.batches
  unbroken := by
    intro w hw
    rcases List.mem_append.1 hw with hold | hnew
    · exact h.unbroken w hold
    · exact List.mem_singleton.1 hnew ▸ .ofRange part
  tally := by
    obtain ⟨order, hstream, htally⟩ := h.tally
    have hpart : run.parts[run.workers.length]? = some part := by
      rw [← List.head?_drop, h.left]
      rfl
    have hle := (run.parts_endToEnd.bounds (List.mem_of_getElem? hpart)).2.1
    refine ⟨order, ?_, htally.hire hpart hle⟩
    rw [← hstream, stream, stream, hphase]
    rfl
  left := by
    have hdrop : run.parts.drop (run.workers.length + 1) = rest := by
      rw [← List.tail_drop, h.left]
      rfl
    rw [Run.hire, List.length_append]
    exact hdrop
  told := h.told
  closed := .inl ⟨rest, rfl⟩

/-- A report is turned into a notification. -/
theorem take (h : run.Undisturbed find posted (.scanning [])) {processed : Nat}
    {results : List RecordResult} {rest : List WorkerEvent} (hphase : run.phase = .collecting)
    (hevents : run.events = .batch processed results :: rest) :
    (run.take (.batch processed results) rest).Undisturbed find posted (.scanning []) where
  listening := h.listening
  initial := h.initial
  phase := .asking _ results
  batches := fun event hevent => h.batches event (hevents ▸ List.mem_cons_of_mem _ hevent)
  unbroken := h.unbroken
  tally := by
    obtain ⟨order, hstream, htally⟩ := h.tally
    refine ⟨order, ?_, htally⟩
    rw [← hstream, stream, stream, hphase, hevents]
    simp [Run.take, Phase.pending, Notification.progress, WorkerEvent.results]
  left := h.left
  told := h.told
  closed := .inl ⟨[], rfl⟩

/-- A request that is not silenced goes on to send its notification. -/
theorem ask (h : run.Undisturbed find posted stage) {n : Notification} {next : Phase}
    (hphase : run.phase = .asking n next) :
    (run.enter (.telling n next)).Undisturbed find posted stage := by
  have hcalm : Phase.Calm run.id (.telling n next) stage := by
    have hasking := h.phase
    rw [hphase] at hasking
    cases hasking with
    | asking percent results => exact .telling percent results
    | askingLast => exact .tellingLast
  exact h.enter hcalm (by rw [hphase]; rfl) rfl h.told h.closed

/-- A notification is posted, and with the last one the request has told its end. -/
theorem tell (h : run.Undisturbed find posted stage) {n : Notification} {next : Phase}
    (hphase : run.phase = .telling n next) :
    ∃ stage', (run.enter next).Undisturbed find (posted ++ [n]) stage' := by
  have hresults : (posted ++ [n] ++ next.pending).flatMap Notification.batch =
      (posted ++ run.phase.pending).flatMap Notification.batch := by
    rw [hphase, List.append_assoc]
    rfl
  have hcalm := h.phase
  rw [hphase] at hcalm
  cases hcalm with
  | telling percent results =>
      refine ⟨.scanning [], h.enter .collecting hresults rfl (fun m hm => ?_) (.inl ⟨_, rfl⟩)⟩
      rcases List.mem_append.1 hm with hold | hnew
      · exact h.told m hold
      · obtain rfl := List.mem_singleton.1 hnew
        rfl
  | tellingLast =>
      exact ⟨.told, h.enter .retiring hresults rfl ⟨posted, rfl, h.told⟩
        (.inr (h.closed.resolve_left nofun))⟩

/-- While some worker has steps left, reports are taken. -/
theorem scanning_of_ne_stopped (h : run.Undisturbed find posted stage) {index : Nat} {w : Worker}
    (hworker : run.workers[index]? = some w) (hstage : w.stage ≠ .stopped) :
    ∃ left, stage = .scanning left := by
  rcases h.closed with hscanning | ⟨-, hidle⟩
  · exact hscanning
  · exact absurd (stopped_of_idle hidle (List.mem_of_getElem? hworker)) hstage

/-- A worker goes on, and may report. -/
theorem work (h : run.Undisturbed find posted stage) {index : Nat} {w next : Worker}
    {event : Option WorkerEvent} (hworker : run.workers[index]? = some w)
    (hstep : w.step false true = some (next, event)) :
    (run.afterWork index next event).Undisturbed find posted stage := by
  obtain ⟨order, hstream, htally⟩ := h.tally
  obtain ⟨positions, hnext, hresults⟩ := htally.step run.parts_endToEnd hworker hstep
  obtain ⟨hunbroken, hbatch⟩ := (h.unbroken w (List.mem_of_getElem? hworker)).step hstep
  have hevents : (run.afterWork index next event).events = run.events ++ event.toList := by
    simp [afterWork, h.listening]
  exact {
    listening := h.listening
    initial := h.initial
    phase := h.phase
    batches := by
      intro e he
      rw [hevents] at he
      rcases List.mem_append.1 he with hold | hnew
      · exact h.batches e hold
      · exact hbatch e hnew
    unbroken := fun v hv => (List.mem_or_eq_of_mem_set hv).elim (h.unbroken v) (· ▸ hunbroken)
    tally := by
      refine ⟨order ++ positions, ?_, hnext⟩
      rw [List.filterMap_append, ← hstream, ← hresults, if_pos rfl, stream, hevents, stream,
        List.append_assoc, ← List.flatMap_append]
      rfl
    left := by
      rw [← h.left, afterWork, List.length_set]
      rfl
    told := h.told
    closed := .inl (h.scanning_of_ne_stopped hworker (Worker.ne_stopped_of_step hstep)) }

/-- A worker gets a record. -/
theorem load (h : run.Undisturbed find posted stage) {index : Nat} {w : Worker}
    {record : Record} (hworker : run.workers[index]? = some w) (hstage : w.stage = .loading)
    (hfind : find w.position = run.job.context.analyze? record) :
    (run.afterLoad index w (.ok record)).Undisturbed find posted stage where
  listening := h.listening
  initial := h.initial
  phase := h.phase
  batches := h.batches
  unbroken := fun v hv => (List.mem_or_eq_of_mem_set hv).elim (h.unbroken v) (· ▸ .load)
  tally := by
    obtain ⟨order, hstream, htally⟩ := h.tally
    refine ⟨order, hstream, htally.load run.parts_endToEnd hworker hstage fun r hr => ?_⟩
    obtain rfl := Except.ok.inj hr
    exact ⟨hfind, trivial⟩
  left := by
    rw [← h.left, afterLoad, List.length_set]
    rfl
  told := h.told
  closed := by
    refine .inl (h.scanning_of_ne_stopped hworker ?_)
    rw [hstage]
    nofun

theorem unhalted (h : run.Undisturbed find posted stage)
    (hmove : run.Moves false false event run' effect) : effect ≠ .halt := by
  rintro rfl
  have hcalm := h.phase
  cases hmove with
  | fail percent error hphase =>
      rw [hphase] at hcalm
      cases hcalm

/-- A run that is left alone goes on undisturbed. -/
theorem moves (h : run.Undisturbed find posted stage) (hjob : run.job.continuous = false)
    (hmove : run.Moves false false event run' effect)
    {record : Nat → Record} (hread : event.readsFrom record = true)
    (hfind : ∀ p, find p = run.job.context.analyze? (record p)) :
    ∃ stage', run'.Undisturbed find (posted ++ event.posted?.toList) stage' := by
  have hcalm := h.phase
  have hquiet : posted ++ RequestEvent.quiet.posted?.toList = posted := List.append_nil posted
  -- The phase tells the stage, and rules out the moves of a run that fails or stays alive.
  cases hmove with
  | start parts hphase =>
      rw [hphase] at hcalm
      cases hcalm
      refine ⟨.scanning parts, ?_⟩
      rw [hquiet]
      cases parts with
      | nil => exact h.enter .collecting (by rw [hphase]; rfl) rfl h.told (.inl ⟨_, rfl⟩)
      | cons part rest =>
          exact h.enter (.hiring part rest) (by rw [hphase]; rfl) rfl h.told (.inl ⟨_, rfl⟩)
  | hire part rest hphase =>
      rw [hphase] at hcalm
      cases hcalm
      refine ⟨.scanning rest, ?_⟩
      rw [hquiet]
      exact h.hire hphase
  | take event rest hphase hevents =>
      rw [hphase] at hcalm
      cases hcalm
      refine ⟨.scanning [], ?_⟩
      rw [hquiet]
      obtain ⟨processed, results, rfl⟩ := h.batches event (hevents ▸ List.mem_cons_self)
      exact h.take hphase hevents
  | close hphase hevents hidle =>
      rw [hphase] at hcalm
      cases hcalm
      refine ⟨.over, ?_⟩
      have hafter : run.afterScan = .finishing := by simp [afterScan, h.initial]
      rw [hquiet, hafter]
      exact h.enter .finishing (by rw [hphase]; rfl) rfl h.told (.inr ⟨hevents, hidle⟩)
  | finish hphase =>
      rw [hphase] at hcalm
      cases hcalm
      refine ⟨.over, ?_⟩
      have hfinish : run.finish false = run.enter (.leaving (some (.successful run.id))) := by
        simp [Run.finish, hjob]
      rw [hquiet, hfinish]
      refine h.enter .leaving ?_ rfl h.told h.closed
      simp [hphase, Phase.pending, Notification.successful]
  | fail percent error hphase =>
      rw [hphase] at hcalm
      cases hcalm
  | leave farewell hphase =>
      rw [hphase] at hcalm
      cases hcalm
      refine ⟨.over, ?_⟩
      rw [hquiet]
      exact h.enter .askingLast (by rw [hphase]; rfl) rfl h.told h.closed
  | ask n next hphase =>
      refine ⟨stage, ?_⟩
      rw [hquiet]
      exact h.ask hphase
  | tell n next hphase => exact h.tell hphase
  | rest hphase =>
      rw [hphase] at hcalm
      cases hcalm
  | poll answer hphase =>
      rw [hphase] at hcalm
      cases hcalm
  | retire hphase =>
      rw [hphase] at hcalm
      cases hcalm
      refine ⟨.told, ?_⟩
      rw [hquiet]
      exact h.enter .gone (by rw [hphase]; rfl) rfl h.told h.closed
  | work index w next event hworker hstep =>
      refine ⟨stage, ?_⟩
      rw [hquiet]
      exact h.work hworker (h.listening ▸ hstep)
  | load index w answer hworker hstage =>
      obtain rfl := RequestEvent.eq_ok_of_readsFrom hread
      refine ⟨stage, ?_⟩
      have hsame : posted ++ (RequestEvent.read w.position
          (.ok (record w.position))).posted?.toList = posted := List.append_nil posted
      rw [hsame]
      exact h.load hworker hstage (hfind w.position)

/-- What a run that has told its end undisturbed has posted. -/
theorem of_told (h : run.Undisturbed find posted .told) :
    ∃ (batches : List Notification) (order : List Nat),
      posted = batches ++ [.successful run.id] ∧
      (∀ n ∈ batches, n = .progress run.id n.percent n.batch) ∧
      batches.flatMap Notification.batch = order.filterMap find ∧
      order.Perm (List.range' run.job.range.start run.job.range.size) ∧
      ∀ part ∈ run.parts, order.filter part.holds = List.range' part.start part.size := by
  have hpending : run.phase.pending = [] := by
    have hcalm := h.phase
    cases hphase : run.phase with
    | retiring | gone => rfl
    | _ =>
        rw [hphase] at hcalm
        cases hcalm
  obtain ⟨batches, rfl, hbatches⟩ := h.told
  obtain ⟨order, hstream, htally⟩ := h.tally
  obtain ⟨hevents, hidle⟩ := h.closed.resolve_left nofun
  have hcount : run.workers.length = run.parts.length :=
    Nat.le_antisymm htally.count (List.drop_eq_nil_iff.1 h.left)
  obtain ⟨hperm, hparts⟩ := htally.complete run.parts_endToEnd hcount
    fun w hw => ⟨stopped_of_idle hidle hw, h.unbroken w hw⟩
  refine ⟨batches, order, rfl, hbatches, ?_, ?_, hparts⟩
  · rw [← hstream, stream, hpending, hevents]
    simp [Notification.successful]
  · rwa [Nat.add_sub_cancel_left] at hperm

/-- What a run that has ended undisturbed has posted. -/
theorem ended (h : run.Undisturbed find posted stage) (hgone : run.phase = .gone) :
    ∃ (batches : List Notification) (order : List Nat),
      posted = batches ++ [.successful run.id] ∧
      (∀ n ∈ batches, n = .progress run.id n.percent n.batch) ∧
      batches.flatMap Notification.batch = order.filterMap find ∧
      order.Perm (List.range' run.job.range.start run.job.range.size) ∧
      ∀ part ∈ run.parts, order.filter part.holds = List.range' part.start part.size := by
  have hcalm := h.phase
  rw [hgone] at hcalm
  cases hcalm
  exact h.of_told

end Undisturbed

end Run

/-! ## Requests -/

/-- What holds of a request as long as nobody cancels it and its source yields `record`. -/
def RequestView.Undisturbed (record : Nat → Record) (posted : List Notification)
    (v : RequestView) : Prop :=
  (v.run = none → v.halted = false ∧ posted = []) ∧
    ∀ run, v.run = some run → run.job.continuous = false →
      v.halted = false ∧ ∃ stage,
        run.Undisturbed (fun p => run.job.context.analyze? (record p)) posted stage

/-- A step of a request that is left alone. -/
theorem RequestStep.undisturbed {id : RequestId} {v v' : RequestView} {event : RequestEvent}
    {record : Nat → Record} {posted : List Notification} (hstep : RequestStep id v event v')
    (h : v.Undisturbed record posted) (hsilenced : v.silenced = false)
    (hevent : event.isCancelling = false)
    (hread : event.readsFrom record = true) :
    v'.Undisturbed record (posted ++ event.posted?.toList) := by
  have hquiet : posted ++ RequestEvent.quiet.posted?.toList = posted := List.append_nil posted
  cases hstep with
  | elsewhere | activate | register | retire =>
      rw [hquiet]
      exact h
  | launch job hrun =>
      obtain ⟨hhalted, rfl⟩ := h.1 hrun
      refine ⟨nofun, fun run hrun' _ => ⟨hhalted, .scanning run.parts, ?_⟩⟩
      obtain rfl := Option.some.inj hrun'
      exact Run.undisturbed_ofJob _ id job
  | silence | withdraw | halt => cases hevent
  | deliver n rest hmail =>
      have hnone : posted ++ (RequestEvent.delivered n).posted?.toList = posted :=
        List.append_nil posted
      rw [hsilenced, if_neg Bool.false_ne_true, hnone]
      exact h
  | move run run' event effect hrun hmove =>
      have hrun' : (v.after run' effect).run = some run' := by cases effect <;> rfl
      refine ⟨fun hnone => absurd (hrun'.symm.trans hnone) nofun, fun r hr hjob => ?_⟩
      obtain rfl : run' = r := Option.some.inj (hrun'.symm.trans hr)
      obtain ⟨-, hsame⟩ := hmove.id_and_job
      rw [hsame] at hjob
      obtain ⟨hhalted, stage, hundisturbed⟩ := h.2 run hrun hjob
      rw [hhalted, hsilenced] at hmove
      have heffect := hundisturbed.unhalted hmove
      obtain ⟨stage', hnext⟩ := hundisturbed.moves hjob hmove hread fun _ => rfl
      refine ⟨?_, stage', hsame ▸ hnext⟩
      cases effect with
      | halt => exact absurd rfl heffect
      | _ => exact hhalted

/-- A request that is left alone stays undisturbed. -/
theorem RequestRun.undisturbed {id : RequestId} {events : List RequestEvent} {v : RequestView}
    (record : Nat → Record) (h : RequestRun id events v)
    (hquiet : ∀ event ∈ events, event.isCancelling = false)
    (hread : ∀ event ∈ events, event.readsFrom record = true) :
    v.Undisturbed record (events.filterMap RequestEvent.posted?) := by
  induction h with
  | nil => exact ⟨fun _ => ⟨rfl, rfl⟩, nofun⟩
  | snoc events event v v' hrun hstep ih =>
      have hquiet' : ∀ e ∈ events, e.isCancelling = false := fun e he =>
        hquiet e (List.mem_append_left _ he)
      have hlast : event ∈ events ++ [event] := List.mem_append_right _ List.mem_cons_self
      rw [List.filterMap_append, filterMap_singleton]
      exact hstep.undisturbed (ih hquiet' fun e he => hread e (List.mem_append_left _ he))
        (hrun.posted_eq_delivered_append hquiet').1 (hquiet event hlast) (hread event hlast)

end PatternScan.Analysis
