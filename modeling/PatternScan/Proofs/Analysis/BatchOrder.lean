import PatternScan.Proofs.Analysis.Batches
import PatternScan.Proofs.Analysis.LiveRequest

/-!
# Batches in the order of their arrival

The driver of a request takes the batches of its workers one after another. An execution tells
which ones it takes while it scans the range of the request itself, in the order in which they
arrive, and what they tell of is at any moment what the scan counts.
-/

namespace PatternScan.Analysis

variable {maxWorkers : Nat} {trace : List Moment} {d d' : Dispatch} {id : RequestId}
  {run run' : Run}

/-! ## The batch taken at a moment -/

/-- The batch that the run takes next while it scans the range of the request itself. -/
def Run.nextBatch? (run : Run) : Option Batch :=
  match run.phase, run.events with
  | .collecting, .batch processed results :: _ =>
      if run.scan.live then none else some ⟨processed, results⟩
  | _, _ => none

/-- The batch that the run of the request takes in the step. -/
def Moment.batch? (id : RequestId) (m : Moment) : Option Batch :=
  match m.step with
  | .drive target => if target = id then (m.before.run? id).bind Run.nextBatch? else none
  | _ => none

/-- The batches that a request takes while its own range is scanned, in the order of their
arrival. -/
def batchesBy (id : RequestId) (trace : List Moment) : List Batch :=
  trace.filterMap fun m => m.batch? id

theorem batchesBy_snoc (id : RequestId) (trace : List Moment) (m : Moment) :
    batchesBy id (trace ++ [m]) = batchesBy id trace ++ (m.batch? id).toList := by
  rw [batchesBy, List.filterMap_append, filterMap_singleton]
  rfl

namespace Run

/-- The batch taken between two states of a run. Unless it takes a report, a run that collects
goes on to collect. -/
def gained (run run' : Run) : List Batch :=
  match run'.phase with
  | .collecting => []
  | _ => run.nextBatch?.toList

theorem nextBatch?_eq_none (h : run.phase ≠ .collecting) : run.nextBatch? = none := by
  unfold nextBatch?
  split
  · next hphase _ => exact absurd hphase h
  · rfl

theorem gained_eq_nil (h : run.phase = .collecting → run'.phase = .collecting) :
    run.gained run' = [] := by
  by_cases hphase : run.phase = .collecting
  · rw [gained, h hphase]
  · rw [gained, nextBatch?_eq_none hphase]
    split <;> rfl

theorem gained_eq_nil_of_phase {phase : Phase} (hphase : run.phase = phase)
    (hne : phase ≠ .collecting) : run.gained run' = [] :=
  gained_eq_nil fun h => absurd (hphase.symm.trans h) hne

theorem gained_take {processed : Nat} {results : List RecordResult} {rest : List WorkerEvent}
    (hphase : run.phase = .collecting) (hevents : run.events = .batch processed results :: rest) :
    run.gained (run.take (.batch processed results) rest) =
      if run.scan.live then [] else [⟨processed, results⟩] := by
  simp only [gained, Run.take, nextBatch?, hphase, hevents]
  split <;> rfl

end Run

/-- A driver that collects takes the first report. -/
theorem Dispatch.run?_of_take {event : WorkerEvent} {rest : List WorkerEvent}
    {seen : Option Observation} (hstep : d.step? (.drive id) = some (d', seen))
    (hrun : d.run? id = some run) (hphase : run.phase = .collecting)
    (hevents : run.events = event :: rest) : d'.run? id = some (run.take event rest) := by
  obtain rfl := id_of_run? hrun
  simp only [step?, hrun, Option.bind_some, drive?, hphase, Run.collect?, hevents,
    Option.map_some, Option.some.injEq, Prod.mk.injEq] at hstep
  obtain ⟨rfl, -⟩ := hstep
  have hid : (run.take event rest).id = run.id := by cases event <;> rfl
  rw [← hid] at hrun ⊢
  exact run?_setRun_self hrun

/-- A run that collects goes on to collect in the steps of its workers. -/
theorem Dispatch.phase_of_step {step : Step} {seen : Option Observation}
    (hstep : d.step? step = some (d', seen)) (hdrive : step ≠ .drive id)
    (htarget : step.target? = some id) (hrun : d.run? id = some run)
    (hrun' : d'.run? id = some run') (hphase : run.phase = .collecting) :
    run'.phase = .collecting := by
  obtain rfl := id_of_run? hrun
  cases step with
  | drive target => exact absurd (congrArg Step.drive (Option.some.inj htarget)) hdrive
  | poll target size =>
      obtain rfl := Option.some.inj htarget
      simp [step?, hrun, poll?, hphase] at hstep
  | work target index =>
      obtain rfl := Option.some.inj htarget
      simp only [step?, hrun, Option.bind_some, work?, Option.map_eq_some_iff,
        Option.bind_eq_some_iff, Prod.mk.injEq] at hstep
      obtain ⟨-, ⟨w, -, ⟨next, event⟩, -, rfl⟩, rfl, -⟩ := hstep
      have hset : (d.setRun (run.afterWork index next event)).run? run.id =
          some (run.afterWork index next event) := run?_setRun_self hrun
      obtain rfl := Option.some.inj (hset.symm.trans hrun')
      exact hphase
  | load target index record =>
      obtain rfl := Option.some.inj htarget
      simp only [step?, hrun, Option.bind_some, load?, Option.map_eq_some_iff,
        Option.bind_eq_some_iff, Option.ite_none_right_eq_some, Prod.mk.injEq] at hstep
      obtain ⟨after, ⟨w, -, -, hnext⟩, rfl, -⟩ := hstep
      obtain rfl := Option.some.inj hnext
      have hset : (d.setRun (run.afterLoad index w record)).run? run.id =
          some (run.afterLoad index w record) := run?_setRun_self hrun
      obtain rfl := Option.some.inj (hset.symm.trans hrun')
      exact hphase
  | _ => cases htarget

theorem Moment.batch?_of_drive {seen : Option Observation} (hrun : d.run? id = some run) :
    Moment.batch? id ⟨d, .drive id, seen⟩ = run.nextBatch? := by
  simp [Moment.batch?, hrun]

theorem Moment.batch?_eq_none {step : Step} {seen : Option Observation}
    (hdrive : step ≠ .drive id) : Moment.batch? id ⟨d, step, seen⟩ = none := by
  cases step with
  | drive target => exact if_neg fun h => hdrive (congrArg Step.drive h)
  | _ => rfl

/-- The batch taken in a step is the one that is gained in the move of the run. -/
theorem Dispatch.batch?_eq_gained {step : Step} {seen : Option Observation}
    (hstep : d.step? step = some (d', seen)) (htarget : step.target? = some id)
    (hrun : d.run? id = some run) (hrun' : d'.run? id = some run') :
    (Moment.batch? id ⟨d, step, seen⟩).toList = run.gained run' := by
  by_cases hdrive : step = .drive id
  · subst hdrive
    rw [Moment.batch?_of_drive hrun]
    by_cases hphase : run.phase = .collecting
    · cases hevents : run.events with
      | nil =>
          have hnone : run.nextBatch? = none := by simp [Run.nextBatch?, hphase, hevents]
          rw [Run.gained, hnone]
          split <;> rfl
      | cons event rest =>
          have htake := run?_of_take hstep hrun hphase hevents
          obtain rfl := Option.some.inj (htake.symm.trans hrun')
          cases event <;> rfl
    · rw [Run.nextBatch?_eq_none hphase, Run.gained_eq_nil fun h => absurd h hphase]
      rfl
  · rw [Moment.batch?_eq_none hdrive,
      Run.gained_eq_nil (phase_of_step hstep hdrive htarget hrun hrun')]
    rfl

/-! ## Runs from their launch on -/

theorem Moment.batch?_of_run?_eq_none {m : Moment} (h : m.before.run? id = none) :
    m.batch? id = none := by
  unfold Moment.batch?
  split
  · rw [h]
    split <;> rfl
  · rfl

theorem Dispatch.exists_run_of_target {step : Step} {seen : Option Observation}
    (hstep : d.step? step = some (d', seen)) (htarget : step.target? = some id) :
    ∃ run, d.run? id = some run := by
  cases steps_of_step? hstep with
  | run step run run' effect hrun htarget' hmove =>
      obtain rfl := Option.some.inj (htarget.symm.trans htarget')
      exact ⟨run, hrun⟩
  | _ => cases htarget

theorem RequestStep.posted?_eq_none {v v' : RequestView} {event : RequestEvent}
    (hstep : RequestStep id v event v') (hnone : v.run = none) : event.posted? = none := by
  cases hstep with
  | move run run' event effect hrun hmove => exact absurd (hnone.symm.trans hrun) nofun
  | deliver n rest hmail => split <;> rfl
  | _ => rfl

/-- The run of the request has not gone on, has taken no batch and has posted nothing. -/
structure Untouched (id : RequestId) (trace : List Moment) : Prop where
  batches : batchesBy id trace = []
  moves : movesBy id trace = 0
  posted : postedBy id trace = []

theorem Untouched.snoc (h : Untouched id trace) {step : Step} {seen : Option Observation}
    (hstep : d.step? step = some (d', seen)) (hnone : d.run? id = none)
    (hposted : (Moment.event id ⟨d, step, seen⟩).posted? = none) :
    Untouched id (trace ++ [⟨d, step, seen⟩]) where
  batches := by
    rw [batchesBy_snoc, h.batches, Moment.batch?_of_run?_eq_none hnone]
    rfl
  moves := by
    rw [movesBy_snoc, h.moves, if_neg]
    intro htarget
    obtain ⟨run, hrun⟩ := Dispatch.exists_run_of_target hstep htarget
    exact absurd (hnone.symm.trans hrun) nofun
  posted := by
    rw [postedBy_snoc, h.posted, hposted]
    rfl

/-- A moment in which the run of the request does not go on. -/
theorem snoc_of_ne_target {m : Moment} (htarget : m.step.target? ≠ some id)
    (hown : (m.event id).isOwn = false) :
    batchesBy id (trace ++ [m]) = batchesBy id trace ∧
      movesBy id (trace ++ [m]) = movesBy id trace ∧
      postedBy id (trace ++ [m]) = postedBy id trace := by
  have hdrive : m.step ≠ .drive id := fun h => htarget (by rw [h]; rfl)
  have hbatch : m.batch? id = none := Moment.batch?_eq_none hdrive
  rw [batchesBy_snoc, movesBy_snoc, postedBy_snoc, hbatch, if_neg htarget,
    (RequestEvent.eq_none_of_isOwn hown).1]
  exact ⟨List.append_nil _, rfl, List.append_nil _⟩

namespace Execution

theorem untouched (h : Execution (.empty maxWorkers) trace d) (hnone : d.run? id = none) :
    Untouched id trace := by
  induction h with
  | nil => exact ⟨rfl, rfl, rfl⟩
  | snoc trace d d' step seen h hstep ih =>
      cases hold : d.run? id with
      | none => exact (ih hold).snoc hstep hold ((h.requestStep hstep id).posted?_eq_none hold)
      | some run =>
          rcases Dispatch.moves_or_same hstep hold with ⟨-, run', -, hrun', -⟩ | ⟨-, hsame, -⟩
          · exact absurd (hnone.symm.trans hrun') nofun
          · exact absurd (hnone.symm.trans hsame) nofun

/-- What holds of every run when it is started, and is kept by its own moves and in all other
steps, holds of it ever since. -/
theorem from_launch {P : List Moment → Dispatch → Run → Prop}
    (h : Execution (.empty maxWorkers) trace d)
    (hfirst : ∀ early d job, early <+: trace → Execution (.empty maxWorkers) early d →
      d.run? id = some (.ofJob id job) → Untouched id early → P early d (.ofJob id job))
    (hown : ∀ early d d' step seen run run' effect, early ++ [⟨d, step, seen⟩] <+: trace →
      Execution (.empty maxWorkers) early d → d.step? step = some (d', seen) →
      step.target? = some id → d.run? id = some run → d'.run? id = some run' →
      run.Moves (d.isHalted id) (d.isSilenced id) (Moment.event id ⟨d, step, seen⟩) run' effect →
      P early d run → P (early ++ [⟨d, step, seen⟩]) d' run')
    (hother : ∀ early d d' step seen run, early ++ [⟨d, step, seen⟩] <+: trace →
      Execution (.empty maxWorkers) early d → d.step? step = some (d', seen) →
      step.target? ≠ some id → (Moment.event id ⟨d, step, seen⟩).isOwn = false →
      P early d run → P (early ++ [⟨d, step, seen⟩]) d' run)
    (hrun : d.run? id = some run) : P trace d run := by
  induction h generalizing run with
  | nil => cases hrun
  | snoc trace d d' step seen h hstep ih =>
      have hlater {early : List Moment} (hearly : early <+: trace) :
          early <+: trace ++ [⟨d, step, seen⟩] := hearly.trans (List.prefix_append _ _)
      have hlast := List.prefix_refl (trace ++ [⟨d, step, seen⟩])
      cases hold : d.run? id with
      | none =>
          obtain ⟨job, rfl⟩ := (h.requestStep hstep id).run_of_none hold hrun
          refine hfirst _ d' job hlast (.snoc _ _ _ _ _ h hstep) hrun ?_
          exact (h.untouched hold).snoc hstep hold
            ((h.requestStep hstep id).posted?_eq_none hold)
      | some old =>
          have hP := ih (fun _ _ _ hearly => hfirst _ _ _ (hlater hearly))
            (fun _ _ _ _ _ _ _ _ hearly => hown _ _ _ _ _ _ _ _ (hlater hearly))
            (fun _ _ _ _ _ _ hearly => hother _ _ _ _ _ _ (hlater hearly)) hold
          rcases Dispatch.moves_or_same hstep hold with
            ⟨htarget, run', effect, hrun', hmove⟩ | ⟨htarget, hsame, hevent⟩
          · obtain rfl := Option.some.inj (hrun.symm.trans hrun')
            exact hown _ _ _ _ _ _ _ _ hlast h hstep htarget hold hrun hmove hP
          · obtain rfl := Option.some.inj (hrun.symm.trans hsame)
            exact hother _ _ _ _ _ _ hlast h hstep htarget hevent hP

end Execution

/-! ## Counting the batches -/

namespace Run

/-- What a move does to a scan: it goes on as it is, or with a batch, or another scan begins. -/
theorem Moves.scan_cases {halted silenced : Bool} {event : RequestEvent} {effect : Effect}
    (h : run.Moves halted silenced event run' effect) :
    (run'.scan = run.scan ∧ run.gained run' = []) ∨
    (∃ processed results rest, run.events = .batch processed results :: rest ∧
      run' = run.take (.batch processed results) rest ∧
      run.gained run' = if run.scan.live then [] else [⟨processed, results⟩]) ∨
    (run.phase = .polling ∧ run'.scan.live = true ∧ run.gained run' = []) := by
  have hstay {phase : Phase} (hphase : run.phase = phase) (hne : phase ≠ .collecting)
      (hscan : run'.scan = run.scan) : run'.scan = run.scan ∧ run.gained run' = [] :=
    ⟨hscan, gained_eq_nil_of_phase hphase hne⟩
  cases h with
  | start parts hphase =>
      refine .inl (hstay hphase (by simp) ?_)
      cases parts with
      | nil => rfl
      | cons part rest => cases halted <;> rfl
  | hire part rest hphase => exact .inl (hstay hphase (by simp) rfl)
  | take event rest hphase hevents =>
      cases event with
      | batch processed results =>
          exact .inr (.inl ⟨processed, results, rest, hevents, rfl, gained_take hphase hevents⟩)
      | failed error =>
          refine .inl ⟨rfl, ?_⟩
          simp [gained, Run.take, nextBatch?, hphase, hevents]
  | close hphase hevents hidle =>
      refine .inl ⟨rfl, ?_⟩
      have hnone : run.nextBatch? = none := by simp [nextBatch?, hphase, hevents]
      rw [gained, hnone]
      split <;> rfl
  | finish hphase =>
      refine .inl (hstay hphase (by simp) ?_)
      rw [Run.finish]
      split
      · rfl
      · split <;> rfl
  | poll answer hphase =>
      have hgained : run.gained (run.poll answer) = [] :=
        gained_eq_nil_of_phase hphase (by simp)
      have hscan : (run.poll answer).scan = run.scan ∨ (run.poll answer).scan.live = true := by
        cases answer with
        | error e => exact .inl rfl
        | ok size =>
            rw [Run.poll]
            split
            · exact .inl rfl
            · split
              · exact .inl rfl
              · exact .inr rfl
      rcases hscan with hscan | hlive
      · exact .inl ⟨hscan, hgained⟩
      · exact .inr (.inr ⟨hphase, hlive, hgained⟩)
  | fail _ _ hphase | leave _ hphase | ask _ _ hphase | tell _ _ hphase | rest hphase
  | retire hphase => exact .inl (hstay hphase (by simp) rfl)
  | work | load => exact .inl ⟨rfl, gained_eq_nil fun h => h⟩

/-- What the batches tell of is what the scan of the range of the request itself counts. -/
structure Counts (run : Run) (batches : List Batch) : Prop where
  positive : ∀ b ∈ batches, 0 < b.processed
  bound : done batches ≤ run.job.range.size
  initial : run.scan.live = false → run.scan.range = run.job.range ∧
    run.scan.processed = done batches ∧
    run.scan.percent = lastPercent (notices run.id run.job.range.size 0 batches)

theorem counts_ofJob (id : RequestId) (job : Job) : (ofJob id job).Counts [] :=
  ⟨nofun, Nat.zero_le _, fun _ => ⟨rfl, rfl, rfl⟩⟩

theorem Counts.moves {batches : List Batch} {parts parts' : List ScanRange}
    {halted silenced : Bool} {event : RequestEvent} {effect : Effect} (h : run.Counts batches)
    (haccounts : run.Accounts parts) (haccounts' : run'.Accounts parts')
    (hmove : run.Moves halted silenced event run' effect) :
    run'.Counts (batches ++ run.gained run') := by
  obtain ⟨hid, hjob⟩ := hmove.id_and_job
  rcases hmove.scan_cases with
    ⟨hscan, hgained⟩ | ⟨processed, results, rest, hevents, rfl, hgained⟩ | ⟨-, hlive, hgained⟩
  · rw [hgained, List.append_nil]
    refine ⟨h.positive, hjob ▸ h.bound, ?_⟩
    rw [hscan, hid, hjob]
    exact h.initial
  · cases hlive : run.scan.live with
    | true =>
        rw [hgained, hlive, if_pos rfl, List.append_nil]
        exact ⟨h.positive, h.bound, fun hinitial => absurd (hlive.symm.trans hinitial) nofun⟩
    | false =>
        rw [hgained, hlive, if_neg Bool.false_ne_true]
        obtain ⟨hrange, hprocessed, -⟩ := h.initial hlive
        have htotal := haccounts'.total
        simp only [Run.take, Scan.advance, hrange, hprocessed] at htotal
        refine ⟨?_, ?_, fun _ => ⟨hrange, ?_, ?_⟩⟩
        · refine List.forall_mem_append.2 ⟨h.positive, List.forall_mem_singleton.2 ?_⟩
          exact haccounts.events processed results (hevents ▸ List.mem_cons_self)
        · rw [done_append, done_cons, done_nil]
          change done batches + (processed + 0) ≤ run.job.range.size
          omega
        · rw [done_append, done_cons, done_nil, ← hprocessed]
          rfl
        · rw [notices_snoc, lastPercent_snoc]
          simp [Run.take, Scan.advance, Notification.progress, hlive, hrange, hprocessed]
  · rw [hgained, List.append_nil]
    exact ⟨h.positive, hjob ▸ h.bound, fun hinitial => absurd (hlive.symm.trans hinitial) nofun⟩

end Run

namespace Execution

theorem counts (h : Execution (.empty maxWorkers) trace d) (hrun : d.run? id = some run) :
    run.Counts (batchesBy id trace) := by
  have hboth : (∃ parts, run.Accounts parts) ∧ run.Counts (batchesBy id trace) := by
    refine h.from_launch (P := fun early _ run =>
      (∃ parts, run.Accounts parts) ∧ run.Counts (batchesBy id early)) ?_ ?_ ?_ hrun
    · rintro early d job - - - huntouched
      rw [huntouched.batches]
      exact ⟨⟨_, Run.accounts_begin _ rfl⟩, Run.counts_ofJob id job⟩
    · rintro early d d' step seen run₁ run₂ effect - hearly hstep htarget hrun₁ hrun₂ hmove
        ⟨⟨parts, haccounts⟩, hcounts⟩
      obtain ⟨-, c, hcourse, -⟩ := (hearly.onCourse id).launched run₁ hrun₁
      obtain ⟨parts', haccounts', -⟩ := haccounts.moves hcourse hmove
      rw [batchesBy_snoc, Dispatch.batch?_eq_gained hstep htarget hrun₁ hrun₂]
      exact ⟨⟨parts', haccounts'⟩, hcounts.moves haccounts haccounts' hmove⟩
    · rintro early d d' step seen run₁ - - - htarget hown hcounts
      rw [(snoc_of_ne_target (m := ⟨d, step, seen⟩) htarget hown).1]
      exact hcounts
  exact hboth.2

theorem whole (h : Execution (.empty maxWorkers) trace d) (hunhindered : Unhindered id trace)
    (hrun : d.run? id = some run) : run.Whole := by
  refine h.throughout (P := fun _ run => run.Whole) hunhindered ?_ ?_ (fun _ _ _ hP => hP) hrun
  · exact fun _ job => Run.whole_ofJob id job
  · intro early m run₁ run₂ effect c _ hlaws hcourse hhalted hmove _ hwhole
    exact hwhole.moves hlaws hcourse hhalted hmove

/-- Once its own range is scanned, the batches of a request that nobody cancels and that meets no
failure tell of every record of the range. -/
theorem done_eq (h : Execution (.empty maxWorkers) trace d) (hunhindered : Unhindered id trace)
    (hrun : d.run? id = some run) (hscanned : run.HasScanned) :
    done (batchesBy id trace) = run.job.range.size := by
  have hover {early : List Moment} {d : Dispatch} {run : Run} (hearly : early <+: trace)
      (h : Execution (.empty maxWorkers) early d) (hrun : d.run? id = some run)
      (hlive : run.scan.live = false) (hover : run.phase.isScanning = false) :
      done (batchesBy id early) = run.job.range.size := by
    have hquiet := hunhindered.mono hearly
    obtain ⟨hlaws, -⟩ := (h.conserves hquiet).1.launched run hrun
    obtain ⟨hrange, hprocessed, -⟩ := (h.counts hrun).initial hlive
    rw [← hprocessed, ← hrange]
    exact (h.whole hquiet hrun).processed_eq hlaws hover
  have hfurther : run.scan.live = true →
      done (batchesBy id trace) = run.job.range.size := by
    refine h.from_launch (P := fun early _ run => run.scan.live = true →
      done (batchesBy id early) = run.job.range.size) (fun _ _ _ _ _ _ _ => nofun) ?_ ?_ hrun
    · rintro early d d' step seen run₁ run₂ effect hbegins hearly hstep htarget hrun₁ hrun₂ hmove
        hP hlive
      obtain ⟨-, hjob⟩ := hmove.id_and_job
      rw [batchesBy_snoc, Dispatch.batch?_eq_gained hstep htarget hrun₁ hrun₂, hjob]
      rcases hmove.scan_cases with
        ⟨hscan, hgained⟩ | ⟨processed, results, rest, -, rfl, hgained⟩ | ⟨hphase, -, hgained⟩
      · rw [hgained, List.append_nil]
        exact hP (hscan ▸ hlive)
      · have hlive₁ : run₁.scan.live = true := hlive
        rw [hgained, if_pos hlive₁, List.append_nil]
        exact hP hlive₁
      · rw [hgained, List.append_nil]
        cases hlive₁ : run₁.scan.live with
        | true => exact hP hlive₁
        | false =>
            have hsofar := (List.prefix_append early [⟨d, step, seen⟩]).trans hbegins
            exact hover hsofar hearly hrun₁ hlive₁ (by rw [hphase]; rfl)
    · rintro early d d' step seen run₁ - - - htarget hown hP hlive
      rw [(snoc_of_ne_target (m := ⟨d, step, seen⟩) htarget hown).1]
      exact hP hlive
  cases hlive : run.scan.live with
  | true => exact hfurther hlive
  | false =>
      refine hover (List.prefix_refl trace) h hrun hlive (hscanned.resolve_left ?_)
      rw [hlive]
      exact Bool.false_ne_true

end Execution

end PatternScan.Analysis
