import Mathlib.Data.List.Induction
import PatternScan.Proofs.Analysis.Conservation
import PatternScan.Proofs.Analysis.RequestEnding

/-!
# The run of a request along an execution

In a step of the dispatch the run of a request makes one of its moves, or it is left as it is. An
execution can be taken apart at each of its moments, and what the moves of a run keep holds of it
from a moment on, or throughout a request that nobody cancels and that meets no failure.
-/

namespace PatternScan.Analysis

/-- The records that the workers of a request have read, with their positions. -/
def readBy (id : RequestId) (trace : List Moment) : List (Nat × Record) :=
  trace.filterMap fun m => (m.event id).read?

theorem readBy_eq (id : RequestId) (trace : List Moment) :
    readBy id trace = (trace.map (Moment.event id)).filterMap RequestEvent.read? := by
  rw [List.filterMap_map]
  rfl

theorem readBy_snoc (id : RequestId) (trace : List Moment) (m : Moment) :
    readBy id (trace ++ [m]) = readBy id trace ++ (m.event id).read?.toList := by
  rw [readBy, List.filterMap_append, filterMap_singleton]
  rfl

theorem polledBy_snoc (id : RequestId) (trace : List Moment) (m : Moment) :
    polledBy id (trace ++ [m]) = polledBy id trace ++ (m.event id).polled?.toList := by
  rw [polledBy, List.filterMap_append, filterMap_singleton]
  rfl

theorem postedBy_snoc (id : RequestId) (trace : List Moment) (m : Moment) :
    postedBy id (trace ++ [m]) = postedBy id trace ++ (m.event id).posted?.toList := by
  rw [postedBy, List.filterMap_append, filterMap_singleton]
  rfl

/-- How often the run of a request has gone on. -/
def movesBy (id : RequestId) (trace : List Moment) : Nat :=
  trace.countP fun m => m.step.target? = some id

theorem movesBy_snoc (id : RequestId) (trace : List Moment) (m : Moment) :
    movesBy id (trace ++ [m]) =
      movesBy id trace + if m.step.target? = some id then 1 else 0 := by
  simp [movesBy, List.countP_append, List.countP_singleton]

variable {maxWorkers : Nat} {trace before after : List Moment} {d d' start : Dispatch}
  {id : RequestId} {run run' : Run} {m : Moment}

/-- Nobody cancels the request, and neither a read nor a look at its source fails. -/
def Unhindered (id : RequestId) (trace : List Moment) : Prop :=
  ∀ m ∈ trace, (m.event id).isCancelling = false ∧ (m.event id).succeeds = true

theorem Unhindered.mono {early : List Moment} (h : Unhindered id trace)
    (hearly : early <+: trace) : Unhindered id early := fun m hm => h m (hearly.subset hm)

/-! ## One moment of an execution -/

/-- The run of the request itself makes the event. -/
def RequestEvent.isOwn : RequestEvent → Bool
  | read _ _ | polled _ | posted _ => true
  | _ => false

theorem RequestEvent.eq_none_of_isOwn {event : RequestEvent} (h : event.isOwn = false) :
    event.posted? = none ∧ event.read? = none ∧ event.polled? = none := by
  cases event <;> first | exact ⟨rfl, rfl, rfl⟩ | cases h

theorem postedBy_eq_nil (h : ∀ m ∈ trace, (m.event id).isOwn = false) : postedBy id trace = [] :=
  List.filterMap_eq_nil_iff.2 fun m hm => (RequestEvent.eq_none_of_isOwn (h m hm)).1

theorem readBy_eq_nil (h : ∀ m ∈ trace, (m.event id).isOwn = false) : readBy id trace = [] :=
  List.filterMap_eq_nil_iff.2 fun m hm => (RequestEvent.eq_none_of_isOwn (h m hm)).2.1

theorem Dispatch.run?_advance (call : Call) (hrun : d.run? id = some run) :
    (d.advance call).1.run? id = some run := by
  cases call with
  | launching target job =>
      rw [run?] at hrun
      simp [advance, run?, List.find?_append, hrun]
  | silencing target rest =>
      simp only [advance, silence]
      split <;> exact hrun
  | withdrawing target rest =>
      simp only [advance]
      split <;> exact hrun
  | _ => exact hrun

theorem Call.isOwn_event (call : Call) : (call.event id).isOwn = false := by
  cases call with
  | silencing | withdrawing | halting =>
      simp only [Call.event]
      split <;> rfl
  | _ => rfl

/-- In a step the run of a request makes one of its moves, or it is left as it is. -/
theorem Dispatch.moves_or_same {step : Step} {seen : Option Observation}
    (hstep : d.step? step = some (d', seen)) (hrun : d.run? id = some run) :
    (step.target? = some id ∧ ∃ run' effect, d'.run? id = some run' ∧
      run.Moves (d.isHalted id) (d.isSilenced id) (Moment.event id ⟨d, step, seen⟩) run' effect) ∨
    (step.target? ≠ some id ∧ d'.run? id = some run ∧
      (Moment.event id ⟨d, step, seen⟩).isOwn = false) := by
  cases steps_of_step? hstep with
  | submit | refuse | cancel | shutdown => exact .inr ⟨nofun, hrun, rfl⟩
  | call index call hcall =>
      refine .inr ⟨nofun, run?_advance call hrun, ?_⟩
      rw [event_of_call hcall]
      exact call.isOwn_event
  | run step other run' effect hother htarget hmove =>
      obtain ⟨hid, -⟩ := hmove.id_and_job
      have hsame (target : RequestId) : (d.affect target effect).run? id = d.run? id := by
        cases effect <;> rfl
      rw [event_of_run hother htarget]
      by_cases h : other.id = id
      · subst h
        obtain rfl := Option.some.inj (hother.symm.trans hrun)
        rw [if_pos rfl]
        refine .inl ⟨htarget, run', effect, ?_, hmove⟩
        rw [← hid] at hrun hsame ⊢
        exact run?_setRun_self ((hsame _).trans hrun)
      · rw [if_neg h]
        refine .inr ⟨fun htarget' => h (Option.some.inj (htarget.symm.trans htarget')), ?_, rfl⟩
        rw [run?_setRun_of_ne (hid ▸ h), hsame, hrun]
  | deliver n rest hqueue =>
      refine .inr ⟨nofun, hrun, ?_⟩
      rw [event_of_deliver]
      split
      · split <;> rfl
      · rfl
  | retire other rest hqueue => exact .inr ⟨nofun, hrun, rfl⟩

theorem RequestStep.run_of_none {v v' : RequestView} {event : RequestEvent}
    (hstep : RequestStep id v event v') (hnone : v.run = none) (hrun : v'.run = some run) :
    ∃ job, run = .ofJob id job := by
  cases hstep with
  | launch job => exact ⟨job, (Option.some.inj hrun).symm⟩
  | move old run' event effect hold hmove => exact absurd (hnone.symm.trans hold) nofun
  | _ => exact absurd (hnone.symm.trans hrun) nofun

/-! ## Where a run comes from -/

/-- It is the job of a submission that is made at one of the moments. -/
def Job.IsSubmitted (trace : List Moment) (job : Job) : Prop :=
  ∃ m ∈ trace, ∃ s size, m.step = .submit s size ∧ s.job m.before.maxWorkers size = .ok job

/-- The jobs that are submitted or run have the property. -/
structure Dispatch.Employs (P : Job → Prop) (d : Dispatch) : Prop where
  submitted : ∀ call ∈ d.calls, ∀ job, call.job? = some job → P job
  running : ∀ run ∈ d.runs, P run.job

namespace Dispatch

theorem job?_of_advance {call next : Call} (h : next ∈ (d.advance call).2.1) {job : Job}
    (hjob : next.job? = some job) : call.job? = some job := by
  cases call with
  | numbering | activating | registering =>
      obtain rfl := Option.some.inj h
      exact hjob
  | launching => cases h
  | silencing id rest =>
      obtain rfl := Option.some.inj h
      cases hjob
  | withdrawing id rest =>
      simp only [advance] at h
      split at h
      · obtain rfl := Option.some.inj h
        cases hjob
      · cases hjob.symm.trans (Orderly.job?_of_cancelAll h)
  | halting | listing => cases hjob.symm.trans (Orderly.job?_of_cancelAll h)

theorem mem_runs_advance {call : Call} (h : run ∈ (d.advance call).1.runs) :
    run ∈ d.runs ∨ call.job? = some run.job := by
  cases call with
  | launching id job =>
      rcases List.mem_append.1 h with hold | hnew
      · exact .inl hold
      · obtain rfl := List.mem_singleton.1 hnew
        exact .inr rfl
  | silencing id rest =>
      simp only [advance, silence] at h
      split at h <;> exact .inl h
  | withdrawing id rest =>
      simp only [advance] at h
      split at h <;> exact .inl h
  | _ => exact .inl h

variable {P : Job → Prop}

theorem Employs.mono (h : d.Employs P) {Q : Job → Prop} (hQ : ∀ job, P job → Q job) :
    d.Employs Q :=
  ⟨fun call hcall job hjob => hQ job (h.submitted call hcall job hjob),
    fun run hrun => hQ _ (h.running run hrun)⟩

/-- A call that begins, and submits no other job. -/
theorem Employs.begin (h : d.Employs P) {call : Call}
    (hcall : ∀ job, call.job? = some job → P job) :
    ({ d with calls := d.calls ++ [call] } : Dispatch).Employs P :=
  ⟨List.forall_mem_append.2 ⟨h.submitted, List.forall_mem_singleton.2 hcall⟩, h.running⟩

/-- A job comes into the dispatch with its submission. -/
theorem Employs.steps (h : d.Employs P) {step : Step} {seen : Option Observation}
    (hstep : d.Steps step seen d')
    (hsubmit : ∀ s size job, step = .submit s size → s.job d.maxWorkers size = .ok job → P job) :
    d'.Employs P := by
  cases hstep with
  | submit s size job hjob =>
      refine h.begin fun job' hjob' => ?_
      obtain rfl := Option.some.inj hjob'
      exact hsubmit s size job rfl hjob
  | refuse => exact h
  | cancel | shutdown => exact h.begin nofun
  | call index call hcall =>
      have hmem : call ∈ d.calls := List.mem_of_getElem? hcall
      have hcall' : (d.advance call).1.calls[index]? = some call := by rwa [calls_advance]
      obtain ⟨others, hcalls, hcalls'⟩ := perm_setCall hcall' (d.advance call).2.1
      rw [calls_advance] at hcalls
      refine ⟨fun c hc job hjob => ?_, fun run hrun => ?_⟩
      · rcases List.mem_append.1 (hcalls'.mem_iff.1 hc) with hnext | hother
        · exact h.submitted call hmem job (job?_of_advance (Option.mem_toList.1 hnext) hjob)
        · exact h.submitted c (hcalls.mem_iff.2 (List.mem_cons_of_mem _ hother)) job hjob
      · rcases mem_runs_advance hrun with hold | hjob
        · exact h.running run hold
        · exact h.submitted call hmem _ hjob
  | run step run run' effect hrun htarget hmove =>
      have hsame : (d.affect run.id effect).calls = d.calls ∧
          (d.affect run.id effect).runs = d.runs := by cases effect <;> exact ⟨rfl, rfl⟩
      refine ⟨fun c hc => h.submitted c (hsame.1 ▸ hc), fun r hr => ?_⟩
      rw [setRun, hsame.2] at hr
      obtain ⟨old, hold, rfl⟩ := List.mem_map.1 hr
      split
      · rw [hmove.id_and_job.2]
        exact h.running run (mem_of_run? hrun)
      · exact h.running old hold
  | deliver | retire => exact ⟨h.submitted, h.running⟩

end Dispatch

namespace Execution

/-- The job of a run is that of a submission. -/
theorem submitted (h : Execution (.empty maxWorkers) trace d) (hrun : d.run? id = some run) :
    run.job.IsSubmitted trace := by
  have hemploys : d.Employs (Job.IsSubmitted trace) := by
    clear hrun
    induction h with
    | nil => exact ⟨nofun, nofun⟩
    | snoc trace d d' step seen h hstep ih =>
        have hlater : d.Employs (Job.IsSubmitted (trace ++ [⟨d, step, seen⟩])) :=
          ih.mono fun job ⟨m, hm, hjob⟩ => ⟨m, List.mem_append_left _ hm, hjob⟩
        exact hlater.steps (Dispatch.steps_of_step? hstep) fun s size job hsubmit hjob =>
          ⟨_, List.mem_append_right _ List.mem_cons_self, s, size, hsubmit, hjob⟩
  exact hemploys.running run (Dispatch.mem_of_run? hrun)

theorem of_snoc (h : Execution start (trace ++ [m]) d) :
    Execution start trace m.before ∧ m.before.step? m.step = some (d, m.seen) := by
  generalize hall : trace ++ [m] = all at h
  cases h with
  | nil => exact absurd hall (by simp)
  | snoc trace' before _ step seen h hstep =>
      obtain ⟨rfl, hlast⟩ := List.append_inj' hall rfl
      obtain rfl := (List.cons.inj hlast).1
      exact ⟨h, hstep⟩

/-- An execution can be taken apart at every moment of it. -/
theorem split (h : Execution start (before ++ m :: after) d) :
    Execution start before m.before ∧
      ∃ next, m.before.step? m.step = some (next, m.seen) ∧
        Execution start (before ++ [m]) next ∧ Execution next after d := by
  induction after using List.reverseRecOn generalizing d with
  | nil =>
      obtain ⟨hbefore, hstep⟩ := h.of_snoc
      exact ⟨hbefore, d, hstep, h, .nil⟩
  | append_singleton after last ih =>
      rw [← List.cons_append, ← List.append_assoc] at h
      obtain ⟨hrest, hlast⟩ := h.of_snoc
      obtain ⟨hbefore, next, hstep, hnext, hafter⟩ := ih hrest
      exact ⟨hbefore, next, hstep, hnext, .snoc _ _ _ _ _ hafter hlast⟩

/-- What holds of a run at first, and is kept by its own moves and in all other steps, holds of it
from then on. -/
theorem along {P : List Moment → Run → Prop} (h : Execution start trace d)
    (hrun : start.run? id = some run) (hfirst : P [] run)
    (hown : ∀ early d d' step seen run run' effect, early ++ [⟨d, step, seen⟩] <+: trace →
      Execution start early d → d.step? step = some (d', seen) → step.target? = some id →
      d.run? id = some run →
      run.Moves (d.isHalted id) (d.isSilenced id) (Moment.event id ⟨d, step, seen⟩) run' effect →
      P early run → P (early ++ [⟨d, step, seen⟩]) run')
    (hother : ∀ early (m : Moment) run, early ++ [m] <+: trace → m.step.target? ≠ some id →
      (m.event id).isOwn = false → P early run → P (early ++ [m]) run) :
    ∃ run', d.run? id = some run' ∧ P trace run' := by
  induction h with
  | nil => exact ⟨run, hrun, hfirst⟩
  | snoc trace d d' step seen h hstep ih =>
      have hlater {early : List Moment} (hearly : early <+: trace) :
          early <+: trace ++ [⟨d, step, seen⟩] := hearly.trans (List.prefix_append _ _)
      obtain ⟨run', hrun', hP⟩ := ih
        (fun _ _ _ _ _ _ _ _ hearly => hown _ _ _ _ _ _ _ _ (hlater hearly))
        (fun _ _ _ hearly => hother _ _ _ (hlater hearly))
      have hlast := List.prefix_refl (trace ++ [⟨d, step, seen⟩])
      rcases Dispatch.moves_or_same hstep hrun' with
        ⟨htarget, run'', effect, hrun'', hmove⟩ | ⟨htarget, hrun'', hevent⟩
      · exact ⟨run'', hrun'', hown _ _ _ _ _ _ _ _ hlast h hstep htarget hrun' hmove hP⟩
      · exact ⟨run', hrun'', hother trace ⟨d, step, seen⟩ run' hlast htarget hevent hP⟩

/-- What holds of a request that nobody cancels and that meets no failure. -/
theorem conserves (h : Execution (.empty maxWorkers) trace d) (hunhindered : Unhindered id trace) :
    (d.view id).Conserves (polledBy id trace) (readBy id trace) (postedBy id trace) ∧
      d.isSilenced id = false := by
  have hquiet : ∀ event ∈ trace.map (Moment.event id), event.isCancelling = false := by
    simpa using fun m hm => (hunhindered m hm).1
  have hsucceeds : ∀ event ∈ trace.map (Moment.event id), event.succeeds = true := by
    simpa using fun m hm => (hunhindered m hm).2
  rw [polledBy_eq, readBy_eq, postedBy_eq]
  exact ⟨(h.requestRun id).conserves hquiet hsucceeds,
    ((h.requestRun id).posted_eq_delivered_append hquiet).1⟩

/-- It holds at each moment of an execution that goes on. -/
theorem conserves_on (h : Execution (.empty maxWorkers) before d)
    (hunhindered : Unhindered id (before ++ after)) {early : List Moment}
    (hearly : early ++ [m] <+: after) (hon : Execution d early d') :
    (d'.view id).Conserves (polledBy id (before ++ early)) (readBy id (before ++ early))
      (postedBy id (before ++ early)) ∧ d'.isSilenced id = false :=
  (h.append hon).conserves (hunhindered.mono
    ((List.prefix_append_right_inj _).2 ((List.prefix_append _ _).trans hearly)))

/-- What holds of every run that is started, and is kept by the moves of a run that nobody cancels
and that meets no failure, holds throughout. -/
theorem throughout {P : List Moment → Run → Prop} (h : Execution (.empty maxWorkers) trace d)
    (hunhindered : Unhindered id trace) (hfirst : ∀ early job, P early (.ofJob id job))
    (hown : ∀ early (m : Moment) run run' effect c, m.before.run? id = some run →
      run.Conserves (polledBy id early) (readBy id early) (postedBy id early) →
      run.OnCourse (postedBy id early) c →
      (m.before.isHalted id = true → run.listening = false) →
      run.Moves (m.before.isHalted id) false (m.event id) run' effect →
      (m.event id).succeeds = true → P early run → P (early ++ [m]) run')
    (hother : ∀ early m run, P early run → P (early ++ [m]) run) (hrun : d.run? id = some run) :
    P trace run := by
  induction h generalizing run with
  | nil => cases hrun
  | snoc trace d d' step seen h hstep ih =>
      have hbefore := hunhindered.mono (List.prefix_append _ _)
      cases hold : d.run? id with
      | none =>
          obtain ⟨job, rfl⟩ := (h.requestStep hstep id).run_of_none hold hrun
          exact hfirst _ job
      | some old =>
          have hP := ih hbefore hold
          rcases Dispatch.moves_or_same hstep hold with
            ⟨-, run', effect, hrun', hmove⟩ | ⟨-, hsame, -⟩
          · obtain rfl := Option.some.inj (hrun.symm.trans hrun')
            obtain ⟨hconserves, hsilenced⟩ := h.conserves hbefore
            obtain ⟨hlaws, hhalted⟩ := hconserves.launched old hold
            obtain ⟨-, c, hcourse, -⟩ := (h.onCourse id).launched old hold
            have hlast := hunhindered ⟨d, step, seen⟩ (List.mem_append_right _ List.mem_cons_self)
            rw [hsilenced] at hmove
            exact hown trace ⟨d, step, seen⟩ old run effect c hold hlaws hcourse hhalted hmove
              hlast.2 hP
          · obtain rfl := Option.some.inj (hrun.symm.trans hsame)
            exact hother trace _ run hP

end Execution

end PatternScan.Analysis
