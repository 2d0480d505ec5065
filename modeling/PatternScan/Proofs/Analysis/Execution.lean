import PatternScan.Proofs.Analysis.Submission

/-!
# Executions of a dispatch

An execution is any order of possible steps. Seen from one request it is a run of that
request: a step that is about another request leaves the view alone. Facts about one request
are therefore proved on its own small system and hold in every interleaving.
-/

namespace PatternScan.Analysis

/-- One step of a dispatch: the state before it, and what can be seen of it. -/
structure Moment where
  before : Dispatch
  step : Step
  seen : Option Observation

/-- Any order of possible steps, with the state they lead to. -/
inductive Execution (start : Dispatch) : List Moment → Dispatch → Prop where
  | nil : Execution start [] start
  | snoc (trace : List Moment) (d d' : Dispatch) (step : Step) (seen : Option Observation)
      (h : Execution start trace d) (hstep : d.step? step = some (d', seen)) :
      Execution start (trace ++ [⟨d, step, seen⟩]) d'

/-! ## Events of one request -/

/-- The notification that the receiver passed on. -/
def Moment.delivered? (m : Moment) : Option Notification :=
  match m.seen with
  | some (.delivered n) => some n
  | _ => none

/-- The notifications that the receiver passed on, in the order of their arrival. -/
def delivered (trace : List Moment) : List Notification := trace.filterMap Moment.delivered?

theorem delivered_append (early late : List Moment) :
    delivered (early ++ late) = delivered early ++ delivered late := List.filterMap_append

/-- What a request notices of a step of a call. -/
def Call.event (id : RequestId) : Call → RequestEvent
  | .silencing target _ => if target = id then .silencing else .quiet
  | .withdrawing target _ => if target = id then .withdrawing else .quiet
  | .halting target _ => if target = id then .halting else .quiet
  | _ => .quiet

/-- What a request notices of a step. -/
def Moment.event (id : RequestId) (m : Moment) : RequestEvent :=
  match m.delivered?, m.step with
  | some n, _ => if n.request = id then .delivered n else .quiet
  | none, .call index => (m.before.calls[index]?.map (Call.event id)).getD .quiet
  | none, step =>
      if step.target? = some id then ((m.before.run? id).map fun run => step.event run).getD .quiet
      else .quiet

/-- The notifications that the run of a request has posted. -/
def postedBy (id : RequestId) (trace : List Moment) : List Notification :=
  trace.filterMap fun m => (m.event id).posted?

theorem postedBy_eq (id : RequestId) (trace : List Moment) :
    postedBy id trace = (trace.map (Moment.event id)).filterMap RequestEvent.posted? := by
  rw [List.filterMap_map]
  rfl

namespace Dispatch

/-- What the dispatch holds about a request. -/
def view (d : Dispatch) (id : RequestId) : RequestView where
  run := d.run? id
  mail := d.queue.filter fun e => e.request = id
  halted := d.isHalted id
  silenced := d.isSilenced id
  active := d.isActive id
  unretired := d.unretired.contains id

variable {d d' : Dispatch} {run run' : Run} {id : RequestId}

/-! ## Views -/

theorem view_setRun {old : Run} (hrun : d.run? run.id = some old) :
    (d.setRun run).view id =
      if run.id = id then { d.view id with run := some run } else d.view id := by
  split
  · next h =>
      subst h
      rw [view, run?_setRun_self hrun]
      rfl
  · next h =>
      rw [view, run?_setRun_of_ne h]
      rfl

theorem view_post {e : Envelope} :
    (d.post e).view id =
      if e.request = id then { d.view id with mail := (d.view id).mail ++ [e] }
      else d.view id := by
  split <;> simp [view, post, run?, isHalted, isSilenced, isActive, *]

theorem view_activate {other : RequestId} :
    ({ d with active := d.active.insert other } : Dispatch).view id =
      if other = id then { d.view id with active := true } else d.view id := by
  split
  · simp [view, run?, isHalted, isSilenced, isActive, *]
  · next h => simp [view, run?, isHalted, isSilenced, isActive, Ne.symm h]

theorem view_register {other : RequestId} :
    ({ d with unretired := d.unretired.insert other } : Dispatch).view id =
      if other = id then { d.view id with unretired := true } else d.view id := by
  split
  · simp [view, run?, isHalted, isSilenced, isActive, *]
  · next h => simp [view, run?, isHalted, isSilenced, isActive, Ne.symm h]

theorem view_launch {other : RequestId} {job : Job} :
    ({ d with runs := d.runs ++ [.ofJob other job] } : Dispatch).view id =
      if other = id ∧ d.run? id = none then { d.view id with run := some (.ofJob id job) }
      else d.view id := by
  have hid : (Run.ofJob other job).id = other := rfl
  -- The first run under a number is looked up, so one launched behind it stays unseen.
  by_cases hrun : d.run? id = none
  · by_cases h : other = id
    · subst h
      rw [if_pos ⟨rfl, hrun⟩]
      rw [run?] at hrun
      simp [view, run?, isHalted, isSilenced, isActive, hrun, hid]
    · rw [if_neg fun hboth => h hboth.1]
      simp [view, run?, isHalted, isSilenced, isActive, hid, h]
  · rw [if_neg fun hboth => hrun hboth.2]
    obtain ⟨run, hrun⟩ := Option.ne_none_iff_exists'.1 hrun
    rw [run?] at hrun
    simp [view, run?, isHalted, isSilenced, isActive, hrun]

theorem view_halt {other : RequestId} :
    (d.halt other).view id =
      if other = id then { d.view id with halted := true } else d.view id := by
  split
  · simp [view, halt, run?, isHalted, isSilenced, isActive, *]
  · next h => simp [view, halt, run?, isHalted, isSilenced, isActive, Ne.symm h]

theorem view_deactivate {other : RequestId} :
    (d.deactivate other).view id =
      if other = id then { d.view id with active := false } else d.view id := by
  split
  · simp [view, deactivate, run?, isHalted, isSilenced, isActive, mem_without, *]
  · next h =>
      simp [view, deactivate, run?, isHalted, isSilenced, isActive, mem_without, Ne.symm h]

theorem view_silence {other : RequestId} :
    (d.silence other).view id =
      if other = id then
        { d.view id with silenced := (d.view id).silenced || (d.view id).unretired }
      else d.view id := by
  rw [silence]
  split
  · next hunretired =>
      split
      · next h =>
          subst h
          simp only [List.contains_eq_mem, decide_eq_true_eq] at hunretired
          simp [view, run?, isHalted, isSilenced, isActive, hunretired]
      · next h => simp [view, run?, isHalted, isSilenced, isActive, Ne.symm h]
  · next hunretired =>
      split
      · next h =>
          subst h
          simp only [List.contains_eq_mem, decide_eq_true_eq] at hunretired
          simp [view, hunretired]
      · rfl

theorem view_retire {other : RequestId} :
    (d.retire other).view id =
      if other = id then { d.view id with unretired := false, silenced := false }
      else d.view id := by
  split
  · simp [view, retire, run?, isHalted, isSilenced, isActive, mem_without, *]
  · next h => simp [view, retire, run?, isHalted, isSilenced, isActive, mem_without, Ne.symm h]

/-- The view after a move of a run, which is that move for its own request only. -/
theorem view_of_move {effect : Effect} (hrun : d.run? run'.id = some run)
    (hpost : ∀ e, effect = .post e → e.request = run'.id) :
    ((d.affect run'.id effect).setRun run').view id =
      if run'.id = id then (d.view id).after run' effect else d.view id := by
  have hrun' : (d.affect run'.id effect).run? run'.id = some run := by
    cases effect <;> exact hrun
  rw [view_setRun hrun']
  cases effect with
  | nothing => rfl
  | post e =>
      rw [affect, view_post, hpost e rfl]
      split <;> rfl
  | halt =>
      rw [affect, view_halt]
      split <;> rfl
  | leave =>
      rw [affect, view_deactivate]
      split <;> rfl

/-! ## Executions seen from one request -/

theorem event_of_call {index : Nat} {call : Call} (hcall : d.calls[index]? = some call) :
    Moment.event id ⟨d, .call index, (d.advance call).2.2⟩ = call.event id := by
  have hseen : Moment.delivered? ⟨d, .call index, (d.advance call).2.2⟩ = none := by
    cases call with
    | withdrawing target rest =>
        cases hactive : d.isActive target <;> simp [advance, Moment.delivered?, hactive]
    | _ => rfl
  simp [Moment.event, hseen, hcall]

theorem event_of_run {step : Step} (hrun : d.run? run.id = some run)
    (htarget : step.target? = some run.id) :
    Moment.event id ⟨d, step, none⟩ = if run.id = id then step.event run else .quiet := by
  have hevent : Moment.event id ⟨d, step, none⟩ =
      if step.target? = some id then ((d.run? id).map fun run => step.event run).getD .quiet
      else .quiet := by
    cases step with
    | call index => cases htarget
    | _ => rfl
  rw [hevent, htarget]
  split
  · next h =>
      obtain rfl := Option.some.inj h
      rw [hrun, if_pos rfl]
      rfl
  · next h => rw [if_neg fun hid => h (congrArg some hid)]

theorem event_of_deliver {n : Notification} :
    Moment.event id
        ⟨d, .receive, (if d.isSilenced n.request then none else some n).map .delivered⟩ =
      if n.request = id then if d.isSilenced id then .quiet else .delivered n else .quiet := by
  by_cases h : n.request = id
  · subst h
    rw [if_pos rfl]
    cases hsilenced : d.isSilenced n.request with
    | true => rfl
    | false => simp [Moment.event, Moment.delivered?]
  · rw [if_neg h]
    cases hsilenced : d.isSilenced n.request with
    | true => rfl
    | false => simp [Moment.event, Moment.delivered?, h]

/-- A step of a call is a step of each request. -/
theorem requestStep_of_call {call : Call} (hd : d.Orderly) (hcall : call ∈ d.calls)
    (id : RequestId) :
    RequestStep id (d.view id) (call.event id) ((d.advance call).1.view id) := by
  cases call with
  | numbering job => exact .elsewhere _
  | listing => exact .elsewhere _
  | activating target job =>
      rw [advance, view_activate]
      split
      · next h =>
          subst h
          exact .activate _ (hd.run?_eq_none hcall rfl)
      · exact .elsewhere _
  | registering target job =>
      rw [advance, view_register]
      split
      · next h =>
          subst h
          exact .register _ (hd.run?_eq_none hcall rfl)
      · exact .elsewhere _
  | launching target job =>
      rw [advance, view_launch]
      split
      · next h =>
          obtain ⟨rfl, hrun⟩ := h
          exact .launch _ job hrun (List.contains_iff_mem.2 (hd.registered target job hcall))
            (hd.ranged _ hcall job rfl)
      · exact .elsewhere _
  | silencing target rest =>
      rw [advance, view_silence, Call.event]
      split
      · exact .silence _
      · exact .elsewhere _
  | withdrawing target rest =>
      have hview : (d.advance (.withdrawing target rest)).1.view id =
          if target = id then { d.view id with active := false } else d.view id := by
        cases hactive : d.isActive target with
        | true => simp only [advance, hactive, if_true, view_deactivate]
        | false =>
            -- A request that is not active is left as it is.
            simp only [advance, hactive, Bool.false_eq_true, if_false]
            split
            · next h =>
                subst h
                rw [view, hactive]
            · rfl
      rw [hview, Call.event]
      split
      · exact .withdraw _
      · exact .elsewhere _
  | halting target rest =>
      rw [advance, view_halt, Call.event]
      split
      · exact .halt _
      · exact .elsewhere _

/-- A step of the dispatch is a step of each request. -/
theorem requestStep_of_steps {step : Step} {seen : Option Observation}
    (h : d.Steps step seen d') (hd : d.Orderly) (id : RequestId) :
    RequestStep id (d.view id) (Moment.event id ⟨d, step, seen⟩) (d'.view id) := by
  cases h with
  | submit | refuse | cancel | shutdown => exact .elsewhere _
  | call index call hcall =>
      rw [event_of_call hcall]
      exact requestStep_of_call hd (List.mem_of_getElem? hcall) id
  | run step run run' effect hrun htarget hmove =>
      obtain ⟨hid, -⟩ := hmove.id_and_job
      have hpost (e : Envelope) (he : effect = .post e) : e.request = run'.id :=
        (hmove.request_of_post (hd.speaking run (mem_of_run? hrun)) he).trans hid.symm
      have hrun' : d.run? run'.id = some run := by
        rw [hid]
        exact hrun
      have hview := @view_of_move d run run' id effect hrun' hpost
      rw [hid] at hview
      rw [event_of_run hrun htarget, hview]
      split
      · next h =>
          subst h
          exact .move _ run run' _ effect hrun hmove
      · exact .elsewhere _
  | deliver n rest hqueue =>
      rw [event_of_deliver]
      split
      · next h =>
          have hmail : (d.view id).mail =
              .notification n :: rest.filter fun e => e.request = id := by
            simp [view, hqueue, Envelope.request, h]
          exact .deliver (d.view id) n _ hmail
      · next h =>
          have hview : ({ d with queue := rest } : Dispatch).view id = d.view id := by
            simp [view, run?, isHalted, isSilenced, isActive, hqueue, Envelope.request, h]
          rw [hview]
          exact .elsewhere _
  | retire other rest hqueue =>
      rw [view_retire]
      split
      · next h =>
          subst h
          have hmail : (d.view other).mail =
              .retired other :: rest.filter fun e => e.request = other := by
            simp [view, hqueue, Envelope.request]
          exact .retire (d.view other) _ hmail
      · next h =>
          have hview : ({ d with queue := rest } : Dispatch).view id = d.view id := by
            simp [view, run?, isHalted, isSilenced, isActive, hqueue, Envelope.request, h]
          rw [hview]
          exact .elsewhere _

end Dispatch

/-- The moments so far and the state, after one more step if it is possible. -/
def Dispatch.proceed (state : List Moment × Dispatch) (step : Step) : List Moment × Dispatch :=
  match state.2.step? step with
  | some (next, seen) => (state.1 ++ [⟨state.2, step, seen⟩], next)
  | none => state

/-- The steps of a list that are possible, done one after another. -/
def Dispatch.replay (start : Dispatch) (steps : List Step) : List Moment × Dispatch :=
  steps.foldl proceed ([], start)

namespace Execution

variable {maxWorkers : Nat} {trace : List Moment} {d : Dispatch}

theorem orderly (h : Execution (.empty maxWorkers) trace d) : d.Orderly := by
  induction h with
  | nil => exact .empty maxWorkers
  | snoc trace d d' step seen h hstep ih => exact ih.steps (Dispatch.steps_of_step? hstep)

/-- In an execution, each step is a step of each request. -/
theorem requestStep (h : Execution (.empty maxWorkers) trace d) {d' : Dispatch} {step : Step}
    {seen : Option Observation} (hstep : d.step? step = some (d', seen)) (id : RequestId) :
    RequestStep id (d.view id) (Moment.event id ⟨d, step, seen⟩) (d'.view id) :=
  Dispatch.requestStep_of_steps (Dispatch.steps_of_step? hstep) h.orderly id

theorem proceed {start : Dispatch} {state : List Moment × Dispatch}
    (h : Execution start state.1 state.2) (step : Step) :
    Execution start (Dispatch.proceed state step).1 (Dispatch.proceed state step).2 := by
  rw [Dispatch.proceed]
  split
  · next next seen hstep => exact .snoc state.1 state.2 next step seen h hstep
  · exact h

theorem foldl_proceed {start : Dispatch} {state : List Moment × Dispatch}
    (h : Execution start state.1 state.2) (steps : List Step) :
    Execution start (steps.foldl Dispatch.proceed state).1
      (steps.foldl Dispatch.proceed state).2 := by
  induction steps generalizing state with
  | nil => exact h
  | cons step rest ih => exact ih (h.proceed step)

/-- To replay steps is an execution. -/
theorem replay (start : Dispatch) (steps : List Step) :
    Execution start (start.replay steps).1 (start.replay steps).2 :=
  foldl_proceed .nil steps

/-- Seen from a request, an execution is a run of that request. -/
theorem requestRun (h : Execution (.empty maxWorkers) trace d) (id : RequestId) :
    RequestRun id (trace.map (Moment.event id)) (d.view id) := by
  induction h with
  | nil => exact .nil
  | snoc trace d d' step seen h hstep ih =>
      rw [List.map_append]
      exact .snoc _ _ _ _ ih (requestStep h hstep id)

end Execution

theorem Call.delivered?_event (call : Call) (id : RequestId) :
    (call.event id).delivered? = none := by
  cases call with
  | silencing | withdrawing | halting =>
      simp only [Call.event]
      split <;> rfl
  | _ => rfl

theorem Step.delivered?_event (step : Step) (run : Run) :
    (step.event run).delivered? = none := by
  cases step with
  | drive | load =>
      simp only [Step.event]
      split <;> rfl
  | _ => rfl

theorem Moment.delivered?_event (m : Moment) (id : RequestId) :
    (m.event id).delivered? = m.delivered?.filter fun n => n.request = id := by
  unfold Moment.event
  split
  · next n hdelivered =>
      rw [hdelivered]
      split
      · next h => simp [h, RequestEvent.delivered?, Option.filter]
      · next h => simp [h, RequestEvent.delivered?, Option.filter]
  · next index hdelivered _ =>
      rw [hdelivered]
      cases m.before.calls[index]? with
      | none => rfl
      | some call => exact call.delivered?_event id
  · next hdelivered _ =>
      rw [hdelivered]
      split
      · cases m.before.run? id with
        | none => rfl
        | some run => exact Step.delivered?_event _ run
      · rfl

/-- The events of a request show the notifications of that request in the order of their
arrival. -/
theorem filterMap_event_eq_delivered (trace : List Moment) (id : RequestId) :
    (trace.map (Moment.event id)).filterMap RequestEvent.delivered? =
      (delivered trace).filter fun n => n.request = id := by
  rw [List.filterMap_map, delivered, List.filter_filterMap]
  exact List.filterMap_congr fun m _ => m.delivered?_event id

end PatternScan.Analysis
