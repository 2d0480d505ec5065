import PatternScan.Proofs.Analysis.Execution
import PatternScan.Proofs.Analysis.Silence

/-!
# Cancellations

A call to cancel a request silences the request, takes it off the active ones, and raises its
stop flag if it was active. Other steps may come between, and other calls may end, so the call
is followed by its place among the calls in progress. From its first section on a request that
is known is silent.
-/

namespace PatternScan.Analysis

/-- The place of a call after a step, unless the call ends in it. The calls behind one that
ends move up. -/
def Moment.follow (m : Moment) (place : Nat) : Option Nat :=
  match m.step with
  | .call index =>
      match m.before.calls[index]?.bind fun call => (m.before.advance call).2.1 with
      | some _ => some place
      | none =>
          if index < place then some (place - 1) else if index = place then none else some place
  | _ => some place

/-- An execution in which the call at a place goes on, and the place that it comes to. -/
inductive Followed (start : Dispatch) (place : Nat) : List Moment → Dispatch → Nat → Prop where
  | nil : Followed start place [] start place
  | snoc (trace : List Moment) (d d' : Dispatch) (step : Step) (seen : Option Observation)
      (here there : Nat) (h : Followed start place trace d here)
      (hstep : d.step? step = some (d', seen))
      (hfollow : Moment.follow ⟨d, step, seen⟩ here = some there) :
      Followed start place (trace ++ [⟨d, step, seen⟩]) d' there

/-- An execution in which a call that is about to silence the request cancels it, up to the
step in which it tells whether the request was still active. -/
inductive Cancellation (id : RequestId) (wasActive : Bool) (start : Dispatch) :
    List Moment → Dispatch → Prop where
  | intro (place : Nat) (rest : List RequestId) (during : List Moment) (before d : Dispatch)
      (here : Nat) (hbegin : start.calls[place]? = some (.silencing id rest))
      (hduring : Followed start place during before here)
      (hend : before.step? (.call here) = some (d, some (.cancelled id wasActive))) :
      Cancellation id wasActive start
        (during ++ [⟨before, .call here, some (.cancelled id wasActive)⟩]) d

/-! ## Following a call -/

/-- A call that does not end goes on in its own steps and waits in all others. -/
theorem Dispatch.call_of_follow {d d' : Dispatch} {step : Step} {seen : Option Observation}
    {here there : Nat} {call : Call} (hstep : d.step? step = some (d', seen))
    (hfollow : Moment.follow ⟨d, step, seen⟩ here = some there)
    (hcall : d.calls[here]? = some call) :
    (step = .call here ∧
        ∃ next, (d.advance call).2.1 = some next ∧ d'.calls[there]? = some next) ∨
      (step ≠ .call here ∧ d'.calls[there]? = some call) := by
  have happend (more : List Call) : (d.calls ++ more)[here]? = some call := by
    rw [List.getElem?_append_left (List.getElem?_eq_some_iff.1 hcall).1, hcall]
  cases Dispatch.steps_of_step? hstep with
  | submit | cancel | shutdown =>
      obtain rfl := Option.some.inj hfollow
      exact .inr ⟨nofun, happend _⟩
  | refuse | deliver | retire =>
      obtain rfl := Option.some.inj hfollow
      exact .inr ⟨nofun, hcall⟩
  | run step run run' effect hrun htarget hmove =>
      have hcalls : ((d.affect run.id effect).setRun run').calls = d.calls := by
        cases effect <;> rfl
      rw [hcalls]
      cases step with
      | drive | poll | work | load =>
          obtain rfl := Option.some.inj hfollow
          exact .inr ⟨nofun, hcall⟩
      | _ => cases htarget
  | call index other hother =>
      simp only [Moment.follow, hother, Option.bind_some] at hfollow
      have hlt : here < d.calls.length := (List.getElem?_eq_some_iff.1 hcall).1
      by_cases hindex : index = here
      · subst hindex
        obtain rfl := Option.some.inj (hother.symm.trans hcall)
        cases hnext : (d.advance other).2.1 with
        | none => simp [hnext] at hfollow
        | some next =>
            rw [hnext] at hfollow
            obtain rfl := Option.some.inj hfollow
            refine .inl ⟨rfl, next, rfl, ?_⟩
            simp [Dispatch.setCall, Dispatch.calls_advance, hlt]
      · refine .inr ⟨fun h => hindex (Step.call.inj h), ?_⟩
        cases hnext : (d.advance other).2.1 with
        | some next =>
            rw [hnext] at hfollow
            obtain rfl := Option.some.inj hfollow
            simp [Dispatch.setCall, Dispatch.calls_advance, hindex, hcall]
        | none =>
            -- The calls behind the one that ends move up by one place.
            simp only [hnext, if_neg hindex] at hfollow
            simp only [Dispatch.setCall, Dispatch.calls_advance, List.getElem?_eraseIdx]
            split at hfollow
            · obtain rfl := Option.some.inj hfollow
              rw [if_neg (by omega), show here - 1 + 1 = here by omega, hcall]
            · obtain rfl := Option.some.inj hfollow
              rw [if_pos (by omega), hcall]

namespace Followed

variable {start d : Dispatch} {place here : Nat} {trace : List Moment}

theorem execution (h : Followed start place trace d here) : Execution start trace d := by
  induction h with
  | nil => exact .nil
  | snoc trace d d' step seen here there h hstep hfollow ih =>
      exact .snoc trace d d' step seen ih hstep

/-- What holds when a call is first met, and is kept by its own steps and by all others, holds
wherever the call comes to. -/
theorem invariant {P : List Moment → Dispatch → Call → Prop} {first : Call}
    (h : Followed start place trace d here) (hfirst : start.calls[place]? = some first)
    (hstart : P [] start first)
    (hown : ∀ trace d d' seen here call next, Execution start trace d →
      d.calls[here]? = some call → d.step? (.call here) = some (d', seen) →
      (d.advance call).2.1 = some next → P trace d call →
      P (trace ++ [⟨d, .call here, seen⟩]) d' next)
    (hother : ∀ trace d d' step seen call, Execution start trace d →
      d.step? step = some (d', seen) → P trace d call → P (trace ++ [⟨d, step, seen⟩]) d' call) :
    ∃ call, d.calls[here]? = some call ∧ P trace d call := by
  induction h with
  | nil => exact ⟨first, hfirst, hstart⟩
  | snoc trace d d' step seen here there h hstep hfollow ih =>
      obtain ⟨call, hcall, hP⟩ := ih
      rcases Dispatch.call_of_follow hstep hfollow hcall with
        ⟨rfl, next, hnext, hcall'⟩ | ⟨-, hcall'⟩
      · exact ⟨next, hcall', hown trace d d' seen here call next h.execution hcall hstep hnext hP⟩
      · exact ⟨call, hcall', hother trace d d' step seen call h.execution hstep hP⟩

end Followed

/-- An execution in which a call does not end follows that call. -/
theorem Execution.followed {start d : Dispatch} {trace : List Moment} {place here : Nat}
    (h : Execution start trace d)
    (hfollow : trace.foldlM (fun here m => Moment.follow m here) place = some here) :
    Followed start place trace d here := by
  induction h generalizing here with
  | nil =>
      obtain rfl := Option.some.inj hfollow
      exact .nil
  | snoc trace d d' step seen h hstep ih =>
      rw [List.foldlM_append] at hfollow
      obtain ⟨there, hthere, hlast⟩ := Option.bind_eq_some_iff.1 hfollow
      simp only [List.foldlM_cons, List.foldlM_nil, bind_pure] at hlast
      exact .snoc trace d d' step seen there here (ih hthere) hstep hlast

/-! ## Executions put together -/

namespace Execution

variable {maxWorkers : Nat} {start middle d : Dispatch} {before after : List Moment}
  {id : RequestId}

theorem append (h : Execution start before middle) (h' : Execution middle after d) :
    Execution start (before ++ after) d := by
  induction h' with
  | nil => rwa [List.append_nil]
  | snoc trace d d' step seen h' hstep ih =>
      rw [← List.append_assoc]
      exact .snoc _ d d' step seen ih hstep

theorem single {step : Step} {seen : Option Observation}
    (hstep : start.step? step = some (d, seen)) : Execution start [⟨start, step, seen⟩] d :=
  .snoc [] start d step seen .nil hstep

theorem mailed (h : Execution (.empty maxWorkers) before d) (id : RequestId) :
    (d.view id).Mailed id := (h.requestRun id).mailed

theorem known_of_mem (h : Execution (.empty maxWorkers) before d)
    (hid : id ∈ d.unretired ∨ (d.run? id).isSome = true) : (d.view id).Known := by
  rcases hid with hunretired | hrun
  · exact .inl (List.contains_iff_mem.2 hunretired)
  · exact (h.mailed id).known (Option.isSome_iff_ne_none.1 hrun)

/-- A request that is known stays known. -/
theorem known (h : Execution (.empty maxWorkers) before middle)
    (hknown : (middle.view id).Known) {step : Step} {seen : Option Observation}
    (hstep : middle.step? step = some (d, seen)) : (d.view id).Known :=
  (h.requestStep hstep id).known hknown (h.mailed id) ((h.append (single hstep)).mailed id)

/-- Nothing of a request that is silent is delivered any more. -/
theorem hushed (h : Execution (.empty maxWorkers) before middle)
    (hhushed : (middle.view id).Hushed) (h' : Execution middle after d) :
    (d.view id).Hushed ∧ ∀ n ∈ delivered after, n.request ≠ id := by
  induction h' with
  | nil => exact ⟨hhushed, nofun⟩
  | snoc trace d d' step seen h' hstep ih =>
      have hbefore := h.append h'
      obtain ⟨hnext, hevent⟩ :=
        (hbefore.requestStep hstep id).hushed ih.1 (hbefore.mailed id)
      refine ⟨hnext, fun n hn hid => ?_⟩
      rw [delivered, List.filterMap_append, filterMap_singleton] at hn
      rcases List.mem_append.1 hn with hold | hnew
      · exact ih.2 n hold hid
      · rw [Moment.delivered?_event, Option.mem_toList.1 hnew] at hevent
        simp [hid] at hevent

end Execution

/-! ## What a cancellation comes to -/

namespace Dispatch

variable {d : Dispatch} {call : Call} {id : RequestId} {rest : List RequestId}
  {wasActive : Bool}

/-- A call turns to a stop flag after it has taken an active request off. -/
theorem eq_withdrawing_of_halting (h : (d.advance call).2.1 = some (.halting id rest)) :
    call = .withdrawing id rest ∧ d.isActive id = true := by
  have hcancelAll (ids : List RequestId) : cancelAll ids ≠ some (.halting id rest) := by
    cases ids <;> nofun
  cases call with
  | withdrawing other others =>
      cases hactive : d.isActive other with
      | true =>
          simp only [advance, hactive, if_true, Option.some.injEq, Call.halting.injEq] at h
          obtain ⟨rfl, rfl⟩ := h
          exact ⟨rfl, hactive⟩
      | false =>
          simp only [advance, hactive, Bool.false_eq_true, if_false] at h
          exact absurd h (hcancelAll others)
  | halting other others => exact absurd h (hcancelAll others)
  | listing => exact absurd h (hcancelAll _)
  | _ => cases h

/-- A call that tells that it has cancelled a request was past silencing it. -/
theorem call_of_cancelled (h : (d.advance call).2.2 = some (.cancelled id wasActive)) :
    ∃ rest, (call = .withdrawing id rest ∧ wasActive = false) ∨
      (call = .halting id rest ∧ wasActive = true) := by
  cases call with
  | withdrawing other others =>
      cases hactive : d.isActive other with
      | true => simp [advance, hactive] at h
      | false =>
          simp only [advance, hactive, Bool.false_eq_true, if_false, Option.some.injEq,
            Observation.cancelled.injEq] at h
          obtain ⟨rfl, rfl⟩ := h
          exact ⟨others, .inl ⟨rfl, rfl⟩⟩
  | halting other others =>
      obtain ⟨rfl, rfl⟩ := Observation.cancelled.inj (Option.some.inj h)
      exact ⟨others, .inr ⟨rfl, rfl⟩⟩
  | _ => cases h

/-- The step of a call, told by its place. -/
theorem step?_call {d' : Dispatch} {here : Nat} {seen : Option Observation}
    (hcall : d.calls[here]? = some call) (hstep : d.step? (.call here) = some (d', seen)) :
    d' = (d.advance call).1.setCall here (d.advance call).2.1 ∧ seen = (d.advance call).2.2 := by
  simp only [step?, hcall, Option.map_some, Option.some.injEq, Prod.mk.injEq] at hstep
  exact ⟨hstep.1.symm, hstep.2.symm⟩

end Dispatch

namespace Cancellation

variable {maxWorkers : Nat} {before during : List Moment} {start d : Dispatch} {id : RequestId}
  {wasActive : Bool}

theorem execution (h : Cancellation id wasActive start during d) : Execution start during d := by
  cases h with
  | intro place rest during before d here hbegin hduring hend =>
      exact .snoc during before d _ _ hduring.execution hend

/-- To replay the steps of a call up to its end is a cancellation. -/
theorem replay {steps : List Step} {place here : Nat} {rest : List RequestId}
    (hbegin : start.calls[place]? = some (.silencing id rest))
    (hfollow : (start.replay steps).1.foldlM (fun here m => Moment.follow m here) place = some here)
    (hend : (start.replay steps).2.step? (.call here) =
      some (d, some (.cancelled id wasActive))) :
    Cancellation id wasActive start (start.replay (steps ++ [.call here])).1 d := by
  have hlast : start.replay (steps ++ [.call here]) = ((start.replay steps).1 ++
      [⟨(start.replay steps).2, .call here, some (.cancelled id wasActive)⟩], d) := by
    rw [Dispatch.replay, List.foldl_append, ← Dispatch.replay, List.foldl_cons, List.foldl_nil,
      Dispatch.proceed, hend]
  rw [hlast]
  exact .intro place rest _ _ d here hbegin ((Execution.replay start steps).followed hfollow) hend

/-- The execution comes through a state in which the request is both silent and active. -/
def Crosses (id : RequestId) (start : Dispatch) (trace : List Moment) (d : Dispatch) : Prop :=
  ∃ (early late : List Moment) (middle : Dispatch), trace = early ++ late ∧
    Execution start early middle ∧ Execution middle late d ∧ (middle.view id).Hushed ∧
      middle.isActive id = true

theorem Crosses.snoc {trace : List Moment} {d' : Dispatch} {step : Step}
    {seen : Option Observation} (h : Crosses id start trace d)
    (hstep : d.step? step = some (d', seen)) :
    Crosses id start (trace ++ [⟨d, step, seen⟩]) d' := by
  obtain ⟨early, late, middle, rfl, hearly, hlate, hhushed, hactive⟩ := h
  exact ⟨early, late ++ [⟨d, step, seen⟩], middle, List.append_assoc _ _ _, hearly,
    .snoc late d d' step seen hlate hstep, hhushed, hactive⟩

/-- Where a call stands that cancels a known request: it is about to silence the request, or
the request is silent. It raises the stop flag only after the request was silent and active. -/
def Stands (id : RequestId) (start : Dispatch) (trace : List Moment) (d : Dispatch)
    (call : Call) : Prop :=
  (d.view id).Known ∧
    ((∃ rest, call = .silencing id rest) ∨
      ((d.view id).Hushed ∧ ∀ rest, call = .halting id rest → Crosses id start trace d))

theorem Stands.own {trace : List Moment} {d' : Dispatch} {seen : Option Observation}
    {here : Nat} {call next : Call} (h : Execution (.empty maxWorkers) before start)
    (htrace : Execution start trace d) (hcall : d.calls[here]? = some call)
    (hstep : d.step? (.call here) = some (d', seen)) (hnext : (d.advance call).2.1 = some next)
    (hstands : Stands id start trace d call) :
    Stands id start (trace ++ [⟨d, .call here, seen⟩]) d' next := by
  obtain ⟨hknown, hstate⟩ := hstands
  have htrace' := h.append htrace
  refine ⟨htrace'.known hknown hstep, .inr ⟨?_, ?_⟩⟩
  · rcases hstate with ⟨rest, rfl⟩ | ⟨hhushed, -⟩
    · obtain ⟨rfl, -⟩ := Dispatch.step?_call hcall hstep
      have hview := @Dispatch.view_silence d id id
      rw [if_pos rfl] at hview
      have hsilent : ((d.silence id).view id).Hushed := hview ▸ hknown.hushed
      exact hsilent
    · exact (htrace'.hushed hhushed (.single hstep)).1
  · rintro rest rfl
    obtain ⟨rfl, hactive⟩ := Dispatch.eq_withdrawing_of_halting hnext
    have hhushed := (hstate.resolve_left nofun).1
    exact ⟨trace, _, d, rfl, htrace, .single hstep, hhushed, hactive⟩

theorem Stands.other {trace : List Moment} {d' : Dispatch} {step : Step}
    {seen : Option Observation} {call : Call} (h : Execution (.empty maxWorkers) before start)
    (htrace : Execution start trace d) (hstep : d.step? step = some (d', seen))
    (hstands : Stands id start trace d call) :
    Stands id start (trace ++ [⟨d, step, seen⟩]) d' call := by
  obtain ⟨hknown, hstate⟩ := hstands
  have htrace' := h.append htrace
  refine ⟨htrace'.known hknown hstep, hstate.imp_right fun ⟨hhushed, hcrosses⟩ => ?_⟩
  exact ⟨(htrace'.hushed hhushed (.single hstep)).1,
    fun rest hhalting => (hcrosses rest hhalting).snoc hstep⟩

/-- A cancellation of a known request leaves it silent. If the request was active, it was so
when it had been silenced already. -/
theorem silences (h : Execution (.empty maxWorkers) before start)
    (hcancel : Cancellation id wasActive start during d) (hknown : (start.view id).Known) :
    (d.view id).Hushed ∧ (wasActive = true → Crosses id start during d) := by
  cases hcancel with
  | intro place rest during last d here hbegin hduring hend =>
      obtain ⟨call, hcall, -, hstate⟩ := hduring.invariant hbegin
        (P := Stands id start) ⟨hknown, .inl ⟨rest, rfl⟩⟩
        (fun _ _ _ _ _ _ _ htrace hcall hstep hnext hstands =>
          hstands.own h htrace hcall hstep hnext)
        fun _ _ _ _ _ _ htrace hstep hstands => hstands.other h htrace hstep
      have hseen := (Dispatch.step?_call hcall hend).2
      obtain ⟨others, hpast⟩ := Dispatch.call_of_cancelled hseen.symm
      obtain ⟨hhushed, hcrosses⟩ := hstate.resolve_left fun ⟨ids, hsilencing⟩ => by
        rcases hpast with ⟨hcall', -⟩ | ⟨hcall', -⟩ <;> cases hsilencing.symm.trans hcall'
      refine ⟨((h.append hduring.execution).hushed hhushed (.single hend)).1, ?_⟩
      rintro rfl
      obtain ⟨hhalting, -⟩ := hpast.resolve_left fun hfalse => Bool.noConfusion hfalse.2
      exact (hcrosses others hhalting).snoc hend

/-- A cancellation that ends before the run is started has raised the stop flag of the run. -/
theorem silences_unlaunched (h : Execution (.empty maxWorkers) before start)
    (hcancel : Cancellation id true start during d) (hrun : d.run? id = none) :
    (d.view id).Hushed := by
  have hmailed := (h.append hcancel.execution).mailed id
  cases hcancel with
  | intro place rest during last d here hbegin hduring hend =>
      obtain ⟨call, hcall, -⟩ := hduring.invariant hbegin
        (P := fun _ _ _ => True) trivial (fun _ _ _ _ _ _ _ _ _ _ _ _ => trivial)
        fun _ _ _ _ _ _ _ _ _ => trivial
      obtain ⟨rfl, hseen⟩ := Dispatch.step?_call hcall hend
      obtain ⟨others, hpast⟩ := Dispatch.call_of_cancelled hseen.symm
      obtain ⟨rfl, -⟩ := hpast.resolve_left fun hfalse => Bool.noConfusion hfalse.2
      have hview := @Dispatch.view_halt last id id
      rw [if_pos rfl] at hview
      have hhalted : ((last.halt id).view id).halted = true := by rw [hview]
      refine .unspoken hhalted (fun run hsome => absurd (hrun.symm.trans hsome) nofun) ?_
      rw [hmailed.mail_eq_nil hrun, List.filterMap_nil]

/-- Of a request that stays inactive, every cancellation tells that it was not active. -/
theorem eq_false (hcancel : Cancellation id wasActive start during d)
    (hinactive : ∀ trace d', Execution start trace d' → d'.isActive id = false) :
    wasActive = false := by
  cases hcancel with
  | intro place rest during last d here hbegin hduring hend =>
      obtain ⟨call, hcall, hcourse⟩ := hduring.invariant hbegin
        (P := fun _ _ call => ∀ rest, call ≠ .halting id rest) nofun
        (fun trace d d' seen here call next htrace hcall hstep hnext _ rest hhalting => by
          subst hhalting
          obtain ⟨-, hactive⟩ := Dispatch.eq_withdrawing_of_halting hnext
          exact absurd (hactive.symm.trans (hinactive trace d htrace)) nofun)
        fun _ _ _ _ _ _ _ _ hcall => hcall
      have hseen := (Dispatch.step?_call hcall hend).2
      obtain ⟨others, ⟨-, hfalse⟩ | ⟨hhalting, -⟩⟩ := Dispatch.call_of_cancelled hseen.symm
      · exact hfalse
      · exact absurd hhalting (hcourse others)

end Cancellation

end PatternScan.Analysis
