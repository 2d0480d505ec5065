import PatternScan.Proofs.Analysis.Cancellation

/-!
# Cancelled requests and others

Once a request is cancelled, the receiver passes none of its notifications on, in whatever
state it was and whatever is queued. A request that nobody cancels loses none: what the
receiver passes on of it is what it takes off the queue, in the order of sending.

A cancellation of a number that was not given out yet does nothing, and the request that gets the
number later is delivered. Neither does one silence a request that it meets while the submission is
between the two sets in which it enters the request.
-/

namespace PatternScan.Analysis

/-- The notification that the receiver took off the queue, passed on or not. -/
def Moment.taken? (m : Moment) : Option Notification :=
  match m.step with
  | .receive => m.before.queue.head?.bind Envelope.notification?
  | _ => none

/-- The notifications that the receiver took off the queue. -/
def taken (trace : List Moment) : List Notification := trace.filterMap Moment.taken?

/-- Of a request that is not silenced, a notification taken off the queue is passed on. -/
theorem Moment.taken?_eq_delivered? {d d' : Dispatch} {step : Step} {seen : Option Observation}
    {id : RequestId} (hstep : d.step? step = some (d', seen))
    (hsilenced : d.isSilenced id = false) :
    (Moment.taken? ⟨d, step, seen⟩).filter (fun n => n.request = id) =
      (Moment.delivered? ⟨d, step, seen⟩).filter fun n => n.request = id := by
  cases Dispatch.steps_of_step? hstep with
  | submit | refuse | cancel | shutdown => rfl
  | call index call hcall =>
      cases call with
      | withdrawing other rest =>
          cases hactive : d.isActive other <;>
            simp [Moment.taken?, Moment.delivered?, Dispatch.advance, hactive]
      | _ => rfl
  | run step run run' effect hrun htarget hmove =>
      cases step with
      | receive => cases htarget
      | _ => rfl
  | deliver n rest hqueue =>
      simp only [Moment.taken?, hqueue, List.head?_cons, Option.bind_some,
        Envelope.notification?, Moment.delivered?]
      by_cases hid : n.request = id
      · rw [hid, hsilenced]
        rfl
      · cases d.isSilenced n.request <;> simp [Option.filter, hid]
  | retire other rest hqueue =>
      simp [Moment.taken?, Moment.delivered?, hqueue, Envelope.notification?]

/-- No call finds a request noted that nobody cancels. -/
theorem missed_of_quiet {trace : List Moment} {id : RequestId}
    (hquiet : ∀ m ∈ trace, (m.event id).isCancelling = false) :
    ∀ m ∈ trace, m.event id = .silencing → id ∉ m.before.unretired := by
  intro m hm hsilencing
  have hnone := hquiet m hm
  rw [hsilencing] at hnone
  cases hnone

/-- As long as no call to cancel the request finds it noted, it is not silenced, and what was posted
of it are the notifications delivered and then those still queued. -/
theorem Execution.posted_of_missed {maxWorkers : Nat} {trace : List Moment} {d : Dispatch}
    {id : RequestId} (h : Execution (.empty maxWorkers) trace d)
    (hmissed : ∀ m ∈ trace, m.event id = .silencing → id ∉ m.before.unretired) :
    d.isSilenced id = false ∧
      postedBy id trace = (delivered trace).filter (fun n => n.request = id) ++
        (d.queue.filter fun e => e.request = id).filterMap Envelope.notification? := by
  rw [postedBy_eq, ← filterMap_event_eq_delivered]
  induction h with
  | nil => exact ⟨rfl, rfl⟩
  | snoc trace d d' step seen h hstep ih =>
      obtain ⟨hsilenced, hposted⟩ := ih fun m hm => hmissed m (List.mem_append_left _ hm)
      have hlast := hmissed ⟨d, step, seen⟩ (List.mem_append_right _ List.mem_cons_self)
      obtain ⟨hsilenced', hmail⟩ := (h.requestStep hstep id).mail_of_silenced_eq_false hsilenced
        fun hevent => by simpa [Dispatch.view] using hlast hevent
      refine ⟨hsilenced', ?_⟩
      rw [List.map_append, List.map_singleton, List.filterMap_append, List.filterMap_append,
        filterMap_singleton, filterMap_singleton, hposted, List.append_assoc, List.append_assoc]
      exact congrArg (_ ++ ·) hmail

/-- Of such a request everything taken off the queue is delivered. -/
theorem Execution.delivered_eq_taken {maxWorkers : Nat} {trace : List Moment} {d : Dispatch}
    {id : RequestId} (h : Execution (.empty maxWorkers) trace d)
    (hmissed : ∀ m ∈ trace, m.event id = .silencing → id ∉ m.before.unretired) :
    (delivered trace).filter (fun n => n.request = id) =
      (taken trace).filter fun n => n.request = id := by
  induction h with
  | nil => rfl
  | snoc trace d d' step seen h hstep ih =>
      have hmissed' : ∀ m ∈ trace, m.event id = .silencing → id ∉ m.before.unretired :=
        fun m hm => hmissed m (List.mem_append_left _ hm)
      have hlast := Moment.taken?_eq_delivered? hstep (h.posted_of_missed hmissed').1
      rw [delivered, taken, List.filterMap_append, List.filterMap_append, List.filter_append,
        List.filter_append, filterMap_singleton, filterMap_singleton, ← Option.toList_filter,
        ← Option.toList_filter, hlast]
      exact congrArg (· ++ _) (ih hmissed')

/-- After a call to cancel a request that was noted or running when the call turned to it, or one
that was over before the run was started, the receiver passes nothing of the request on. Of a
request that no call finds noted when it comes to silence it, and so of one that nobody cancels,
the receiver passes on what it takes off the queue, which is what was posted, less what is still
queued. -/
theorem cancelled_request_is_silent {maxWorkers : Nat} {trace : List Moment} {d : Dispatch}
    (h : Execution (.empty maxWorkers) trace d) (id : RequestId) :
    (∀ (before during after : List Moment) (start last : Dispatch) (wasActive : Bool),
      trace = before ++ during ++ after → Execution (.empty maxWorkers) before start →
      Cancellation id wasActive start during last → Execution last after d →
      (id ∈ start.unretired ∨ (start.run? id).isSome = true ∨
        (wasActive = true ∧ last.run? id = none)) →
      ∀ n ∈ delivered after, n.request ≠ id) ∧
    ((∀ m ∈ trace, m.event id = .silencing → id ∉ m.before.unretired) →
      (delivered trace).filter (fun n => n.request = id) =
          (taken trace).filter (fun n => n.request = id) ∧
        postedBy id trace = (taken trace).filter (fun n => n.request = id) ++
          (d.queue.filter fun e => e.request = id).filterMap Envelope.notification?) := by
  refine ⟨?_, fun hmissed => ?_⟩
  · rintro before during after start last wasActive - hbefore hcancel hafter hknown
    have hhushed : (last.view id).Hushed := by
      rcases hknown with hunretired | hrun | ⟨rfl, hrun⟩
      · exact (hcancel.silences hbefore (hbefore.known_of_mem (.inl hunretired))).1
      · exact (hcancel.silences hbefore (hbefore.known_of_mem (.inr hrun))).1
      · exact hcancel.silences_unlaunched hbefore hrun
    exact ((hbefore.append hcancel.execution).hushed hhushed hafter).2
  · have htaken := h.delivered_eq_taken hmissed
    have hposted := (h.posted_of_missed hmissed).2
    rw [htaken] at hposted
    exact ⟨htaken, hposted⟩

/-- A request for no records, which may stay alive. -/
def idleSubmission (continuous : Bool) : Submission :=
  ⟨0, 0, "a", 1, continuous, Settings.standard⟩

/-- Two requests are submitted, and the first one has told that it is alive when a call turns
to cancelling it. -/
def cancelBegun : List Moment × Dispatch :=
  (Dispatch.empty 1).replay
    [.submit (idleSubmission true) (.ok 0), .call 0, .call 0, .call 0, .call 0,
      .submit (idleSubmission false) (.ok 0), .call 0, .call 0, .call 0, .call 0,
      .drive 1, .drive 1, .drive 1, .drive 1, .drive 1, .cancel 1]

/-- That call comes to its end. -/
def cancelEnded : List Moment × Dispatch :=
  cancelBegun.2.replay ([.call 0, .call 0] ++ [.call 0])

/-- Both requests come to their ends, and the queue is emptied. -/
def cancelSettled : List Moment × Dispatch :=
  cancelEnded.2.replay
    [.drive 2, .drive 2, .drive 2, .drive 2, .drive 2, .drive 2, .drive 2, .drive 1, .drive 1,
      .drive 1, .receive, .receive, .receive, .receive]

/-- The notification of the cancelled request is taken off the queue and not passed on, and
that of the other one is. -/
theorem cancelled_request_is_silent_alive :
    (taken cancelSettled.1).map Notification.request = [1, 2] ∧
      (∀ n ∈ delivered cancelSettled.1, n.request ≠ 1) ∧
      (delivered (cancelBegun.1 ++ cancelEnded.1 ++ cancelSettled.1)).filter
          (fun n => n.request = 2) = [.successful 2] := by
  have hbegun : Execution (.empty 1) cancelBegun.1 cancelBegun.2 := .replay _ _
  have hended : Execution cancelBegun.2 cancelEnded.1 cancelEnded.2 := .replay _ _
  have hsettled : Execution cancelEnded.2 cancelSettled.1 cancelSettled.2 := .replay _ _
  have hcall : cancelBegun.2.calls[0]? = some (.silencing 1 []) := rfl
  have hfollow : (cancelBegun.2.replay [.call 0, .call 0]).1.foldlM
      (fun here m => m.follow here) 0 = some 0 := by decide +kernel
  have hcancel : Cancellation 1 true cancelBegun.2 cancelEnded.1 cancelEnded.2 :=
    .replay hcall hfollow rfl
  have hknown : 1 ∈ cancelBegun.2.unretired := by decide +kernel
  have hquiet : ((cancelBegun.1 ++ cancelEnded.1 ++ cancelSettled.1).all fun m =>
      !(m.event 2).isCancelling) = true := by decide +kernel
  simp only [List.all_eq_true, Bool.not_eq_true'] at hquiet
  have h := (hbegun.append hended).append hsettled
  refine ⟨by decide +kernel, ?_, ?_⟩
  · exact (cancelled_request_is_silent h 1).1 _ _ _ _ _ true rfl hbegun hcancel hsettled
      (.inl hknown)
  · rw [((cancelled_request_is_silent h 2).2 (missed_of_quiet hquiet)).1]
    decide +kernel

/-- A live request is among the active ones, but is not noted yet, when a call turns to cancelling
it. -/
def hastyBegun : List Moment × Dispatch :=
  (Dispatch.empty 1).replay
    [.submit (idleSubmission true) (.ok 0), .call 0, .call 0, .cancel 1]

/-- That call does not silence the request, but finds it active. The submission goes on and starts
the run, which posts that the request is alive before its stop flag is raised. -/
def hastyEnded : List Moment × Dispatch :=
  hastyBegun.2.replay
    ([.call 1, .call 1, .call 0, .call 0, .drive 1, .drive 1, .drive 1, .drive 1, .drive 1] ++
      [.call 0])

/-- The receiver takes a message off the queue. -/
def hastySettled : List Moment × Dispatch := hastyEnded.2.replay [.receive]

/-- A call to cancel the request that is submitted first, before it is submitted. -/
def strayBegun : List Moment × Dispatch := (Dispatch.empty 1).replay [.cancel 1]

/-- That call comes to its end. -/
def strayEnded : List Moment × Dispatch := strayBegun.2.replay ([.call 0] ++ [.call 0])

/-- The request is submitted, comes to its end and is delivered. -/
def straySettled : List Moment × Dispatch :=
  strayEnded.2.replay
    [.submit (idleSubmission false) (.ok 0), .call 0, .call 0, .call 0, .call 0,
      .drive 1, .drive 1, .drive 1, .drive 1, .drive 1, .drive 1, .receive]

/-- A cancellation that finds its request active, and one of a number that is yet to be given out,
come to their ends, and a notification of the request is delivered afterwards. -/
theorem cancelled_request_is_delivered :
    (Execution (.empty 1) hastyBegun.1 hastyBegun.2 ∧ hastyBegun.2.activeRequests = [1] ∧
      Cancellation 1 true hastyBegun.2 hastyEnded.1 hastyEnded.2 ∧
      Execution hastyEnded.2 hastySettled.1 hastySettled.2 ∧
      delivered hastySettled.1 = [.progress 1 100 []]) ∧
    Execution (.empty 1) strayBegun.1 strayBegun.2 ∧
      Cancellation 1 false strayBegun.2 strayEnded.1 strayEnded.2 ∧
      Execution strayEnded.2 straySettled.1 straySettled.2 ∧
      delivered straySettled.1 = [.successful 1] := by
  have hhasty : hastyBegun.2.calls[1]? = some (.silencing 1 []) := rfl
  have hhastens : (hastyBegun.2.replay [.call 1, .call 1, .call 0, .call 0, .drive 1, .drive 1,
      .drive 1, .drive 1, .drive 1]).1.foldlM (fun here m => m.follow here) 1 = some 0 := by
    decide +kernel
  have hstray : strayBegun.2.calls[0]? = some (.silencing 1 []) := rfl
  have hstrays : (strayBegun.2.replay [.call 0]).1.foldlM
      (fun here m => m.follow here) 0 = some 0 := by decide +kernel
  exact ⟨⟨.replay _ _, by decide +kernel, .replay hhasty hhastens rfl, .replay _ _,
    by decide +kernel⟩, .replay _ _, .replay hstray hstrays rfl, .replay _ _,
    by decide +kernel⟩

end PatternScan.Analysis
