import PatternScan.Proofs.Analysis.CancelledRequest
import PatternScan.Proofs.Analysis.ParallelScan
import PatternScan.Proofs.Analysis.Reports

/-!
# How a request ends

A run posts one last notification at most and nothing behind it, and none that tells of success
once a worker has failed. Where a last notification is delivered, the request is no longer
active, and where a cancellation finds a registered request active, none is ever delivered.
Whatever the run comes to, the results delivered are those of the first positions of each part,
each once.
-/

namespace PatternScan.Analysis

/-- What is read, if anything is, is what `get` tells for its position. -/
def RequestEvent.answeredBy (get : Nat → Except ScanError Record) : RequestEvent → Bool
  | read position answer => answer = get position
  | _ => true

/-- The answers of the source of a request that was asked for its size. -/
def polledBy (id : RequestId) (trace : List Moment) : List (Except ScanError Nat) :=
  trace.filterMap fun m => (m.event id).polled?

theorem polledBy_eq (id : RequestId) (trace : List Moment) :
    polledBy id trace = (trace.map (Moment.event id)).filterMap RequestEvent.polled? := by
  rw [List.filterMap_map]
  rfl

/-- The report that a worker makes next. -/
def Worker.report? (w : Worker) : Option WorkerEvent :=
  match w.stage with
  | .reporting event => some event
  | _ => none

theorem Worker.stage_of_report? {w : Worker} {event : WorkerEvent}
    (h : w.report? = some event) : w.stage = .reporting event := by
  unfold Worker.report? at h
  split at h
  · next hstage => rw [hstage, Option.some.inj h]
  · cases h

/-- The report that a worker of the request makes in the step. -/
def Moment.report? (id : RequestId) (m : Moment) : Option WorkerEvent :=
  match m.step with
  | .work target index =>
      if target = id then
        ((m.before.run? id).bind fun run => run.workers[index]?).bind Worker.report?
      else none
  | _ => none

variable {maxWorkers : Nat} {trace : List Moment} {d : Dispatch} {id : RequestId}

/-! ## Failures -/

theorem RequestStep.hasFailed {v v' : RequestView} {event : RequestEvent}
    {posted : List Notification} {run : Run} (hstep : RequestStep id v event v')
    (hcourse : v.OnCourse id posted) (hrun : v.run = some run) (hfailed : run.HasFailed) :
    ∃ run', v'.run = some run' ∧ run'.HasFailed := by
  cases hstep with
  | launch job hnone => exact absurd (hrun.symm.trans hnone) nofun
  | move old run' event effect hold hmove =>
      obtain rfl := Option.some.inj (hrun.symm.trans hold)
      obtain ⟨-, c, hon, -⟩ := hcourse.launched run hrun
      exact ⟨run', by cases effect <;> rfl, hfailed.moves hon hmove⟩
  | _ => exact ⟨run, hrun, hfailed⟩

/-- The report of a failure is waiting to be taken, unless the run has stopped listening. -/
theorem hasFailed_of_report {d' : Dispatch} {step : Step} {seen : Option Observation}
    {error : String} (hstep : d.step? step = some (d', seen))
    (hreport : Moment.report? id ⟨d, step, seen⟩ = some (.failed error)) :
    ∃ run, d'.run? id = some run ∧ run.HasFailed := by
  cases step with
  | work target index =>
      simp only [Moment.report?] at hreport
      obtain ⟨rfl, hreport⟩ := Option.ite_none_right_eq_some.1 hreport
      obtain ⟨w, hw, hreport⟩ := Option.bind_eq_some_iff.1 hreport
      obtain ⟨run, hrun, hworker : run.workers[index]? = some w⟩ :=
        Option.bind_eq_some_iff.1 hw
      have hstage := Worker.stage_of_report? hreport
      obtain rfl := Dispatch.id_of_run? hrun
      simp only [Dispatch.step?, hrun, Option.bind_some, Dispatch.work?, hworker, Worker.step,
        hstage, Option.map_some, Option.some.injEq, Prod.mk.injEq] at hstep
      obtain ⟨rfl, -⟩ := hstep
      refine ⟨_, Dispatch.run?_setRun_self hrun, ?_⟩
      cases hlistening : run.listening with
      | false => exact .inl rfl
      | true => exact .inr (.inr ⟨error, by simp⟩)
  | _ => cases hreport

/-- A failure that a worker has reported stays with the run of its request. -/
theorem Execution.hasFailed (h : Execution (.empty maxWorkers) trace d) {m : Moment}
    (hm : m ∈ trace) {error : String} (hreport : m.report? id = some (.failed error)) :
    ∃ run, d.run? id = some run ∧ run.HasFailed := by
  induction h with
  | nil => cases hm
  | snoc trace d d' step seen h hstep ih =>
      rcases List.mem_append.1 hm with hold | hnew
      · obtain ⟨run, hrun, hfailed⟩ := ih hold
        exact (h.requestStep hstep id).hasFailed (h.requestRun id).onCourse hrun hfailed
      · obtain rfl := List.mem_singleton.1 hnew
        exact hasFailed_of_report hstep hreport

/-! ## Last notifications -/

/-- What is delivered of a request was posted by its run. -/
theorem Execution.mem_postedBy (h : Execution (.empty maxWorkers) trace d) {n : Notification}
    (hn : n ∈ delivered trace) (hid : n.request = id) : n ∈ postedBy id trace := by
  have hdelivered : n ∈ (delivered trace).filter fun n => n.request = id :=
    List.mem_filter.2 ⟨hn, decide_eq_true hid⟩
  rw [← filterMap_event_eq_delivered] at hdelivered
  rw [postedBy_eq]
  exact (h.requestRun id).delivered_sublist.subset (List.mem_append_left _ hdelivered)

theorem Execution.onCourse (h : Execution (.empty maxWorkers) trace d) (id : RequestId) :
    (d.view id).OnCourse id (postedBy id trace) := by
  rw [postedBy_eq]
  exact (h.requestRun id).onCourse

/-- A request whose last notification was delivered is not active. -/
theorem Execution.isActive_eq_false (h : Execution (.empty maxWorkers) trace d)
    {n : Notification} (hn : n ∈ delivered trace) (hid : n.request = id)
    (hterminal : n.isTerminal = true) : d.isActive id = false := by
  have hcourse := h.onCourse id
  have hposted := h.mem_postedBy hn hid
  cases hrun : d.run? id with
  | none =>
      rw [hcourse.unlaunched hrun] at hposted
      cases hposted
  | some run =>
      obtain ⟨-, c, hon, hleft⟩ := hcourse.launched run hrun
      obtain ⟨e, rfl⟩ := hon.exists_silent hposted hterminal
      exact hleft rfl

/-- While a known request is being cancelled that is still active, its last notification is
not delivered: not before it is silent, because it is active then, and not afterwards. -/
theorem Cancellation.quiet {before during : List Moment} {start last : Dispatch}
    (hbefore : Execution (.empty maxWorkers) before start)
    (hcancel : Cancellation id true start during last) (hknown : (start.view id).Known) :
    (last.view id).Hushed ∧ ∀ n ∈ delivered (before ++ during), n.request = id →
      n.isTerminal = false := by
  obtain ⟨hhushed, hcrosses⟩ := hcancel.silences hbefore hknown
  obtain ⟨early, late, middle, rfl, hearly, hlate, hsilent, hactive⟩ := hcrosses rfl
  have hmiddle := hbefore.append hearly
  refine ⟨hhushed, fun n hn hid => ?_⟩
  rw [← List.append_assoc, delivered_append] at hn
  rcases List.mem_append.1 hn with hn | hn
  · rw [Bool.eq_false_iff]
    intro hterminal
    exact absurd (hactive.symm.trans (hmiddle.isActive_eq_false hn hid hterminal)) nofun
  · exact absurd hid ((hmiddle.hushed hsilent hlate).2 n hn)

/-- A cancellation that finds a known request active keeps its last notification from being
delivered, whenever it is posted. -/
theorem Cancellation.not_terminal {before during after : List Moment} {start last : Dispatch}
    (hbefore : Execution (.empty maxWorkers) before start)
    (hcancel : Cancellation id true start during last) (hafter : Execution last after d)
    (hknown : id ∈ start.unretired ∨ (start.run? id).isSome = true ∨ last.run? id = none)
    {n : Notification} (hn : n ∈ delivered (before ++ during ++ after)) (hid : n.request = id) :
    n.isTerminal = false := by
  have hlast := hbefore.append hcancel.execution
  have hsilent : (last.view id).Hushed ∧ ∀ m ∈ delivered (before ++ during), m.request = id →
      m.isTerminal = false := by
    rcases hknown with hunretired | hlaunched | hunlaunched
    · exact hcancel.quiet hbefore (hbefore.known_of_mem (.inl hunretired))
    · exact hcancel.quiet hbefore (hbefore.known_of_mem (.inr hlaunched))
    · refine ⟨hcancel.silences_unlaunched hbefore hunlaunched, fun m hm hid => ?_⟩
      have hposted := hlast.mem_postedBy hm hid
      rw [(hlast.onCourse id).unlaunched hunlaunched] at hposted
      cases hposted
  rw [delivered_append] at hn
  rcases List.mem_append.1 hn with hearly | hlate
  · exact hsilent.2 n hearly hid
  · exact absurd hid ((hlast.hushed hsilent.1 hafter).2 n hlate)

/-- A run posts one last notification at most, and nothing behind it. It does not tell of
success when a worker has reported a failure, nor when the request is continuous. Where a
cancellation finds the request active, its last notification is not delivered, unless the call
came to silence the request before it was registered, and its run was started before the call
was over. Where a last notification is delivered, the request is inactive for good. The results
delivered are those of the first positions of the parts that the workers get, as far as a
sequential scan of the part comes, and each position gives its result once. -/
theorem request_ends_once (h : Execution (.empty maxWorkers) trace d) (id : RequestId) :
    (∀ early n late, postedBy id trace = early ++ n :: late → n.isTerminal = true →
      late = []) ∧
    ((∃ m ∈ trace, ∃ error, m.report? id = some (.failed error)) →
      ∀ n ∈ postedBy id trace, n.state ≠ .successful) ∧
    (∀ run, d.run? id = some run → run.job.continuous = true →
      ∀ n ∈ postedBy id trace, n.state ≠ .successful) ∧
    (∀ before during after start last, trace = before ++ during ++ after →
      Execution (.empty maxWorkers) before start → Cancellation id true start during last →
      Execution last after d →
      (id ∈ start.unretired ∨ (start.run? id).isSome = true ∨ last.run? id = none) →
      ∀ n ∈ delivered trace, n.request = id → n.isTerminal = false) ∧
    ((∃ n ∈ delivered trace, n.request = id ∧ n.isTerminal = true) →
      d.isActive id = false ∧
        ∀ during last wasActive, Cancellation id wasActive d during last →
          wasActive = false) ∧
    (∀ get, (∀ m ∈ trace, (m.event id).answeredBy get = true) →
      ∀ run, d.run? id = some run → ∃ order : List Nat,
        ((delivered trace).filter fun n => n.request = id).flatMap Notification.batch =
          order.filterMap (fun p => (get p).toOption.bind run.job.context.analyze?) ∧
        order.Nodup ∧
        (∀ p ∈ order, ∃ part ∈ run.job.parts (polledBy id trace), part.holds p = true) ∧
        ∀ part ∈ run.job.parts (polledBy id trace),
          order.filter part.holds <+: part.scanned get) := by
  have hcourse := h.onCourse id
  refine ⟨?_, ?_, ?_, ?_, ?_, ?_⟩
  · intro early n late hposted hterminal
    cases hrun : d.run? id with
    | none =>
        rw [hcourse.unlaunched hrun] at hposted
        exact absurd hposted (by simp)
    | some run =>
        obtain ⟨-, c, hon, -⟩ := hcourse.launched run hrun
        exact hon.eq_nil_of_terminal hposted hterminal
  · rintro ⟨m, hm, error, hreport⟩
    obtain ⟨run, hrun, hfailed⟩ := h.hasFailed hm hreport
    obtain ⟨-, c, hon, -⟩ := hcourse.launched run hrun
    exact hfailed.state_ne_successful hon
  · intro run hrun hcontinuous
    obtain ⟨-, c, hon, -⟩ := hcourse.launched run hrun
    refine hon.state_ne_successful fun hsucceeded => ?_
    exact absurd (hcontinuous.symm.trans (hon.once hsucceeded)) nofun
  · rintro before during after start last rfl hbefore hcancel hafter hknown n hn hid
    exact hcancel.not_terminal hbefore hafter hknown hn hid
  · rintro ⟨n, hn, hid, hterminal⟩
    refine ⟨h.isActive_eq_false hn hid hterminal, fun during last wasActive hcancel => ?_⟩
    refine hcancel.eq_false fun later d' hlater => ?_
    refine (h.append hlater).isActive_eq_false ?_ hid hterminal
    rw [delivered_append]
    exact List.mem_append_left _ hn
  · intro get hread run hrun
    have hanswers : ∀ event ∈ trace.map (Moment.event id), ∀ p answer,
        event = .read p answer → answer = get p := by
      rintro - hevent p answer rfl
      obtain ⟨m, hm, hanswer⟩ := List.mem_map.1 hevent
      have hanswered := hread m hm
      rw [hanswer] at hanswered
      exact of_decide_eq_true hanswered
    obtain ⟨order, hfound, hbegins⟩ := ((h.requestRun id).reports hanswers).begins hrun
    rw [filterMap_event_eq_delivered] at hfound
    rw [polledBy_eq]
    exact ⟨order, hfound, hbegins.nodup, hbegins.placed,
      fun part hpart => hbegins.prefix_scanned hpart⟩

/-- The second record of the pair cannot be read. -/
def brokenAnswer (position : Nat) : Except ScanError Record :=
  if position = 0 then .ok (pairRecord 0) else .error (.source (.reported "disk"))

/-- The pair is about to be scanned, and a second request is alive, when a call turns to
cancelling the second one. -/
def brokenBegun : List Moment × Dispatch :=
  (Dispatch.empty 2).replay
    [.submit pairSubmission (.ok 2), .call 0, .call 0, .call 0, .call 0,
      .submit (idleSubmission true) (.ok 0), .call 0, .call 0, .call 0, .call 0,
      .drive 1, .drive 1, .drive 1, .drive 1, .drive 1,
      .drive 2, .drive 2, .drive 2, .drive 2, .drive 2, .cancel 2]

/-- That call comes to its end. -/
def brokenEnded : List Moment × Dispatch :=
  brokenBegun.2.replay ([.call 0, .call 0] ++ [.call 0])

/-- The first record is reported, the worker at the second one fails, and both requests come
to their ends. -/
def brokenSettled : List Moment × Dispatch :=
  brokenEnded.2.replay
    [.work 1 0, .work 1 1, .load 1 0 (brokenAnswer 0), .load 1 1 (brokenAnswer 1),
      .work 1 0, .work 1 0, .work 1 1,
      .drive 1, .drive 1, .drive 1, .drive 1, .drive 1, .drive 1, .drive 1, .drive 1,
      .drive 2, .drive 2, .drive 2, .receive, .receive, .receive, .receive]

/-- The moments from the first one to the last. -/
def brokenTrace : List Moment := brokenBegun.1 ++ brokenEnded.1 ++ brokenSettled.1

/-- The run of the first request at the end. -/
def brokenRun : Run := (brokenSettled.2.run? 1).getD default

/-- The first request delivers its result and then the failure, and is inactive from then on.
Of the second one, which is cancelled while it is alive, no last notification is delivered. -/
theorem request_ends_once_broken :
    (delivered brokenTrace).map Notification.state = [.progress, .error] ∧
      (∀ n ∈ postedBy 1 brokenTrace, n.state ≠ .successful) ∧
      brokenSettled.2.isActive 1 = false ∧
      (∀ n ∈ delivered brokenTrace, n.request = 2 → n.isTerminal = false) ∧
      ∃ order : List Nat,
        ((delivered brokenTrace).filter fun n => n.request = 1).flatMap Notification.batch =
          order.filterMap
            (fun p => (brokenAnswer p).toOption.bind brokenRun.job.context.analyze?) ∧
        ∀ part ∈ ScanRange.split 0 2 2, order.filter part.holds <+: part.scanned brokenAnswer := by
  have hbegun : Execution (.empty 2) brokenBegun.1 brokenBegun.2 := .replay _ _
  have hended : Execution brokenBegun.2 brokenEnded.1 brokenEnded.2 := .replay _ _
  have hsettled : Execution brokenEnded.2 brokenSettled.1 brokenSettled.2 := .replay _ _
  have h : Execution (.empty 2) brokenTrace brokenSettled.2 :=
    (hbegun.append hended).append hsettled
  have hfailed : ∃ m ∈ brokenTrace, ∃ error, m.report? 1 = some (.failed error) := by
    have hany : (brokenTrace.any fun m =>
        m.report? 1 = some (.failed "Source read failure: disk")) = true := by decide +kernel
    obtain ⟨m, hm, hreport⟩ := List.any_eq_true.1 hany
    exact ⟨m, hm, _, of_decide_eq_true hreport⟩
  have hterminal : ∃ n ∈ delivered brokenTrace, n.request = 1 ∧ n.isTerminal = true := by
    decide +kernel
  have hcall : brokenBegun.2.calls[0]? = some (.silencing 2 []) := rfl
  have hfollow : (brokenBegun.2.replay [.call 0, .call 0]).1.foldlM
      (fun here m => m.follow here) 0 = some 0 := by decide +kernel
  have hcancel : Cancellation 2 true brokenBegun.2 brokenEnded.1 brokenEnded.2 :=
    .replay hcall hfollow rfl
  have hknown : 2 ∈ brokenBegun.2.unretired := by decide +kernel
  have hread : (brokenTrace.all fun m => (m.event 1).answeredBy brokenAnswer) = true := by
    decide +kernel
  have hrun : brokenSettled.2.run? 1 = some brokenRun := by
    have hsome : (brokenSettled.2.run? 1).isSome = true := by decide +kernel
    obtain ⟨run, hrun⟩ := Option.isSome_iff_exists.1 hsome
    rw [brokenRun, hrun]
    rfl
  have hparts : brokenRun.job.parts (polledBy 1 brokenTrace) = ScanRange.split 0 2 2 := by
    decide +kernel
  obtain ⟨-, hunsuccessful, -, -, hinactive, hresults⟩ := request_ends_once h 1
  obtain ⟨-, -, -, hquiet, -⟩ := request_ends_once h 2
  obtain ⟨order, hfound, -, -, hinitial⟩ :=
    hresults brokenAnswer (List.all_eq_true.1 hread) brokenRun hrun
  rw [hparts] at hinitial
  exact ⟨by decide +kernel, hunsuccessful hfailed, (hinactive hterminal).1,
    hquiet _ _ _ _ _ rfl hbegun hcancel hsettled (.inl hknown), order, hfound, hinitial⟩

/-- A request is among the active ones, but is not noted yet, when a call turns to cancelling it. -/
def overtakenBegun : List Moment × Dispatch :=
  (Dispatch.empty 1).replay
    [.submit (idleSubmission false) (.ok 0), .call 0, .call 0, .cancel 1]

/-- That call finds the request active. Before it raises the stop flag, the submission starts the
run, which ends well. -/
def overtakenEnded : List Moment × Dispatch :=
  overtakenBegun.2.replay
    ([.call 1, .call 1, .call 0, .call 0, .drive 1, .drive 1, .drive 1, .drive 1, .drive 1,
      .drive 1, .drive 1] ++ [.call 0])

/-- The receiver takes a message off the queue. -/
def overtakenSettled : List Moment × Dispatch := overtakenEnded.2.replay [.receive]

/-- A cancellation finds its request active, and the last notification of the request is
delivered. -/
theorem cancelled_request_succeeds :
    Execution (.empty 1) overtakenBegun.1 overtakenBegun.2 ∧
      Cancellation 1 true overtakenBegun.2 overtakenEnded.1 overtakenEnded.2 ∧
      Execution overtakenEnded.2 overtakenSettled.1 overtakenSettled.2 ∧
      delivered (overtakenBegun.1 ++ overtakenEnded.1 ++ overtakenSettled.1) =
        [.successful 1] ∧ (Notification.successful 1).isTerminal = true := by
  have hcall : overtakenBegun.2.calls[1]? = some (.silencing 1 []) := rfl
  have hfollow : (overtakenBegun.2.replay [.call 1, .call 1, .call 0, .call 0, .drive 1, .drive 1,
      .drive 1, .drive 1, .drive 1, .drive 1, .drive 1]).1.foldlM
      (fun here m => m.follow here) 1 = some 0 := by decide +kernel
  exact ⟨.replay _ _, .replay hcall hfollow rfl, .replay _ _, by decide +kernel, rfl⟩

end PatternScan.Analysis
