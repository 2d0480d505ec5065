import PatternScan.Analysis.Dispatch

/-!
# One request at a time

What the dispatch holds about one request, and the steps in which it changes. The steps of
other requests leave it alone, so a run of the dispatch shows, for each request, a run of
this small system. Its events say what a step does that others can notice: a notification is
posted or delivered, a record is read, a call to cancel goes on.
-/

namespace PatternScan.Analysis

/-- The request that a message is about. -/
def Envelope.request : Envelope → RequestId
  | .notification n => n.request
  | .retired id => id

/-- The notification in a message. -/
def Envelope.notification? : Envelope → Option Notification
  | .notification n => some n
  | .retired _ => none

/-- The notifications that a phase has ready to be sent. -/
def Phase.pending : Phase → List Notification
  | .leaving farewell => farewell.toList
  | .asking n next => n :: next.pending
  | .telling n next => n :: next.pending
  | _ => []

/-- What can be noticed of a step. -/
inductive RequestEvent where
  | quiet
  /-- A call to cancel the request silences it. -/
  | silencing
  /-- A call to cancel the request takes it off the active ones. -/
  | withdrawing
  /-- A call to cancel the request raises its stop flag. -/
  | halting
  /-- A worker gets this answer for the record at the position. -/
  | read (position : Nat) (answer : Except ScanError Record)
  /-- The source is found to have this size. -/
  | polled (answer : Except ScanError Nat)
  | posted (n : Notification)
  | delivered (n : Notification)

namespace RequestEvent

/-- The step belongs to a call that cancels the request. -/
def isCancelling : RequestEvent → Bool
  | silencing | withdrawing | halting => true
  | _ => false

/-- What is read, if anything is, is the record at its position. -/
def readsFrom (record : Nat → Record) : RequestEvent → Bool
  | read position (.ok r) => r = record position
  | read _ (.error _) => false
  | _ => true

theorem eq_ok_of_readsFrom {record : Nat → Record} {position : Nat}
    {answer : Except ScanError Record} (h : (read position answer).readsFrom record = true) :
    answer = .ok (record position) := by
  cases answer with
  | error e => cases h
  | ok r => exact congrArg Except.ok (of_decide_eq_true h)

/-- The notification posted. -/
def posted? : RequestEvent → Option Notification
  | posted n => some n
  | _ => none

/-- The notification delivered. -/
def delivered? : RequestEvent → Option Notification
  | delivered n => some n
  | _ => none

end RequestEvent

/-! ## Moves of a run -/

/-- A worker that has stopped takes no step. -/
theorem Worker.ne_stopped_of_step {w next : Worker} {halted listening : Bool}
    {event : Option WorkerEvent} (h : w.step halted listening = some (next, event)) :
    w.stage ≠ .stopped := by
  intro hstopped
  rw [Worker.step, hstopped] at h
  cases h

/-- What a move does besides changing its run. -/
inductive Effect where
  | nothing
  | post (e : Envelope)
  /-- Raises the stop flag. -/
  | halt
  /-- Takes the request off the active ones. -/
  | leave

namespace Run

/-- The run after a worker's step and the report made in it. -/
def afterWork (run : Run) (index : Nat) (w : Worker) (event : Option WorkerEvent) : Run :=
  { run with
    workers := run.workers.set index w
    events := if run.listening then run.events ++ event.toList else run.events }

/-- The run after a worker got what it reads. -/
def afterLoad (run : Run) (index : Nat) (w : Worker) (answer : Except ScanError Record) : Run :=
  { run with workers := run.workers.set index (w.load run.job.context run.job.chunkSize answer) }

/-- The moves of a run whose stop flag and silence are as given. There is one for each phase
in which the run goes on by itself, and two for its workers. -/
inductive Moves (halted silenced : Bool) (run : Run) : RequestEvent → Run → Effect → Prop where
  | start (parts : List ScanRange) (hphase : run.phase = .starting parts) :
      Moves halted silenced run .quiet (run.start halted parts) .nothing
  | hire (part : ScanRange) (rest : List ScanRange) (hphase : run.phase = .hiring part rest) :
      Moves halted silenced run .quiet (run.hire part rest) .nothing
  | take (event : WorkerEvent) (rest : List WorkerEvent) (hphase : run.phase = .collecting)
      (hevents : run.events = event :: rest) :
      Moves halted silenced run .quiet (run.take event rest) .nothing
  | close (hphase : run.phase = .collecting) (hevents : run.events = [])
      (hidle : run.isWorking = false) :
      Moves halted silenced run .quiet (run.enter run.afterScan) .nothing
  | finish (hphase : run.phase = .finishing) :
      Moves halted silenced run .quiet (run.finish halted) .nothing
  | fail (percent : Nat) (error : String) (hphase : run.phase = .failing percent error) :
      Moves halted silenced run .quiet (run.fail percent error) .halt
  | leave (farewell : Option Notification) (hphase : run.phase = .leaving farewell) :
      Moves halted silenced run .quiet (run.enter (Run.afterLeaving farewell)) .leave
  | ask (n : Notification) (next : Phase) (hphase : run.phase = .asking n next) :
      Moves halted silenced run .quiet
        (run.enter (if silenced then next else .telling n next)) .nothing
  | tell (n : Notification) (next : Phase) (hphase : run.phase = .telling n next) :
      Moves halted silenced run (.posted n) (run.enter next) (.post (.notification n))
  | rest (hphase : run.phase = .resting) :
      Moves halted silenced run .quiet
        (run.enter (if halted then .leaving none else .polling)) .nothing
  | poll (answer : Except ScanError Nat) (hphase : run.phase = .polling) :
      Moves halted silenced run (.polled answer) (run.poll answer) .nothing
  | retire (hphase : run.phase = .retiring) :
      Moves halted silenced run .quiet (run.enter .gone) (.post (.retired run.id))
  | work (index : Nat) (w next : Worker) (event : Option WorkerEvent)
      (hworker : run.workers[index]? = some w)
      (hstep : w.step halted run.listening = some (next, event)) :
      Moves halted silenced run .quiet (run.afterWork index next event) .nothing
  | load (index : Nat) (w : Worker) (answer : Except ScanError Record)
      (hworker : run.workers[index]? = some w) (hstage : w.stage = .loading) :
      Moves halted silenced run (.read w.position answer) (run.afterLoad index w answer) .nothing

/-- The run sends notifications of its own request only. -/
def SpeaksForItself (run : Run) : Prop := ∀ n ∈ run.phase.pending, n.request = run.id

theorem speaksForItself_of_pending {run : Run} (h : run.phase.pending = []) :
    run.SpeaksForItself := by
  intro n hn
  rw [h] at hn
  cases hn

theorem speaksForItself_ofJob (id : RequestId) (job : Job) : (ofJob id job).SpeaksForItself :=
  speaksForItself_of_pending rfl

namespace Moves

variable {halted silenced : Bool} {run run' : Run} {event : RequestEvent} {effect : Effect}

/-- A move changes neither the number of the request nor its job. -/
theorem id_and_job (h : Moves halted silenced run event run' effect) :
    run'.id = run.id ∧ run'.job = run.job := by
  cases h with
  | start parts hphase =>
      cases parts with
      | nil => exact ⟨rfl, rfl⟩
      | cons part rest => cases halted <;> exact ⟨rfl, rfl⟩
  | take event rest hphase hevents => cases event <;> exact ⟨rfl, rfl⟩
  | finish hphase =>
      cases halted
      · simp only [Run.finish, Bool.false_eq_true, if_false]
        split <;> exact ⟨rfl, rfl⟩
      · exact ⟨rfl, rfl⟩
  | poll answer hphase =>
      cases answer with
      | error e => exact ⟨rfl, rfl⟩
      | ok size =>
          simp only [Run.poll]
          split
          · exact ⟨rfl, rfl⟩
          · split <;> exact ⟨rfl, rfl⟩
  | _ => exact ⟨rfl, rfl⟩

/-- A run that sends notifications of its own request only goes on to do so. -/
theorem speaksForItself (h : Moves halted silenced run event run' effect)
    (hrun : run.SpeaksForItself) : run'.SpeaksForItself := by
  cases h with
  | start parts hphase =>
      cases parts with
      | nil => exact speaksForItself_of_pending rfl
      | cons part rest => cases halted <;> exact speaksForItself_of_pending rfl
  | hire part rest hphase => exact speaksForItself_of_pending rfl
  | take event rest hphase hevents =>
      cases event with
      | batch processed results =>
          simp [SpeaksForItself, Run.take, Phase.pending, Notification.progress]
      | failed error => exact speaksForItself_of_pending rfl
  | close hphase hevents hidle =>
      refine speaksForItself_of_pending ?_
      simp only [enter, afterScan]
      split <;> rfl
  | finish hphase =>
      cases halted
      · simp only [Run.finish, Bool.false_eq_true, if_false]
        split <;>
          simp [SpeaksForItself, enter, Phase.pending, Notification.progress,
            Notification.successful]
      · exact speaksForItself_of_pending rfl
  | fail percent error hphase =>
      simp [SpeaksForItself, Run.fail, Phase.pending, Notification.failure]
  | leave farewell hphase =>
      cases farewell with
      | none => exact speaksForItself_of_pending rfl
      | some n => simpa [SpeaksForItself, hphase, enter, afterLeaving, Phase.pending] using hrun
  | ask n next hphase =>
      intro m hm
      refine hrun m ?_
      rw [hphase]
      cases silenced
      · exact hm
      · exact List.mem_cons_of_mem _ hm
  | tell n next hphase =>
      intro m hm
      refine hrun m ?_
      rw [hphase]
      exact List.mem_cons_of_mem _ hm
  | rest hphase => cases halted <;> exact speaksForItself_of_pending rfl
  | poll answer hphase =>
      refine speaksForItself_of_pending ?_
      cases answer with
      | error e => rfl
      | ok size =>
          simp only [Run.poll]
          split
          · rfl
          · split <;> rfl
  | retire hphase => exact speaksForItself_of_pending rfl
  | work index w next event hworker hstep => exact hrun
  | load index w answer hworker hstage => exact hrun

/-- What a move posts is about its own request. -/
theorem request_of_post (h : Moves halted silenced run event run' effect)
    (hrun : run.SpeaksForItself) {e : Envelope} (heffect : effect = .post e) :
    e.request = run.id := by
  cases h with
  | tell n next hphase =>
      obtain rfl := Effect.post.inj heffect
      exact hrun n (by simp [hphase, Phase.pending])
  | retire hphase =>
      obtain rfl := Effect.post.inj heffect
      rfl
  | _ => cases heffect

end Moves

end Run

/-! ## Runs of a request -/

/-- What the dispatch holds about one request. -/
structure RequestView where
  run : Option Run
  /-- The messages about the request, in the order of the queue. -/
  mail : List Envelope
  halted : Bool
  silenced : Bool
  active : Bool
  unretired : Bool

namespace RequestView

/-- Nothing is known of the request yet. -/
def blank : RequestView := ⟨none, [], false, false, false, false⟩

/-- The view after a move that leads to the given run. -/
def after (v : RequestView) (run : Run) : Effect → RequestView
  | .nothing => { v with run := some run }
  | .post e => { v with run := some run, mail := v.mail ++ [e] }
  | .halt => { v with run := some run, halted := true }
  | .leave => { v with run := some run, active := false }

end RequestView

/-- The steps of one request. -/
inductive RequestStep (id : RequestId) : RequestView → RequestEvent → RequestView → Prop where
  /-- Nothing of the request is touched. -/
  | elsewhere (v : RequestView) : RequestStep id v .quiet v
  | activate (v : RequestView) (hrun : v.run = none) :
      RequestStep id v .quiet { v with active := true }
  | register (v : RequestView) (hrun : v.run = none) :
      RequestStep id v .quiet { v with unretired := true }
  | launch (v : RequestView) (job : Job) (hrun : v.run = none)
      (hregistered : v.unretired = true) (hrange : job.range.start ≤ job.range.stop) :
      RequestStep id v .quiet { v with run := some (.ofJob id job) }
  | silence (v : RequestView) :
      RequestStep id v .silencing { v with silenced := v.silenced || v.unretired }
  | withdraw (v : RequestView) : RequestStep id v .withdrawing { v with active := false }
  | halt (v : RequestView) : RequestStep id v .halting { v with halted := true }
  | move (v : RequestView) (run run' : Run) (event : RequestEvent) (effect : Effect)
      (hrun : v.run = some run)
      (hmove : run.Moves v.halted v.silenced event run' effect) :
      RequestStep id v event (v.after run' effect)
  | deliver (v : RequestView) (n : Notification) (rest : List Envelope)
      (hmail : v.mail = .notification n :: rest) :
      RequestStep id v (if v.silenced then .quiet else .delivered n) { v with mail := rest }
  | retire (v : RequestView) (rest : List Envelope) (hmail : v.mail = .retired id :: rest) :
      RequestStep id v .quiet { v with mail := rest, unretired := false, silenced := false }

/-- The events of a request from the start on, and the view they lead to. -/
inductive RequestRun (id : RequestId) : List RequestEvent → RequestView → Prop where
  | nil : RequestRun id [] .blank
  | snoc (events : List RequestEvent) (event : RequestEvent) (v v' : RequestView)
      (hrun : RequestRun id events v) (hstep : RequestStep id v event v') :
      RequestRun id (events ++ [event]) v'

/-- A step of a request that is not silenced, not even by it, keeps the order of what is posted:
it comes behind the mail, and what is delivered is taken from its front. -/
theorem RequestStep.mail_of_silenced_eq_false {id : RequestId} {v v' : RequestView}
    {event : RequestEvent} (h : RequestStep id v event v') (hsilenced : v.silenced = false)
    (hmissed : event = .silencing → v.unretired = false) :
    v'.silenced = false ∧
      v.mail.filterMap Envelope.notification? ++ event.posted?.toList =
        event.delivered?.toList ++ v'.mail.filterMap Envelope.notification? := by
  cases h with
  | elsewhere | activate | register | launch | withdraw | halt =>
      exact ⟨hsilenced, List.append_nil _⟩
  | silence =>
      refine ⟨?_, List.append_nil _⟩
      rw [hsilenced, hmissed rfl]
      rfl
  | move run run' event effect hrun hmove =>
      cases hmove with
      | tell n next hphase =>
          refine ⟨hsilenced, ?_⟩
          simp [RequestView.after, Envelope.notification?, RequestEvent.posted?,
            RequestEvent.delivered?]
      | retire hphase =>
          refine ⟨hsilenced, ?_⟩
          simp [RequestView.after, Envelope.notification?, RequestEvent.posted?,
            RequestEvent.delivered?]
      | _ => exact ⟨hsilenced, List.append_nil _⟩
  | deliver n rest hmail =>
      refine ⟨hsilenced, ?_⟩
      simp [hsilenced, hmail, RequestEvent.posted?, RequestEvent.delivered?,
        Envelope.notification?]
  | retire rest hmail =>
      refine ⟨rfl, ?_⟩
      rw [hmail, List.filterMap_cons_none rfl]
      exact List.append_nil _

theorem filterMap_singleton {α β : Type} (f : α → Option β) (a : α) :
    [a].filterMap f = (f a).toList := by
  cases h : f a <;> simp [h]

/-- Of a request that nobody cancels, the notifications posted are those delivered and then
those in the mail, in one order. -/
theorem RequestRun.posted_eq_delivered_append {id : RequestId} {events : List RequestEvent}
    {v : RequestView} (h : RequestRun id events v)
    (hquiet : ∀ event ∈ events, event.isCancelling = false) :
    v.silenced = false ∧
      events.filterMap RequestEvent.posted? =
        events.filterMap RequestEvent.delivered? ++ v.mail.filterMap Envelope.notification? := by
  induction h with
  | nil => exact ⟨rfl, rfl⟩
  | snoc events event v v' hrun hstep ih =>
      obtain ⟨hsilenced, hposted⟩ := ih fun e he => hquiet e (List.mem_append_left _ he)
      have hevent := hquiet event (List.mem_append_right _ List.mem_cons_self)
      obtain ⟨hsilenced', hmail⟩ := hstep.mail_of_silenced_eq_false hsilenced
        (by rintro rfl; cases hevent)
      refine ⟨hsilenced', ?_⟩
      rw [List.filterMap_append, List.filterMap_append, filterMap_singleton, filterMap_singleton,
        hposted, List.append_assoc, List.append_assoc, hmail]

/-- A step of a request delivers at most what is in the mail, and puts there what it posts. -/
theorem RequestStep.mail_sublist {id : RequestId} {v v' : RequestView} {event : RequestEvent}
    (h : RequestStep id v event v') :
    (event.delivered?.toList ++ v'.mail.filterMap Envelope.notification?).Sublist
      (v.mail.filterMap Envelope.notification? ++ event.posted?.toList) := by
  cases h with
  | elsewhere | activate | register | launch | silence | withdraw | halt =>
      exact List.sublist_append_left _ _
  | move run run' event effect hrun hmove =>
      cases hmove with
      | tell | retire =>
          simp [RequestView.after, Envelope.notification?, RequestEvent.posted?,
            RequestEvent.delivered?]
      | _ => exact List.sublist_append_left _ _
  | deliver n rest hmail =>
      cases hsilenced : v.silenced <;>
        simp [hmail, Envelope.notification?, RequestEvent.posted?, RequestEvent.delivered?]
  | retire rest hmail =>
      rw [hmail, List.filterMap_cons_none rfl]
      exact List.sublist_append_left _ _

/-- Nothing is delivered of a request that was not posted. -/
theorem RequestRun.delivered_sublist {id : RequestId} {events : List RequestEvent}
    {v : RequestView} (h : RequestRun id events v) :
    (events.filterMap RequestEvent.delivered? ++
      v.mail.filterMap Envelope.notification?).Sublist
        (events.filterMap RequestEvent.posted?) := by
  induction h with
  | nil => exact List.Sublist.refl _
  | snoc events event v v' hrun hstep ih =>
      rw [List.filterMap_append, List.filterMap_append, filterMap_singleton, filterMap_singleton,
        List.append_assoc]
      refine (hstep.mail_sublist.append_left _).trans ?_
      rw [← List.append_assoc]
      exact ih.append_right _

end PatternScan.Analysis
