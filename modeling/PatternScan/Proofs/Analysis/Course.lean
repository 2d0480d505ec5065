import PatternScan.Proofs.Analysis.Request

/-!
# The course of a run

A run scans, and may scan again what its source has grown by. It then parts in one of three
ways: because it was cancelled, because its scan ended well, or because of a failure. It takes
the request off the active ones, and a last notification, if there is one, is the last thing
it posts. Once a worker has reported a failure, a run parts because of a failure or because it
was cancelled.
-/

namespace PatternScan.Analysis

/-- How a run comes to its end. -/
inductive Ending where
  | cancelled
  | succeeded
  | failed (percent : Nat) (error : String)

namespace Ending

/-- The last notification of a run that ends so. -/
def farewell (id : RequestId) : Ending → Option Notification
  | cancelled => none
  | succeeded => some (.successful id)
  | failed percent error => some (.failure id percent error)

def isFailure : Ending → Bool
  | failed _ _ => true
  | _ => false

end Ending

/-- How far a run has come. -/
inductive Course where
  /-- Workers are started, and their reports are taken. -/
  | scanning
  /-- A scan ended well, and another one may follow. -/
  | scanned
  /-- A failure is known. -/
  | failing
  /-- The request is to be taken off the active ones. -/
  | parting (e : Ending)
  /-- The last notification is to be sent. -/
  | parted (e : Ending)
  /-- No notification follows. -/
  | silent (e : Ending)

namespace Course

/-- How the run ends, once that is known. -/
def ending? : Course → Option Ending
  | parting e | parted e | silent e => some e
  | _ => none

/-- The request was taken off the active ones. -/
def hasLeft : Course → Bool
  | parted _ | silent _ => true
  | _ => false

/-- The run ends with a failure. -/
def isBroken (c : Course) : Bool := c.ending?.any Ending.isFailure

/-- All workers have stopped, and all that they reported was taken. -/
def isSettled : Course → Bool
  | scanned => true
  | c => c.ending?.any fun e => !e.isFailure

/-- The notifications posted so far: those of a scan, and after them at most the last one. -/
def Told (id : RequestId) (posted : List Notification) : Course → Prop
  | silent e => ∃ (earlier : List Notification) (last : Option Notification),
      posted = earlier ++ last.toList ∧ (∀ n ∈ earlier, n.state = .progress) ∧
        ∀ n ∈ last, e.farewell id = some n
  | _ => ∀ n ∈ posted, n.state = .progress

end Course

/-- The phases of a course. -/
inductive Phase.On (id : RequestId) : Phase → Course → Prop where
  | starting (parts : List ScanRange) : On id (.starting parts) .scanning
  | hiring (part : ScanRange) (rest : List ScanRange) : On id (.hiring part rest) .scanning
  | collecting : On id .collecting .scanning
  | asking (percent : Nat) (results : List RecordResult) :
      On id (.asking (.progress id percent results) .collecting) .scanning
  | telling (percent : Nat) (results : List RecordResult) :
      On id (.telling (.progress id percent results) .collecting) .scanning
  | finishing : On id .finishing .scanned
  | askingAlive : On id (.asking (.progress id 100 []) .resting) .scanned
  | tellingAlive : On id (.telling (.progress id 100 []) .resting) .scanned
  | resting : On id .resting .scanned
  | polling : On id .polling .scanned
  | failing (percent : Nat) (error : String) : On id (.failing percent error) .failing
  | leaving (e : Ending) : On id (.leaving (e.farewell id)) (.parting e)
  | askingLast (e : Ending) (n : Notification) (hlast : e.farewell id = some n) :
      On id (.asking n .retiring) (.parted e)
  | tellingLast (e : Ending) (n : Notification) (hlast : e.farewell id = some n) :
      On id (.telling n .retiring) (.parted e)
  | retiring (e : Ending) : On id .retiring (.silent e)
  | gone (e : Ending) : On id .gone (.silent e)

namespace Run

/-- The run has come so far, after these notifications. -/
structure OnCourse (run : Run) (posted : List Notification) (c : Course) : Prop where
  phase : run.phase.On run.id c
  settled : c.isSettled = true → run.events = [] ∧ run.isWorking = false
  listening : c.isBroken = false → run.listening = true
  once : c.ending? = some .succeeded → run.job.continuous = false
  told : c.Told run.id posted

theorem isWorking_of_step {run : Run} {index : Nat} {w : Worker}
    (hworker : run.workers[index]? = some w) (hstage : w.stage ≠ .stopped) :
    run.isWorking = true :=
  List.any_eq_true.2 ⟨w, List.mem_of_getElem? hworker, by simpa [Worker.isRunning] using hstage⟩

theorem afterScan_on (run : Run) : run.afterScan.On run.id .scanned := by
  rw [afterScan]
  split
  · exact .resting
  · exact .finishing

theorem onCourse_ofJob (id : RequestId) (job : Job) : (ofJob id job).OnCourse [] .scanning where
  phase := .starting _
  settled := nofun
  listening := fun _ => rfl
  once := nofun
  told := nofun

namespace OnCourse

variable {halted silenced : Bool} {run run' : Run} {posted posted' : List Notification}
  {c c' : Course} {event : RequestEvent} {effect : Effect} {phase : Phase}

theorem enter (hphase : phase.On run.id c')
    (hsettled : c'.isSettled = true → run.events = [] ∧ run.isWorking = false)
    (hlistening : c'.isBroken = false → run.listening = true)
    (honce : c'.ending? = some .succeeded → run.job.continuous = false)
    (htold : c'.Told run.id posted') : (run.enter phase).OnCourse posted' c' where
  phase := hphase
  settled := hsettled
  listening := hlistening
  once := honce
  told := htold

/-- A run that enters another phase of the same course. -/
theorem stay (h : run.OnCourse posted c) (hphase : phase.On run.id c) :
    (run.enter phase).OnCourse posted c :=
  .enter hphase h.settled h.listening h.once h.told

theorem start (h : run.OnCourse posted .scanning) (parts : List ScanRange) :
    (run.start halted parts).OnCourse posted .scanning := by
  cases parts with
  | nil => exact h.stay .collecting
  | cons part rest =>
      cases halted with
      | true => exact h.stay .collecting
      | false => exact h.stay (.hiring part rest)

theorem hire (h : run.OnCourse posted .scanning) (part : ScanRange) (rest : List ScanRange) :
    (run.hire part rest).OnCourse posted .scanning where
  phase := .starting rest
  settled := nofun
  listening := h.listening
  once := nofun
  told := h.told

/-- A report is turned into a notification, or into a failure. -/
theorem take (h : run.OnCourse posted .scanning) (event : WorkerEvent)
    (rest : List WorkerEvent) : ∃ c', (run.take event rest).OnCourse posted c' ∧
      c'.hasLeft = false := by
  cases event with
  | batch processed results =>
      exact ⟨.scanning, ⟨.asking _ results, nofun, h.listening, nofun, h.told⟩, rfl⟩
  | failed error =>
      exact ⟨.failing, ⟨.failing _ error, nofun, h.listening, nofun, h.told⟩, rfl⟩

theorem close (h : run.OnCourse posted .scanning) (hevents : run.events = [])
    (hidle : run.isWorking = false) : (run.enter run.afterScan).OnCourse posted .scanned where
  phase := run.afterScan_on
  settled := fun _ => ⟨hevents, hidle⟩
  listening := h.listening
  once := nofun
  told := h.told

theorem finish (h : run.OnCourse posted .scanned) (halted : Bool) :
    ∃ c', (run.finish halted).OnCourse posted c' ∧ c'.hasLeft = false := by
  cases halted with
  | true =>
      exact ⟨.parting .cancelled,
        .enter (.leaving .cancelled) h.settled h.listening nofun h.told, rfl⟩
  | false =>
      simp only [Run.finish, Bool.false_eq_true, if_false]
      split
      · exact ⟨.scanned, h.stay .askingAlive, rfl⟩
      · next honce =>
          exact ⟨.parting .succeeded, .enter (.leaving .succeeded) h.settled h.listening
            (fun _ => Bool.eq_false_iff.2 honce) h.told, rfl⟩

theorem fail (h : run.OnCourse posted .failing) (percent : Nat) (error : String) :
    (run.fail percent error).OnCourse posted (.parting (.failed percent error)) where
  phase := .leaving (.failed percent error)
  settled := nofun
  listening := nofun
  once := nofun
  told := h.told

theorem leave {e : Ending} (h : run.OnCourse posted (.parting e)) :
    ∃ c', (run.enter (afterLeaving (e.farewell run.id))).OnCourse posted c' := by
  cases e with
  | cancelled =>
      exact ⟨.silent .cancelled, .enter (.retiring _) h.settled h.listening h.once
        ⟨posted, none, (List.append_nil _).symm, h.told, nofun⟩⟩
  | succeeded =>
      exact ⟨.parted .succeeded, .enter (.askingLast _ _ rfl) h.settled h.listening h.once h.told⟩
  | failed percent error =>
      exact ⟨.parted (.failed percent error),
        .enter (.askingLast _ _ rfl) h.settled h.listening h.once h.told⟩

/-- A notification is left out, because the request is silenced. -/
theorem pass (h : run.OnCourse posted c) {n : Notification} {next : Phase}
    (hphase : run.phase = .asking n next) :
    ∃ c', (run.enter next).OnCourse posted c' ∧ c'.hasLeft = c.hasLeft := by
  have hon := h.phase
  rw [hphase] at hon
  cases hon with
  | asking percent results => exact ⟨.scanning, h.stay .collecting, rfl⟩
  | askingAlive => exact ⟨.scanned, h.stay .resting, rfl⟩
  | askingLast e n hlast =>
      exact ⟨.silent e, .enter (.retiring e) h.settled h.listening h.once
        ⟨posted, none, (List.append_nil _).symm, h.told, nofun⟩, rfl⟩

theorem ask (h : run.OnCourse posted c) {n : Notification} {next : Phase}
    (hphase : run.phase = .asking n next) :
    (run.enter (.telling n next)).OnCourse posted c := by
  have hon := h.phase
  rw [hphase] at hon
  refine h.stay ?_
  cases hon with
  | asking percent results => exact .telling percent results
  | askingAlive => exact .tellingAlive
  | askingLast e n hlast => exact .tellingLast e n hlast

/-- A notification is posted. After the last one the run is silent. -/
theorem tell (h : run.OnCourse posted c) {n : Notification} {next : Phase}
    (hphase : run.phase = .telling n next) :
    ∃ c', (run.enter next).OnCourse (posted ++ [n]) c' ∧ c'.hasLeft = c.hasLeft := by
  have hprogress (hold : ∀ m ∈ posted, m.state = .progress) (hn : n.state = .progress) :
      ∀ m ∈ posted ++ [n], m.state = .progress := by
    intro m hm
    rcases List.mem_append.1 hm with hm | hm
    · exact hold m hm
    · exact List.mem_singleton.1 hm ▸ hn
  have hon := h.phase
  rw [hphase] at hon
  cases hon with
  | telling percent results =>
      exact ⟨.scanning, .enter .collecting nofun h.listening nofun (hprogress h.told rfl), rfl⟩
  | tellingAlive =>
      exact ⟨.scanned, .enter .resting h.settled h.listening nofun (hprogress h.told rfl), rfl⟩
  | tellingLast e n hlast =>
      exact ⟨.silent e, .enter (.retiring e) h.settled h.listening h.once
        ⟨posted, some n, rfl, h.told, fun m hm => hlast.trans hm⟩, rfl⟩

theorem begin (h : run.OnCourse posted .scanned) (scan : Scan) :
    (run.begin scan).OnCourse posted .scanning where
  phase := .starting _
  settled := nofun
  listening := fun _ => rfl
  once := nofun
  told := h.told

/-- A request that is alive goes on to rest, breaks off, or scans what is new. -/
theorem poll (h : run.OnCourse posted .scanned) (answer : Except ScanError Nat) :
    ∃ c', (run.poll answer).OnCourse posted c' ∧ c'.hasLeft = false := by
  have hfailing (error : String) : (run.enter (.failing 100 error)).OnCourse posted .failing :=
    .enter (.failing 100 error) nofun h.listening nofun h.told
  cases answer with
  | error e => exact ⟨.failing, hfailing _, rfl⟩
  | ok size =>
      simp only [Run.poll]
      split
      · exact ⟨.failing, hfailing _, rfl⟩
      · split
        · exact ⟨.scanned, h.stay .resting, rfl⟩
        · exact ⟨.scanning, h.begin _, rfl⟩

/-- What a worker does leaves a course alone in which it still has steps left. -/
theorem work (h : run.OnCourse posted c) {index : Nat} {w : Worker}
    (hworker : run.workers[index]? = some w) (hstage : w.stage ≠ .stopped)
    {workers : List Worker} {events : List WorkerEvent} :
    ({ run with workers, events } : Run).OnCourse posted c where
  phase := h.phase
  settled := fun hsettled => by
    have hidle := (h.settled hsettled).2
    rw [isWorking_of_step hworker hstage] at hidle
    cases hidle
  listening := h.listening
  once := h.once
  told := h.told

/-- Every move of a run keeps to its course. -/
theorem moves (h : run.OnCourse posted c) (hmove : run.Moves halted silenced event run' effect) :
    ∃ c', run'.OnCourse (posted ++ event.posted?.toList) c' ∧
      (c'.hasLeft = true → c.hasLeft = true ∨ effect = .leave) := by
  have hquiet : posted ++ RequestEvent.quiet.posted?.toList = posted := List.append_nil posted
  have hon := h.phase
  cases hmove with
  | start parts hphase =>
      rw [hphase] at hon
      cases hon
      rw [hquiet]
      exact ⟨_, h.start parts, nofun⟩
  | hire part rest hphase =>
      rw [hphase] at hon
      cases hon
      rw [hquiet]
      exact ⟨_, h.hire part rest, nofun⟩
  | take event rest hphase hevents =>
      rw [hphase] at hon
      cases hon
      rw [hquiet]
      obtain ⟨c', hnext, hleft⟩ := h.take event rest
      exact ⟨c', hnext, fun hhas => absurd (hleft.symm.trans hhas) nofun⟩
  | close hphase hevents hidle =>
      rw [hphase] at hon
      cases hon
      rw [hquiet]
      exact ⟨_, h.close hevents hidle, nofun⟩
  | finish hphase =>
      rw [hphase] at hon
      cases hon
      rw [hquiet]
      obtain ⟨c', hnext, hleft⟩ := h.finish halted
      exact ⟨c', hnext, fun hhas => absurd (hleft.symm.trans hhas) nofun⟩
  | fail percent error hphase =>
      rw [hphase] at hon
      cases hon
      rw [hquiet]
      exact ⟨_, h.fail percent error, nofun⟩
  | leave farewell hphase =>
      rw [hphase] at hon
      cases hon
      rw [hquiet]
      obtain ⟨c', hnext⟩ := h.leave
      exact ⟨c', hnext, fun _ => .inr rfl⟩
  | ask n next hphase =>
      rw [hquiet]
      cases silenced with
      | true =>
          obtain ⟨c', hnext, hleft⟩ := h.pass hphase
          exact ⟨c', hnext, fun hhas => .inl (hleft ▸ hhas)⟩
      | false => exact ⟨c, h.ask hphase, .inl⟩
  | tell n next hphase =>
      obtain ⟨c', hnext, hleft⟩ := h.tell hphase
      exact ⟨c', hnext, fun hhas => .inl (hleft ▸ hhas)⟩
  | rest hphase =>
      rw [hphase] at hon
      cases hon
      rw [hquiet]
      cases halted with
      | true =>
          exact ⟨_, .enter (.leaving .cancelled) h.settled h.listening nofun h.told, nofun⟩
      | false => exact ⟨_, h.stay .polling, nofun⟩
  | poll answer hphase =>
      rw [hphase] at hon
      cases hon
      have hnone : posted ++ (RequestEvent.polled answer).posted?.toList = posted :=
        List.append_nil posted
      rw [hnone]
      obtain ⟨c', hnext, hleft⟩ := h.poll answer
      exact ⟨c', hnext, fun hhas => absurd (hleft.symm.trans hhas) nofun⟩
  | retire hphase =>
      rw [hphase] at hon
      cases hon with
      | retiring e =>
          rw [hquiet]
          exact ⟨_, h.stay (.gone e), .inl⟩
  | work index w next event hworker hstep =>
      rw [hquiet]
      exact ⟨c, h.work hworker (Worker.ne_stopped_of_step hstep), .inl⟩
  | load index w answer hworker hstage =>
      have hnone : posted ++ (RequestEvent.read w.position answer).posted?.toList = posted :=
        List.append_nil posted
      rw [hnone]
      refine ⟨c, h.work hworker ?_, .inl⟩
      rw [hstage]
      nofun

/-- Before a run is silent it has posted no last notification. -/
theorem exists_silent (h : run.OnCourse posted c) {n : Notification} (hn : n ∈ posted)
    (hterminal : n.isTerminal = true) : ∃ e, c = .silent e := by
  have hnot (hprogress : ∀ m ∈ posted, m.state = .progress) : False := by
    rw [Notification.isTerminal, hprogress n hn] at hterminal
    cases hterminal
  cases c with
  | silent e => exact ⟨e, rfl⟩
  | _ => exact (hnot h.told).elim

/-- Nothing is posted behind a last notification. -/
theorem eq_nil_of_terminal (h : run.OnCourse posted c) {n : Notification}
    {early late : List Notification} (hposted : posted = early ++ n :: late)
    (hterminal : n.isTerminal = true) : late = [] := by
  have hn : n ∈ posted := by simp [hposted]
  obtain ⟨e, rfl⟩ := h.exists_silent hn hterminal
  obtain ⟨earlier, last, hlast, hprogress, -⟩ := h.told
  have hnew (hmem : n ∈ earlier) : False := by
    rw [Notification.isTerminal, hprogress n hmem] at hterminal
    cases hterminal
  rcases List.eq_nil_or_concat late with hnil | ⟨most, m, rfl⟩
  · exact hnil
  · -- With something behind it, the notification is one of those of a scan.
    refine (hnew ?_).elim
    have heq : early ++ n :: most ++ [m] = earlier ++ last.toList := by
      rw [← hlast, hposted]
      simp
    cases last with
    | none =>
        rw [Option.toList_none, List.append_nil] at heq
        simp [← heq]
    | some last =>
        have hinit := (List.append_inj' heq rfl).1
        simp [← hinit]

/-- A run tells that it ended well only if it did. -/
theorem state_ne_successful (h : run.OnCourse posted c)
    (hending : c.ending? ≠ some .succeeded) : ∀ n ∈ posted, n.state ≠ .successful := by
  have hprogress {ns : List Notification} (hns : ∀ n ∈ ns, n.state = .progress) :
      ∀ n ∈ ns, n.state ≠ .successful := by
    intro n hn
    rw [hns n hn]
    nofun
  have htold := h.told
  cases c with
  | silent e =>
      obtain ⟨earlier, last, rfl, hearlier, hlast⟩ := htold
      intro n hn
      rcases List.mem_append.1 hn with hn | hn
      · exact hprogress hearlier n hn
      · have hfarewell := hlast n (Option.mem_toList.1 hn)
        cases e with
        | cancelled => cases hfarewell
        | succeeded => exact absurd rfl hending
        | failed percent error =>
            obtain rfl := Option.some.inj hfarewell
            nofun
  | _ => exact hprogress htold

end OnCourse

/-! ## Failures -/

/-- A worker has reported a failure that waits to be taken or was taken, or the source turned
out to be broken. -/
def HasFailed (run : Run) : Prop :=
  run.listening = false ∨ (∃ percent error, run.phase = .failing percent error) ∨
    ∃ error, .failed error ∈ run.events

namespace HasFailed

variable {halted silenced : Bool} {run run' : Run} {posted : List Notification} {c : Course}
  {event : RequestEvent} {effect : Effect} {phase : Phase}

/-- A failure rules out that a scan ended well. -/
theorem isSettled_eq_false (h : run.HasFailed) (hcourse : run.OnCourse posted c) :
    c.isSettled = false := by
  rw [Bool.eq_false_iff]
  intro hsettled
  rcases h with hlistening | ⟨percent, error, hphase⟩ | ⟨error, herror⟩
  · have hbroken : c.isBroken = false := by
      cases c with
      | parting e | parted e | silent e => cases e <;> first | rfl | cases hsettled
      | _ => rfl
    rw [hcourse.listening hbroken] at hlistening
    cases hlistening
  · have hon := hcourse.phase
    rw [hphase] at hon
    cases hon
    cases hsettled
  · rw [(hcourse.settled hsettled).1] at herror
    cases herror

/-- A run that has failed never tells that it ended well. -/
theorem state_ne_successful (h : run.HasFailed) (hcourse : run.OnCourse posted c) :
    ∀ n ∈ posted, n.state ≠ .successful := by
  have hunsettled := h.isSettled_eq_false hcourse
  refine hcourse.state_ne_successful fun hsucceeded => ?_
  cases c with
  | parting e | parted e | silent e =>
      obtain rfl := Option.some.inj hsucceeded
      cases hunsettled
  | _ => cases hsucceeded

theorem enter (h : run.HasFailed) (hphase : ∀ percent error, run.phase ≠ .failing percent error) :
    (run.enter phase).HasFailed := by
  rcases h with hlistening | ⟨percent, error, hfailing⟩ | herror
  · exact .inl hlistening
  · exact absurd hfailing (hphase percent error)
  · exact .inr (.inr herror)

/-- A failure stays with a run. -/
theorem moves (h : run.HasFailed) (hcourse : run.OnCourse posted c)
    (hmove : run.Moves halted silenced event run' effect) : run'.HasFailed := by
  cases hmove with
  | start parts hphase =>
      have hnext (next : Phase) : (run.enter next).HasFailed := h.enter (by simp [hphase])
      cases parts with
      | nil => exact hnext _
      | cons part rest => cases halted <;> exact hnext _
  | hire part rest hphase =>
      have hnext : (run.enter (.starting rest)).HasFailed := h.enter (by simp [hphase])
      exact hnext
  | take event rest hphase hevents =>
      cases event with
      | failed error => exact .inr (.inl ⟨_, error, rfl⟩)
      | batch processed results =>
          rcases h with hlistening | ⟨percent, error, hfailing⟩ | ⟨error, herror⟩
          · exact .inl hlistening
          · rw [hphase] at hfailing
            cases hfailing
          · rw [hevents] at herror
            rcases List.mem_cons.1 herror with hfirst | hlater
            · cases hfirst
            · exact .inr (.inr ⟨error, hlater⟩)
  | close hphase hevents hidle => exact h.enter (by simp [hphase])
  | finish hphase =>
      have hnext (next : Phase) : (run.enter next).HasFailed := h.enter (by simp [hphase])
      cases halted with
      | true => exact hnext _
      | false =>
          simp only [Run.finish, Bool.false_eq_true, if_false]
          split <;> exact hnext _
  | fail percent error hphase => exact .inl rfl
  | leave farewell hphase => exact h.enter (by simp [hphase])
  | ask n next hphase => exact h.enter (by simp [hphase])
  | tell n next hphase => exact h.enter (by simp [hphase])
  | rest hphase => exact h.enter (by simp [hphase])
  | poll answer hphase =>
      have hon := hcourse.phase
      rw [hphase] at hon
      cases hon
      cases h.isSettled_eq_false hcourse
  | retire hphase => exact h.enter (by simp [hphase])
  | work index w next event hworker hstep =>
      rcases h with hlistening | hfailing | ⟨error, herror⟩
      · exact .inl hlistening
      · exact .inr (.inl hfailing)
      · refine .inr (.inr ⟨error, ?_⟩)
        simp only [afterWork]
        split
        · exact List.mem_append_left _ herror
        · exact herror
  | load index w answer hworker hstage => exact h

end HasFailed

end Run

/-! ## Requests -/

/-- What holds of a request in view of the notifications that its run has posted. -/
structure RequestView.OnCourse (id : RequestId) (posted : List Notification) (v : RequestView) :
    Prop where
  unlaunched : v.run = none → posted = []
  launched : ∀ run, v.run = some run →
    run.id = id ∧ ∃ c, run.OnCourse posted c ∧ (c.hasLeft = true → v.active = false)

theorem RequestStep.onCourse {id : RequestId} {v v' : RequestView} {event : RequestEvent}
    {posted : List Notification} (hstep : RequestStep id v event v') (h : v.OnCourse id posted) :
    v'.OnCourse id (posted ++ event.posted?.toList) := by
  have hquiet : posted ++ RequestEvent.quiet.posted?.toList = posted := List.append_nil posted
  cases hstep with
  | elsewhere | register | silence | halt | retire =>
      rw [← hquiet] at h
      exact ⟨h.unlaunched, h.launched⟩
  | activate hrun =>
      rw [hquiet]
      exact ⟨h.unlaunched, fun run hsome => absurd (hrun.symm.trans hsome) nofun⟩
  | withdraw =>
      rw [← hquiet] at h
      refine ⟨h.unlaunched, fun run hrun => ?_⟩
      obtain ⟨hid, c, hcourse, -⟩ := h.launched run hrun
      exact ⟨hid, c, hcourse, fun _ => rfl⟩
  | launch job hrun hregistered hrange =>
      rw [hquiet, h.unlaunched hrun]
      refine ⟨nofun, fun run hsome => ?_⟩
      obtain rfl := Option.some.inj hsome
      exact ⟨rfl, .scanning, Run.onCourse_ofJob id job, nofun⟩
  | deliver n rest hmail =>
      have hnone : posted ++
          (if v.silenced then RequestEvent.quiet else .delivered n).posted?.toList = posted := by
        split <;> exact List.append_nil posted
      rw [hnone]
      exact ⟨h.unlaunched, h.launched⟩
  | move run run' event effect hrun hmove =>
      have hrun' : (v.after run' effect).run = some run' := by cases effect <;> rfl
      obtain ⟨hid, c, hcourse, hleft⟩ := h.launched run hrun
      obtain ⟨c', hnext, hleft'⟩ := hcourse.moves hmove
      refine ⟨fun hnone => absurd (hrun'.symm.trans hnone) nofun, fun r hr => ?_⟩
      obtain rfl := Option.some.inj (hrun'.symm.trans hr)
      refine ⟨hmove.id_and_job.1.trans hid, c', hnext, fun hhas => ?_⟩
      rcases hleft' hhas with hold | rfl
      · cases effect with
        | leave => rfl
        | _ => exact hleft hold
      · rfl

/-- In any order of its steps, a request keeps to its course. -/
theorem RequestRun.onCourse {id : RequestId} {events : List RequestEvent} {v : RequestView}
    (h : RequestRun id events v) : v.OnCourse id (events.filterMap RequestEvent.posted?) := by
  induction h with
  | nil => exact ⟨fun _ => rfl, nofun⟩
  | snoc events event v v' hrun hstep ih =>
      rw [List.filterMap_append, filterMap_singleton]
      exact hstep.onCourse ih

end PatternScan.Analysis
