import PatternScan.Analysis.Session
import PatternScan.Proofs.Analysis.Moments
import PatternScan.Proofs.Analysis.Refusal

/-!
# Numbers of requests

A submission that is not refused takes its number before it does anything else. The numbers taken
so far are those below the next one, whatever has become of their requests, so no number is taken
twice, and submissions that follow one another get the numbers in order. When the run of a request
starts, the request was added to the active ones and noted before.
-/

namespace PatternScan.Analysis

open scoped List

variable {maxWorkers : Nat} {trace : List Moment} {d d' : Dispatch} {id : RequestId}
  {step : Step} {seen : Option Observation} {s : Submission} {size : Except ScanError Nat}

/-! ## Numbers given out -/

/-- The number that a submission got. -/
def Moment.accepted? (m : Moment) : Option RequestId :=
  match m.seen with
  | some (.accepted id) => some id
  | _ => none

theorem Moment.seen_of_accepted? {m : Moment} (h : m.accepted? = some id) :
    m.seen = some (.accepted id) := by
  unfold accepted? at h
  split at h
  · next target hseen => rw [hseen, Option.some.inj h]
  · cases h

/-- The numbers that submissions got, in the order in which these came to their ends. -/
def acceptedIn (trace : List Moment) : List RequestId := trace.filterMap Moment.accepted?

theorem acceptedIn_snoc (trace : List Moment) (m : Moment) :
    acceptedIn (trace ++ [m]) = acceptedIn trace ++ m.accepted?.toList := by
  rw [acceptedIn, List.filterMap_append, filterMap_singleton]
  rfl

namespace Dispatch

theorem submitted?_cancelAll (ids : List RequestId) :
    (cancelAll ids).bind Call.submitted? = none := by
  cases ids <;> rfl

/-- A call that cancels requests neither takes nor hands on a number, and starts no run. -/
theorem advance_of_cancelling {call : Call} (h : call.job? = none) (index : Nat) :
    Moment.accepted? ⟨d, .call index, (d.advance call).2.2⟩ = none ∧
      (d.advance call).2.1.bind Call.submitted? = none ∧
      (d.advance call).1.nextId = d.nextId ∧ (d.advance call).1.runs = d.runs := by
  cases call with
  | numbering | activating | registering | launching => cases h
  | silencing id rest =>
      refine ⟨rfl, rfl, ?_⟩
      simp only [advance, silence]
      split <;> exact ⟨rfl, rfl⟩
  | withdrawing id rest =>
      simp only [advance]
      split
      · exact ⟨rfl, rfl, rfl, rfl⟩
      · exact ⟨rfl, submitted?_cancelAll rest, rfl, rfl⟩
  | halting id rest => exact ⟨rfl, submitted?_cancelAll rest, rfl, rfl⟩
  | listing => exact ⟨rfl, submitted?_cancelAll d.activeRequests, rfl, rfl⟩

/-- The number of a call is handed on to what comes next of it, or it is the number that the
submission gets. Only a call that takes its number brings in a new one. -/
theorem number_of_advance (call : Call) (index : Nat) :
    let accepted := Moment.accepted? ⟨d, .call index, (d.advance call).2.2⟩
    let handed := (d.advance call).2.1.bind Call.submitted?
    accepted.toList ++ handed.toList = call.submitted?.toList ∧
        (d.advance call).1.nextId = d.nextId ∨
      accepted.toList ++ handed.toList = d.nextId :: call.submitted?.toList ∧
        (d.advance call).1.nextId = d.nextId + 1 := by
  intro accepted handed
  cases hjob : call.job? with
  | none =>
      obtain ⟨haccepted, hhanded, hnext, -⟩ := advance_of_cancelling (d := d) hjob index
      refine .inl ⟨?_, hnext⟩
      simp only [accepted, handed, haccepted, hhanded, Call.submitted?_eq_none hjob]
      rfl
  | some job =>
      cases call with
      | numbering job => exact .inr ⟨rfl, rfl⟩
      | activating | registering | launching => exact .inl ⟨rfl, rfl⟩
      | _ => cases hjob

/-- A run is started when its request is accepted. -/
theorem launched_of_steps (h : d.Steps step seen d') :
    d'.launched = d.launched ++ (Moment.accepted? ⟨d, step, seen⟩).toList := by
  cases h with
  | submit | refuse | cancel | shutdown => exact (List.append_nil _).symm
  | call index call hcall =>
      cases hjob : call.job? with
      | none =>
          obtain ⟨haccepted, -, -, hruns⟩ := advance_of_cancelling (d := d) hjob index
          rw [haccepted, Option.toList_none, List.append_nil]
          exact congrArg (List.map Run.id) hruns
      | some job =>
          cases call with
          | numbering | activating | registering => exact (List.append_nil _).symm
          | launching id job =>
              simp [advance, setCall, launched, Run.ofJob, Run.begin, Moment.accepted?]
          | _ => cases hjob
  | run step run run' effect hrun htarget hmove =>
      rw [launched_setRun]
      cases effect <;> exact (List.append_nil _).symm
  | deliver n rest hqueue =>
      cases hsilenced : d.isSilenced n.request <;> exact (List.append_nil _).symm
  | retire => exact (List.append_nil _).symm

/-- A call that goes on brings in what comes next of it, and the other calls stay. -/
theorem perm_filterMap_advance {β : Type} (f : Call → Option β) {call : Call} {index : Nat}
    (h : d.calls[index]? = some call) :
    ∃ others, (d.calls.filterMap f).Perm ((f call).toList ++ others) ∧
      (((d.advance call).1.setCall index (d.advance call).2.1).calls.filterMap f).Perm
        (((d.advance call).2.1.bind f).toList ++ others) := by
  have h' : (d.advance call).1.calls[index]? = some call := by rwa [calls_advance]
  obtain ⟨others, hcalls, hcalls'⟩ := perm_setCall h' (d.advance call).2.1
  rw [calls_advance] at hcalls
  have hold := hcalls.filterMap f
  have hnew := hcalls'.filterMap f
  rw [← List.singleton_append, List.filterMap_append, filterMap_singleton] at hold
  rw [List.filterMap_append] at hnew
  refine ⟨others.filterMap f, hold, ?_⟩
  cases hnext : (d.advance call).2.1 with
  | none => rwa [hnext] at hnew
  | some next =>
      rw [hnext, Option.toList_some, filterMap_singleton] at hnew
      exact hnew

/-- The numbers in use stay as they are, or the next number joins them. -/
theorem numbers_of_steps (h : d.Steps step seen d') :
    (d'.launched ++ d'.submitted).Perm (d.launched ++ d.submitted) ∧ d'.nextId = d.nextId ∨
      (d'.launched ++ d'.submitted).Perm (d.nextId :: (d.launched ++ d.submitted)) ∧
        d'.nextId = d.nextId + 1 := by
  have hlaunched := launched_of_steps h
  have hsame (hnone : Moment.accepted? ⟨d, step, seen⟩ = none)
      (hsubmitted : d'.submitted = d.submitted) :
      (d'.launched ++ d'.submitted).Perm (d.launched ++ d.submitted) := by
    rw [hlaunched, hnone, hsubmitted, Option.toList_none, List.append_nil]
  cases h with
  | submit | cancel | shutdown => exact .inl ⟨hsame rfl (by simp [submitted, Call.submitted?]), rfl⟩
  | refuse | retire => exact .inl ⟨hsame rfl rfl, rfl⟩
  | call index call hcall =>
      obtain ⟨others, hold, hnew⟩ := perm_filterMap_advance Call.submitted? hcall
      have hbefore : (d.launched ++ (call.submitted?.toList ++ others)).Perm
          (d.launched ++ d.submitted) := (hold.append_left d.launched).symm
      have hafter := (hnew.append_left
        (Moment.accepted? ⟨d, .call index, (d.advance call).2.2⟩).toList).append_left d.launched
      rw [← List.append_assoc (Option.toList _)] at hafter
      rw [hlaunched, List.append_assoc]
      rcases number_of_advance (d := d) call index with ⟨hnumber, hnext⟩ | ⟨hnumber, hnext⟩
      · rw [hnumber] at hafter
        exact .inl ⟨hafter.trans hbefore, hnext⟩
      · rw [hnumber] at hafter
        refine .inr ⟨?_, hnext⟩
        calc _
          _ ~ d.launched ++ d.nextId :: (call.submitted?.toList ++ others) := hafter
          _ ~ d.nextId :: (d.launched ++ (call.submitted?.toList ++ others)) := List.perm_middle
          _ ~ d.nextId :: (d.launched ++ d.submitted) := hbefore.cons d.nextId
  | run step run run' effect hrun htarget hmove =>
      refine .inl ⟨hsame rfl ?_, ?_⟩ <;> cases effect <;> rfl
  | deliver n rest hqueue =>
      refine .inl ⟨hsame ?_ rfl, rfl⟩
      cases hsilenced : d.isSilenced n.request <;> rfl

end Dispatch

namespace Execution

theorem launched_eq (h : Execution (.empty maxWorkers) trace d) :
    d.launched = acceptedIn trace := by
  induction h with
  | nil => rfl
  | snoc trace d d' step seen h hstep ih =>
      rw [Dispatch.launched_of_steps (Dispatch.steps_of_step? hstep), ih, acceptedIn_snoc]

/-- The numbers in use are all those below the next one. -/
theorem numbers (h : Execution (.empty maxWorkers) trace d) :
    ∃ count, d.nextId = count + 1 ∧
      (acceptedIn trace ++ d.submitted).Perm (List.range' 1 count) := by
  rw [← h.launched_eq]
  induction h with
  | nil => exact ⟨0, rfl, .refl _⟩
  | snoc trace d d' step seen h hstep ih =>
      obtain ⟨count, hcount, hperm⟩ := ih
      rcases Dispatch.numbers_of_steps (Dispatch.steps_of_step? hstep) with
        ⟨hsame, hnext⟩ | ⟨hmore, hnext⟩
      · exact ⟨count, hnext.trans hcount, hsame.trans hperm⟩
      · refine ⟨count + 1, by rw [hnext, hcount], ?_⟩
        calc d'.launched ++ d'.submitted
          _ ~ d.nextId :: (d.launched ++ d.submitted) := hmore
          _ ~ d.nextId :: List.range' 1 count := hperm.cons d.nextId
          _ ~ List.range' 1 count ++ [d.nextId] := (List.perm_append_singleton d.nextId _).symm
          _ = List.range' 1 (count + 1) := by
            rw [List.range'_1_concat, hcount, Nat.add_comm 1 count]

end Execution

/-! ## One submission after another -/

/-- No submission begins while another one is in progress. -/
def OneAtATime (trace : List Moment) : Prop :=
  ∀ m ∈ trace, ∀ s size, m.step = .submit s size → ∀ call ∈ m.before.calls, call.job? = none

namespace Dispatch

/-- The jobs that are being submitted. -/
def jobs (d : Dispatch) : List Job := d.calls.filterMap Call.job?

theorem jobs_eq_nil (h : ∀ call ∈ d.calls, call.job? = none) : d.jobs = [] :=
  List.filterMap_eq_nil_iff.2 h

/-- Only a submission that begins brings in a job. -/
theorem length_jobs_of_steps (h : d.Steps step seen d')
    (hsubmit : ∀ s size, step = .submit s size → d.jobs = []) (hd : d.jobs.length ≤ 1) :
    d'.jobs.length ≤ 1 := by
  cases h with
  | submit s size job hjob =>
      have hnone := hsubmit s size rfl
      rw [jobs] at hnone
      simp [jobs, hnone, Call.job?]
  | cancel | shutdown => simpa [jobs, filterMap_singleton, Call.job?] using hd
  | call index call hcall =>
      obtain ⟨others, hold, hnew⟩ := perm_filterMap_advance Call.job? hcall
      have hnext : ((d.advance call).2.1.bind Call.job?).toList.length ≤
          call.job?.toList.length := by
        cases hjob : (d.advance call).2.1.bind Call.job? with
        | none => exact Nat.zero_le _
        | some job =>
            obtain ⟨next, hnext, hjob⟩ := Option.bind_eq_some_iff.1 hjob
            simp only [job?_of_advance hnext hjob, Nat.le_refl]
      have hlength := hold.length_eq
      have hlength' := hnew.length_eq
      rw [List.length_append] at hlength hlength'
      rw [jobs] at hd ⊢
      omega
  | run step run run' effect hrun htarget hmove => cases effect <;> exact hd
  | refuse | deliver | retire => exact hd

/-- A submission comes to its end when its run is started. -/
theorem launching_of_accepted (h : d.Steps step seen d') (hseen : seen = some (.accepted id)) :
    ∃ index job, step = .call index ∧ d.calls[index]? = some (.launching id job) := by
  cases h with
  | call index call hcall =>
      rcases seen_of_advance hseen with ⟨target, job, rfl, ho⟩ | ⟨target, wasActive, ho⟩
      · obtain rfl := Observation.accepted.inj ho
        exact ⟨index, job, rfl, hcall⟩
      · cases ho
  | deliver n rest hqueue =>
      obtain ⟨n', -, hn⟩ := Option.map_eq_some_iff.1 hseen
      cases hn
  | _ => cases hseen

/-- A submission that is the only one has the only number that is not yet that of a run. -/
theorem submitted_eq (hd : d.jobs.length ≤ 1) {index : Nat} {job : Job}
    (hcall : d.calls[index]? = some (.launching id job)) : d.submitted = [id] := by
  obtain ⟨hlt, hget⟩ := List.getElem?_eq_some_iff.1 hcall
  have hperm := (List.getElem_cons_eraseIdx_perm hlt).symm
  rw [hget] at hperm
  have hjob : (Call.launching id job).job? = some job := rfl
  have hid : (Call.launching id job).submitted? = some id := rfl
  have hjobs := (hperm.filterMap Call.job?).length_eq
  rw [List.filterMap_cons_some hjob, List.length_cons] at hjobs
  rw [jobs] at hd
  have hothers : (d.calls.eraseIdx index).filterMap Call.job? = [] :=
    List.length_eq_zero_iff.1 (by omega)
  have hnone : (d.calls.eraseIdx index).filterMap Call.submitted? = [] :=
    List.filterMap_eq_nil_iff.2 fun c hc =>
      Call.submitted?_eq_none (List.filterMap_eq_nil_iff.1 hothers c hc)
  have hsubmitted := hperm.filterMap Call.submitted?
  rw [List.filterMap_cons_some hid, hnone] at hsubmitted
  exact List.perm_singleton.1 hsubmitted

end Dispatch

/-- Submissions that follow one another get the numbers in order. -/
theorem Execution.accepted_eq (h : Execution (.empty maxWorkers) trace d)
    (hone : OneAtATime trace) :
    acceptedIn trace = List.range' 1 (acceptedIn trace).length ∧ d.jobs.length ≤ 1 := by
  induction h with
  | nil => exact ⟨rfl, Nat.zero_le 1⟩
  | snoc trace d d' step seen h hstep ih =>
      have hsteps := Dispatch.steps_of_step? hstep
      obtain ⟨hinorder, hjobs⟩ := ih fun m hm => hone m (List.mem_append_left _ hm)
      have hlast := hone ⟨d, step, seen⟩ (List.mem_append_right _ List.mem_cons_self)
      refine ⟨?_, Dispatch.length_jobs_of_steps hsteps (fun s size hsubmit =>
        Dispatch.jobs_eq_nil (hlast s size hsubmit)) hjobs⟩
      rw [acceptedIn_snoc]
      cases haccepted : Moment.accepted? ⟨d, step, seen⟩ with
      | none => rwa [Option.toList_none, List.append_nil]
      | some id =>
          obtain ⟨index, job, -, hcall⟩ :=
            Dispatch.launching_of_accepted hsteps (Moment.seen_of_accepted? haccepted)
          obtain ⟨count, -, hnumbers⟩ := h.numbers
          rw [Dispatch.submitted_eq hjobs hcall] at hnumbers
          have hlength := hnumbers.length_eq
          rw [List.length_append, List.length_singleton, List.length_range'] at hlength
          rw [← hlength, List.range'_1_concat, ← hinorder, List.perm_append_left_iff,
            List.singleton_perm_singleton] at hnumbers
          rw [Option.toList_some, List.length_append, List.length_singleton, List.range'_1_concat,
            ← hinorder, hnumbers]

/-! ## Requests that are about to run -/

/-- The request that a call has added to the active ones. -/
def Call.underway? : Call → Option RequestId
  | .registering id _ | .launching id _ => some id
  | _ => none

theorem Call.submitted?_of_underway? {call : Call} (h : call.underway? = some id) :
    call.submitted? = some id := by
  cases call with
  | registering | launching => exact h
  | _ => cases h

/-- At the moment the request is added to the active ones. -/
def Moment.Activates (id : RequestId) (m : Moment) : Prop :=
  ∃ index job, m.step = .call index ∧ m.before.calls[index]? = some (.activating id job)

/-- The request was added to the active ones, and it still is one of them unless a cancellation
has taken it off since. -/
def Entered (id : RequestId) (trace : List Moment) (d : Dispatch) : Prop :=
  ∃ first m rest, trace = first ++ m :: rest ∧ m.Activates id ∧
    (id ∈ d.active ∨ ∃ later ∈ rest, later.event id = .withdrawing)

/-- Before its run is started, a request stays active until it is taken off. -/
theorem RequestStep.stays_active {v v' : RequestView} {event : RequestEvent}
    (h : RequestStep id v event v') (hrun : v.run = none) (hactive : v.active = true) :
    v'.active = true ∨ event = .withdrawing := by
  cases h with
  | withdraw => exact .inr rfl
  | move run run' event effect hsome => cases hrun.symm.trans hsome
  | activate => exact .inl rfl
  | _ => exact .inl hactive

theorem Entered.snoc (h : Entered id trace d) (hd : Execution (.empty maxWorkers) trace d)
    (hrun : d.run? id = none) (hstep : d.step? step = some (d', seen)) :
    Entered id (trace ++ [⟨d, step, seen⟩]) d' := by
  obtain ⟨first, m, rest, rfl, hm, hactive⟩ := h
  refine ⟨first, m, rest ++ [⟨d, step, seen⟩], by simp, hm, ?_⟩
  rcases hactive with hactive | ⟨later, hlater, hevent⟩
  · rcases (hd.requestStep hstep id).stays_active hrun (List.contains_iff_mem.2 hactive) with
      hstays | hwithdrawn
    · exact .inl (List.contains_iff_mem.1 hstays)
    · exact .inr ⟨_, List.mem_append_right _ List.mem_cons_self, hwithdrawn⟩
  · exact .inr ⟨later, List.mem_append_left _ hlater, hevent⟩

namespace Dispatch

theorem underway?_of_advance {call next : Call} (h : next ∈ (d.advance call).2.1)
    (hid : next.underway? = some id) :
    (∃ job, call = .activating id job) ∨ call.underway? = some id := by
  cases hjob : call.job? with
  | none =>
      obtain ⟨-, hnone, -⟩ := advance_of_cancelling (d := d) hjob 0
      have hsubmitted := Call.submitted?_of_underway? hid
      rw [Option.mem_def] at h
      rw [h, Option.bind_some, hsubmitted] at hnone
      cases hnone
  | some job =>
      cases call with
      | numbering job =>
          obtain rfl := Option.some.inj h
          cases hid
      | activating target job =>
          obtain rfl := Option.some.inj h
          obtain rfl := Option.some.inj hid
          exact .inl ⟨job, rfl⟩
      | registering target job =>
          obtain rfl := Option.some.inj h
          exact .inr hid
      | launching => cases h
      | _ => cases hjob

/-- A call that has added its request to the active ones was there before, or has just done so. -/
theorem underway?_of_steps (h : d.Steps step seen d') {call : Call} (hcall : call ∈ d'.calls)
    (hid : call.underway? = some id) :
    (∃ old ∈ d.calls, old.underway? = some id) ∨
      Moment.Activates id ⟨d, step, seen⟩ ∧ id ∈ d'.active := by
  cases h with
  | submit | cancel | shutdown =>
      rcases List.mem_append.1 hcall with hold | hnew
      · exact .inl ⟨call, hold, hid⟩
      · obtain rfl := List.mem_singleton.1 hnew
        cases hid
  | call index old hindex =>
      have hindex' : (d.advance old).1.calls[index]? = some old := by rwa [calls_advance]
      obtain ⟨others, hcalls, hcalls'⟩ := perm_setCall hindex' (d.advance old).2.1
      rw [calls_advance] at hcalls
      rcases List.mem_append.1 (hcalls'.mem_iff.1 hcall) with hnext | hother
      · rcases underway?_of_advance (Option.mem_toList.1 hnext) hid with ⟨job, rfl⟩ | hold
        · exact .inr ⟨⟨index, job, rfl, hindex⟩, List.mem_insert_self⟩
        · exact .inl ⟨old, List.mem_of_getElem? hindex, hold⟩
      · exact .inl ⟨call, hcalls.mem_iff.2 (List.mem_cons_of_mem _ hother), hid⟩
  | run step run run' effect hrun htarget hmove =>
      refine .inl ⟨call, ?_, hid⟩
      cases effect <;> exact hcall
  | refuse | deliver | retire => exact .inl ⟨call, hcall, hid⟩

end Dispatch

theorem Execution.entered (h : Execution (.empty maxWorkers) trace d) {call : Call}
    (hcall : call ∈ d.calls) (hid : call.underway? = some id) : Entered id trace d := by
  induction h generalizing call with
  | nil => cases hcall
  | snoc trace d d' step seen h hstep ih =>
      rcases Dispatch.underway?_of_steps (Dispatch.steps_of_step? hstep) hcall hid with
        ⟨old, hold, hsame⟩ | ⟨hactivates, hactive⟩
      · exact (ih hold hsame).snoc h
          (h.orderly.run?_eq_none hold (Call.submitted?_of_underway? hsame)) hstep
      · exact ⟨trace, _, [], rfl, hactivates, .inl hactive⟩

/-! ## Submissions by themselves -/

namespace Dispatch

theorem finishCall_of_idle (h : d.calls = []) (fuel : Nat) : d.finishCall fuel = (d, []) := by
  cases fuel <;> simp [finishCall, step?, h]

/-- A submission that is refused tells why, and leaves the dispatch as it is. -/
theorem submit_of_refused (h : d.calls = []) {e : ScanError} (hrefused : s.Refused size e) :
    d.submit s size = (.error e, d) := by
  have hjob : s.job d.maxWorkers size = .error e := Submission.job_eq_error_iff.2 hrefused
  simp [submit, perform, step?, hjob, finishCall_of_idle h, Observation.answer?]

/-- A submission that is not refused gets the next number. -/
theorem submit_of_job (h : d.calls = []) {job : Job} (hjob : s.job d.maxWorkers size = .ok job) :
    d.submit s size = (.ok d.nextId, { d with
      nextId := d.nextId + 1
      active := d.active.insert d.nextId
      unretired := d.unretired.insert d.nextId
      runs := d.runs ++ [.ofJob d.nextId job] }) := by
  have hfuel : 4 + 3 * d.active.length = 3 * d.active.length + 4 := Nat.add_comm _ _
  have hidle : ∀ after : Dispatch, after.calls = [] → ∀ fuel, after.finishCall fuel = (after, []) :=
    fun _ hafter => finishCall_of_idle hafter
  simp [submit, perform, step?, hjob, h, callLength, hfuel, finishCall, advance, setCall, hidle,
    Observation.answer?]

end Dispatch

/-- The step with which a submission comes to its end starts the run of its request, which is
noted by then and was added to the active ones. -/
theorem Execution.starts_run {early late : List Moment} {m : Moment}
    (h : Execution (.empty maxWorkers) (early ++ m :: late) d)
    (hseen : m.seen = some (.accepted id)) :
    m.before.run? id = none ∧ id ∈ m.before.unretired ∧ Entered id early m.before ∧
      ∃ job next, m.before.step? m.step = some (next, m.seen) ∧
        next.run? id = some (.ofJob id job) := by
  obtain ⟨hbefore, next, hstep, -⟩ := h.split
  obtain ⟨index, job, hcallStep, hcall⟩ :=
    Dispatch.launching_of_accepted (Dispatch.steps_of_step? hstep) hseen
  have hmem := List.mem_of_getElem? hcall
  have hnone := hbefore.orderly.run?_eq_none hmem rfl
  refine ⟨hnone, hbefore.orderly.registered id job hmem, hbefore.entered hmem rfl, job, next, hstep,
    ?_⟩
  simp only [hcallStep, Dispatch.step?, hcall, Option.map_some, Option.some.injEq,
    Prod.mk.injEq] at hstep
  obtain ⟨rfl, -⟩ := hstep
  have hlaunch := congrArg RequestView.run
    (@Dispatch.view_launch m.before id id job)
  rw [if_pos ⟨rfl, hnone⟩] at hlaunch
  exact hlaunch

/-- A submission is refused for one of four faults, and then it leaves the dispatch as it is:
without the refused submissions, an execution leads to the same state and delivers the same. One
that is accepted has its request noted and added to the active ones before the run is started.
The numbers below the next one have each been given out once, whatever became of their requests,
and submissions that follow one another get them in order. A submission that has the dispatch to
itself is refused, or it gets the next number. -/
theorem submission_is_all_or_nothing (h : Execution (.empty maxWorkers) trace d) :
    ((∀ m ∈ trace, ∀ s size, m.step = .submit s size → ∀ e,
        m.seen = some (.refused e) ↔ s.Refused size e) ∧
      (∀ m ∈ trace, ∀ e, m.seen = some (.refused e) →
        m.before.step? m.step = some (m.before, m.seen)) ∧
      Execution (.empty maxWorkers) (trace.filter fun m => !m.isRefused) d ∧
      delivered (trace.filter fun m => !m.isRefused) = delivered trace) ∧
    (∀ early m late id, trace = early ++ m :: late → m.seen = some (.accepted id) →
      m.before.run? id = none ∧ id ∈ m.before.unretired ∧ Entered id early m.before ∧
        ∃ job next, m.before.step? m.step = some (next, m.seen) ∧
          next.run? id = some (.ofJob id job)) ∧
    ((acceptedIn trace).Nodup ∧
      (∃ count, d.nextId = count + 1 ∧
        (acceptedIn trace ++ d.submitted).Perm (List.range' 1 count)) ∧
      (OneAtATime trace → acceptedIn trace = List.range' 1 (acceptedIn trace).length)) ∧
    (d.calls = [] → ∀ s size,
      (∀ e, s.Refused size e → d.submit s size = (.error e, d)) ∧
      ((∀ e, ¬ s.Refused size e) → ∃ d', d.submit s size = (.ok d.nextId, d') ∧
        d'.nextId = d.nextId + 1 ∧ d.nextId ∈ d'.active ∧ d.nextId ∈ d'.unretired ∧
        (d'.run? d.nextId).isSome = true ∧ d'.queue = d.queue)) := by
  have hsteps (m : Moment) (hm : m ∈ trace) :
      ∃ next, m.before.step? m.step = some (next, m.seen) := by
    obtain ⟨early, late, rfl⟩ := List.append_of_mem hm
    obtain ⟨-, next, hstep, -⟩ := h.split
    exact ⟨next, hstep⟩
  refine ⟨⟨?_, ?_, h.without_refused, delivered_without_refused trace⟩, ?_, ⟨?_, h.numbers, ?_⟩,
    ?_⟩
  · intro m hm s size hsubmit e
    obtain ⟨next, hstep⟩ := hsteps m hm
    rw [hsubmit] at hstep
    exact Dispatch.refused_iff hstep
  · intro m hm e hseen
    obtain ⟨next, hstep⟩ := hsteps m hm
    rwa [Dispatch.eq_of_refused (Dispatch.steps_of_step? hstep) hseen] at hstep
  · intro early m late id htrace hseen
    subst htrace
    exact h.starts_run hseen
  · obtain ⟨count, -, hnumbers⟩ := h.numbers
    exact (List.nodup_append.1 (hnumbers.nodup_iff.2 List.nodup_range')).1
  · intro hone
    exact (h.accepted_eq hone).1
  · intro hcalls s size
    constructor
    · intro e hrefused
      exact Dispatch.submit_of_refused hcalls hrefused
    · intro hno
      cases hjob : s.job d.maxWorkers size with
      | error e => exact absurd (Submission.job_eq_error_iff.1 hjob) (hno e)
      | ok job =>
          refine ⟨_, Dispatch.submit_of_job hcalls hjob, rfl, List.mem_insert_self,
            List.mem_insert_self, ?_, rfl⟩
          simp [Dispatch.run?, Run.ofJob, Run.begin]

/-- A request for one record. -/
def recordSubmission : Submission := ⟨0, 1, "a", 1, false, Settings.standard⟩

/-- A pattern that cannot be compiled, a request that is accepted and cancelled, two that do not
fit their sources, and one more that is accepted. -/
def mixedSteps : List Step :=
  [.submit { recordSubmission with pattern := "(" } (.ok 1),
    .submit recordSubmission (.ok 1), .call 0, .call 0, .call 0, .call 0,
    .cancel 1, .call 0, .call 0, .call 0,
    .submit recordSubmission (.ok 0),
    .submit recordSubmission (.error (.source (.reported "gone"))),
    .submit recordSubmission (.ok 1), .call 0, .call 0, .call 0, .call 0]

/-- The moments of that execution, and its end. -/
def mixedExecution : List Moment × Dispatch := (Dispatch.empty 2).replay mixedSteps

theorem submissions_mixed :
    OneAtATime mixedExecution.1 ∧ mixedExecution.2.active = [2] ∧
      (mixedExecution.1.filter Moment.isRefused).length = 3 ∧
      Execution (.empty 2) (mixedExecution.1.filter fun m => !m.isRefused) mixedExecution.2 ∧
      acceptedIn mixedExecution.1 = [1, 2] ∧
      (mixedExecution.2.submit recordSubmission (.error (.source (.reported "gone")))).2 =
        mixedExecution.2 := by
  have h : Execution (.empty 2) mixedExecution.1 mixedExecution.2 := .replay _ _
  have hfacts : (mixedExecution.1.all fun m => match m.step with
        | .submit _ _ => m.before.calls.all fun call => call.job?.isNone
        | _ => true) = true ∧
      mixedExecution.2.active = [2] ∧ mixedExecution.2.calls.length = 0 ∧
      (mixedExecution.1.filter Moment.isRefused).length = 3 ∧
      (acceptedIn mixedExecution.1).length = 2 := by decide +kernel
  obtain ⟨hall, hactive, hcalls, hrefused, hlength⟩ := hfacts
  have hone : OneAtATime mixedExecution.1 := by
    intro m hm s size hsubmit call hcall
    have hthis := List.all_eq_true.1 hall m hm
    rw [hsubmit] at hthis
    exact Option.isNone_iff_eq_none.1 (List.all_eq_true.1 hthis call hcall)
  obtain ⟨⟨-, -, hwithout, -⟩, -, ⟨-, -, hinorder⟩, hsubmit⟩ := submission_is_all_or_nothing h
  refine ⟨hone, hactive, hrefused, hwithout, ?_, ?_⟩
  · rw [hinorder hone, hlength]
    rfl
  · rw [(hsubmit (List.length_eq_zero_iff.1 hcalls) recordSubmission _).1 _ (.source _)]

end PatternScan.Analysis
