import Mathlib.Data.List.Basic
import Mathlib.Data.List.Perm.Basic
import PatternScan.Proofs.Analysis.Steps

/-!
# Submissions in progress

A submission takes its number, adds the request to the active ones, notes that messages of it
may be queued, and starts the run, each in a step of its own. Whatever happens between these
steps, a number belongs to one submission only, nothing of the request is queued before its
run is started, and its run is started after the request was noted.
-/

namespace PatternScan.Analysis

/-- The job of a submission. Its context is that of the pattern for any chunk size. -/
theorem Submission.job_eq_ok {s : Submission} {maxWorkers : Nat} {size : Except ScanError Nat}
    {job : Job} (h : s.job maxWorkers size = .ok job) :
    (∀ chunkSize, Context.compile s.pattern { s.settings with chunkSize } = .ok job.context) ∧
      job.range = ⟨s.start, s.start + s.count⟩ ∧ job.continuous = s.continuous := by
  cases size with
  | error e => cases h
  | ok size =>
      simp only [Submission.job, bind, Except.bind, throw, throwThe, MonadExceptOf.throw, pure,
        Except.pure] at h
      split at h
      · cases h
      · split at h
        · cases h
        · cases hcontext : Context.compile s.pattern s.settings with
          | error e =>
              rw [hcontext] at h
              cases h
          | ok context =>
              rw [hcontext] at h
              obtain rfl := Except.ok.inj h
              exact ⟨fun _ => hcontext, rfl, rfl⟩

/-- The number of the request that a call is about to start. -/
def Call.submitted? : Call → Option RequestId
  | .activating id _ | .registering id _ | .launching id _ => some id
  | _ => none

/-- The job that a call submits. -/
def Call.job? : Call → Option Job
  | .numbering job | .activating _ job | .registering _ job | .launching _ job => some job
  | _ => none

theorem Call.submitted?_eq_none {call : Call} (h : call.job? = none) : call.submitted? = none := by
  cases call with
  | numbering | activating | registering | launching => cases h
  | _ => rfl

namespace Dispatch

/-- The numbers of the requests whose runs were started. -/
def launched (d : Dispatch) : List RequestId := d.runs.map Run.id

/-- The numbers of the requests whose runs are about to be started. -/
def submitted (d : Dispatch) : List RequestId := d.calls.filterMap Call.submitted?

/-- What holds of the requests while they are submitted. -/
structure Orderly (d : Dispatch) : Prop where
  speaking : ∀ run ∈ d.runs, run.SpeaksForItself
  numbered : ∀ id ∈ d.launched ++ d.submitted, id < d.nextId
  distinct : (d.launched ++ d.submitted).Nodup
  queued : ∀ e ∈ d.queue, e.request ∈ d.launched
  registered : ∀ id job, .launching id job ∈ d.calls → id ∈ d.unretired
  ranged : ∀ call ∈ d.calls, ∀ job, call.job? = some job → job.range.start ≤ job.range.stop

variable {d d' : Dispatch} {run run' : Run} {id : RequestId} {index : Nat} {call : Call}

theorem run?_eq_none_iff : d.run? id = none ↔ id ∉ d.launched := by
  simp [run?, launched]

theorem launched_setRun : (d.setRun run).launched = d.launched := by
  rw [launched, launched, setRun, List.map_map]
  refine List.map_congr_left fun r _ => ?_
  rw [Function.comp_apply]
  split
  · next h => exact h.symm
  · rfl

theorem calls_advance (d : Dispatch) (call : Call) : (d.advance call).1.calls = d.calls := by
  cases call with
  | silencing id rest =>
      simp only [advance, silence]
      split <;> rfl
  | withdrawing id rest =>
      simp only [advance]
      split <;> rfl
  | _ => rfl

/-- A call that goes on is replaced by what comes next of it, and the other calls stay. -/
theorem perm_setCall (hcall : d.calls[index]? = some call) (next : Option Call) :
    ∃ others, d.calls.Perm (call :: others) ∧
      (d.setCall index next).calls.Perm (next.toList ++ others) := by
  obtain ⟨hlt, rfl⟩ := List.getElem?_eq_some_iff.1 hcall
  refine ⟨d.calls.eraseIdx index, (List.getElem_cons_eraseIdx_perm hlt).symm, ?_⟩
  cases next with
  | none => exact List.Perm.refl _
  | some next => exact List.set_perm_cons_eraseIdx hlt next

namespace Orderly

theorem empty (maxWorkers : Nat) : (Dispatch.empty maxWorkers).Orderly where
  speaking := nofun
  numbered := nofun
  distinct := List.nodup_nil
  queued := nofun
  registered := nofun
  ranged := nofun

/-- The request of a submission in progress has no run. -/
theorem run?_eq_none (h : d.Orderly) (hcall : call ∈ d.calls) (hid : call.submitted? = some id) :
    d.run? id = none := by
  refine run?_eq_none_iff.2 fun hlaunched => ?_
  exact (List.nodup_append.1 h.distinct).2.2 id hlaunched id
    (List.mem_filterMap.2 ⟨call, hcall, hid⟩) rfl

/-- A call that begins, and submits a job or nothing. -/
theorem begin (h : d.Orderly) (hsubmitted : call.submitted? = none)
    (hjob : ∀ job, call.job? = some job → job.range.start ≤ job.range.stop) :
    ({ d with calls := d.calls ++ [call] } : Dispatch).Orderly := by
  have hsame : ({ d with calls := d.calls ++ [call] } : Dispatch).submitted = d.submitted := by
    simp [submitted, hsubmitted]
  have hmem {c : Call} (hc : c ∈ d.calls ++ [call]) : c ∈ d.calls ∨ c = call := by
    simpa using hc
  exact {
    speaking := h.speaking
    numbered := by
      rw [hsame]
      exact h.numbered
    distinct := by
      rw [hsame]
      exact h.distinct
    queued := h.queued
    registered := by
      intro id job hc
      rcases hmem hc with hold | rfl
      · exact h.registered id job hold
      · cases hsubmitted
    ranged := by
      intro c hc job hc'
      rcases hmem hc with hold | rfl
      · exact h.ranged c hold job hc'
      · exact hjob job hc' }

/-- A submission that goes on. Its number stays in use, and the numbers of the others are
different ones. -/
theorem submitting (h : d.Orderly) {others : List Call} {next : Option Call}
    (hcalls : d.calls.Perm (call :: others)) (hcalls' : d'.calls.Perm (next.toList ++ others))
    (hjob : ∀ c ∈ next, c.job? = call.job?)
    (hregistered : ∀ id job, next = some (.launching id job) → id ∈ d'.unretired)
    (hspeaking : ∀ run ∈ d'.runs, run.SpeaksForItself)
    (hnumbers : (d'.launched ++ d'.submitted).Perm (d.launched ++ d.submitted) ∧
        d'.nextId = d.nextId ∨
      (d'.launched ++ d'.submitted).Perm (d.nextId :: (d.launched ++ d.submitted)) ∧
        d'.nextId = d.nextId + 1)
    (hlaunched : d.launched ⊆ d'.launched) (hqueue : d'.queue = d.queue)
    (hunretired : d.unretired ⊆ d'.unretired) : d'.Orderly where
  speaking := hspeaking
  numbered := by
    intro id hid
    rcases hnumbers with ⟨hperm, hnext⟩ | ⟨hperm, hnext⟩
    · rw [hnext]
      exact h.numbered id (hperm.mem_iff.1 hid)
    · rw [hnext]
      rcases List.mem_cons.1 (hperm.mem_iff.1 hid) with rfl | hold
      · exact Nat.lt_succ_self _
      · exact Nat.lt_succ_of_lt (h.numbered id hold)
  distinct := by
    rcases hnumbers with ⟨hperm, -⟩ | ⟨hperm, -⟩
    · exact hperm.nodup_iff.2 h.distinct
    · refine hperm.nodup_iff.2 (List.nodup_cons.2 ⟨fun hid => ?_, h.distinct⟩)
      exact Nat.lt_irrefl _ (h.numbered d.nextId hid)
  queued := fun e he => hlaunched (h.queued e (hqueue ▸ he))
  registered := by
    intro id job hc
    rcases List.mem_append.1 (hcalls'.mem_iff.1 hc) with hnew | hold
    · exact hregistered id job (Option.mem_toList.1 hnew)
    · exact hunretired (h.registered id job (hcalls.mem_iff.2 (List.mem_cons_of_mem _ hold)))
  ranged := by
    intro c hc job hc'
    rcases List.mem_append.1 (hcalls'.mem_iff.1 hc) with hnew | hold
    · rw [hjob c (Option.mem_toList.1 hnew)] at hc'
      exact h.ranged call (hcalls.mem_iff.2 List.mem_cons_self) job hc'
    · exact h.ranged c (hcalls.mem_iff.2 (List.mem_cons_of_mem _ hold)) job hc'

/-- A call that cancels requests goes on. -/
theorem cancelling (h : d.Orderly) {others : List Call} {next : Option Call}
    (hcalls : d.calls.Perm (call :: others)) (hcalls' : d'.calls.Perm (next.toList ++ others))
    (hcall : call.job? = none) (hnext : ∀ c ∈ next, c.job? = none) (hruns : d'.runs = d.runs)
    (hid : d'.nextId = d.nextId) (hqueue : d'.queue = d.queue)
    (hunretired : d'.unretired = d.unretired) : d'.Orderly := by
  have hold := hcalls.filterMap Call.submitted?
  have hnew := hcalls'.filterMap Call.submitted?
  have hnone : next.toList.filterMap Call.submitted? = [] :=
    List.filterMap_eq_nil_iff.2 fun c hc =>
      Call.submitted?_eq_none (hnext c (Option.mem_toList.1 hc))
  rw [List.filterMap_cons_none (Call.submitted?_eq_none hcall)] at hold
  rw [List.filterMap_append, hnone] at hnew
  have hlaunched : d'.launched = d.launched := by rw [launched, hruns, launched]
  refine h.submitting hcalls hcalls' (fun c hc => (hnext c hc).trans hcall.symm) ?_
    (hruns ▸ h.speaking) (.inl ⟨?_, hid⟩) (hlaunched ▸ List.Subset.refl _) hqueue
    (hunretired ▸ List.Subset.refl _)
  · rintro id job rfl
    cases hnext _ rfl
  · rw [hlaunched]
    exact (hnew.trans hold.symm).append_left _

theorem job?_of_cancelAll {ids : List RequestId} {c : Call} (h : c ∈ cancelAll ids) :
    c.job? = none := by
  cases ids with
  | nil => cases h
  | cons id rest =>
      obtain rfl := Option.some.inj h
      rfl

theorem advance (h : d.Orderly) (hcall : d.calls[index]? = some call) :
    ((d.advance call).1.setCall index (d.advance call).2.1).Orderly := by
  have hcall' : (d.advance call).1.calls[index]? = some call := by rwa [calls_advance]
  obtain ⟨others, hcalls, hcalls'⟩ := perm_setCall hcall' (d.advance call).2.1
  rw [calls_advance] at hcalls
  have hold := hcalls.filterMap Call.submitted?
  have hnew := hcalls'.filterMap Call.submitted?
  have hsame {ids : List RequestId} (hids : ids.Perm d.submitted) :
      (d.launched ++ ids).Perm (d.launched ++ d.submitted) := hids.append_left _
  cases call with
  | numbering job =>
      refine h.submitting hcalls hcalls' (fun c hc => ?_) nofun h.speaking (.inr ⟨?_, rfl⟩)
        (List.Subset.refl _) rfl (List.Subset.refl _)
      · obtain rfl := Option.some.inj hc
        rfl
      · exact ((hnew.trans (hold.symm.cons d.nextId)).append_left _).trans List.perm_middle
  | activating id job =>
      refine h.submitting hcalls hcalls' (fun c hc => ?_) nofun h.speaking
        (.inl ⟨hsame (hnew.trans hold.symm), rfl⟩) (List.Subset.refl _) rfl (List.Subset.refl _)
      obtain rfl := Option.some.inj hc
      rfl
  | registering id job =>
      refine h.submitting hcalls hcalls' (fun c hc => ?_) (fun other job' hnext => ?_) h.speaking
        (.inl ⟨hsame (hnew.trans hold.symm), rfl⟩) (List.Subset.refl _) rfl
        fun other hother => List.mem_insert_of_mem hother
      · obtain rfl := Option.some.inj hc
        rfl
      · obtain ⟨rfl, -⟩ := Call.launching.inj (Option.some.inj hnext)
        exact List.mem_insert_self
  | launching id job =>
      have hlaunched : (d.advance (.launching id job)).1.launched = d.launched ++ [id] := by
        simp [Dispatch.advance, launched, Run.ofJob, Run.begin]
      refine h.submitting hcalls hcalls' nofun nofun (fun run hrun => ?_) (.inl ⟨?_, rfl⟩) ?_ rfl
        (List.Subset.refl _)
      · rcases List.mem_append.1 hrun with hbefore | hlast
        · exact h.speaking run hbefore
        · obtain rfl := List.mem_singleton.1 hlast
          exact Run.speaksForItself_ofJob id job
      · change (Dispatch.launched (d.advance (.launching id job)).1 ++ _).Perm _
        rw [hlaunched, List.append_assoc]
        exact hsame ((hnew.cons id).trans hold.symm)
      · exact hlaunched.symm ▸ List.subset_append_left _ _
  | silencing id rest =>
      have hkept : (d.silence id).runs = d.runs ∧ (d.silence id).nextId = d.nextId ∧
          (d.silence id).queue = d.queue ∧ (d.silence id).unretired = d.unretired := by
        unfold silence
        split <;> exact ⟨rfl, rfl, rfl, rfl⟩
      obtain ⟨hruns, hid, hqueue, hunretired⟩ := hkept
      refine h.cancelling hcalls hcalls' rfl (fun c hc => ?_) hruns hid hqueue hunretired
      obtain rfl := Option.some.inj hc
      rfl
  | withdrawing id rest =>
      cases hactive : d.isActive id with
      | true =>
          simp only [Dispatch.advance, hactive, if_true] at hcalls' ⊢
          refine h.cancelling hcalls hcalls' rfl (fun c hc => ?_) rfl rfl rfl rfl
          obtain rfl := Option.some.inj hc
          rfl
      | false =>
          simp only [Dispatch.advance, hactive, Bool.false_eq_true, if_false] at hcalls' ⊢
          exact h.cancelling hcalls hcalls' rfl (fun c hc => job?_of_cancelAll hc) rfl rfl rfl rfl
  | halting id rest =>
      exact h.cancelling hcalls hcalls' rfl (fun c hc => job?_of_cancelAll hc) rfl rfl rfl rfl
  | listing =>
      exact h.cancelling hcalls hcalls' rfl (fun c hc => job?_of_cancelAll hc) rfl rfl rfl rfl

/-- A run that makes one of its moves. -/
theorem move (h : d.Orderly) {event : RequestEvent} {effect : Effect}
    (hrun : d.run? run.id = some run)
    (hmove : run.Moves (d.isHalted run.id) (d.isSilenced run.id) event run' effect) :
    ((d.affect run.id effect).setRun run').Orderly := by
  have hmem := mem_of_run? hrun
  have hspeaks := h.speaking run hmem
  have haffect : (d.affect run.id effect).runs = d.runs ∧
      (d.affect run.id effect).nextId = d.nextId ∧ (d.affect run.id effect).calls = d.calls ∧
      (d.affect run.id effect).unretired = d.unretired := by
    cases effect <;> exact ⟨rfl, rfl, rfl, rfl⟩
  obtain ⟨hruns, hid, hcalls, hunretired⟩ := haffect
  have hlaunched : ((d.affect run.id effect).setRun run').launched = d.launched := by
    rw [launched_setRun, launched, hruns, launched]
  have hsubmitted : ((d.affect run.id effect).setRun run').submitted = d.submitted :=
    congrArg (List.filterMap Call.submitted?) hcalls
  exact {
    speaking := by
      intro r hr
      rw [setRun, hruns] at hr
      obtain ⟨old, hold, rfl⟩ := List.mem_map.1 hr
      split
      · exact hmove.speaksForItself hspeaks
      · exact h.speaking old hold
    numbered := by
      rw [hlaunched, hsubmitted]
      exact hid ▸ h.numbered
    distinct := by
      rw [hlaunched, hsubmitted]
      exact h.distinct
    queued := by
      rw [hlaunched]
      intro e he
      cases effect with
      | post posted =>
          rcases List.mem_append.1 he with hold | hnew
          · exact h.queued e hold
          · obtain rfl := List.mem_singleton.1 hnew
            rw [hmove.request_of_post hspeaks rfl]
            exact List.mem_map_of_mem hmem
      | _ => exact h.queued e he
    registered := fun id job hc => hunretired ▸ h.registered id job (hcalls ▸ hc)
    ranged := fun c hc => h.ranged c (hcalls ▸ hc) }

/-- A step keeps the order of submissions. -/
theorem steps (h : d.Orderly) {step : Step} {seen : Option Observation}
    (hstep : d.Steps step seen d') : d'.Orderly := by
  cases hstep with
  | submit s size job hjob =>
      refine h.begin rfl fun job' hjob' => ?_
      obtain rfl := Option.some.inj hjob'
      rw [(Submission.job_eq_ok hjob).2.1]
      exact Nat.le_add_right _ _
  | refuse => exact h
  | cancel => exact h.begin rfl nofun
  | shutdown => exact h.begin rfl nofun
  | call index call hcall => exact h.advance hcall
  | run step run run' effect hrun htarget hmove => exact h.move hrun hmove
  | deliver n rest hqueue =>
      exact { h with queued := fun e he => h.queued e (hqueue ▸ List.mem_cons_of_mem _ he) }
  | retire id rest hqueue =>
      have hlaunched : id ∈ d.launched :=
        h.queued (.retired id) (hqueue ▸ List.mem_cons_self)
      refine { h with
        queued := fun e he => h.queued e (hqueue ▸ List.mem_cons_of_mem _ he)
        registered := fun other job hc => mem_without.2 ⟨h.registered other job hc, ?_⟩ }
      rintro rfl
      exact run?_eq_none_iff.1 (h.run?_eq_none hc rfl) hlaunched

end Orderly

end Dispatch

end PatternScan.Analysis
