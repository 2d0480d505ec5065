import Mathlib.Data.List.Basic
import PatternScan.Proofs.Analysis.Request

/-!
# Steps of a dispatch

What a step of the dispatch can do, told once for all steps: a call begins or goes on, a run
makes one of its moves, or the receiver takes a message. Facts about all steps are proved by
cases on this list.
-/

namespace PatternScan.Analysis

/-- The request whose run goes on in the step. -/
def Step.target? : Step → Option RequestId
  | .drive id | .poll id _ | .work id _ | .load id _ _ => some id
  | _ => none

/-- What can be noticed when the run goes on in the step. -/
def Step.event (run : Run) : Step → RequestEvent
  | .drive _ =>
      match run.phase with
      | .telling n _ => .posted n
      | _ => .quiet
  | .poll _ answer => .polled answer
  | .load _ index answer =>
      match run.workers[index]? with
      | some w => .read w.position answer
      | none => .quiet
  | _ => .quiet

namespace Dispatch

/-- What a move of a run does to the dispatch besides changing the run. -/
def affect (d : Dispatch) (id : RequestId) : Effect → Dispatch
  | .nothing => d
  | .post e => d.post e
  | .halt => d.halt id
  | .leave => d.deactivate id

/-- Everything that a step can do. -/
inductive Steps (d : Dispatch) : Step → Option Observation → Dispatch → Prop where
  | submit (s : Submission) (size : Except ScanError Nat) (job : Job)
      (hjob : s.job d.maxWorkers size = .ok job) :
      Steps d (.submit s size) none { d with calls := d.calls ++ [.numbering job] }
  | refuse (s : Submission) (size : Except ScanError Nat) (e : ScanError)
      (hjob : s.job d.maxWorkers size = .error e) :
      Steps d (.submit s size) (some (.refused e)) d
  | cancel (id : RequestId) :
      Steps d (.cancel id) none { d with calls := d.calls ++ [.silencing id []] }
  | shutdown : Steps d .shutdown none { d with calls := d.calls ++ [.listing] }
  | call (index : Nat) (call : Call) (hcall : d.calls[index]? = some call) :
      Steps d (.call index) (d.advance call).2.2
        ((d.advance call).1.setCall index (d.advance call).2.1)
  | run (step : Step) (run run' : Run) (effect : Effect) (hrun : d.run? run.id = some run)
      (htarget : step.target? = some run.id)
      (hmove : run.Moves (d.isHalted run.id) (d.isSilenced run.id) (step.event run) run' effect) :
      Steps d step none ((d.affect run.id effect).setRun run')
  | deliver (n : Notification) (rest : List Envelope) (hqueue : d.queue = .notification n :: rest) :
      Steps d .receive ((if d.isSilenced n.request then none else some n).map .delivered)
        { d with queue := rest }
  | retire (id : RequestId) (rest : List Envelope) (hqueue : d.queue = .retired id :: rest) :
      Steps d .receive none (({ d with queue := rest } : Dispatch).retire id)

variable {d d' : Dispatch} {run run' : Run} {id : RequestId}

theorem id_of_run? (h : d.run? id = some run) : run.id = id := by
  simpa using List.find?_some h

theorem mem_of_run? (h : d.run? id = some run) : run ∈ d.runs := List.mem_of_find?_eq_some h

/-- The drive of a run is one of its moves. -/
theorem moves_of_drive? (h : d.drive? run = some d') :
    ∃ run' effect, run.Moves (d.isHalted run.id) (d.isSilenced run.id)
      (Step.event run (.drive run.id)) run' effect ∧ d' = (d.affect run.id effect).setRun run' := by
  unfold Step.event
  cases hphase : run.phase with
  | starting parts =>
      simp only [drive?, hphase, Option.some.injEq] at h
      exact ⟨_, _, .start parts hphase, h.symm⟩
  | hiring part rest =>
      simp only [drive?, hphase] at h
      obtain ⟨-, ⟨⟩⟩ := Option.ite_none_right_eq_some.1 h
      exact ⟨_, _, .hire part rest hphase, rfl⟩
  | collecting =>
      simp only [drive?, hphase, Option.map_eq_some_iff] at h
      obtain ⟨run', hrun', rfl⟩ := h
      cases hevents : run.events with
      | nil =>
          simp only [Run.collect?, hevents] at hrun'
          cases hworking : run.isWorking with
          | true => simp [hworking] at hrun'
          | false =>
              simp only [hworking, Bool.false_eq_true, if_false, Option.some.injEq] at hrun'
              exact ⟨_, _, .close hphase hevents hworking, by rw [← hrun']; rfl⟩
      | cons event rest =>
          simp only [Run.collect?, hevents, Option.some.injEq] at hrun'
          exact ⟨_, _, .take event rest hphase hevents, by rw [← hrun']; rfl⟩
  | finishing =>
      simp only [drive?, hphase, Option.some.injEq] at h
      exact ⟨_, _, .finish hphase, h.symm⟩
  | failing percent error =>
      simp only [drive?, hphase, Option.some.injEq] at h
      exact ⟨_, _, .fail percent error hphase, h.symm⟩
  | leaving farewell =>
      simp only [drive?, hphase, Option.some.injEq] at h
      exact ⟨_, _, .leave farewell hphase, h.symm⟩
  | asking n next =>
      simp only [drive?, hphase, Option.some.injEq] at h
      exact ⟨_, _, .ask n next hphase, h.symm⟩
  | telling n next =>
      simp only [drive?, hphase, Option.some.injEq] at h
      exact ⟨_, _, .tell n next hphase, h.symm⟩
  | resting =>
      simp only [drive?, hphase, Option.some.injEq] at h
      exact ⟨_, _, .rest hphase, h.symm⟩
  | polling => simp [drive?, hphase] at h
  | retiring =>
      simp only [drive?, hphase, Option.some.injEq] at h
      exact ⟨_, _, .retire hphase, h.symm⟩
  | gone => simp [drive?, hphase] at h

/-- The step of a worker is a move of its run. -/
theorem moves_of_work? {index : Nat} (h : d.work? run index = some d') :
    ∃ run' effect, run.Moves (d.isHalted run.id) (d.isSilenced run.id)
      (Step.event run (.work run.id index)) run' effect ∧
        d' = (d.affect run.id effect).setRun run' := by
  simp only [work?, Option.bind_eq_some_iff, Option.map_eq_some_iff] at h
  obtain ⟨w, hworker, ⟨next, event⟩, hstep, rfl⟩ := h
  exact ⟨_, _, .work index w next event hworker hstep, rfl⟩

/-- The read of a worker is a move of its run. -/
theorem moves_of_load? {index : Nat} {answer : Except ScanError Record}
    (h : d.load? run index answer = some d') :
    ∃ run' effect, run.Moves (d.isHalted run.id) (d.isSilenced run.id)
      (Step.event run (.load run.id index answer)) run' effect ∧
        d' = (d.affect run.id effect).setRun run' := by
  simp only [load?, Option.bind_eq_some_iff] at h
  obtain ⟨w, hworker, h⟩ := h
  obtain ⟨hstage, ⟨⟩⟩ := Option.ite_none_right_eq_some.1 h
  simp only [Step.event, hworker]
  exact ⟨_, _, .load index w answer hworker hstage, rfl⟩

/-- Learning the size of the source is a move of the run. -/
theorem moves_of_poll? {answer : Except ScanError Nat} (h : d.poll? run answer = some d') :
    ∃ run' effect, run.Moves (d.isHalted run.id) (d.isSilenced run.id)
      (Step.event run (.poll run.id answer)) run' effect ∧
        d' = (d.affect run.id effect).setRun run' := by
  cases hphase : run.phase with
  | polling =>
      simp only [poll?, hphase, Option.some.injEq] at h
      exact ⟨_, _, .poll answer hphase, h.symm⟩
  | _ => simp [poll?, hphase] at h

/-- A step in which a run goes on, where the run goes on in its moves only. -/
theorem steps_of_bind {step : Step} {seen : Option Observation} {f : Run → Option Dispatch}
    (htarget : step.target? = some id)
    (hf : ∀ run d', run.id = id → f run = some d' →
      ∃ run' effect, run.Moves (d.isHalted run.id) (d.isSilenced run.id)
        (step.event run) run' effect ∧ d' = (d.affect run.id effect).setRun run')
    (h : ((d.run? id).bind f).map (fun after => (after, none)) = some (d', seen)) :
    d.Steps step seen d' := by
  simp only [Option.map_eq_some_iff, Option.bind_eq_some_iff, Prod.mk.injEq] at h
  obtain ⟨d', ⟨run, hrun, hgoes⟩, rfl, rfl⟩ := h
  obtain rfl := id_of_run? hrun
  obtain ⟨run', effect, hmove, rfl⟩ := hf run d' rfl hgoes
  exact .run step run run' effect hrun htarget hmove

/-- A step does one of the things listed. -/
theorem steps_of_step? {step : Step} {seen : Option Observation}
    (h : d.step? step = some (d', seen)) : d.Steps step seen d' := by
  cases step with
  | submit s size =>
      cases hjob : s.job d.maxWorkers size with
      | error e =>
          simp only [step?, hjob, Option.some.injEq, Prod.mk.injEq] at h
          obtain ⟨rfl, rfl⟩ := h
          exact .refuse s size e hjob
      | ok job =>
          simp only [step?, hjob, Option.some.injEq, Prod.mk.injEq] at h
          obtain ⟨rfl, rfl⟩ := h
          exact .submit s size job hjob
  | cancel id =>
      simp only [step?, Option.some.injEq, Prod.mk.injEq] at h
      obtain ⟨rfl, rfl⟩ := h
      exact .cancel id
  | shutdown =>
      simp only [step?, Option.some.injEq, Prod.mk.injEq] at h
      obtain ⟨rfl, rfl⟩ := h
      exact .shutdown
  | call index =>
      simp only [step?, Option.map_eq_some_iff, Prod.mk.injEq] at h
      obtain ⟨call, hcall, rfl, rfl⟩ := h
      exact .call index call hcall
  | drive id =>
      refine steps_of_bind rfl (fun run d' hid hgoes => ?_) h
      subst hid
      exact moves_of_drive? hgoes
  | poll id size =>
      refine steps_of_bind rfl (fun run d' hid hgoes => ?_) h
      subst hid
      exact moves_of_poll? hgoes
  | work id index =>
      refine steps_of_bind rfl (fun run d' hid hgoes => ?_) h
      subst hid
      exact moves_of_work? hgoes
  | load id index record =>
      refine steps_of_bind rfl (fun run d' hid hgoes => ?_) h
      subst hid
      exact moves_of_load? hgoes
  | receive =>
      simp only [step?, Option.map_eq_some_iff, Prod.mk.injEq] at h
      obtain ⟨⟨d', n?⟩, hreceive, rfl, rfl⟩ := h
      cases hqueue : d.queue with
      | nil => simp [receive?, hqueue] at hreceive
      | cons e rest =>
          cases e with
          | notification n =>
              simp only [receive?, hqueue, Option.some.injEq, Prod.mk.injEq] at hreceive
              obtain ⟨rfl, rfl⟩ := hreceive
              exact .deliver n rest hqueue
          | retired id =>
              simp only [receive?, hqueue, Option.some.injEq, Prod.mk.injEq] at hreceive
              obtain ⟨rfl, rfl⟩ := hreceive
              exact .retire id rest hqueue

/-! ## Runs of a dispatch -/

theorem run?_setRun :
    (d.setRun run).run? id = (d.run? id).map fun r => if r.id = run.id then run else r := by
  have hid : (fun r : Run => decide ((if r.id = run.id then run else r).id = id)) =
      fun r => decide (r.id = id) := by
    funext r
    split
    · simp [*]
    · rfl
  rw [run?, setRun, List.find?_map]
  simp only [Function.comp_def, hid]
  rw [run?]

theorem run?_setRun_self {old : Run} (hrun : d.run? run.id = some old) :
    (d.setRun run).run? run.id = some run := by
  rw [run?_setRun, hrun, Option.map_some, if_pos (id_of_run? hrun)]

theorem run?_setRun_of_ne (hne : run.id ≠ id) : (d.setRun run).run? id = d.run? id := by
  rw [run?_setRun]
  cases hrun : d.run? id with
  | none => rfl
  | some r =>
      rw [Option.map_some, if_neg fun h => hne (h.symm.trans (id_of_run? hrun))]

theorem mem_without {ids : List RequestId} {other : RequestId} :
    id ∈ without ids other ↔ id ∈ ids ∧ id ≠ other := by
  simp [without]

end Dispatch

end PatternScan.Analysis
