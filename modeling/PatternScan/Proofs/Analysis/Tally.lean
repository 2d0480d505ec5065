import PatternScan.Analysis.Worker
import PatternScan.Proofs.Analysis.RangeSplit

/-!
# Positions reported by the workers

A worker reports the positions of its part in ascending order, whether it is told to stop, its
reports are taken, or a read fails. The positions that all workers have reported, in the order
of the reports, therefore hold from each part a beginning of it. A worker that is not told to
stop and reads every record reports the whole of its part before it stops.

`find` stands for the analysis of the record at a position throughout, and `Readable` for the
positions whose records can be read.
-/

namespace PatternScan.Analysis

/-- The results in a report. -/
def WorkerEvent.results : WorkerEvent → List RecordResult
  | .batch _ results => results
  | .failed _ => []

/-- The report is no failure. -/
def WorkerEvent.IsBatch (event : WorkerEvent) : Prop :=
  ∃ processed results, event = .batch processed results

variable {find : Nat → Option RecordResult} {Readable : Nat → Prop}

/-! ## One worker -/

/-- The worker has reported the first `done` positions of its part, and holds what it found
in those after them. -/
structure Worker.Follows (find : Nat → Option RecordResult) (Readable : Nat → Prop)
    (part : ScanRange) (done : Nat) (w : Worker) : Prop where
  stop : w.stop = part.stop
  position : w.position = part.start + done + w.processed
  inside : w.position ≤ part.stop
  results : w.results = (List.range' (part.start + done) w.processed).filterMap find
  readable : ∀ p, part.start ≤ p → p < w.position → Readable p
  loading : w.stage = .loading → w.position < part.stop
  reporting : ∀ processed results, w.stage = .reporting (.batch processed results) →
    results = w.results

namespace Worker.Follows

variable {part : ScanRange} {done : Nat} {w next : Worker} {event : Option WorkerEvent}
  {cancelled taken : Bool}

theorem ofRange (h : part.start ≤ part.stop) :
    (Worker.ofRange part).Follows find Readable part 0 where
  stop := rfl
  position := rfl
  inside := h
  results := rfl
  readable := fun _ hstart hlt => absurd hlt (Nat.not_lt.2 hstart)
  loading := nofun
  reporting := nofun

theorem enter (h : w.Follows find Readable part done) {stage : WorkerStage}
    (hloading : stage = .loading → w.position < part.stop)
    (hreporting : ∀ processed results, stage = .reporting (.batch processed results) →
      results = w.results) : (w.enter stage).Follows find Readable part done :=
  { h with loading := hloading, reporting := hreporting }

/-- A look whether to go on reports nothing. -/
theorem pull (h : w.Follows find Readable part done) :
    (w.pull cancelled).Follows find Readable part done := by
  unfold Worker.pull
  split
  · next hlt =>
      cases cancelled with
      | true => exact h.enter nofun nofun
      | false => exact h.enter (fun _ => h.stop ▸ hlt) nofun
  · split
    · exact h.enter nofun nofun
    · exact h.enter nofun nofun

/-- Where somebody takes the reports, a step reports the positions held, or nothing. -/
theorem step (h : w.Follows find Readable part done)
    (hstep : w.step cancelled taken = some (next, event)) :
    ∃ count, next.Follows find Readable part (done + count) ∧
      (if taken then event.toList else []).flatMap WorkerEvent.results =
        (List.range' (part.start + done) count).filterMap find := by
  have hnothing : (if taken then Option.toList none else []).flatMap WorkerEvent.results =
      (List.range' (part.start + done) 0).filterMap find := by
    cases taken <;> rfl
  cases hstage : w.stage with
  | pulling =>
      simp only [Worker.step, hstage, Option.some.injEq, Prod.mk.injEq] at hstep
      obtain ⟨rfl, rfl⟩ := hstep
      exact ⟨0, h.pull, hnothing⟩
  | loading => simp [Worker.step, hstage] at hstep
  | flushing =>
      simp only [Worker.step, hstage, Option.some.injEq, Prod.mk.injEq] at hstep
      obtain ⟨rfl, rfl⟩ := hstep
      refine ⟨0, ?_, hnothing⟩
      cases cancelled with
      | true => exact h.enter nofun nofun
      | false =>
          refine h.enter nofun fun processed results hreporting => ?_
          exact (WorkerEvent.batch.inj (WorkerStage.reporting.inj hreporting)).2.symm
  | reporting report =>
      simp only [Worker.step, hstage, Option.some.injEq, Prod.mk.injEq] at hstep
      obtain ⟨rfl, rfl⟩ := hstep
      -- Only a batch that somebody takes counts; else the worker stops with what it holds.
      cases taken with
      | false => exact ⟨0, by cases report <;> exact h.enter nofun nofun, rfl⟩
      | true =>
          cases report with
          | failed error => exact ⟨0, h.enter nofun nofun, rfl⟩
          | batch processed results =>
              obtain rfl := h.reporting processed results hstage
              refine ⟨w.processed, ?_, ?_⟩
              · exact {
                  stop := h.stop
                  position := by rw [← Nat.add_assoc]; exact h.position
                  inside := h.inside
                  results := rfl
                  readable := h.readable
                  loading := nofun
                  reporting := nofun }
              · simpa [WorkerEvent.results] using h.results
  | stopped => simp [Worker.step, hstage] at hstep

/-- A read that succeeds adds one position to those held. -/
theorem load (h : w.Follows find Readable part done) {context : Context} {chunkSize : Nat}
    {answer : Except ScanError Record} (hstage : w.stage = .loading)
    (hanswer : ∀ record, answer = .ok record →
      find w.position = context.analyze? record ∧ Readable w.position) :
    (w.load context chunkSize answer).Follows find Readable part done := by
  cases answer with
  | error e => exact h.enter nofun nofun
  | ok record =>
      obtain ⟨hfind, hreadable⟩ := hanswer record rfl
      exact {
        stop := h.stop
        position := by
          have := h.position
          simp only [Worker.load]
          omega
        inside := h.loading hstage
        results := by
          simp only [Worker.load]
          rw [List.range'_1_concat, List.filterMap_append, ← h.results, ← h.position, ← hfind]
          cases hresult : find w.position <;> simp [hresult]
        readable := by
          intro p hstart hlt
          rcases Nat.lt_succ_iff_lt_or_eq.1 hlt with hbefore | rfl
          · exact h.readable p hstart hbefore
          · exact hreadable
        loading := by
          simp only [Worker.load]
          split <;> nofun
        reporting := by
          simp only [Worker.load]
          split <;> nofun }

end Worker.Follows

/-- The worker has met no failure and was not told to stop: it reports batches only, and stops
at the end of its part when it holds nothing. -/
structure Worker.Unbroken (w : Worker) : Prop where
  reporting : ∀ event, w.stage = .reporting event → event.IsBatch
  stopped : w.stage = .stopped → w.stop ≤ w.position ∧ w.processed = 0

namespace Worker.Unbroken

variable {w next : Worker} {event : Option WorkerEvent}

theorem ofRange (part : ScanRange) : (Worker.ofRange part).Unbroken := ⟨nofun, nofun⟩

/-- A worker that is not told to stop, and whose reports are taken, goes on. -/
theorem step (h : w.Unbroken) (hstep : w.step false true = some (next, event)) :
    next.Unbroken ∧ ∀ e ∈ event.toList, e.IsBatch := by
  cases hstage : w.stage with
  | pulling =>
      simp only [Worker.step, hstage, Option.some.injEq, Prod.mk.injEq] at hstep
      obtain ⟨rfl, rfl⟩ := hstep
      refine ⟨?_, nofun⟩
      unfold pull
      split
      · exact ⟨nofun, nofun⟩
      · next hend =>
          split
          · exact ⟨nofun, nofun⟩
          · next hnone =>
              refine ⟨nofun, fun _ => ⟨Nat.not_lt.1 hend, ?_⟩⟩
              simp only [Bool.or_eq_true, decide_eq_true_eq, not_or] at hnone
              exact Nat.le_zero.1 (Nat.not_lt.1 hnone.1)
  | loading => simp [Worker.step, hstage] at hstep
  | flushing =>
      simp only [Worker.step, hstage, Option.some.injEq, Prod.mk.injEq] at hstep
      obtain ⟨rfl, rfl⟩ := hstep
      refine ⟨⟨fun report hreport => ?_, nofun⟩, nofun⟩
      exact ⟨_, _, (WorkerStage.reporting.inj hreport).symm⟩
  | reporting report =>
      obtain ⟨processed, results, rfl⟩ := h.reporting report hstage
      simp only [Worker.step, hstage, Option.some.injEq, Prod.mk.injEq] at hstep
      obtain ⟨rfl, rfl⟩ := hstep
      refine ⟨⟨nofun, nofun⟩, fun e he => ?_⟩
      exact ⟨processed, results, List.mem_singleton.1 he⟩
  | stopped => simp [Worker.step, hstage] at hstep

theorem load {context : Context} {chunkSize : Nat} {record : Record} :
    (w.load context chunkSize (.ok record)).Unbroken := by
  constructor <;> simp only [Worker.load] <;> split <;> nofun

end Worker.Unbroken

/-! ## All workers -/

/-- The positions in `order` are those reported by the workers, of which each has the part
at its own place. -/
structure Tally (find : Nat → Option RecordResult) (Readable : Nat → Prop)
    (parts : List ScanRange) (workers : List Worker) (order : List Nat) : Prop where
  hired : ∀ (i : Nat) (part : ScanRange) (w : Worker),
    parts[i]? = some part → workers[i]? = some w →
      ∃ done, order.filter part.holds = List.range' part.start done ∧
        w.Follows find Readable part done
  waiting : ∀ (i : Nat) (part : ScanRange), parts[i]? = some part → workers.length ≤ i →
    order.filter part.holds = []
  placed : ∀ p ∈ order, ∃ part ∈ parts, part.holds p = true
  count : workers.length ≤ parts.length

namespace Tally

variable {parts : List ScanRange} {workers : List Worker} {order : List Nat} {first last : Nat}

theorem nil (parts : List ScanRange) : Tally find Readable parts [] [] where
  hired := nofun
  waiting := fun _ _ _ _ => rfl
  placed := nofun
  count := Nat.zero_le _

/-- A worker for the next part begins with nothing. -/
theorem hire (h : Tally find Readable parts workers order) {part : ScanRange}
    (hpart : parts[workers.length]? = some part) (hle : part.start ≤ part.stop) :
    Tally find Readable parts (workers ++ [.ofRange part]) order where
  hired := by
    intro i other w hi hw
    rcases Nat.lt_or_ge i workers.length with hlt | hge
    · rw [List.getElem?_append_left hlt] at hw
      exact h.hired i other w hi hw
    · rw [List.getElem?_append_right hge, List.getElem?_singleton] at hw
      obtain ⟨hzero, ⟨⟩⟩ := Option.ite_none_right_eq_some.1 hw
      obtain rfl : i = workers.length := by omega
      obtain rfl : part = other := Option.some.inj (hpart.symm.trans hi)
      exact ⟨0, h.waiting _ _ hi (Nat.le_refl _), .ofRange hle⟩
  waiting := by
    intro i other hi hlen
    rw [List.length_append, List.length_singleton] at hlen
    exact h.waiting i other hi (by omega)
  placed := h.placed
  count := by
    obtain ⟨hlt, -⟩ := List.getElem?_eq_some_iff.1 hpart
    rw [List.length_append, List.length_singleton]
    omega

/-- A worker that goes on in its part reports further positions of it. The parts of the other
workers hold none of these. -/
theorem report (h : Tally find Readable parts workers order)
    (hparts : ScanRange.EndToEnd first parts last)
    {i done count : Nat} {part : ScanRange} {w next : Worker} (hpart : parts[i]? = some part)
    (hw : workers[i]? = some w) (hdone : order.filter part.holds = List.range' part.start done)
    (hnext : next.Follows find Readable part (done + count)) :
    Tally find Readable parts (workers.set i next)
      (order ++ List.range' (part.start + done) count) := by
  have hholds (p : Nat) (hp : p ∈ List.range' (part.start + done) count) :
      part.holds p = true := by
    have hposition := hnext.position
    have hinside := hnext.inside
    rw [List.mem_range'_1] at hp
    rw [ScanRange.holds_iff]
    omega
  have hlt : i < workers.length := (List.getElem?_eq_some_iff.1 hw).1
  -- A position lies in one part only, so the other parts get none of those reported.
  have hother (j : Nat) (other : ScanRange) (hne : i ≠ j) (hj : parts[j]? = some other) :
      (order ++ List.range' (part.start + done) count).filter other.holds =
        order.filter other.holds := by
    have hnone : (List.range' (part.start + done) count).filter other.holds = [] :=
      List.filter_eq_nil_iff.2 fun p hp hother =>
        hne (hparts.eq_of_holds hpart hj (hholds p hp) hother)
    rw [List.filter_append, hnone, List.append_nil]
  exact {
    hired := by
      intro j other v hj hv
      by_cases hij : i = j
      · subst hij
        obtain rfl : part = other := Option.some.inj (hpart.symm.trans hj)
        rw [List.getElem?_set_self hlt] at hv
        obtain rfl := Option.some.inj hv
        refine ⟨done + count, ?_, hnext⟩
        rw [List.filter_append, hdone, List.filter_eq_self.2 hholds, List.range'_append_1]
      · rw [List.getElem?_set_ne hij] at hv
        rw [hother j other hij hj]
        exact h.hired j other v hj hv
    waiting := by
      intro j other hj hlen
      rw [List.length_set] at hlen
      rw [hother j other (by omega) hj]
      exact h.waiting j other hj hlen
    placed := by
      intro p hp
      rcases List.mem_append.1 hp with hold | hnew
      · exact h.placed p hold
      · exact ⟨part, List.mem_of_getElem? hpart, hholds p hnew⟩
    count := by
      rw [List.length_set]
      exact h.count }

theorem exists_part (h : Tally find Readable parts workers order) {i : Nat} {w : Worker}
    (hw : workers[i]? = some w) :
    ∃ part done, parts[i]? = some part ∧
      order.filter part.holds = List.range' part.start done ∧
      w.Follows find Readable part done := by
  have hlt : i < parts.length :=
    Nat.lt_of_lt_of_le (List.getElem?_eq_some_iff.1 hw).1 h.count
  obtain ⟨done, hdone, hfollows⟩ := h.hired i _ w (List.getElem?_eq_getElem hlt) hw
  exact ⟨_, done, List.getElem?_eq_getElem hlt, hdone, hfollows⟩

/-- A step of a worker adds what it reports, if somebody takes it. -/
theorem step (h : Tally find Readable parts workers order)
    (hparts : ScanRange.EndToEnd first parts last)
    {i : Nat} {w next : Worker} {event : Option WorkerEvent} {cancelled taken : Bool}
    (hw : workers[i]? = some w) (hstep : w.step cancelled taken = some (next, event)) :
    ∃ positions, Tally find Readable parts (workers.set i next) (order ++ positions) ∧
      (if taken then event.toList else []).flatMap WorkerEvent.results =
        positions.filterMap find := by
  obtain ⟨part, done, hpart, hdone, hfollows⟩ := h.exists_part hw
  obtain ⟨count, hnext, hresults⟩ := hfollows.step hstep
  exact ⟨_, h.report hparts hpart hw hdone hnext, hresults⟩

/-- A read reports nothing. -/
theorem load (h : Tally find Readable parts workers order)
    (hparts : ScanRange.EndToEnd first parts last)
    {i : Nat} {w : Worker} {context : Context} {chunkSize : Nat}
    {answer : Except ScanError Record} (hw : workers[i]? = some w) (hstage : w.stage = .loading)
    (hanswer : ∀ record, answer = .ok record →
      find w.position = context.analyze? record ∧ Readable w.position) :
    Tally find Readable parts (workers.set i (w.load context chunkSize answer)) order := by
  obtain ⟨part, done, hpart, hdone, hfollows⟩ := h.exists_part hw
  have hnext : (w.load context chunkSize answer).Follows find Readable part (done + 0) :=
    hfollows.load hstage hanswer
  have hreport := h.report hparts hpart hw hdone hnext
  rwa [List.range'_zero, List.append_nil] at hreport

/-- Once every part had its worker and all have stopped, all positions are reported, those of
each part in ascending order. -/
theorem complete (h : Tally find Readable parts workers order)
    (hparts : ScanRange.EndToEnd first parts last) (hcount : workers.length = parts.length)
    (hstopped : ∀ w ∈ workers, w.stage = .stopped ∧ w.Unbroken) :
    order.Perm (List.range' first (last - first)) ∧
      ∀ part ∈ parts, order.filter part.holds = List.range' part.start part.size := by
  have hwhole : ∀ part ∈ parts, order.filter part.holds = List.range' part.start part.size := by
    intro part hmem
    obtain ⟨i, hi⟩ := List.mem_iff_getElem?.1 hmem
    have hlt : i < workers.length := hcount ▸ (List.getElem?_eq_some_iff.1 hi).1
    obtain ⟨done, hdone, hfollows⟩ := h.hired i part _ hi (List.getElem?_eq_getElem hlt)
    obtain ⟨hstage, hunbroken⟩ := hstopped _ (List.getElem_mem hlt)
    obtain ⟨hend, hheld⟩ := hunbroken.stopped hstage
    -- Nothing is held at the end of the part, so all of it has been reported.
    have hsize : done = part.size := by
      have hposition := hfollows.position
      have hinside := hfollows.inside
      rw [hfollows.stop] at hend
      rw [ScanRange.size]
      omega
    rw [hdone, hsize]
  exact ⟨hparts.perm_range' h.placed hwhole, hwhole⟩

end Tally

end PatternScan.Analysis
