import Mathlib.Data.List.Nodup
import PatternScan.Proofs.Analysis.Silence
import PatternScan.Proofs.Analysis.Tally

/-!
# Reports of a request

A request scans its range, and while it is alive the ranges by which its source grows, each
split among workers. Whatever its workers have reported is taken in order, and as long as the
request is not silent it is delivered, queued, ready to be sent, or waiting to be taken. Of
each part, therefore, what is delivered is found in the first positions of it, whether the
request has ended, has failed or is cancelled.
-/

namespace PatternScan.Analysis

variable {find : Nat → Option RecordResult} {Readable : Nat → Prop}

/-! ## Beginnings of parts -/

/-- The positions lie in the parts. Those in each part are the first ones of it, in their
order, and their records can be read. -/
structure Begins (Readable : Nat → Prop) (parts : List ScanRange) (order : List Nat) : Prop where
  placed : ∀ p ∈ order, ∃ part ∈ parts, part.holds p = true
  begun : ∀ part ∈ parts, order.filter part.holds <+: List.range' part.start part.size
  readable : ∀ p ∈ order, Readable p

theorem ScanRange.EndToEnd.append {first middle last : Nat} {parts parts' : List ScanRange}
    (h : EndToEnd first parts middle) (h' : EndToEnd middle parts' last) :
    EndToEnd first (parts ++ parts') last := by
  induction parts generalizing first with
  | nil =>
      obtain rfl : first = middle := h
      exact h'
  | cons part rest ih =>
      obtain ⟨hstart, hle, hrest⟩ := h
      exact ⟨hstart, hle, ih hrest⟩

namespace Begins

variable {parts parts' : List ScanRange} {order order' : List Nat} {first last : Nat}

/-- What holds of positions holds of those that come first among them. -/
theorem restrict (h : Begins Readable parts order) (hinitial : order' <+: order) :
    Begins Readable parts order' where
  placed := fun p hp => h.placed p (hinitial.subset hp)
  begun := fun part hpart => (hinitial.filter part.holds).trans (h.begun part hpart)
  readable := fun p hp => h.readable p (hinitial.subset hp)

/-- Positions in later parts come behind those in earlier ones. -/
theorem append (h : Begins Readable parts order) (h' : Begins Readable parts' order')
    (hparts : ScanRange.EndToEnd first (parts ++ parts') last) :
    Begins Readable (parts ++ parts') (order ++ order') := by
  have hbefore := (List.pairwise_append.1 hparts.pairwise).2.2
  -- A part that ends before another one begins shares no position with it.
  have hapart {r s : ScanRange} (hr : r ∈ parts) (hs : s ∈ parts') {p : Nat}
      (hp : r.holds p = true) (hp' : s.holds p = true) : False := by
    have hle := hbefore r hr s hs
    rw [ScanRange.holds_iff] at hp hp'
    omega
  constructor
  · intro p hp
    rcases List.mem_append.1 hp with hp | hp
    · obtain ⟨part, hpart, hholds⟩ := h.placed p hp
      exact ⟨part, List.mem_append_left _ hpart, hholds⟩
    · obtain ⟨part, hpart, hholds⟩ := h'.placed p hp
      exact ⟨part, List.mem_append_right _ hpart, hholds⟩
  · intro part hpart
    rw [List.filter_append]
    rcases List.mem_append.1 hpart with hpart | hpart
    · have hnone : order'.filter part.holds = [] := by
        refine List.filter_eq_nil_iff.2 fun p hp hholds => ?_
        obtain ⟨other, hother, hholds'⟩ := h'.placed p hp
        exact hapart hpart hother hholds hholds'
      rw [hnone, List.append_nil]
      exact h.begun part hpart
    · have hnone : order.filter part.holds = [] := by
        refine List.filter_eq_nil_iff.2 fun p hp hholds => ?_
        obtain ⟨other, hother, hholds'⟩ := h.placed p hp
        exact hapart hother hpart hholds' hholds
      rw [hnone, List.nil_append]
      exact h'.begun part hpart
  · intro p hp
    rcases List.mem_append.1 hp with hp | hp
    · exact h.readable p hp
    · exact h'.readable p hp

/-- No position comes twice. -/
theorem nodup (h : Begins Readable parts order) : order.Nodup := by
  refine List.nodup_iff_count_le_one.2 fun p => ?_
  by_cases hp : p ∈ order
  · obtain ⟨part, hpart, hholds⟩ := h.placed p hp
    have hbegun : (order.filter part.holds).Nodup :=
      (List.nodup_range' ..).sublist (h.begun part hpart).sublist
    rw [← List.count_filter hholds]
    exact List.nodup_iff_count_le_one.1 hbegun p
  · rw [List.count_eq_zero_of_not_mem hp]
    exact Nat.zero_le 1

end Begins

/-- The positions that a sequential scan of the range comes through before a record that
cannot be read. -/
def ScanRange.scanned (get : Nat → Except ScanError Record) (r : ScanRange) : List Nat :=
  (List.range' r.start r.size).takeWhile fun p => (get p).isOk

theorem Begins.prefix_scanned {get : Nat → Except ScanError Record} {parts : List ScanRange}
    {order : List Nat} (h : Begins (fun p => (get p).isOk = true) parts order) {part : ScanRange}
    (hpart : part ∈ parts) : order.filter part.holds <+: part.scanned get := by
  obtain ⟨rest, hrest⟩ := h.begun part hpart
  have hreadable : ∀ p ∈ order.filter part.holds, (get p).isOk = true := fun p hp =>
    h.readable p (List.mem_of_mem_filter hp)
  rw [ScanRange.scanned, ← hrest, List.takeWhile_append_of_pos hreadable]
  exact List.prefix_append _ _

/-- The positions reported by the workers are the first ones of their parts. -/
theorem Tally.begins {parts : List ScanRange} {workers : List Worker} {order : List Nat}
    (h : Tally find Readable parts workers order) : Begins Readable parts order := by
  have hpart {i : Nat} {part : ScanRange} (hi : parts[i]? = some part) :
      order.filter part.holds <+: List.range' part.start part.size ∧
        ∀ p ∈ order.filter part.holds, Readable p := by
    rcases Nat.lt_or_ge i workers.length with hlt | hge
    · obtain ⟨done, hdone, hfollows⟩ :=
        h.hired i part _ hi (List.getElem?_eq_getElem hlt)
      have hposition := hfollows.position
      have hinside := hfollows.inside
      have hsize : part.size = done + (part.size - done) := by
        rw [ScanRange.size]
        omega
      rw [hdone]
      refine ⟨?_, fun p hp => ?_⟩
      · rw [hsize, ← List.range'_append_1]
        exact List.prefix_append _ _
      · rw [List.mem_range'_1] at hp
        exact hfollows.readable p hp.1 (by omega)
    · rw [h.waiting i part hi hge]
      exact ⟨List.nil_prefix, fun p hp => absurd hp List.not_mem_nil⟩
  constructor
  · exact h.placed
  · intro part hmem
    obtain ⟨i, hi⟩ := List.mem_iff_getElem?.1 hmem
    exact (hpart hi).1
  · intro p hp
    obtain ⟨part, hmem, hholds⟩ := h.placed p hp
    obtain ⟨i, hi⟩ := List.mem_iff_getElem?.1 hmem
    exact (hpart hi).2 p (List.mem_filter.2 ⟨hp, hholds⟩)

/-! ## Ranges of a request -/

namespace Job

/-- The parts that the workers of a scan get. -/
def split (job : Job) (r : ScanRange) : List ScanRange :=
  ScanRange.split r.start r.size job.workers

/-- The ranges to be scanned after the source was asked for its size. -/
def grow (ranges : List ScanRange) (answer : Except ScanError Nat) : List ScanRange :=
  match ranges.getLast?, answer with
  | some last, .ok size => if last.stop < size then ranges ++ [⟨last.stop, size⟩] else ranges
  | _, _ => ranges

/-- The ranges that a request scans one after another: its own, and those by which its source
has grown. -/
def ranges (job : Job) (answers : List (Except ScanError Nat)) : List ScanRange :=
  answers.foldl grow [job.range]

/-- The parts of these ranges, each of which one worker gets. -/
def parts (job : Job) (answers : List (Except ScanError Nat)) : List ScanRange :=
  (job.ranges answers).flatMap job.split

variable {job : Job} {answers : List (Except ScanError Nat)} {earlier : List ScanRange}
  {last : ScanRange}

theorem ranges_snoc {answer : Except ScanError Nat} (h : job.ranges answers = earlier ++ [last]) :
    job.ranges (answers ++ [answer]) = match answer with
      | .ok size =>
          if last.stop < size then (earlier ++ [last]) ++ [⟨last.stop, size⟩]
          else earlier ++ [last]
      | .error _ => earlier ++ [last] := by
  rw [ranges, List.foldl_append, ← ranges, h, List.foldl_cons, List.foldl_nil]
  cases answer <;> simp [grow]

theorem split_endToEnd (job : Job) {r : ScanRange} (h : r.start ≤ r.stop) :
    ScanRange.EndToEnd r.start (job.split r) r.stop := by
  have hsplit := ScanRange.split_endToEnd r.start r.size job.workers
  rwa [ScanRange.size, Nat.add_sub_cancel' h] at hsplit

end Job

/-! ## Reports of a run -/

/-- What the source answered when it was asked for its size. -/
def RequestEvent.polled? : RequestEvent → Option (Except ScanError Nat)
  | polled answer => some answer
  | _ => none

/-- The parts for which workers are still to be started. -/
def Phase.left? : Phase → Option (List ScanRange)
  | starting parts => some parts
  | hiring part rest => some (part :: rest)
  | _ => none

/-- The results in notifications. -/
def results (ns : List Notification) : List RecordResult := ns.flatMap Notification.batch

namespace Run

/-- What the workers of a run have reported: `told` are the results in the reports taken so
far, and `earlier` are the ranges scanned before the current one. -/
structure Reports (find : Nat → Option RecordResult) (Readable : Nat → Prop) (run : Run)
    (earlier : List ScanRange) (told : List RecordResult) : Prop where
  range : run.scan.range.start ≤ run.scan.range.stop
  before : ScanRange.EndToEnd run.job.range.start (earlier.flatMap run.job.split)
    run.scan.range.start
  tally : ∃ past order,
    told ++ run.events.flatMap WorkerEvent.results = (past ++ order).filterMap find ∧
      Begins Readable (earlier.flatMap run.job.split) past ∧
      Tally find Readable (run.job.split run.scan.range) run.workers order
  left : ∀ left, run.phase.left? = some left →
    (run.job.split run.scan.range).drop run.workers.length = left

theorem reports_ofJob (id : RequestId) {job : Job} (h : job.range.start ≤ job.range.stop) :
    (ofJob id job).Reports find Readable [] [] where
  range := h
  before := rfl
  tally := ⟨[], [], rfl, ⟨nofun, nofun, nofun⟩, .nil _⟩
  left := fun _ hleft => Option.some.inj hleft

namespace Reports

variable {halted silenced : Bool} {run run' : Run} {earlier : List ScanRange}
  {told : List RecordResult} {event : RequestEvent} {effect : Effect} {part : ScanRange}
  {rest : List ScanRange} {posted : List Notification} {c : Course}

theorem parts_endToEnd (h : run.Reports find Readable earlier told) :
    ScanRange.EndToEnd run.job.range.start
      (earlier.flatMap run.job.split ++ run.job.split run.scan.range) run.scan.range.stop :=
  h.before.append (run.job.split_endToEnd h.range)

/-- A run that enters another phase, without starting anew. -/
theorem enter (h : run.Reports find Readable earlier told) {phase : Phase}
    (hleft : phase.left? = none ∨ phase.left? = run.phase.left?) :
    (run.enter phase).Reports find Readable earlier told where
  range := h.range
  before := h.before
  tally := h.tally
  left := by
    intro left hphase
    rcases hleft with hnone | hsame
    · cases hnone.symm.trans hphase
    · exact h.left left (hsame.symm.trans hphase)

theorem start (h : run.Reports find Readable earlier told) {parts : List ScanRange}
    (hphase : run.phase = .starting parts) :
    (run.start halted parts).Reports find Readable earlier told := by
  cases parts with
  | nil => exact h.enter (.inl rfl)
  | cons part rest =>
      cases halted with
      | true => exact h.enter (.inl rfl)
      | false => exact h.enter (.inr (by rw [hphase]; rfl))

/-- A worker is started on the first part that is left. -/
theorem hire (h : run.Reports find Readable earlier told) (hphase : run.phase = .hiring part rest) :
    (run.hire part rest).Reports find Readable earlier told where
  range := h.range
  before := h.before
  tally := by
    obtain ⟨past, order, hstream, hpast, htally⟩ := h.tally
    have hdrop := h.left (part :: rest) (by rw [hphase]; rfl)
    have hpart : (run.job.split run.scan.range)[run.workers.length]? = some part := by
      rw [← List.head?_drop, hdrop]
      rfl
    have hle := ((run.job.split_endToEnd h.range).bounds (List.mem_of_getElem? hpart)).2.1
    exact ⟨past, order, hstream, hpast, htally.hire hpart hle⟩
  left := by
    intro left hleft
    obtain rfl := Option.some.inj hleft
    have hdrop := h.left (part :: rest) (by rw [hphase]; rfl)
    rw [Run.hire, List.length_append, List.length_singleton, ← List.tail_drop, hdrop]
    rfl

/-- A report that is taken is told. -/
theorem take (h : run.Reports find Readable earlier told) {event : WorkerEvent}
    {rest : List WorkerEvent} (hevents : run.events = event :: rest) :
    (run.take event rest).Reports find Readable earlier (told ++ event.results) := by
  obtain ⟨past, order, hstream, hpast, htally⟩ := h.tally
  rw [hevents, List.flatMap_cons, ← List.append_assoc] at hstream
  cases event <;> exact ⟨h.range, h.before, ⟨past, order, hstream, hpast, htally⟩, nofun⟩

theorem fail (h : run.Reports find Readable earlier told) (percent : Nat) (error : String) :
    (run.fail percent error).Reports find Readable earlier told where
  range := h.range
  before := h.before
  tally := h.tally
  left := nofun

/-- What is new is scanned once everything before it was taken. -/
theorem begin (h : run.Reports find Readable earlier told) (hevents : run.events = []) {size : Nat}
    (hsize : run.scan.range.stop < size) :
    (run.begin (.further ⟨run.scan.range.stop, size⟩)).Reports find Readable
      (earlier ++ [run.scan.range]) told where
  range := Nat.le_of_lt hsize
  before := by
    rw [List.flatMap_append, List.flatMap_singleton]
    exact h.parts_endToEnd
  tally := by
    obtain ⟨past, order, hstream, hpast, htally⟩ := h.tally
    rw [hevents] at hstream
    refine ⟨past ++ order, [], ?_, ?_, .nil _⟩
    · rw [List.append_nil]
      exact hstream
    · rw [List.flatMap_append, List.flatMap_singleton]
      exact hpast.append htally.begins h.parts_endToEnd
  left := fun _ hleft => Option.some.inj hleft

/-- A worker goes on, and may report. -/
theorem work (h : run.Reports find Readable earlier told) {index : Nat} {w next : Worker}
    {event : Option WorkerEvent} (hworker : run.workers[index]? = some w)
    (hstep : w.step halted run.listening = some (next, event)) :
    (run.afterWork index next event).Reports find Readable earlier told where
  range := h.range
  before := h.before
  tally := by
    obtain ⟨past, order, hstream, hpast, htally⟩ := h.tally
    obtain ⟨positions, hnext, hresults⟩ :=
      htally.step (run.job.split_endToEnd h.range) hworker hstep
    have hevents : (run.afterWork index next event).events =
        run.events ++ if run.listening then event.toList else [] := by
      cases hlistening : run.listening <;> simp [afterWork, hlistening]
    refine ⟨past, order ++ positions, ?_, hpast, hnext⟩
    rw [hevents, List.flatMap_append, hresults, ← List.append_assoc, hstream,
      ← List.filterMap_append, List.append_assoc]
  left := by
    rw [afterWork, List.length_set]
    exact h.left

/-- A worker gets what it reads. -/
theorem load (h : run.Reports find Readable earlier told) {index : Nat} {w : Worker}
    {answer : Except ScanError Record} (hworker : run.workers[index]? = some w)
    (hstage : w.stage = .loading)
    (hanswer : ∀ record, answer = .ok record →
      find w.position = run.job.context.analyze? record ∧ Readable w.position) :
    (run.afterLoad index w answer).Reports find Readable earlier told where
  range := h.range
  before := h.before
  tally := by
    obtain ⟨past, order, hstream, hpast, htally⟩ := h.tally
    exact ⟨past, order, hstream, hpast,
      htally.load (run.job.split_endToEnd h.range) hworker hstage hanswer⟩
  left := by
    rw [afterLoad, List.length_set]
    exact h.left

/-- A run has gone on to another one: its reports are those before and some new ones, the
ranges grow by what it was told of its source, and unless it is silenced, what was ready to be
sent and what is new is posted or ready. -/
def Next (find : Nat → Option RecordResult) (Readable : Nat → Prop) (silenced : Bool) (run : Run)
    (earlier : List ScanRange) (told : List RecordResult) (event : RequestEvent) (run' : Run) :
    Prop :=
  ∃ earlier' new, run'.Reports find Readable earlier' (told ++ new) ∧
    (∀ answers, run.job.ranges answers = earlier ++ [run.scan.range] →
      run.job.ranges (answers ++ event.polled?.toList) = earlier' ++ [run'.scan.range]) ∧
    (silenced = false → results run.phase.pending ++ new =
      results event.posted?.toList ++ results run'.phase.pending)

/-- A run that goes on in the same range without taking a report. -/
theorem next_of_same (h : run'.Reports find Readable earlier told)
    (hrange : run'.scan.range = run.scan.range) (hpolled : event.polled? = none)
    (hpending : silenced = false → results run.phase.pending =
      results event.posted?.toList ++ results run'.phase.pending) :
    Next find Readable silenced run earlier told event run' := by
  refine ⟨earlier, [], by rwa [List.append_nil], fun answers hanswers => ?_, fun hsilenced => ?_⟩
  · rw [hpolled, hrange]
    simpa using hanswers
  · rw [List.append_nil]
    exact hpending hsilenced

/-- A request that is alive learns the size of its source. -/
theorem next_of_poll (h : run.Reports find Readable earlier told)
    (hphase : run.phase = .polling) (hevents : run.events = []) (answer : Except ScanError Nat) :
    Next find Readable silenced run earlier told (.polled answer) (run.poll answer) := by
  -- Unless its source has grown, the run stays in its range.
  have hstay (phase : Phase) (hleft : phase.left? = none) (hpending : phase.pending = [])
      (hranges : ∀ answers, run.job.ranges answers = earlier ++ [run.scan.range] →
        run.job.ranges (answers ++ [answer]) = earlier ++ [run.scan.range]) :
      Next find Readable silenced run earlier told (.polled answer) (run.enter phase) := by
    refine ⟨earlier, [], ?_, hranges, fun _ => ?_⟩
    · rw [List.append_nil]
      exact h.enter (.inl hleft)
    · rw [hphase]
      exact congrArg results hpending.symm
  cases answer with
  | error e => exact hstay _ rfl rfl fun answers hanswers => Job.ranges_snoc hanswers
  | ok size =>
      have hunchanged (hle : size ≤ run.scan.range.stop) (answers : List (Except ScanError Nat))
          (hanswers : run.job.ranges answers = earlier ++ [run.scan.range]) :
          run.job.ranges (answers ++ [.ok size]) = earlier ++ [run.scan.range] :=
        (Job.ranges_snoc hanswers).trans (if_neg (Nat.not_lt.2 hle))
      rw [Run.poll]
      rcases Nat.lt_trichotomy size run.scan.range.stop with hshrunk | hsame | hgrown
      · rw [if_pos hshrunk]
        exact hstay _ rfl rfl (hunchanged (Nat.le_of_lt hshrunk))
      · rw [if_neg (Nat.not_lt.2 (Nat.le_of_eq hsame.symm)), if_pos hsame]
        exact hstay _ rfl rfl (hunchanged (Nat.le_of_eq hsame))
      · rw [if_neg (Nat.lt_asymm hgrown), if_neg (Nat.ne_of_gt hgrown)]
        refine ⟨earlier ++ [run.scan.range], [], ?_, fun answers hanswers => ?_, fun _ => ?_⟩
        · rw [List.append_nil]
          exact h.begin hevents hgrown
        · exact (Job.ranges_snoc hanswers).trans (if_pos hgrown)
        · rw [hphase]
          rfl

/-- Every move of a run leads on in its reports. -/
theorem moves (h : run.Reports find Readable earlier told) (hcourse : run.OnCourse posted c)
    (hmove : run.Moves halted silenced event run' effect)
    (hread : ∀ p record, event = .read p (.ok record) →
      find p = run.job.context.analyze? record ∧ Readable p) :
    Next find Readable silenced run earlier told event run' := by
  cases hmove with
  | start parts hphase =>
      refine next_of_same (h.start hphase) ?_ rfl fun _ => ?_
      · cases parts with
        | nil => rfl
        | cons part rest => cases halted <;> rfl
      · rw [hphase]
        cases parts with
        | nil => rfl
        | cons part rest => cases halted <;> rfl
  | hire part rest hphase =>
      exact next_of_same (h.hire hphase) rfl rfl fun _ => by rw [hphase]; rfl
  | take event rest hphase hevents =>
      refine ⟨earlier, event.results, h.take hevents, fun answers hanswers => ?_, fun _ => ?_⟩
      · refine (congrArg run.job.ranges (List.append_nil answers)).trans (hanswers.trans ?_)
        cases event <;> rfl
      · rw [hphase]
        cases event with
        | batch processed batch =>
            simp [results, Phase.pending, Run.take, RequestEvent.posted?,
              WorkerEvent.results, Notification.progress]
        | failed error => rfl
  | close hphase hevents hidle =>
      refine next_of_same (h.enter (.inl ?_)) rfl rfl fun _ => ?_
      · rw [afterScan]
        split <;> rfl
      · rw [hphase, afterScan]
        simp only [Run.enter]
        split <;> rfl
  | finish hphase =>
      have hsame (phase : Phase) (hleft : phase.left? = none)
          (hpending : results phase.pending = []) :
          Next find Readable silenced run earlier told .quiet (run.enter phase) :=
        next_of_same (h.enter (.inl hleft)) rfl rfl fun _ => by
          rw [hphase]
          exact hpending.symm
      cases halted with
      | true => exact hsame _ rfl rfl
      | false =>
          simp only [Run.finish, Bool.false_eq_true, if_false]
          split <;> exact hsame _ rfl rfl
  | fail percent error hphase =>
      refine next_of_same (h.fail percent error) rfl rfl fun _ => ?_
      rw [hphase]
      rfl
  | leave farewell hphase =>
      refine next_of_same (h.enter (.inl ?_)) rfl rfl fun _ => ?_
      · cases farewell <;> rfl
      · rw [hphase]
        cases farewell <;> rfl
  | ask n next hphase =>
      have hon := hcourse.phase
      rw [hphase] at hon
      cases silenced with
      | true =>
          refine next_of_same (h.enter (.inl (by cases hon <;> rfl))) rfl rfl fun hsilenced => ?_
          cases hsilenced
      | false => exact next_of_same (h.enter (.inl rfl)) rfl rfl fun _ => by rw [hphase]; rfl
  | tell n next hphase =>
      have hon := hcourse.phase
      rw [hphase] at hon
      refine next_of_same (h.enter (.inl (by cases hon <;> rfl))) rfl rfl fun _ => ?_
      rw [hphase]
      simp [results, Phase.pending, RequestEvent.posted?, Run.enter]
  | rest hphase =>
      refine next_of_same (h.enter (.inl ?_)) rfl rfl fun _ => ?_
      · split <;> rfl
      · rw [hphase]
        cases halted <;> rfl
  | poll answer hphase =>
      have hon := hcourse.phase
      rw [hphase] at hon
      cases hon
      exact h.next_of_poll hphase (hcourse.settled rfl).1 answer
  | retire hphase =>
      refine next_of_same (h.enter (.inl rfl)) rfl rfl fun _ => ?_
      rw [hphase]
      rfl
  | work index w next event hworker hstep =>
      exact next_of_same (h.work hworker hstep) rfl rfl fun _ => rfl
  | load index w answer hworker hstage =>
      refine next_of_same (h.load hworker hstage fun record hrecord => ?_) rfl rfl fun _ => rfl
      exact hread w.position record (by rw [hrecord])

end Reports

end Run

/-! ## Requests -/

/-- The notifications in the mail. -/
def RequestView.queued (v : RequestView) : List Notification :=
  v.mail.filterMap Envelope.notification?

/-- What the workers of a request have reported, in view of what was delivered and of what its
source was found to be. Unless the request is silent, the reports taken are delivered, queued
or ready to be sent. -/
structure RequestView.Reports (get : Nat → Except ScanError Record)
    (answers : List (Except ScanError Nat)) (delivered : List Notification) (v : RequestView) :
    Prop where
  unlaunched : v.run = none → delivered = [] ∧ answers = []
  launched : ∀ run, v.run = some run → ∃ earlier told,
    run.Reports (fun p => (get p).toOption.bind run.job.context.analyze?)
      (fun p => (get p).isOk = true) earlier told ∧
    run.job.ranges answers = earlier ++ [run.scan.range] ∧
    results delivered <+: told ∧
    (v.Hushed ∨ told = results delivered ++ results v.queued ++ results run.phase.pending)

namespace RequestView.Reports

variable {id : RequestId} {v v' : RequestView} {event : RequestEvent}
  {get : Nat → Except ScanError Record} {answers : List (Except ScanError Nat)}
  {delivered posted : List Notification}

/-- A step that touches neither the run nor the notifications in the mail. -/
theorem congr (h : v.Reports get answers delivered) (hrun : v'.run = v.run)
    (hqueued : v'.queued = v.queued) (hhushed : v.Hushed → v'.Hushed) :
    v'.Reports get answers delivered where
  unlaunched := fun hnone => h.unlaunched (hrun.symm.trans hnone)
  launched := by
    intro run hsome
    obtain ⟨earlier, told, hreports, hranges, hinitial, hstate⟩ :=
      h.launched run (hrun.symm.trans hsome)
    refine ⟨earlier, told, hreports, hranges, hinitial, hstate.imp hhushed fun htold => ?_⟩
    rw [hqueued]
    exact htold

/-- A step that leaves the request silent and delivers nothing. -/
theorem hush (h : v.Reports get answers delivered) (hrun : v'.run = v.run)
    (hhushed : v'.Hushed) : v'.Reports get answers delivered where
  unlaunched := fun hnone => h.unlaunched (hrun.symm.trans hnone)
  launched := by
    intro run hsome
    obtain ⟨earlier, told, hreports, hranges, hinitial, -⟩ :=
      h.launched run (hrun.symm.trans hsome)
    exact ⟨earlier, told, hreports, hranges, hinitial, .inl hhushed⟩

theorem launch (h : v.Reports get answers delivered) {job : Job} (hrun : v.run = none)
    (hrange : job.range.start ≤ job.range.stop) (hmailed : v.Mailed id) :
    ({ v with run := some (.ofJob id job) } : RequestView).Reports get answers delivered where
  unlaunched := nofun
  launched := by
    intro run hsome
    obtain rfl := Option.some.inj hsome
    obtain ⟨rfl, rfl⟩ := h.unlaunched hrun
    refine ⟨[], [], Run.reports_ofJob id hrange, rfl, List.nil_prefix, .inr ?_⟩
    simp [queued, hmailed.mail_eq_nil hrun, results, Run.ofJob, Run.begin, Phase.pending]

/-- What is delivered was in the mail. -/
theorem deliver (h : v.Reports get answers delivered) {n : Notification} {rest : List Envelope}
    (hmail : v.mail = .notification n :: rest) (hmailed : v.Mailed id) (hhushed : ¬ v.Hushed) :
    ({ v with mail := rest } : RequestView).Reports get answers (delivered ++ [n]) where
  unlaunched := fun hnone => absurd (hmail.symm.trans (hmailed.mail_eq_nil hnone)) nofun
  launched := by
    intro run hsome
    obtain ⟨earlier, told, hreports, hranges, hinitial, hstate⟩ := h.launched run hsome
    have htold : told = results (delivered ++ [n]) ++
        results (rest.filterMap Envelope.notification?) ++ results run.phase.pending := by
      rw [hstate.resolve_left hhushed]
      simp [queued, hmail, results, Envelope.notification?]
    refine ⟨earlier, told, hreports, hranges, ?_, .inr htold⟩
    rw [htold, List.append_assoc]
    exact List.prefix_append _ _

/-- A move of the run of a request that is not silent posts what was ready to be sent. -/
theorem move (h : v.Reports get answers delivered) {run run' : Run} {effect : Effect}
    (hrun : v.run = some run) (hcourse : v.OnCourse id posted)
    (hmove : run.Moves v.halted v.silenced event run' effect)
    (hhushed : v.Hushed → (v.after run' effect).Hushed)
    (hread : ∀ p answer, event = .read p answer → answer = get p) :
    (v.after run' effect).Reports get (answers ++ event.polled?.toList) delivered where
  unlaunched := fun hnone => by cases effect <;> cases hnone
  launched := by
    intro r hr
    have hrun' : (v.after run' effect).run = some run' := by cases effect <;> rfl
    obtain rfl := Option.some.inj (hrun'.symm.trans hr)
    obtain ⟨-, c, hon, -⟩ := hcourse.launched run hrun
    obtain ⟨earlier, told, hreports, hranges, hinitial, hstate⟩ := h.launched run hrun
    obtain ⟨earlier', new, hnext, hgrown, hnew⟩ := hreports.moves hon hmove
      fun p record hevent => by
        have hget := hread p _ hevent
        simp [← hget, Except.toOption, Except.isOk, Except.toBool]
    rw [hmove.id_and_job.2]
    refine ⟨earlier', told ++ new, hnext, hgrown answers hranges,
      hinitial.trans (List.prefix_append _ _), ?_⟩
    by_cases hsilent : v.Hushed
    · exact .inl (hhushed hsilent)
    · refine .inr ?_
      have hsilenced : v.silenced = false :=
        Bool.eq_false_iff.2 fun hsilenced => hsilent (.silenced hsilenced)
      have hmail : results (v.after run' effect).queued =
          results v.queued ++ results event.posted?.toList := by
        cases hmove with
        | tell | retire =>
            simp [queued, RequestView.after, results, RequestEvent.posted?,
              Envelope.notification?]
        | _ => exact (List.append_nil _).symm
      rw [hstate.resolve_left hsilent, hmail, List.append_assoc, hnew hsilenced]
      simp only [List.append_assoc]

end RequestView.Reports

/-- A step of a request adds to its reports what its workers report, and delivers no others. -/
theorem RequestStep.reports {id : RequestId} {v v' : RequestView} {event : RequestEvent}
    {get : Nat → Except ScanError Record} {answers : List (Except ScanError Nat)}
    {delivered posted : List Notification} (hstep : RequestStep id v event v')
    (h : v.Reports get answers delivered) (hcourse : v.OnCourse id posted)
    (hmailed : v.Mailed id) (hread : ∀ p answer, event = .read p answer → answer = get p) :
    v'.Reports get (answers ++ event.polled?.toList)
      (delivered ++ event.delivered?.toList) := by
  have hhushed (hsilent : v.Hushed) : v'.Hushed := (hstep.hushed hsilent hmailed).1
  have hundelivered (hsilent : v.Hushed) : event.delivered? = none :=
    (hstep.hushed hsilent hmailed).2
  have hanswers : answers ++ [] = answers := List.append_nil answers
  have hdelivered : delivered ++ [] = delivered := List.append_nil delivered
  cases hstep with
  | elsewhere | activate | register | silence | withdraw | halt =>
      rw [← hanswers, ← hdelivered] at h
      exact h.congr rfl rfl hhushed
  | launch job hrun hregistered hrange =>
      rw [← hanswers, ← hdelivered] at h
      exact h.launch hrun hrange hmailed
  | move run run' event effect hrun hmove =>
      have hnone : event.delivered? = none := by cases hmove <;> rfl
      rw [hnone, Option.toList_none, hdelivered]
      exact h.move hrun hcourse hmove hhushed hread
  | deliver n rest hmail =>
      have hpolled : (if v.silenced then RequestEvent.quiet else .delivered n).polled? = none := by
        split <;> rfl
      rw [hpolled, Option.toList_none, hanswers]
      by_cases hsilent : v.Hushed
      · rw [hundelivered hsilent, Option.toList_none, hdelivered]
        exact h.hush rfl (hhushed hsilent)
      · have hsilenced : ¬ v.silenced = true := fun hsilenced => hsilent (.silenced hsilenced)
        rw [if_neg hsilenced]
        exact h.deliver hmail hmailed hsilent
  | retire rest hmail =>
      rw [← hanswers, ← hdelivered] at h
      refine h.congr rfl ?_ hhushed
      rw [RequestView.queued, RequestView.queued, hmail]
      rfl

/-- In any order of its steps, a request whose records are fixed delivers its reports only. -/
theorem RequestRun.reports {id : RequestId} {events : List RequestEvent} {v : RequestView}
    {get : Nat → Except ScanError Record} (h : RequestRun id events v)
    (hread : ∀ event ∈ events, ∀ p answer, event = .read p answer → answer = get p) :
    v.Reports get (events.filterMap RequestEvent.polled?)
      (events.filterMap RequestEvent.delivered?) := by
  induction h with
  | nil => exact ⟨fun _ => ⟨rfl, rfl⟩, nofun⟩
  | snoc events event v v' hrun hstep ih =>
      rw [List.filterMap_append, List.filterMap_append, filterMap_singleton, filterMap_singleton]
      refine hstep.reports (ih fun e he => hread e (List.mem_append_left _ he)) hrun.onCourse
        hrun.mailed (hread event (List.mem_append_right _ List.mem_cons_self))

/-- What is delivered of a request was found at the first positions of its parts. -/
theorem RequestView.Reports.begins {v : RequestView} {get : Nat → Except ScanError Record}
    {answers : List (Except ScanError Nat)} {delivered : List Notification} {run : Run}
    (h : v.Reports get answers delivered) (hrun : v.run = some run) :
    ∃ order, results delivered =
        order.filterMap (fun p => (get p).toOption.bind run.job.context.analyze?) ∧
      Begins (fun p => (get p).isOk = true) (run.job.parts answers) order := by
  obtain ⟨earlier, told, hreports, hranges, hinitial, -⟩ := h.launched run hrun
  obtain ⟨past, order, hstream, hpast, htally⟩ := hreports.tally
  have htold : results delivered <+: (past ++ order).filterMap
      fun p => (get p).toOption.bind run.job.context.analyze? := by
    rw [← hstream]
    exact hinitial.trans (List.prefix_append _ _)
  obtain ⟨first, hfirst, hfound⟩ := List.prefix_filterMap_iff.1 htold
  have hparts : run.job.parts answers =
      earlier.flatMap run.job.split ++ run.job.split run.scan.range := by
    rw [Job.parts, hranges, List.flatMap_append, List.flatMap_singleton]
  refine ⟨first, hfound, ?_⟩
  rw [hparts]
  exact (hpast.append htally.begins hreports.parts_endToEnd).restrict hfirst

end PatternScan.Analysis
