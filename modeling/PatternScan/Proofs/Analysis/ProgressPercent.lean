import PatternScan.Proofs.Analysis.Announcements
import PatternScan.Proofs.Analysis.CancelledRequest

/-!
# The percentages that are posted

What a request posts are the notifications of its batches, each with the percentage done up to it,
and behind them its last notification or, while it is alive, that all is done. The percentages
therefore never go down and never beyond 100. A scan that comes to its end reaches 100 with its
last batch, and a range without records takes no batch and comes to its end in a few moves.
-/

namespace PatternScan.Analysis

variable {maxWorkers : Nat} {trace before after : List Moment} {d d' : Dispatch}
  {id : RequestId} {run run' : Run} {m : Moment} {posted : List Notification}

/-! ## Posted notifications -/

/-- What is posted are the notifications of batches, and with the last of them what follows. -/
theorem Execution.posted_eq (h : Execution (.empty maxWorkers) trace d)
    (hrun : d.run? id = some run) :
    ∃ told rest, postedBy id trace = told ++ rest ∧ told <+: run.told (batchesBy id trace) ∧
      (rest ≠ [] → told = run.told (batchesBy id trace)) ∧
      Aftermath id (lastPercent told) rest := by
  obtain ⟨rest, hannounces, hheard⟩ := h.announces hrun
  have haftermath := hannounces.aftermath
  rw [Dispatch.id_of_run? hrun] at haftermath
  obtain ⟨more, hmore⟩ := hheard.isPrefix
  rcases List.append_eq_append_iff.1 hmore with ⟨ns, htold, -⟩ | ⟨rest', hposted, hrest⟩
  · refine ⟨postedBy id trace, [], (List.append_nil _).symm, ⟨ns, htold.symm⟩, fun h => ?_, .nil⟩
    exact absurd rfl h
  · refine ⟨_, rest', hposted, List.prefix_refl _, fun _ => rfl, haftermath.of_prefix ?_⟩
    exact ⟨more, hrest.symm⟩

/-- At most one notification is ready. -/
theorem Phase.On.length_pending_le {phase : Phase} {c : Course} (h : phase.On id c) :
    phase.pending.length ≤ 1 := by
  cases h with
  | leaving e => cases e <;> simp [Phase.pending, Ending.farewell]
  | _ => simp [Phase.pending]

/-- Once its own range is scanned, a request that nobody cancels has posted the notifications of
all its batches. -/
theorem Execution.told_of_hasScanned (h : Execution (.empty maxWorkers) trace d)
    (hquiet : ∀ m ∈ trace, (m.event id).isCancelling = false) (hrun : d.run? id = some run)
    (hscanned : run.HasScanned) : run.told (batchesBy id trace) <+: postedBy id trace := by
  obtain ⟨rest, hannounces, hheard⟩ := h.announces hrun
  have hsaid := hheard.eq_of_quiet hquiet
  obtain ⟨-, c, hcourse, -⟩ := (h.onCourse id).launched run hrun
  have hready := hcourse.phase.length_pending_le
  refine List.prefix_of_prefix_length_le (List.prefix_append _ rest)
    ⟨run.phase.pending, hsaid⟩ ?_
  have hlength := congrArg List.length hsaid
  rw [List.length_append, List.length_append] at hlength
  by_cases hpending : run.phase.pending = []
  · rw [hpending, List.length_nil] at hlength
    omega
  · have hrest := List.length_pos_of_ne_nil (hannounces.ne_nil hscanned hpending)
    omega

/-- The notification of a batch carries the percentage done up to it. -/
theorem Run.told_getElem? (batches : List Batch) (k : Nat) :
    (run.told batches)[k]? = batches[k]?.map fun b =>
      .progress run.id (percentOf (done (batches.take (k + 1))) run.job.range.size) b.results := by
  rw [told, getElem?_notices]
  simp only [Nat.zero_add]

/-- Where the product is small enough, the percentage is exact. -/
theorem Run.told_exact {batches : List Batch} (hcounts : run.Counts batches)
    {told : List Notification} (htold : told <+: run.told batches) {k : Nat} {n : Notification}
    (hn : told[k]? = some n) :
    ∃ b, batches[k]? = some b ∧
      n = .progress run.id (percentOf (done (batches.take (k + 1))) run.job.range.size) b.results ∧
      done (batches.take (k + 1)) ≤ run.job.range.size ∧
      (100 * done (batches.take (k + 1)) < 2 ^ 64 →
        n.percent = 100 * done (batches.take (k + 1)) / run.job.range.size) := by
  obtain ⟨more, hmore⟩ := htold
  obtain ⟨hk, -⟩ := List.getElem?_eq_some_iff.1 hn
  rw [← List.getElem?_append_left hk, hmore, Run.told_getElem?, Option.map_eq_some_iff] at hn
  obtain ⟨b, hb, rfl⟩ := hn
  obtain ⟨hlt, -⟩ := List.getElem?_eq_some_iff.1 hb
  have hpos := done_take_lt hcounts.positive hlt
  have hbound := hcounts.bound
  have hle := (done_take_le batches (k + 1)).trans hbound
  exact ⟨b, hb, rfl, hle, percentOf_eq (by omega) hle⟩

/-- With the last batch 100 is reached, and not before. -/
theorem Run.told_of_done {batches : List Batch} (hpositive : ∀ b ∈ batches, 0 < b.processed)
    (hdone : done batches = run.job.range.size) (htotal : 0 < run.job.range.size)
    (hsmall : 100 * run.job.range.size < 2 ^ 64) :
    ∃ early last, run.told batches = early ++ [last] ∧ early.length + 1 = batches.length ∧
      last.percent = 100 ∧ ∀ n ∈ early, n.percent < 100 := by
  rcases List.eq_nil_or_concat' batches with rfl | ⟨most, b, rfl⟩
  · rw [← hdone] at htotal
    cases htotal
  · have hb := hpositive b (by simp)
    rw [done_append, done_cons, done_nil, Nat.add_zero] at hdone
    refine ⟨notices run.id run.job.range.size 0 most, _, notices_snoc b, by simp, ?_, ?_⟩
    · rw [Nat.zero_add, hdone]
      exact percentOf_self htotal hsmall
    · intro n hn
      obtain ⟨k, hk⟩ := List.getElem?_of_mem hn
      rw [getElem?_notices, Option.map_eq_some_iff] at hk
      obtain ⟨-, -, rfl⟩ := hk
      refine percentOf_lt ?_ hsmall
      have hle := done_take_le most (k + 1)
      omega

/-! ## Ranges without records -/

/-- The flag of a request that nobody cancels is raised by a run that stops listening. -/
theorem RequestRun.exists_run_of_halted {events : List RequestEvent} {v : RequestView}
    (h : RequestRun id events v) (hquiet : ∀ event ∈ events, event.isCancelling = false)
    (hhalted : v.halted = true) : ∃ run, v.run = some run ∧ run.listening = false := by
  induction h with
  | nil => cases hhalted
  | snoc events event v v' hrun hstep ih =>
      have hlast := hquiet event (List.mem_append_right _ List.mem_cons_self)
      have hbefore := ih fun e he => hquiet e (List.mem_append_left _ he)
      cases hstep with
      | elsewhere | activate | register | deliver | retire => exact hbefore hhalted
      | silence | withdraw | halt => cases hlast
      | launch job hnone =>
          obtain ⟨old, hold, -⟩ := hbefore hhalted
          cases hnone.symm.trans hold
      | move run run' event effect hold hmove =>
          obtain ⟨-, c, hcourse, -⟩ := hrun.onCourse.launched run hold
          cases effect with
          | halt =>
              cases hmove
              exact ⟨_, rfl, rfl⟩
          | _ =>
              obtain ⟨other, hother, hlistening⟩ := hbefore hhalted
              obtain rfl := Option.some.inj (hold.symm.trans hother)
              exact ⟨run', rfl, hmove.listening_eq_false hcourse hlistening⟩

/-- The phases of a run with nothing to scan, up to the end of its scan or to where it tells that
it is alive, with the moves made so far. -/
inductive Phase.Opening (id : RequestId) (continuous : Bool) : Phase → Nat → Prop where
  | starting : Opening id continuous (.starting []) 0
  | collecting : Opening id continuous .collecting 1
  | finishing : Opening id continuous .finishing 2
  | asking (h : continuous = true) :
      Opening id continuous (.asking (.progress id 100 []) .resting) 3
  | telling (h : continuous = true) :
      Opening id continuous (.telling (.progress id 100 []) .resting) 4

theorem Phase.Opening.le {phase : Phase} {continuous : Bool} {made : Nat}
    (h : phase.Opening id continuous made) : made ≤ 4 := by
  cases h <;> simp

namespace Run

/-- A run with nothing to scan that has made so many moves and has posted these notifications. -/
inductive Vacant (run : Run) (made : Nat) : List Notification → Prop where
  | opening (hworkers : run.workers = []) (hevents : run.events = [])
      (hlive : run.scan.live = false)
      (hphase : run.phase.Opening run.id run.job.continuous made) : Vacant run made []
  | closing (posted : List Notification) (left : Nat) (honce : run.job.continuous = false)
      (hidle : run.isWorking = false) (hmade : made + left = 7)
      (hphase : run.phase.Breaking (.successful run.id) left posted) : Vacant run made posted
  | alive (more : List Notification) (hcontinuous : run.job.continuous = true)
      (hmade : 5 ≤ made) : Vacant run made (.progress run.id 100 [] :: more)

theorem vacant_ofJob (id : RequestId) {job : Job} (h : job.range.size = 0) :
    (ofJob id job).Vacant 0 [] := by
  refine .opening rfl rfl rfl ?_
  have hparts : ScanRange.split job.range.start job.range.size job.workers = [] := by
    rw [h, ScanRange.split, Nat.min_zero]
    rfl
  simp only [ofJob, begin, Scan.first, hparts]
  exact .starting

variable {made : Nat} {halted : Bool} {event : RequestEvent} {effect : Effect}

theorem Vacant.moves (h : run.Vacant made posted)
    (hunhalted : run.phase = .finishing → halted = false)
    (hmove : run.Moves halted false event run' effect) :
    run'.Vacant (made + 1) (posted ++ event.posted?.toList) := by
  obtain ⟨hid, hjob⟩ := hmove.id_and_job
  cases h with
  | alive more hcontinuous hmade =>
      rw [← hid]
      exact .alive (more ++ event.posted?.toList) (hjob ▸ hcontinuous) (by omega)
  | closing posted left honce hidle hmade hphase =>
      obtain ⟨left', rfl, hbreaking, hidle', -, -⟩ := breaking_of_moves hphase rfl hidle hmove
      rw [← hid] at hbreaking
      exact .closing _ left' (hjob ▸ honce) hidle' (by omega) hbreaking
  | opening hworkers hevents hlive hopening =>
      have hnone (index : Nat) : run.workers[index]? = none := by simp [hworkers]
      cases hmove with
      | start parts hphase =>
          rw [hphase] at hopening
          cases hopening
          exact .opening hworkers hevents hlive .collecting
      | take event rest hphase hsome => cases hevents.symm.trans hsome
      | close hphase hempty hidle =>
          rw [hphase] at hopening
          cases hopening
          have hafter : run.afterScan = .finishing := by
            rw [afterScan, hlive, if_neg Bool.false_ne_true]
          rw [hafter]
          exact .opening hworkers hevents hlive .finishing
      | finish hphase =>
          rw [hphase] at hopening
          cases hopening
          rw [hunhalted hphase, Run.finish, if_neg Bool.false_ne_true]
          split
          · next hcontinuous =>
              exact .opening hworkers hevents hlive (.asking hcontinuous)
          · next honce =>
              have hidle : run.isWorking = false := by rw [isWorking, hworkers]; rfl
              exact .closing [] 4 (Bool.eq_false_iff.2 honce) hidle rfl .leaving
      | ask n next hphase =>
          rw [hphase] at hopening
          cases hopening with
          | asking hcontinuous =>
              exact .opening hworkers hevents hlive (.telling hcontinuous)
      | tell n next hphase =>
          rw [hphase] at hopening
          cases hopening with
          | telling hcontinuous => exact .alive [] hcontinuous le_rfl
      | work index w next event hworker hstep => cases (hnone index).symm.trans hworker
      | load index w answer hworker hstage => cases (hnone index).symm.trans hworker
      | hire _ _ hphase | fail _ _ hphase | leave _ hphase | rest hphase | poll _ hphase
      | retire hphase =>
          rw [hphase] at hopening
          cases hopening

theorem drive_isSome_of_opening {continuous : Bool} (hworkers : run.workers = [])
    (hevents : run.events = []) (hopening : run.phase.Opening run.id continuous made)
    (hrun : d.run? id = some run) : (d.step? (.drive id)).isSome = true := by
  have hidle : run.isWorking = false := by rw [isWorking, hworkers]; rfl
  generalize hphase : run.phase = phase at hopening
  cases hopening <;>
    simp [Dispatch.step?, hrun, Dispatch.drive?, hphase, Run.collect?, hevents, hidle]

/-- A run with nothing to scan that is to end can go on until it has told so. -/
theorem Vacant.ends (h : run.Vacant made posted) (honce : run.job.continuous = false)
    (hrun : d.run? id = some run) :
    made ≤ 7 ∧
      (made < 7 → (d.step? (.drive id)).isSome = true ∧ posted <+: [.successful id]) ∧
      (made = 7 → run.phase = .gone ∧ posted = [.successful id]) := by
  have hid := Dispatch.id_of_run? hrun
  cases h with
  | alive more hcontinuous => cases honce.symm.trans hcontinuous
  | closing posted left _ hidle hmade hphase =>
      rw [hid] at hphase
      refine ⟨by omega, fun hlt => ?_, fun hend => ?_⟩
      · obtain ⟨left', rfl⟩ : ∃ left', left = left' + 1 := ⟨left - 1, by omega⟩
        exact ⟨hphase.drive_isSome hrun, hphase.posted_isPrefix⟩
      · obtain rfl : left = 0 := by omega
        exact hphase.eq_gone
  | opening hworkers hevents hlive hopening =>
      have hle := hopening.le
      refine ⟨by omega, fun _ => ?_, fun hend => by omega⟩
      exact ⟨drive_isSome_of_opening hworkers hevents hopening hrun, List.nil_prefix⟩

/-- A run with nothing to scan that is to stay alive can go on until it has told so. -/
theorem Vacant.stays (h : run.Vacant made posted) (hcontinuous : run.job.continuous = true)
    (hrun : d.run? id = some run) :
    (made < 5 → (d.step? (.drive id)).isSome = true ∧ posted = []) ∧
      (5 ≤ made → ∃ more, posted = .progress id 100 [] :: more) := by
  have hid := Dispatch.id_of_run? hrun
  cases h with
  | alive more _ hmade => exact ⟨fun hlt => by omega, fun _ => ⟨more, by rw [hid]⟩⟩
  | closing posted left honce => cases honce.symm.trans hcontinuous
  | opening hworkers hevents hlive hopening =>
      have hle := hopening.le
      refine ⟨fun _ => ?_, fun hend => by omega⟩
      exact ⟨drive_isSome_of_opening hworkers hevents hopening hrun, rfl⟩

end Run

/-- Up to its end, or to where it tells that it is alive, nothing comes between in a request with
nothing to scan. -/
theorem Execution.vacant (h : Execution (.empty maxWorkers) trace d)
    (hquiet : ∀ m ∈ trace, (m.event id).isCancelling = false) (hrun : d.run? id = some run)
    (hnone : run.job.range.size = 0) :
    run.Vacant (movesBy id trace) (postedBy id trace) := by
  refine h.from_launch (P := fun early _ run => run.job.range.size = 0 →
    run.Vacant (movesBy id early) (postedBy id early)) ?_ ?_ ?_ hrun hnone
  · rintro early d job - - - huntouched hnone
    rw [huntouched.moves, huntouched.posted]
    exact Run.vacant_ofJob id hnone
  · rintro early d d' step seen run₁ run₂ effect hbegins hearly hstep htarget hrun₁ - hmove
      hP hnone
    have hevents : ∀ event ∈ early.map (Moment.event id), event.isCancelling = false := by
      intro event hevent
      obtain ⟨m, hm, rfl⟩ := List.mem_map.1 hevent
      exact hquiet m (hbegins.subset (List.mem_append_left _ hm))
    have hunhalted : run₁.phase = .finishing → d.isHalted id = false := by
      intro hphase
      rw [Bool.eq_false_iff]
      intro hhalted
      obtain ⟨other, hother, hlistening⟩ :=
        (hearly.requestRun id).exists_run_of_halted hevents hhalted
      obtain rfl := Option.some.inj (hrun₁.symm.trans hother)
      obtain ⟨-, c, hcourse, -⟩ := (hearly.onCourse id).launched run₁ hrun₁
      have hon := hcourse.phase
      rw [hphase] at hon
      cases hon
      cases (hcourse.listening rfl).symm.trans hlistening
    have hsilenced : d.isSilenced id = false :=
      ((hearly.requestRun id).posted_eq_delivered_append hevents).1
    rw [hsilenced] at hmove
    rw [movesBy_snoc, if_pos htarget, postedBy_snoc]
    exact (hP (hmove.id_and_job.2 ▸ hnone)).moves hunhalted hmove
  · rintro early d d' step seen run₁ - - - htarget hown hP hnone
    obtain ⟨-, hmoves, hposted⟩ := snoc_of_ne_target (m := ⟨d, step, seen⟩) htarget hown
    rw [hmoves, hposted]
    exact hP hnone

namespace Run

/-- A range without records gives no batch, and its scan counts nothing. -/
theorem Counts.eq_nil {batches : List Batch} (h : run.Counts batches)
    (hnone : run.job.range.size = 0) : batches = [] := by
  have hbound := h.bound
  cases batches with
  | nil => rfl
  | cons b batches =>
      have hpos := h.positive b List.mem_cons_self
      rw [done_cons] at hbound
      omega

theorem Counts.eq_first {batches : List Batch} (h : run.Counts batches)
    (hnone : run.job.range.size = 0) (hlive : run.scan.live = false) :
    run.scan = .first run.job.range := by
  obtain rfl := h.eq_nil hnone
  obtain ⟨hrange, hprocessed, hpercent⟩ := h.initial hlive
  cases hscan : run.scan with
  | mk range live processed percent =>
      rw [hscan] at hrange hprocessed hpercent hlive
      obtain rfl := hrange
      obtain rfl := hprocessed
      obtain rfl := hpercent
      obtain rfl := hlive
      rfl

end Run

/-! ## Live requests -/

namespace Run

/-- The run is between the scans of what its source has grown by, or it makes one. -/
def IsLive (run : Run) : Prop :=
  run.scan.live = true ∨ run.phase = .resting ∨ run.phase = .polling

theorem Announces.full_of_isLive {last : Nat} {rest : List Notification}
    (h : run.Announces last rest) (hlive : run.IsLive) : run.Full := by
  cases h with
  | alive more hmore hfull => exact hfull
  | initial rest hinitial hphase =>
      rcases hlive with hlive | hresting | hpolling
      · cases hinitial.symm.trans hlive
      · rw [hresting] at hphase
        cases hphase with
        | scanning _ h => cases h
      · rw [hpolling] at hphase
        cases hphase with
        | scanning _ h => cases h

end Run

/-- The percentages that a request posts never go down and never beyond 100. First come those of
its batches, in the order in which they arrive, each the part of the records done up to it rounded
down, where the product does not reach `2 ^ 64`. Once its own range is scanned, a request that
nobody cancels and that meets no failure has reached 100 with its last batch, and not before. An
error carries the percentage before it. A range without records gives no batch, and unless the
request is cancelled, it tells that it came to its end, or that it is alive, after a few moves
which nothing hinders. A live request posts that all is done, and nothing else. -/
theorem progress_percents (h : Execution (.empty maxWorkers) trace d)
    (hrun : d.run? id = some run) :
    ((postedBy id trace).Pairwise fun n m => n.percent ≤ m.percent) ∧
    (∀ n ∈ postedBy id trace, n.percent ≤ 100) ∧
    (∃ told rest, postedBy id trace = told ++ rest ∧ Aftermath id (lastPercent told) rest ∧
      (rest ≠ [] → told.length = (batchesBy id trace).length) ∧
      ∀ (k : Nat) n, told[k]? = some n → ∃ b, (batchesBy id trace)[k]? = some b ∧
        n = .progress id
          (percentOf (done ((batchesBy id trace).take (k + 1))) run.job.range.size) b.results ∧
        done ((batchesBy id trace).take (k + 1)) ≤ run.job.range.size ∧
        (100 * done ((batchesBy id trace).take (k + 1)) < 2 ^ 64 →
          n.percent = 100 * done ((batchesBy id trace).take (k + 1)) / run.job.range.size)) ∧
    (run.scan.live = false → run.scan.range = run.job.range ∧
      run.scan.processed = done (batchesBy id trace)) ∧
    (0 < run.job.range.size → 100 * run.job.range.size < 2 ^ 64 → Unhindered id trace →
      run.HasScanned → ∃ early last rest, postedBy id trace = early ++ last :: rest ∧
        early.length + 1 = (batchesBy id trace).length ∧ last.percent = 100 ∧
        ∀ n ∈ early, n.percent < 100) ∧
    (∀ early n late, postedBy id trace = early ++ n :: late → n.state = .error →
      n.percent = lastPercent early) ∧
    (run.job.range.size = 0 → batchesBy id trace = [] ∧
      (run.scan.live = false → run.scan = .first run.job.range) ∧
      ((∀ m ∈ trace, (m.event id).isCancelling = false) →
        (run.job.continuous = false → movesBy id trace ≤ 7 ∧
          (movesBy id trace < 7 → (d.step? (.drive id)).isSome = true ∧
            postedBy id trace <+: [.successful id]) ∧
          (movesBy id trace = 7 → run.phase = .gone ∧ postedBy id trace = [.successful id])) ∧
        (run.job.continuous = true →
          (movesBy id trace < 5 → (d.step? (.drive id)).isSome = true ∧
            postedBy id trace = []) ∧
          (5 ≤ movesBy id trace →
            ∃ more, postedBy id trace = .progress id 100 [] :: more)))) ∧
    ∀ before m after r, trace = before ++ m :: after → m.before.run? id = some r → r.IsLive →
      ∀ n ∈ postedBy id (m :: after), n.percent = 100 := by
  have hid := Dispatch.id_of_run? hrun
  have hcounts := h.counts hrun
  obtain ⟨told, rest, hposted, htold, hall, hrest⟩ := h.posted_eq hrun
  have hnotices : ∀ n ∈ told, n.state = .progress ∧ n.percent ≤ 100 := fun n hn => by
    obtain ⟨hstate, -, hle⟩ := le_percent_of_mem_notices (htold.subset hn)
    exact ⟨hstate, hle⟩
  have hordered : told.Pairwise fun n m => n.percent ≤ m.percent :=
    pairwise_notices.sublist htold.sublist
  obtain ⟨hpairwise, hbound⟩ := pairwise_told hordered (fun n hn => (hnotices n hn).2) hrest
  refine ⟨hposted ▸ hpairwise, hposted ▸ hbound, ⟨told, rest, hposted, hrest, ?_, ?_⟩, ?_, ?_, ?_,
    ?_, ?_⟩
  · intro hne
    rw [hall hne, Run.told, length_notices]
  · intro k n hn
    have hexact := Run.told_exact hcounts htold hn
    rwa [hid] at hexact
  · intro hlive
    obtain ⟨hrange, hprocessed, -⟩ := hcounts.initial hlive
    exact ⟨hrange, hprocessed⟩
  · intro htotal hsmall hunhindered hscanned
    have hdone := h.done_eq hunhindered hrun hscanned
    obtain ⟨early, last, htold', hlength, hlast, hearly⟩ :=
      Run.told_of_done hcounts.positive hdone htotal hsmall
    obtain ⟨more, hmore⟩ := h.told_of_hasScanned (fun m hm => (hunhindered m hm).1) hrun hscanned
    rw [htold', List.append_assoc] at hmore
    exact ⟨early, last, more, hmore.symm, hlength, hlast, hearly⟩
  · intro early n late hsplit herror
    exact percent_of_error (fun n hn => (hnotices n hn).1) hrest (hposted.symm.trans hsplit) herror
  · intro hnone
    have hbatches : batchesBy id trace = [] := hcounts.eq_nil hnone
    refine ⟨hbatches, fun hlive => hcounts.eq_first hnone hlive, fun hquiet => ?_⟩
    have hvacant := h.vacant hquiet hrun hnone
    exact ⟨fun honce => hvacant.ends honce hrun, fun hlive => hvacant.stays hlive hrun⟩
  · rintro before m after r rfl hbefore hlive
    obtain ⟨hearly, next, hstep, -, hafter⟩ := h.split
    obtain ⟨_, hannounces, -⟩ := hearly.announces hbefore
    exact ((Execution.single hstep).append hafter).percent_eq hbefore
      (hannounces.full_of_isLive hlive)

/-- The moments of two requests without records, of which the second one comes to its end. -/
def idleTrace : List Moment := cancelBegun.1 ++ cancelEnded.1 ++ cancelSettled.1

/-- The run of that request at the end. -/
def idleRun : Run := (cancelSettled.2.run? 2).getD default

/-- The second of two batches comes to 100, though it is that of the first record. Where the second
record cannot be read, the error carries the percentage before it. Without records a request tells
at once that it came to its end. -/
theorem progress_percents_pair :
    (∃ early last rest, postedBy 1 pairExecution.1 = early ++ last :: rest ∧ early.length = 1 ∧
      last.percent = 100 ∧ ∀ n ∈ early, n.percent < 100) ∧
    ((postedBy 1 brokenTrace).map Notification.percent = [50, 50] ∧
      ∀ early n late, postedBy 1 brokenTrace = early ++ n :: late → n.state = .error →
        n.percent = lastPercent early) ∧
    idleRun.phase = .gone ∧ postedBy 2 idleTrace = [.successful 2] := by
  have hpair : Execution (.empty 2) pairExecution.1 pairExecution.2 := .replay _ _
  have hbroken : Execution (.empty 2) brokenTrace brokenSettled.2 :=
    (Execution.append (.replay _ _) (.replay _ _)).append (.replay _ _)
  have hidle : Execution (.empty 1) idleTrace cancelSettled.2 :=
    (Execution.append (.replay _ _) (.replay _ _)).append (.replay _ _)
  have hruns : (pairExecution.2.run? 1).isSome = true ∧ (brokenSettled.2.run? 1).isSome = true ∧
      (cancelSettled.2.run? 2).isSome = true := by decide +kernel
  have hpairRun : pairExecution.2.run? 1 = some pairRun := Dispatch.run?_of_isSome hruns.1
  have hbrokenRun : brokenSettled.2.run? 1 = some brokenRun := Dispatch.run?_of_isSome hruns.2.1
  have hidleRun : cancelSettled.2.run? 2 = some idleRun := Dispatch.run?_of_isSome hruns.2.2
  -- What the executions come to is computed at one go.
  have hfacts : pairRun.job.range.size = 2 ∧ (batchesBy 1 pairExecution.1).length = 2 ∧
      (pairExecution.1.all fun m => !(m.event 1).isCancelling && (m.event 1).succeeds) = true ∧
      pairRun.phase.isScanning = false ∧
      (postedBy 1 brokenTrace).map Notification.percent = [50, 50] ∧
      idleRun.job.range.size = 0 ∧ idleRun.job.continuous = false ∧ movesBy 2 idleTrace = 7 ∧
      (idleTrace.all fun m => !(m.event 2).isCancelling) = true := by decide +kernel
  obtain ⟨hsize, hlength, hall, hover, hpercents, hnone, honce, hmoves, hquiet⟩ := hfacts
  have hunhindered : Unhindered 1 pairExecution.1 := by
    intro m hm
    simpa only [Bool.and_eq_true, Bool.not_eq_true'] using List.all_eq_true.1 hall m hm
  have huncancelled : ∀ m ∈ idleTrace, (m.event 2).isCancelling = false := by
    intro m hm
    simpa only [Bool.not_eq_true'] using List.all_eq_true.1 hquiet m hm
  have htotal : 0 < pairRun.job.range.size := by rw [hsize]; exact Nat.two_pos
  have hsmall : 100 * pairRun.job.range.size < 2 ^ 64 := by rw [hsize]; decide
  obtain ⟨-, -, -, -, hreaches, -⟩ := progress_percents hpair hpairRun
  obtain ⟨-, -, -, -, -, herror, -⟩ := progress_percents hbroken hbrokenRun
  obtain ⟨-, -, -, -, -, -, hempty, -⟩ := progress_percents hidle hidleRun
  obtain ⟨early, last, rest, hposted, hearly, hlast, hbefore⟩ :=
    hreaches htotal hsmall hunhindered (.inr hover)
  obtain ⟨-, -, hends⟩ := hempty hnone
  obtain ⟨-, -, hgone⟩ := (hends huncancelled).1 honce
  rw [hlength] at hearly
  exact ⟨⟨early, last, rest, hposted, Nat.succ.inj hearly, hlast, hbefore⟩, ⟨hpercents, herror⟩,
    hgone hmoves⟩

end PatternScan.Analysis
