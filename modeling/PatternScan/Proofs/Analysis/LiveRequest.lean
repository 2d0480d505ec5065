import PatternScan.Proofs.Analysis.Moments

/-!
# Live requests

A continuous request that is neither cancelled nor meets a failure scans its own range and then
what its source has grown by, each range from the end of the one before it, so that it reads
every position once. A look at a source of the same size leaves it as it is. A source that has
shrunk ends it, with one error and nothing else. Whatever is posted once its own range is
scanned tells that all is done.
-/

namespace PatternScan.Analysis

variable {maxWorkers : Nat} {trace before after : List Moment} {d d' start : Dispatch}
  {id : RequestId} {run run' : Run} {m : Moment}

/-- A look at the size of the source is a move of a run that asks for it, and it is made between
two scans. -/
theorem Dispatch.poll_of_polled {step : Step} {seen : Option Observation}
    {answer : Except ScanError Nat} (hstep : d.step? step = some (d', seen))
    (hrun : d.run? id = some run) (hevent : Moment.event id ⟨d, step, seen⟩ = .polled answer) :
    run.phase = .polling ∧ d'.run? id = some (run.poll answer) := by
  rcases moves_or_same hstep hrun with ⟨-, run', effect, hrun', hmove⟩ | ⟨-, -, hown⟩
  · rw [hevent] at hmove
    cases hmove with
    | poll answer hphase => exact ⟨hphase, hrun'⟩
  · rw [hevent] at hown
    cases hown

theorem Dispatch.event_poll {answer : Except ScanError Nat} (hrun : d.run? id = some run) :
    Moment.event id ⟨d, .poll id answer, none⟩ = .polled answer := by
  obtain rfl := id_of_run? hrun
  rw [event_of_run hrun rfl, if_pos rfl]
  rfl

/-! ## Sources that stay the same -/

namespace Run

/-- The run waits for its source to grow. -/
structure IsWaiting (run : Run) : Prop where
  phase : run.phase = .resting ∨ run.phase = .polling
  idle : run.isWorking = false
  listening : run.listening = true

/-- No worker of an idle run makes a move. -/
theorem not_moves_of_idle {index : Nat} {w : Worker} (hidle : run.isWorking = false)
    (hworker : run.workers[index]? = some w) (hstage : w.stage ≠ .stopped) : False :=
  hstage (stopped_of_idle hidle (List.mem_of_getElem? hworker))

/-- A run that waits goes on to wait until it learns the size of its source, and does nothing
else. -/
theorem IsWaiting.moves (h : run.IsWaiting) {event : RequestEvent} {effect : Effect}
    (hmove : run.Moves false false event run' effect) (hevent : event.polled? = none) :
    run'.IsWaiting ∧ run'.scan = run.scan ∧ event.isOwn = false := by
  have hnot {phase : Phase} (hphase : run.phase = phase) (hrest : phase ≠ .resting)
      (hpoll : phase ≠ .polling) : False :=
    h.phase.elim (fun hsame => hrest (hphase.symm.trans hsame))
      fun hsame => hpoll (hphase.symm.trans hsame)
  cases hmove with
  | start parts hphase => exact (hnot hphase nofun nofun).elim
  | hire part rest hphase => exact (hnot hphase nofun nofun).elim
  | take event rest hphase hevents => exact (hnot hphase nofun nofun).elim
  | close hphase hevents hidle => exact (hnot hphase nofun nofun).elim
  | finish hphase => exact (hnot hphase nofun nofun).elim
  | fail percent error hphase => exact (hnot hphase nofun nofun).elim
  | leave farewell hphase => exact (hnot hphase nofun nofun).elim
  | ask n next hphase => exact (hnot hphase nofun nofun).elim
  | tell n next hphase => exact (hnot hphase nofun nofun).elim
  | rest hphase => exact ⟨⟨.inr rfl, h.idle, h.listening⟩, rfl, rfl⟩
  | poll answer hphase => cases hevent
  | retire hphase => exact (hnot hphase nofun nofun).elim
  | work index w next event hworker hstep =>
      exact (not_moves_of_idle h.idle hworker (Worker.ne_stopped_of_step hstep)).elim
  | load index w answer hworker hstage =>
      refine (not_moves_of_idle h.idle hworker ?_).elim
      rw [hstage]
      nofun

end Run

/-- Until it learns the size of its source again, a request that waits reads and posts nothing. -/
theorem Execution.waits (h : Execution (.empty maxWorkers) before d) (hafter : Execution d after d')
    (hunhindered : Unhindered id (before ++ after))
    (hrun : d.run? id = some run) (hwaiting : run.IsWaiting)
    (hpolled : ∀ m ∈ after, (m.event id).polled? = none) :
    ∃ run', d'.run? id = some run' ∧ run'.IsWaiting ∧ run'.scan = run.scan ∧
      ∀ m ∈ after, (m.event id).isOwn = false := by
  refine hafter.along (P := fun early run' => run'.IsWaiting ∧ run'.scan = run.scan ∧
    ∀ m ∈ early, (m.event id).isOwn = false) hrun ⟨hwaiting, rfl, by simp⟩ ?_ ?_
  · rintro early d d' step seen run₁ run₂ effect hearly hexecution - - hrun₁ hmove
      ⟨hwaiting₁, hscan, hnone⟩
    obtain ⟨hconserves, hsilenced⟩ := h.conserves_on hunhindered hearly hexecution
    have hhalted : d.isHalted id = false := Bool.eq_false_iff.2 fun hraised =>
      absurd (hwaiting₁.listening.symm.trans ((hconserves.launched run₁ hrun₁).2 hraised)) nofun
    have hmem : ⟨d, step, seen⟩ ∈ after :=
      hearly.subset (List.mem_append_right _ List.mem_cons_self)
    have hlast := hpolled _ hmem
    rw [hhalted, hsilenced] at hmove
    obtain ⟨hwaiting₂, hscan', hown⟩ := hwaiting₁.moves hmove hlast
    exact ⟨hwaiting₂, hscan'.trans hscan,
      List.forall_mem_append.2 ⟨hnone, List.forall_mem_singleton.2 hown⟩⟩
  · rintro early m run₁ - - hown ⟨hwaiting₁, hscan, hnone⟩
    exact ⟨hwaiting₁, hscan,
      List.forall_mem_append.2 ⟨hnone, List.forall_mem_singleton.2 hown⟩⟩

/-! ## Sources that have shrunk -/

/-- The phases of a run that breaks off with an error, with the number of moves that it has left
and what it has posted since. -/
inductive Phase.Breaking (last : Notification) : Phase → Nat → List Notification → Prop where
  | failing (percent : Nat) (error : String) (hlast : last = .failure last.request percent error) :
      Breaking last (.failing percent error) 5 []
  | leaving : Breaking last (.leaving (some last)) 4 []
  | asking : Breaking last (.asking last .retiring) 3 []
  | telling : Breaking last (.telling last .retiring) 2 []
  | retiring : Breaking last .retiring 1 [last]
  | gone : Breaking last .gone 0 [last]

namespace Run

/-- A run that breaks off makes one move after another up to its end. -/
theorem breaking_of_moves {last : Notification} {left : Nat} {posted : List Notification}
    {halted : Bool} {event : RequestEvent} {effect : Effect}
    (h : run.phase.Breaking last left posted) (hid : last.request = run.id)
    (hidle : run.isWorking = false) (hmove : run.Moves halted false event run' effect) :
    ∃ left', left = left' + 1 ∧
      run'.phase.Breaking last left' (posted ++ event.posted?.toList) ∧
      run'.isWorking = false ∧ event.read? = none ∧ event.polled? = none := by
  cases hmove with
  | start parts hphase =>
      rw [hphase] at h
      cases h
  | hire part rest hphase =>
      rw [hphase] at h
      cases h
  | take event rest hphase hevents =>
      rw [hphase] at h
      cases h
  | close hphase hevents hidle =>
      rw [hphase] at h
      cases h
  | finish hphase =>
      rw [hphase] at h
      cases h
  | fail percent error hphase =>
      rw [hphase] at h
      cases h with
      | failing percent error hlast =>
          rw [hid] at hlast
          refine ⟨4, rfl, ?_, hidle, rfl, rfl⟩
          rw [Run.fail, ← hlast]
          exact .leaving
  | leave farewell hphase =>
      rw [hphase] at h
      cases h
      exact ⟨3, rfl, .asking, hidle, rfl, rfl⟩
  | ask n next hphase =>
      rw [hphase] at h
      cases h
      exact ⟨2, rfl, .telling, hidle, rfl, rfl⟩
  | tell n next hphase =>
      rw [hphase] at h
      cases h
      exact ⟨1, rfl, .retiring, hidle, rfl, rfl⟩
  | rest hphase =>
      rw [hphase] at h
      cases h
  | poll answer hphase =>
      rw [hphase] at h
      cases h
  | retire hphase =>
      rw [hphase] at h
      cases h
      exact ⟨0, rfl, .gone, hidle, rfl, rfl⟩
  | work index w next event hworker hstep =>
      exact (not_moves_of_idle hidle hworker (Worker.ne_stopped_of_step hstep)).elim
  | load index w answer hworker hstage =>
      refine (not_moves_of_idle hidle hworker ?_).elim
      simp [hstage]

end Run

/-- A request that breaks off posts its last notification and no other, and has done so after five
moves of its run. -/
theorem Execution.breaks (h : Execution (.empty maxWorkers) before d)
    (hafter : Execution d after d') (hunhindered : Unhindered id (before ++ after))
    (hrun : d.run? id = some run) {last : Notification} {left : Nat}
    (hbreaking : run.phase.Breaking last left []) (hid : last.request = id)
    (hidle : run.isWorking = false) :
    ∃ run', d'.run? id = some run' ∧ ∃ left', left = left' + movesBy id after ∧
      run'.phase.Breaking last left' (postedBy id after) ∧ run'.isWorking = false ∧
      readBy id after = [] ∧ polledBy id after = [] := by
  refine hafter.along (P := fun early run' => ∃ left', left = left' + movesBy id early ∧
    run'.phase.Breaking last left' (postedBy id early) ∧ run'.isWorking = false ∧
    readBy id early = [] ∧ polledBy id early = []) hrun
    ⟨left, rfl, hbreaking, hidle, rfl, rfl⟩ ?_ ?_
  · rintro early d d' step seen run₁ run₂ effect hearly hexecution - htarget hrun₁ hmove
      ⟨left', hleft, hbreaking₁, hidle₁, hreads, hpolls⟩
    obtain ⟨-, hsilenced⟩ := h.conserves_on hunhindered hearly hexecution
    rw [hsilenced] at hmove
    obtain ⟨left'', rfl, hbreaking₂, hidle₂, hread, hpolled⟩ := Run.breaking_of_moves hbreaking₁
      (hid.trans (Dispatch.id_of_run? hrun₁).symm) hidle₁ hmove
    refine ⟨left'', ?_, ?_, hidle₂, ?_, ?_⟩
    · rw [movesBy_snoc, if_pos htarget, hleft]
      omega
    · rw [postedBy_snoc]
      exact hbreaking₂
    · rw [readBy_snoc, hreads, hread]
      rfl
    · rw [polledBy_snoc, hpolls, hpolled]
      rfl
  · rintro early m run₁ - htarget hown ⟨left', hleft, hbreaking₁, hidle₁, hreads, hpolls⟩
    obtain ⟨hposted, hread, hpolled⟩ := RequestEvent.eq_none_of_isOwn hown
    refine ⟨left', ?_, ?_, hidle₁, ?_, ?_⟩
    · rw [movesBy_snoc, if_neg htarget]
      exact hleft
    · rw [postedBy_snoc, hposted, Option.toList_none, List.append_nil]
      exact hbreaking₁
    · rw [readBy_snoc, hreads, hread]
      rfl
    · rw [polledBy_snoc, hpolls, hpolled]
      rfl

/-- It posts nothing but its last notification. -/
theorem Phase.Breaking.posted_isPrefix {last : Notification} {phase : Phase} {left : Nat}
    {posted : List Notification} (h : phase.Breaking last left posted) : posted <+: [last] := by
  cases h <;> simp

/-- It is at its end when it has no move left. -/
theorem Phase.Breaking.eq_gone {last : Notification} {phase : Phase} {posted : List Notification}
    (h : phase.Breaking last 0 posted) : phase = .gone ∧ posted = [last] := by
  cases h
  exact ⟨rfl, rfl⟩

/-- A run that breaks off can make its next move at once. -/
theorem Phase.Breaking.drive_isSome {last : Notification} {left : Nat} {posted : List Notification}
    (h : run.phase.Breaking last (left + 1) posted) (hrun : d.run? id = some run) :
    (d.step? (.drive id)).isSome = true := by
  generalize hphase : run.phase = phase at h
  generalize hcount : left + 1 = count at h
  cases h with
  | gone => cases hcount
  | _ => simp [Dispatch.step?, hrun, Dispatch.drive?, hphase]

/-! ## Percentages -/

/-- The percentages that a phase is about to tell. -/
def Phase.percents : Phase → List Nat
  | failing percent _ => [percent]
  | leaving farewell => farewell.toList.map Notification.percent
  | asking n next | telling n next => n.percent :: next.percents
  | _ => []

namespace Run

/-- The range of the request itself is scanned. -/
def HasScanned (run : Run) : Prop := run.scan.live = true ∨ run.phase.isScanning = false

/-- The run tells from now on that all is done, and nothing else. -/
structure Full (run : Run) : Prop where
  percents : ∀ percent ∈ run.phase.percents, percent = 100
  scanning : run.phase.isScanning = true → run.scan.live = true ∧ run.scan.percent = 100

theorem Full.moves (h : run.Full) {halted silenced : Bool} {event : RequestEvent}
    {effect : Effect} (hmove : run.Moves halted silenced event run' effect) :
    run'.Full ∧ ∀ n, event.posted? = some n → n.percent = 100 := by
  have hpercents := h.percents
  have hscanning := h.scanning
  -- Most phases that a run enters tell nothing, and are entered from one of the same kind.
  have henter {phase : Phase} (hkind : phase.isScanning = true → run.phase.isScanning = true)
      (hfull : ∀ percent ∈ phase.percents, percent = 100) : (run.enter phase).Full :=
    ⟨hfull, fun hnext => hscanning (hkind hnext)⟩
  have hleave {phase : Phase} (hover : phase.isScanning = false)
      (hfull : ∀ percent ∈ phase.percents, percent = 100) : (run.enter phase).Full :=
    henter (fun hnext => absurd (hover.symm.trans hnext) Bool.false_ne_true) hfull
  have hsilent : ∀ n : Notification, none = some n → n.percent = 100 := by simp
  cases hmove with
  | start parts hphase =>
      rw [hphase] at henter
      refine ⟨?_, hsilent⟩
      cases parts with
      | nil => exact henter (fun _ => rfl) (List.forall_mem_nil _)
      | cons part rest => cases halted <;> exact henter (fun _ => rfl) (List.forall_mem_nil _)
  | hire part rest hphase =>
      rw [hphase] at hscanning
      exact ⟨⟨List.forall_mem_nil _, fun _ => hscanning rfl⟩, hsilent⟩
  | take event rest hphase hevents =>
      rw [hphase] at hscanning
      obtain ⟨hlive, hpercent⟩ := hscanning rfl
      refine ⟨?_, hsilent⟩
      cases event with
      | failed error =>
          exact ⟨fun p hp => (List.mem_singleton.1 hp).trans hpercent,
            fun hnext => absurd hnext Bool.false_ne_true⟩
      | batch processed results =>
          have hscan : (run.scan.advance processed).percent = 100 :=
            (if_pos hlive).trans hpercent
          exact ⟨fun p hp => (List.mem_singleton.1 hp).trans hscan, fun _ => ⟨hlive, hscan⟩⟩
  | close hphase hevents hidle =>
      refine ⟨?_, hsilent⟩
      rw [afterScan]
      split <;> exact hleave rfl (List.forall_mem_nil _)
  | finish hphase =>
      refine ⟨?_, hsilent⟩
      cases halted with
      | true => exact hleave rfl (List.forall_mem_nil _)
      | false =>
          simp only [Run.finish, Bool.false_eq_true, if_false]
          split <;> exact hleave rfl fun p hp => List.mem_singleton.1 hp
  | fail percent error hphase =>
      rw [hphase] at hpercents
      exact ⟨⟨hpercents, fun hnext => absurd hnext Bool.false_ne_true⟩, hsilent⟩
  | leave farewell hphase =>
      rw [hphase] at hpercents
      refine ⟨?_, hsilent⟩
      cases farewell with
      | none => exact hleave rfl (List.forall_mem_nil _)
      | some n => exact hleave rfl hpercents
  | ask n next hphase =>
      rw [hphase] at hpercents henter
      refine ⟨?_, hsilent⟩
      cases silenced with
      | true =>
          exact henter (fun hnext => hnext) fun p hp => hpercents p (List.mem_cons_of_mem _ hp)
      | false => exact henter (fun hnext => hnext) hpercents
  | tell n next hphase =>
      rw [hphase] at hpercents henter
      refine ⟨henter (fun hnext => hnext) fun p hp => hpercents p (List.mem_cons_of_mem _ hp),
        fun m hm => ?_⟩
      obtain rfl := Option.some.inj hm
      exact hpercents _ List.mem_cons_self
  | rest hphase =>
      refine ⟨?_, hsilent⟩
      cases halted <;> exact hleave rfl (List.forall_mem_nil _)
  | poll answer hphase =>
      refine ⟨?_, hsilent⟩
      have hfailing (error : String) : (run.enter (.failing 100 error)).Full :=
        hleave rfl fun p hp => List.mem_singleton.1 hp
      cases answer with
      | error e => exact hfailing _
      | ok size =>
          simp only [Run.poll]
          split
          · exact hfailing _
          · split
            · exact hleave rfl (List.forall_mem_nil _)
            · exact ⟨List.forall_mem_nil _, fun _ => ⟨rfl, rfl⟩⟩
  | retire hphase => exact ⟨hleave rfl (List.forall_mem_nil _), hsilent⟩
  | work index w next event hworker hstep => exact ⟨⟨hpercents, hscanning⟩, hsilent⟩
  | load index w answer hworker hstage => exact ⟨⟨hpercents, hscanning⟩, hsilent⟩

end Run

/-- The scan of the range of the request itself, unless it fails, ends with nothing to be told. -/
theorem Run.full_of_moves {answers : List (Except ScanError Nat)} {reads : List (Nat × Record)}
    {posted : List Notification} {halted silenced : Bool} {event : RequestEvent} {effect : Effect}
    (h : run.Conserves answers reads posted) (hnot : ¬ run.HasScanned)
    (hmove : run.Moves halted silenced event run' effect) (hscanned : run'.HasScanned) :
    run'.Full := by
  obtain ⟨hlive, hscanning⟩ := not_or.1 hnot
  have hsame (hscan : run'.scan.live = run.scan.live)
      (hphase : run'.phase.isScanning = run.phase.isScanning) : run'.Full :=
    absurd (hscanned.imp hscan.symm.trans hphase.symm.trans) hnot
  have hover {phase : Phase} (hphase : run.phase = phase) (hkind : phase.isScanning = false) :
      run'.Full := absurd (hphase ▸ hkind) hscanning
  cases hmove with
  | start parts hphase =>
      rw [hphase] at hsame
      cases parts with
      | nil => exact hsame rfl rfl
      | cons part rest => cases halted <;> exact hsame rfl rfl
  | hire part rest hphase =>
      rw [hphase] at hsame
      exact hsame rfl rfl
  | take event rest hphase hevents =>
      obtain ⟨processed, results, rfl⟩ := h.batches event (hevents ▸ List.mem_cons_self)
      rw [hphase] at hsame
      exact hsame rfl rfl
  | close hphase hevents hidle =>
      have hafter : run.afterScan = .finishing := if_neg hlive
      rw [hafter]
      exact ⟨nofun, nofun⟩
  | finish hphase => exact hover hphase rfl
  | fail percent error hphase => exact hover hphase rfl
  | leave farewell hphase => exact hover hphase rfl
  | ask n next hphase =>
      rw [hphase] at hsame
      cases silenced <;> exact hsame rfl rfl
  | tell n next hphase =>
      rw [hphase] at hsame
      exact hsame rfl rfl
  | rest hphase => exact hover hphase rfl
  | poll answer hphase => exact hover hphase rfl
  | retire hphase => exact hover hphase rfl
  | work index w next event hworker hstep => exact hsame rfl rfl
  | load index w answer hworker hstage => exact hsame rfl rfl

theorem Execution.full (h : Execution (.empty maxWorkers) trace d)
    (hunhindered : Unhindered id trace) (hrun : d.run? id = some run)
    (hscanned : run.HasScanned) : run.Full := by
  refine h.throughout (P := fun _ run => run.HasScanned → run.Full) hunhindered ?_ ?_
    (fun _ _ _ hP => hP) hrun hscanned
  · rintro - job (hlive | hover)
    · cases hlive
    · cases hover
  · rintro early m run₁ run₂ effect c - hlaws - - hmove - hP hscanned₂
    by_cases hscanned₁ : run₁.HasScanned
    · exact ((hP hscanned₁).moves hmove).1
    · exact Run.full_of_moves hlaws hscanned₁ hmove hscanned₂

/-- A run that tells only that all is done goes on to do so. -/
theorem Execution.percent_eq (h : Execution start trace d) (hrun : start.run? id = some run)
    (hfull : run.Full) : ∀ n ∈ postedBy id trace, n.percent = 100 := by
  obtain ⟨-, -, -, hposted⟩ := h.along
    (P := fun early run => run.Full ∧ ∀ n ∈ postedBy id early, n.percent = 100) hrun
    ⟨hfull, nofun⟩
    (by
      rintro early d d' step seen run₁ run₂ effect - - - - - hmove ⟨hfull₁, hposted⟩
      obtain ⟨hfull₂, hnew⟩ := hfull₁.moves hmove
      rw [postedBy_snoc]
      exact ⟨hfull₂, List.forall_mem_append.2
        ⟨hposted, fun n hn => hnew n (Option.mem_toList.1 hn)⟩⟩)
    (by
      rintro early m run₁ - - hown ⟨hfull₁, hposted⟩
      rw [postedBy_snoc, (RequestEvent.eq_none_of_isOwn hown).1, Option.toList_none,
        List.append_nil]
      exact ⟨hfull₁, hposted⟩)
  exact hposted

/-! ## Requests that stay alive -/

/-- The run scans or waits. -/
def Phase.isAlive : Phase → Bool
  | starting _ | hiring _ _ | collecting | finishing | resting | polling => true
  | asking _ next | telling _ next => next.isAlive
  | _ => false

theorem Phase.On.isBroken_eq_false {phase : Phase} {c : Course} (h : phase.On id c)
    (halive : phase.isAlive = true) : c.isBroken = false := by
  cases h <;> first | rfl | cases halive

/-- A continuous request stays alive, unless its source shrinks. -/
theorem Run.alive_of_moves {answers : List (Except ScanError Nat)} {reads : List (Nat × Record)}
    {posted : List Notification} {c : Course} {halted silenced : Bool} {event : RequestEvent}
    {effect : Effect} (h : run.Conserves answers reads posted)
    (hcourse : run.OnCourse posted c) (hhalted : halted = true → run.listening = false)
    (hcontinuous : run.job.continuous = true) (halive : run.phase.isAlive = true)
    (hmove : run.Moves halted silenced event run' effect) (hsucceeds : event.succeeds = true) :
    run'.phase.isAlive = true ∨
      ∃ size, event = .polled (.ok size) ∧ size < run.scan.range.stop := by
  have hlistening := hcourse.listening (hcourse.phase.isBroken_eq_false halive)
  obtain rfl : halted = false := Bool.eq_false_iff.2 fun hraised =>
    absurd (hlistening.symm.trans (hhalted hraised)) nofun
  cases hmove with
  | start parts hphase => exact .inl (by cases parts <;> rfl)
  | hire part rest hphase => exact .inl rfl
  | take event rest hphase hevents =>
      obtain ⟨processed, results, rfl⟩ := h.batches event (hevents ▸ List.mem_cons_self)
      exact .inl rfl
  | close hphase hevents hidle =>
      refine .inl ?_
      rw [afterScan]
      split <;> rfl
  | finish hphase => exact .inl (by simp [Run.finish, hcontinuous, Run.enter, Phase.isAlive])
  | fail percent error hphase => rw [hphase] at halive; cases halive
  | leave farewell hphase => rw [hphase] at halive; cases halive
  | ask n next hphase =>
      rw [hphase] at halive
      cases silenced <;> exact .inl halive
  | tell n next hphase =>
      rw [hphase] at halive
      exact .inl halive
  | rest hphase => exact .inl rfl
  | poll answer hphase =>
      cases answer with
      | error e => cases hsucceeds
      | ok size =>
          rw [Run.poll]
          rcases Nat.lt_trichotomy size run.scan.range.stop with hshrunk | hsame | hgrown
          · exact .inr ⟨size, rfl, hshrunk⟩
          · rw [if_neg (Nat.not_lt.2 (Nat.le_of_eq hsame.symm)), if_pos hsame]
            exact .inl rfl
          · rw [if_neg (Nat.lt_asymm hgrown), if_neg (Nat.ne_of_gt hgrown)]
            exact .inl rfl
  | retire hphase => rw [hphase] at halive; cases halive
  | work index w next event hworker hstep => exact .inl halive
  | load index w answer hworker hstage => exact .inl halive

/-- A continuous request that nobody cancels and that meets no failure is alive, unless at some
moment its source was found to have shrunk. -/
theorem Execution.isAlive (h : Execution (.empty maxWorkers) trace d)
    (hunhindered : Unhindered id trace)
    (hrun : d.run? id = some run) (hcontinuous : run.job.continuous = true) :
    run.phase.isAlive = true ∨ ∃ m ∈ trace, ∃ r size, m.before.run? id = some r ∧
      m.event id = .polled (.ok size) ∧ size < r.scan.range.stop := by
  refine h.throughout (P := fun early run => run.job.continuous = true →
    run.phase.isAlive = true ∨ ∃ m ∈ early, ∃ r size, m.before.run? id = some r ∧
      m.event id = .polled (.ok size) ∧ size < r.scan.range.stop)
    hunhindered (fun _ _ _ => .inl rfl) ?_ ?_ hrun hcontinuous
  · rintro early m run₁ run₂ effect c hrun₁ hlaws hcourse hhalted hmove hsucceeds hP hcontinuous
    rw [hmove.id_and_job.2] at hcontinuous
    rcases hP hcontinuous with halive | ⟨m', hm, hshrunk⟩
    · refine (Run.alive_of_moves hlaws hcourse hhalted hcontinuous halive hmove
        hsucceeds).imp_right fun ⟨size, hevent, hshrunk⟩ => ?_
      exact ⟨m, List.mem_append_right _ List.mem_cons_self, run₁, size, hrun₁, hevent, hshrunk⟩
    · exact .inr ⟨m', List.mem_append_left _ hm, hshrunk⟩
  · rintro early m run₁ hP hcontinuous
    exact (hP hcontinuous).imp_right fun ⟨m', hm, hshrunk⟩ =>
      ⟨m', List.mem_append_left _ hm, hshrunk⟩

/-! ## The whole life of a live request -/

/-- Between two scans nothing found is left to be sent. -/
theorem Phase.On.results_pending {phase : Phase} {c : Course} (h : phase.On id c)
    (hover : phase.isScanning = false) : results phase.pending = [] := by
  cases h with
  | leaving e => cases e <;> rfl
  | askingLast e n hlast | tellingLast e n hlast =>
      cases e with
      | cancelled => cases hlast
      | succeeded | failed =>
          obtain rfl := Option.some.inj hlast
          rfl
  | starting | hiring | collecting | asking | telling => cases hover
  | _ => rfl

/-- What a request has read once a scan is over: each position up to the end of its last range,
and no other. What was found there is posted. -/
theorem Execution.complete (h : Execution (.empty maxWorkers) trace d)
    (hunhindered : Unhindered id trace)
    (hrun : d.run? id = some run) (hover : run.phase.isScanning = false) :
    ((readBy id trace).map Prod.fst).Perm
        (List.range' run.job.range.start (run.scan.range.stop - run.job.range.start)) ∧
      (results (postedBy id trace)).Perm
        ((readBy id trace).filterMap fun (_, record) => run.job.context.analyze? record) := by
  obtain ⟨hconserves, -⟩ := h.conserves hunhindered
  obtain ⟨-, c, hcourse, -⟩ := (h.onCourse id).launched run hrun
  obtain ⟨hpositions, hresults⟩ := (hconserves.launched run hrun).1.complete hover
  rw [hcourse.phase.results_pending hover, List.append_nil] at hresults
  exact ⟨hpositions, hresults⟩

/-- What comes of a look at the size of the source that finds it the same. -/
theorem Execution.waits_of_same (h : Execution (.empty maxWorkers) (before ++ m :: after) d)
    (hunhindered : Unhindered id (before ++ m :: after))
    (hrun : d.run? id = some run) {r : Run} (hbefore : m.before.run? id = some r)
    (hevent : m.event id = .polled (.ok r.scan.range.stop))
    (hpolled : ∀ m' ∈ after, (m'.event id).polled? = none) :
    run.scan = r.scan ∧ readBy id after = [] ∧ postedBy id after = [] := by
  obtain ⟨hearly, next, hstep, hsofar, hafter⟩ := h.split
  obtain ⟨hphase, hnext⟩ := Dispatch.poll_of_polled hstep hbefore hevent
  obtain ⟨-, c, hcourse, -⟩ := (hearly.onCourse id).launched r hbefore
  have hon := hcourse.phase
  rw [hphase] at hon
  cases hon
  have hpoll : r.poll (.ok r.scan.range.stop) = r.enter .resting := by simp [Run.poll]
  rw [hpoll] at hnext
  have hwaiting : (r.enter .resting).IsWaiting :=
    ⟨.inl rfl, (hcourse.settled rfl).2, hcourse.listening rfl⟩
  rw [List.append_cons] at hunhindered
  obtain ⟨run', hrun', -, hscan, hnone⟩ := hsofar.waits hafter hunhindered hnext hwaiting hpolled
  obtain rfl := Option.some.inj (hrun.symm.trans hrun')
  exact ⟨hscan, readBy_eq_nil hnone, postedBy_eq_nil hnone⟩

/-- What comes of a look at the size of the source that finds it shrunk. -/
theorem Execution.breaks_of_shrunk (h : Execution (.empty maxWorkers) (before ++ m :: after) d)
    (hunhindered : Unhindered id (before ++ m :: after))
    (hrun : d.run? id = some run) {r : Run} {size : Nat} (hbefore : m.before.run? id = some r)
    (hevent : m.event id = .polled (.ok size)) (hshrunk : size < r.scan.range.stop)
    {last : Notification} (hlast : last = .failure id 100 (shrunkMessage r.scan.range.stop size)) :
    (∀ n ∈ postedBy id before, n.state = .progress) ∧
      readBy id after = [] ∧ polledBy id after = [] ∧ movesBy id after ≤ 5 ∧
      (movesBy id after < 5 → (d.step? (.drive id)).isSome = true ∧
        postedBy id after <+: [last]) ∧
      (movesBy id after = 5 → run.phase = .gone ∧ d.isActive id = false ∧
        postedBy id after = [last]) := by
  obtain ⟨hearly, next, hstep, hlater, hafter⟩ := h.split
  obtain ⟨hphase, hnext⟩ := Dispatch.poll_of_polled hstep hbefore hevent
  obtain ⟨hid, c, hcourse, -⟩ := (hearly.onCourse id).launched r hbefore
  have hon := hcourse.phase
  rw [hphase] at hon
  cases hon
  have hpoll : r.poll (.ok size) = r.enter (.failing 100 (shrunkMessage r.scan.range.stop size)) :=
    if_pos hshrunk
  rw [hpoll] at hnext
  -- The look itself belongs to what comes before.
  rw [List.append_cons] at hunhindered
  have hbreaking :
      Phase.Breaking last (.failing 100 (shrunkMessage r.scan.range.stop size)) 5 [] := by
    subst hlast
    exact .failing _ _ rfl
  have hrequest : last.request = id := by rw [hlast]; rfl
  obtain ⟨run', hrun', left, hleft, hbreaks, -, hreads, hpolls⟩ :=
    hlater.breaks hafter hunhindered hnext hbreaking hrequest (hcourse.settled rfl).2
  obtain rfl := Option.some.inj (hrun.symm.trans hrun')
  refine ⟨hcourse.told, hreads, hpolls, by omega, fun hmoves => ?_, fun hmoves => ?_⟩
  · obtain ⟨left, rfl⟩ : ∃ left', left = left' + 1 := ⟨left - 1, by omega⟩
    exact ⟨hbreaks.drive_isSome hrun, hbreaks.posted_isPrefix⟩
  · obtain rfl : left = 0 := by omega
    obtain ⟨-, c, hcourse', hleft'⟩ := (h.onCourse id).launched run hrun
    obtain ⟨hgone, hposted⟩ := hbreaks.eq_gone
    have hon := hcourse'.phase
    rw [hgone] at hon
    cases hon
    exact ⟨hgone, hleft' rfl, hposted⟩

/-- A continuous request that nobody cancels and that meets no failure scans the range that it was
submitted with, and then ranges from the end of the one before up to a size that its source was
found to have. It reads no position twice and none outside of these ranges, and when a scan is
over it has read all of them and posted what it found. It stays alive unless its source shrinks.
Once its own range is scanned, it posts only that all is done. It learns the size of its source
between two scans; where the size is the same, nothing is read and nothing is posted up to the
next look, and where it is smaller, the run goes on for five moves, which nothing hinders, to
post one error and to end. -/
theorem live_request_scans_once (h : Execution (.empty maxWorkers) trace d)
    (hrun : d.run? id = some run) (hcontinuous : run.job.continuous = true)
    (hunhindered : Unhindered id trace) :
    (∃ m ∈ trace, ∃ s size, m.step = .submit s size ∧
      s.job m.before.maxWorkers size = .ok run.job ∧ s.continuous = true ∧
      run.job.range = ⟨s.start, s.start + s.count⟩) ∧
    (∃ earlier later, run.job.ranges (polledBy id trace) = earlier ++ [run.scan.range] ∧
      run.job.ranges (polledBy id trace) = run.job.range :: later ∧
      ScanRange.EndToEnd run.job.range.start (run.job.range :: later) run.scan.range.stop ∧
      ∀ r ∈ later, r.start < r.stop ∧ .ok r.stop ∈ polledBy id trace) ∧
    ((readBy id trace).map Prod.fst).Nodup ∧
    (∀ p ∈ (readBy id trace).map Prod.fst,
      run.job.range.start ≤ p ∧ p < run.scan.range.stop) ∧
    (run.phase.isScanning = false →
      ((readBy id trace).map Prod.fst).Perm
        (List.range' run.job.range.start (run.scan.range.stop - run.job.range.start)) ∧
      (results (postedBy id trace)).Perm
        ((readBy id trace).filterMap fun (_, record) => run.job.context.analyze? record)) ∧
    (run.phase.isAlive = true ∨ ∃ m ∈ trace, ∃ r size, m.before.run? id = some r ∧
      m.event id = .polled (.ok size) ∧ size < r.scan.range.stop) ∧
    ∀ before m after r, trace = before ++ m :: after → m.before.run? id = some r →
      (r.HasScanned → ∀ n ∈ postedBy id (m :: after), n.percent = 100) ∧
      ∀ size, m.event id = .polled (.ok size) →
        r.phase.isScanning = false ∧
        (size = r.scan.range.stop → (∀ m' ∈ after, (m'.event id).polled? = none) →
          run.scan = r.scan ∧ readBy id after = [] ∧ postedBy id after = []) ∧
        (size < r.scan.range.stop → ∀ last,
          last = .failure id 100 (shrunkMessage r.scan.range.stop size) →
          (∀ n ∈ postedBy id before, n.state = .progress) ∧
          readBy id after = [] ∧ polledBy id after = [] ∧ movesBy id after ≤ 5 ∧
          (movesBy id after < 5 → (d.step? (.drive id)).isSome = true ∧
            postedBy id after <+: [last]) ∧
          (movesBy id after = 5 → run.phase = .gone ∧ d.isActive id = false ∧
            postedBy id after = [last])) := by
  obtain ⟨hconserves, -⟩ := h.conserves hunhindered
  obtain ⟨hlaws, -⟩ := hconserves.launched run hrun
  obtain ⟨earlier, hranges⟩ := hlaws.ranges
  obtain ⟨later, hfirst, hchain, hlater⟩ := hlaws.chain
  have hnodup := hlaws.positions.nodup_iff.2 (List.nodup_range' ..)
  obtain ⟨submitting, hmem, s, size, hsubmit, hjob⟩ := h.submitted hrun
  obtain ⟨-, hrange, hlive⟩ := Submission.job_eq_ok hjob
  refine ⟨⟨submitting, hmem, s, size, hsubmit, hjob, hlive.symm.trans hcontinuous, hrange⟩,
    ⟨earlier, later, hranges, hfirst, hchain, hlater⟩, (List.nodup_append.1 hnodup).1,
    fun p hp => ?_, h.complete hunhindered hrun, h.isAlive hunhindered hrun hcontinuous, ?_⟩
  · have hmem := hlaws.positions.subset (List.mem_append_left _ hp)
    have hle := hchain.le
    rw [List.mem_range'_1] at hmem
    omega
  · rintro before m after r rfl hbefore
    obtain ⟨hearly, next, hstep, -, hafter⟩ := h.split
    refine ⟨fun hscanned => ?_, fun size hevent => ?_⟩
    · have hinitial := hunhindered.mono (List.prefix_append before (m :: after))
      exact ((Execution.single hstep).append hafter).percent_eq hbefore
        (hearly.full hinitial hbefore hscanned)
    · obtain ⟨hphase, -⟩ := Dispatch.poll_of_polled hstep hbefore hevent
      exact ⟨by rw [hphase]; rfl,
        fun hsame => h.waits_of_same hunhindered hrun hbefore (hsame ▸ hevent),
        fun hshrunk _ hlast => h.breaks_of_shrunk hunhindered hrun hbefore hevent hshrunk hlast⟩

/-- One record for at most two workers, which report each record by itself. The request stays
alive. -/
def liveSubmission : Submission :=
  ⟨0, 1, "a", 2, true, { Settings.standard with chunkSize := 1 }⟩

/-- The first and the last of three records match. -/
def liveRecord (position : Nat) : Record :=
  Record.ofText position (if position = 1 then "bc" else "ab")

/-- The steps in which a worker scans the record that it is at and stops behind it. -/
def scanSteps (worker position : Nat) : List Step :=
  [.work 1 worker, .load 1 worker (.ok (liveRecord position)), .work 1 worker, .work 1 worker,
    .work 1 worker]

/-- So many steps of the driver. -/
def driveSteps (count : Nat) : List Step :=
  List.replicate count (.drive 1)

/-- The first record of two is scanned, then the two others of three, the last one before the
other. The source is found to have the same size once more, and is about to be looked at
again. -/
def liveBegun : List Moment × Dispatch :=
  (Dispatch.empty 2).replay (List.flatten
    [[.submit liveSubmission (.ok 2), .call 0, .call 0, .call 0, .call 0], driveSteps 3,
      scanSteps 0 0, driveSteps 8, [.poll 1 (.ok 3)], driveSteps 5,
      scanSteps 1 2, scanSteps 0 1, driveSteps 8, [.poll 1 (.ok 3)], driveSteps 1])

/-- The source is found to have shrunk. -/
def liveShrunk : Dispatch :=
  ((liveBegun.2.step? (.poll 1 (.ok 2))).map Prod.fst).getD default

/-- The run comes to its end. -/
def liveSettled : List Moment × Dispatch :=
  liveShrunk.replay (driveSteps 5)

theorem Dispatch.run?_of_isSome (h : (d.run? id).isSome = true) :
    d.run? id = some ((d.run? id).getD default) := by
  obtain ⟨run, hrun⟩ := Option.isSome_iff_exists.1 h
  rw [hrun]
  rfl

theorem Dispatch.step?_poll_of_isSome {answer : Except ScanError Nat}
    (h : (d.step? (.poll id answer)).isSome = true) :
    d.step? (.poll id answer) =
      some (((d.step? (.poll id answer)).map Prod.fst).getD default, none) := by
  obtain ⟨⟨next, seen⟩, hnext⟩ := Option.isSome_iff_exists.1 h
  obtain rfl : seen = none := by
    cases steps_of_step? hnext
    rfl
  rw [hnext]
  rfl

/-- The moments from the first one to the last. -/
def liveTrace : List Moment :=
  liveBegun.1 ++ ⟨liveBegun.2, .poll 1 (.ok 2), none⟩ :: liveSettled.1

/-- The run of the request before the last look at its source. -/
def liveRunBegun : Run := (liveBegun.2.run? 1).getD default

/-- The run of the request at the end. -/
def liveRun : Run := (liveSettled.2.run? 1).getD default

/-- The three records are read once each, and the results posted are those of the first and the
last one. The last look at the source ends the request with one error. -/
theorem live_request_scans_once_shrinking :
    ((readBy 1 liveTrace).map Prod.fst).Perm [0, 1, 2] ∧
      ((results (postedBy 1 liveTrace)).map RecordResult.id).Perm [0, 2] ∧
      postedBy 1 liveSettled.1 = [.failure 1 100 "source shrank from 3 to 2 records"] ∧
      liveRun.phase = .gone ∧ liveSettled.2.isActive 1 = false := by
  -- What the execution comes to is computed at one go.
  have hfacts : (liveBegun.2.step? (.poll 1 (.ok 2))).isSome = true ∧
      (liveBegun.2.run? 1).isSome = true ∧ (liveSettled.2.run? 1).isSome = true ∧
      (liveTrace.all fun m => !(m.event 1).isCancelling && (m.event 1).succeeds) = true ∧
      liveRun.job.continuous = true ∧ liveRunBegun.scan.range.stop = 3 ∧
      movesBy 1 liveSettled.1 = 5 ∧
      List.range' liveRun.job.range.start
        (liveRun.scan.range.stop - liveRun.job.range.start) = [0, 1, 2] ∧
      ((readBy 1 liveTrace).filterMap fun (_, record) =>
        liveRun.job.context.analyze? record).map RecordResult.id = [0, 2] := by decide +kernel
  obtain ⟨hpoll, hbefore, hrun, hall, hcontinuous, hstop, hmoves, hrange, hfound⟩ := hfacts
  have hbegun : Execution (.empty 2) liveBegun.1 liveBegun.2 := .replay _ _
  have hsettled : Execution liveShrunk liveSettled.1 liveSettled.2 := .replay _ _
  have hlook : liveBegun.2.step? (.poll 1 (.ok 2)) = some (liveShrunk, none) :=
    Dispatch.step?_poll_of_isSome hpoll
  have h : Execution (.empty 2) liveTrace liveSettled.2 :=
    hbegun.append ((Execution.single hlook).append hsettled)
  have hunhindered : Unhindered 1 liveTrace := by
    intro m hm
    simpa only [Bool.and_eq_true, Bool.not_eq_true'] using List.all_eq_true.1 hall m hm
  have hbefore : liveBegun.2.run? 1 = some liveRunBegun := Dispatch.run?_of_isSome hbefore
  have hrun : liveSettled.2.run? 1 = some liveRun := Dispatch.run?_of_isSome hrun
  obtain ⟨-, -, -, -, hcomplete, -, hmoments⟩ :=
    live_request_scans_once h hrun hcontinuous hunhindered
  have hevent : Moment.event 1 ⟨liveBegun.2, .poll 1 (.ok 2), none⟩ = .polled (.ok 2) :=
    Dispatch.event_poll hbefore
  have hmoment := hmoments liveBegun.1 ⟨liveBegun.2, .poll 1 (.ok 2), none⟩ liveSettled.1
    liveRunBegun rfl
  dsimp only at hmoment
  obtain ⟨-, hpolled⟩ := hmoment hbefore
  obtain ⟨-, -, hshrunk⟩ := hpolled 2 hevent
  rw [hstop] at hshrunk
  obtain ⟨-, -, -, -, -, hended⟩ := hshrunk (by decide) _ rfl
  obtain ⟨hgone, hinactive, hposted⟩ := hended hmoves
  obtain ⟨hpositions, hresults⟩ := hcomplete (by rw [hgone]; rfl)
  rw [hrange] at hpositions
  exact ⟨hpositions, hfound ▸ hresults.map _, hposted, hgone, hinactive⟩

end PatternScan.Analysis
