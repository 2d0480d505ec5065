import PatternScan.Proofs.Analysis.BatchOrder

/-!
# What a run announces

A run has one notification ready at a time. Behind those of its batches it announces how its scan
came to its end, or that the request is alive and then that all is done. All of this is posted in
the order in which it gets ready, unless the request is silenced; from then on nothing is posted.
-/

namespace PatternScan.Analysis

variable {maxWorkers : Nat} {trace : List Moment} {d d' : Dispatch} {id : RequestId}
  {run run' : Run} {last : Nat} {rest : List Notification}

/-! ## Behind the batches -/

/-- Behind its batches, of which the last one came to the percentage, a run in this phase has
announced all this. -/
inductive Phase.Announces (id : RequestId) (last : Nat) : Phase → List Notification → Prop where
  | scanning (phase : Phase) (h : phase.isScanning = true) : Announces id last phase []
  | finishing : Announces id last .finishing []
  | failing (error : String) : Announces id last (.failing last error) []
  | leaving (e : Ending) (h : e.Tells last) :
      Announces id last (.leaving (e.farewell id)) (e.farewell id).toList
  | asking (e : Ending) (n : Notification) (hlast : e.farewell id = some n) (h : e.Tells last) :
      Announces id last (.asking n .retiring) [n]
  | telling (e : Ending) (n : Notification) (hlast : e.farewell id = some n) (h : e.Tells last) :
      Announces id last (.telling n .retiring) [n]
  | retiring (e : Ending) (h : e.Tells last) : Announces id last .retiring (e.farewell id).toList
  | gone (e : Ending) (h : e.Tells last) : Announces id last .gone (e.farewell id).toList

theorem Phase.Announces.retiring_last {e : Ending} {n : Notification}
    (hlast : e.farewell id = some n) (h : e.Tells last) :
    Phase.Announces id last .retiring [n] := by
  have hretiring : Phase.Announces id last .retiring (e.farewell id).toList := .retiring e h
  rwa [hlast] at hretiring

theorem Phase.Announces.aftermath {phase : Phase} (h : phase.Announces id last rest) :
    Aftermath id last rest := by
  have hlast {e : Ending} {n : Notification} (htells : e.Tells last)
      (hfarewell : e.farewell id = some n) : Aftermath id last [n] := by
    have hended : Aftermath id last (e.farewell id).toList := .ended e htells
    rwa [hfarewell] at hended
  cases h with
  | scanning | finishing | failing => exact .nil
  | leaving e h | retiring e h | gone e h => exact .ended e h
  | asking e n hfarewell h | telling e n hfarewell h => exact hlast h hfarewell

/-- A notification that is ready once the scan is over is one of those behind the batches. -/
theorem Phase.Announces.ne_nil {phase : Phase} (h : phase.Announces id last rest)
    (hover : phase.isScanning = false) (hpending : phase.pending ≠ []) : rest ≠ [] := by
  cases h with
  | scanning _ hscanning => exact absurd (hover.symm.trans hscanning) nofun
  | leaving e h =>
      intro hnone
      rw [Phase.pending, hnone] at hpending
      exact hpending rfl
  | asking | telling => exact List.cons_ne_nil _ _
  | finishing | failing | retiring | gone => exact absurd rfl hpending

theorem Phase.percent_mem_percents {phase : Phase} {n : Notification} (hn : n ∈ phase.pending) :
    n.percent ∈ phase.percents := by
  induction phase with
  | leaving farewell => exact List.mem_map_of_mem hn
  | asking m next ih | telling m next ih =>
      rcases List.mem_cons.1 hn with rfl | hn
      · exact List.mem_cons_self
      · exact List.mem_cons_of_mem _ (ih hn)
  | _ => cases hn

namespace Run

/-- The notifications of the batches. -/
def told (run : Run) (batches : List Batch) : List Notification :=
  notices run.id run.job.range.size 0 batches

/-- Behind its batches the run has announced all this. -/
inductive Announces (run : Run) (last : Nat) : List Notification → Prop where
  | initial (rest : List Notification) (hlive : run.scan.live = false)
      (hphase : run.phase.Announces run.id last rest) : Announces run last rest
  | alive (more : List Notification) (hmore : ∀ n ∈ more, n.percent = 100) (hfull : run.Full) :
      Announces run last (.progress run.id 100 [] :: more)

theorem Announces.aftermath (h : run.Announces last rest) : Aftermath run.id last rest := by
  cases h with
  | initial rest hlive hphase => exact hphase.aftermath
  | alive more hmore hfull => exact .alive more hmore

theorem Announces.ne_nil (h : run.Announces last rest) (hscanned : run.HasScanned)
    (hpending : run.phase.pending ≠ []) : rest ≠ [] := by
  cases h with
  | initial rest hlive hphase =>
      have hover := hscanned.resolve_left fun h => absurd (hlive.symm.trans h) nofun
      exact hphase.ne_nil hover hpending
  | alive => exact List.cons_ne_nil _ _

/-! ## Announcements of a move -/

end Run

/-- A run that leaves the phase may have a notification ready that it had not before. -/
def Phase.isTurning : Phase → Bool
  | collecting | finishing | failing _ _ => true
  | _ => false

namespace Run

/-- What is announced with a move. -/
def added (run run' : Run) : List Notification :=
  if run.phase.isTurning then run'.phase.pending else []

theorem mem_pending_of_added {n : Notification} (h : n ∈ run.added run') :
    n ∈ run'.phase.pending := by
  rw [added] at h
  split at h
  · exact h
  · cases h

theorem added_eq_nil {phase : Phase} (hphase : run.phase = phase)
    (h : phase.isTurning = false) : run.added run' = [] := by
  rw [added, hphase, h, if_neg Bool.false_ne_true]

theorem added_of_turning {phase : Phase} (hphase : run.phase = phase)
    (h : phase.isTurning = true) : run.added run' = run'.phase.pending := by
  rw [added, hphase, h, if_pos rfl]

theorem added_of_same (h : run'.phase = run.phase) : run.added run' = [] := by
  cases hphase : run.phase with
  | collecting | finishing | failing =>
      rw [added_of_turning hphase rfl, h, hphase]
      rfl
  | _ => exact added_eq_nil hphase rfl

variable {halted silenced : Bool} {event : RequestEvent} {effect : Effect} {c : Course}
  {posted : List Notification} {batches : List Batch}

/-- A move posts what is ready and makes ready what it announces, unless the request is
silenced. -/
theorem Moves.pending (h : run.Moves halted silenced event run' effect) :
    event.posted?.toList ++ run'.phase.pending = run.phase.pending ++ run.added run' ∨
      silenced = true ∧ event.posted? = none ∧
        ∃ n next, run.phase = .asking n next ∧ run'.phase = next := by
  have hturn {phase : Phase} (hphase : run.phase = phase) (hturning : phase.isTurning = true) :
      run'.phase.pending = run.phase.pending ++ run.added run' := by
    rw [added_of_turning hphase hturning, hphase]
    cases phase <;> first | rfl | cases hturning
  have hstay {phase : Phase} (hphase : run.phase = phase) (hturning : phase.isTurning = false)
      {ns : List Notification} (hpending : ns = phase.pending) :
      ns = run.phase.pending ++ run.added run' := by
    rw [added_eq_nil hphase hturning, List.append_nil, hphase, hpending]
  cases h with
  | start parts hphase =>
      refine .inl (hstay hphase rfl ?_)
      cases parts with
      | nil => rfl
      | cons part rest => cases halted <;> rfl
  | hire part rest hphase => exact .inl (hstay hphase rfl rfl)
  | take event rest hphase hevents => exact .inl (hturn hphase rfl)
  | close hphase hevents hidle => exact .inl (hturn hphase rfl)
  | finish hphase => exact .inl (hturn hphase rfl)
  | fail percent error hphase => exact .inl (hturn hphase rfl)
  | leave farewell hphase =>
      refine .inl (hstay hphase rfl ?_)
      cases farewell <;> rfl
  | ask n next hphase =>
      cases silenced with
      | true => exact .inr ⟨rfl, rfl, n, next, hphase, rfl⟩
      | false => exact .inl (hstay hphase rfl rfl)
  | tell n next hphase => exact .inl (hstay hphase rfl rfl)
  | rest hphase =>
      refine .inl (hstay hphase rfl ?_)
      cases halted <;> rfl
  | poll answer hphase =>
      refine .inl (hstay hphase rfl ?_)
      cases answer with
      | error e => rfl
      | ok size =>
          rw [Run.poll]
          split
          · rfl
          · split <;> rfl
  | retire hphase => exact .inl (hstay hphase rfl rfl)
  | work index w next event hworker hstep =>
      have hsame : run.added (run.afterWork index next event) = [] := added_of_same rfl
      rw [hsame, List.append_nil]
      exact .inl rfl
  | load index w answer hworker hstage =>
      have hsame : run.added (run.afterLoad index w answer) = [] := added_of_same rfl
      rw [hsame, List.append_nil]
      exact .inl rfl

/-- A run that tells only that all is done takes no batch of the range of the request itself. -/
theorem Full.gained_eq_nil (h : run.Full) : run.gained run' = [] := by
  by_cases hphase : run.phase = .collecting
  · obtain ⟨hlive, -⟩ := h.scanning (by rw [hphase]; rfl)
    have hnone : run.nextBatch? = none := by
      unfold nextBatch?
      split
      · rw [if_pos hlive]
      · rfl
    rw [gained, hnone]
    split <;> rfl
  · exact Run.gained_eq_nil fun h => absurd h hphase

/-! ## Going on -/

/-- With a move the run announces the batch that it takes, or it goes on behind its batches. -/
def GoesOn (run run' : Run) (batches : List Batch) (rest : List Notification) : Prop :=
  ∃ rest', run'.Announces (lastPercent (run'.told (batches ++ run.gained run'))) rest' ∧
    run'.told (batches ++ run.gained run') ++ rest' =
      run.told batches ++ rest ++ run.added run'

namespace GoesOn

variable {rest' : List Notification} {phase : Phase}

/-- A move in which no batch is taken. -/
theorem of_gained (hsame : run'.id = run.id ∧ run'.job = run.job) (hgained : run.gained run' = [])
    (hnext : run'.Announces (lastPercent (run.told batches)) rest')
    (hadded : rest' = rest ++ run.added run') : run.GoesOn run' batches rest := by
  have htold : run'.told (batches ++ run.gained run') = run.told batches := by
    rw [hgained, List.append_nil, told, hsame.1, hsame.2, told]
  refine ⟨rest', ?_, ?_⟩
  · rw [htold]
    exact hnext
  · rw [htold, hadded, List.append_assoc]

/-- Most moves announce nothing. -/
theorem quiet (hsame : run'.id = run.id ∧ run'.job = run.job) (hlive : run'.scan.live = false)
    (hphase : run.phase = phase) (hturning : phase.isTurning = false)
    (hnext : run'.phase.Announces run.id (lastPercent (run.told batches)) rest) :
    run.GoesOn run' batches rest := by
  have hne : run.phase ≠ .collecting := by
    intro hcollecting
    rw [← hphase, hcollecting] at hturning
    cases hturning
  have hnone : run.added run' = [] := added_eq_nil hphase hturning
  refine of_gained hsame (gained_eq_nil fun h => absurd h hne)
    (.initial rest hlive (hsame.1 ▸ hnext)) ?_
  rw [hnone, List.append_nil]

/-- In the other ones the run has announced nothing behind its batches so far. -/
theorem turn (hsame : run'.id = run.id ∧ run'.job = run.job) (hlive : run'.scan.live = false)
    (hphase : run.phase = phase) (hturning : phase.isTurning = true)
    (hgained : run.gained run' = [])
    (hnext : run'.phase.Announces run.id (lastPercent (run.told batches)) run'.phase.pending) :
    run.GoesOn run' batches [] := by
  have hadded : run.added run' = run'.phase.pending := added_of_turning hphase hturning
  refine of_gained hsame hgained (.initial _ hlive (hsame.1 ▸ hnext)) ?_
  rw [hadded, List.nil_append]

theorem take (hcounts : run.Counts batches) (hlive : run.scan.live = false)
    (hphase : run.phase = .collecting) (event : WorkerEvent) {events : List WorkerEvent}
    (hevents : run.events = event :: events) :
    run.GoesOn (run.take event events) batches [] := by
  obtain ⟨hrange, hprocessed, hpercent⟩ := hcounts.initial hlive
  cases event with
  | batch processed results =>
      have hgained := gained_take hphase hevents
      rw [hlive, if_neg Bool.false_ne_true] at hgained
      have hadded : run.added (run.take (.batch processed results) events) =
          [.progress run.id (percentOf (0 + (done batches + processed)) run.job.range.size)
            results] := by
        rw [added_of_turning hphase rfl, Nat.zero_add, ← hprocessed, ← hrange]
        simp [Run.take, Scan.advance, hlive, Phase.pending]
      refine ⟨[], .initial [] hlive (.scanning _ rfl), ?_⟩
      rw [hgained, hadded, List.append_nil, List.append_nil]
      exact notices_snoc _
  | failed error =>
      refine turn ⟨rfl, rfl⟩ hlive hphase rfl ?_ ?_
      · simp [gained, Run.take, nextBatch?, hphase, hevents]
      · rw [Run.take, hpercent]
        exact .failing error

theorem finish (hlive : run.scan.live = false) (hphase : run.phase = .finishing) :
    run.GoesOn (run.finish halted) batches [] := by
  have hgained {next : Run} : run.gained next = [] := gained_eq_nil_of_phase hphase (by simp)
  cases halted with
  | true =>
      exact turn ⟨rfl, rfl⟩ hlive hphase rfl hgained
        (.leaving .cancelled (Ending.cancelled_tells _))
  | false =>
      rw [Run.finish, if_neg Bool.false_ne_true]
      split
      · have hfull : (run.enter (.asking (.progress run.id 100 []) .resting)).Full :=
          ⟨fun percent hpercent => List.mem_singleton.1 hpercent,
            fun hscanning => absurd hscanning Bool.false_ne_true⟩
        refine of_gained ⟨rfl, rfl⟩ hgained (.alive [] (List.forall_mem_nil _) hfull) ?_
        rw [added_of_turning hphase rfl]
        rfl
      · exact turn ⟨rfl, rfl⟩ hlive hphase rfl hgained
          (.leaving .succeeded (Ending.succeeded_tells _))

theorem alive {more : List Notification} (hmore : ∀ n ∈ more, n.percent = 100)
    (hfull : run.Full) (hmove : run.Moves halted silenced event run' effect) :
    run.GoesOn run' batches (.progress run.id 100 [] :: more) := by
  obtain ⟨hid, hjob⟩ := hmove.id_and_job
  obtain ⟨hfull', -⟩ := hfull.moves hmove
  have hnew : ∀ n ∈ run.added run', n.percent = 100 := fun n hn =>
    hfull'.percents _ (Phase.percent_mem_percents (mem_pending_of_added hn))
  have hnext : run'.Announces (lastPercent (run.told batches))
      (.progress run'.id 100 [] :: (more ++ run.added run')) :=
    .alive _ (List.forall_mem_append.2 ⟨hmore, hnew⟩) hfull'
  rw [hid] at hnext
  exact of_gained ⟨hid, hjob⟩ hfull.gained_eq_nil hnext rfl

end GoesOn

/-- Every move keeps to what a run announces behind its batches. -/
theorem Announces.moves (h : run.Announces (lastPercent (run.told batches)) rest)
    (hcounts : run.Counts batches) (hmove : run.Moves halted silenced event run' effect) :
    run.GoesOn run' batches rest := by
  have hsame := hmove.id_and_job
  cases h with
  | alive more hmore hfull => exact .alive hmore hfull hmove
  | initial rest hlive hbehind =>
      cases hmove with
      | start parts hphase =>
          rw [hphase] at hbehind
          cases hbehind
          cases parts with
          | nil => exact .quiet hsame hlive hphase rfl (.scanning _ rfl)
          | cons part rest =>
              cases halted <;> exact .quiet hsame hlive hphase rfl (.scanning _ rfl)
      | hire part rest hphase =>
          rw [hphase] at hbehind
          cases hbehind
          exact .quiet hsame hlive hphase rfl (.scanning _ rfl)
      | take event events hphase hevents =>
          rw [hphase] at hbehind
          cases hbehind
          exact .take hcounts hlive hphase event hevents
      | close hphase hevents hidle =>
          rw [hphase] at hbehind
          cases hbehind
          have hafter : run.afterScan = .finishing := by
            rw [afterScan, hlive, if_neg Bool.false_ne_true]
          rw [hafter]
          refine .turn hsame hlive hphase rfl ?_ .finishing
          simp [gained, Run.enter, nextBatch?, hevents]
      | finish hphase =>
          rw [hphase] at hbehind
          cases hbehind with
          | scanning _ h => cases h
          | finishing => exact .finish hlive hphase
      | fail percent error hphase =>
          rw [hphase] at hbehind
          cases hbehind with
          | scanning _ h => cases h
          | failing error =>
              exact .turn hsame hlive hphase rfl (gained_eq_nil_of_phase hphase (by simp))
                (.leaving (.failed _ error) (Ending.failed_tells _ error))
      | leave farewell hphase =>
          rw [hphase] at hbehind
          cases hbehind with
          | scanning _ h => cases h
          | leaving e h =>
              cases e with
              | cancelled => exact .quiet hsame hlive hphase rfl (.retiring .cancelled h)
              | succeeded => exact .quiet hsame hlive hphase rfl (.asking .succeeded _ rfl h)
              | failed percent error =>
                  exact .quiet hsame hlive hphase rfl (.asking (.failed percent error) _ rfl h)
      | ask n next hphase =>
          rw [hphase] at hbehind
          cases hbehind with
          | scanning _ h =>
              cases silenced <;> exact .quiet hsame hlive hphase rfl (.scanning _ h)
          | asking e n hlast h =>
              cases silenced with
              | true => exact .quiet hsame hlive hphase rfl (.retiring_last hlast h)
              | false => exact .quiet hsame hlive hphase rfl (.telling e n hlast h)
      | tell n next hphase =>
          rw [hphase] at hbehind
          cases hbehind with
          | scanning _ h => exact .quiet hsame hlive hphase rfl (.scanning _ h)
          | telling e n hlast h =>
              exact .quiet hsame hlive hphase rfl (.retiring_last hlast h)
      | rest hphase =>
          rw [hphase] at hbehind
          cases hbehind with
          | scanning _ h => cases h
      | poll answer hphase =>
          rw [hphase] at hbehind
          cases hbehind with
          | scanning _ h => cases h
      | retire hphase =>
          rw [hphase] at hbehind
          cases hbehind with
          | scanning _ h => cases h
          | retiring e h => exact .quiet hsame hlive hphase rfl (.gone e h)
      | work | load =>
          refine .of_gained hsame (Run.gained_eq_nil fun h => h) (.initial rest hlive hbehind) ?_
          exact (List.append_nil rest).symm.trans (congrArg (rest ++ ·) (added_of_same rfl).symm)

end Run

/-! ## What is posted -/

/-- The run sends a notification. -/
def Phase.isTelling : Phase → Bool
  | telling _ _ => true
  | _ => false

/-- A run that is silenced where it looks posts nothing and does not come to send anything. -/
theorem Run.Moves.unposted {halted silenced : Bool} {event : RequestEvent} {effect : Effect}
    {c : Course} {posted : List Notification} (h : run.Moves halted silenced event run' effect)
    (hcourse : run.OnCourse posted c) (hphase : run.phase.isTelling = false)
    (hsilenced : ∀ n next, run.phase = .asking n next → silenced = true) :
    event.posted? = none ∧ run'.phase.isTelling = false := by
  cases h with
  | start parts _ =>
      refine ⟨rfl, ?_⟩
      cases parts with
      | nil => rfl
      | cons part rest => cases halted <;> rfl
  | take event rest _ _ => cases event <;> exact ⟨rfl, rfl⟩
  | close _ _ _ =>
      refine ⟨rfl, ?_⟩
      rw [Run.enter, Run.afterScan]
      split <;> rfl
  | finish _ =>
      refine ⟨rfl, ?_⟩
      rw [Run.finish]
      split
      · rfl
      · split <;> rfl
  | leave farewell _ => cases farewell <;> exact ⟨rfl, rfl⟩
  | ask n next hasking =>
      obtain rfl := hsilenced n next hasking
      have hon := hcourse.phase
      rw [hasking] at hon
      cases hon <;> exact ⟨rfl, rfl⟩
  | tell n next htelling =>
      rw [htelling] at hphase
      cases hphase
  | rest _ => cases halted <;> exact ⟨rfl, rfl⟩
  | poll answer _ =>
      refine ⟨rfl, ?_⟩
      cases answer with
      | error e => rfl
      | ok size =>
          rw [Run.poll]
          split
          · rfl
          · split <;> rfl
  | hire | fail | retire => exact ⟨rfl, rfl⟩
  | work | load => exact ⟨rfl, hphase⟩

theorem RequestView.Hushed.silenced_of_asking {v : RequestView} (h : v.Hushed)
    (hrun : v.run = some run) {n : Notification} {next : Phase}
    (hphase : run.phase = .asking n next) : v.silenced = true := by
  cases h with
  | silenced h => exact h
  | drained h =>
      obtain ⟨-, -, other, hother, hgone⟩ := h
      obtain rfl := Option.some.inj (hrun.symm.trans hother)
      cases hphase.symm.trans hgone
  | unspoken hhalted hmute hmail =>
      have hkind := (hmute run hrun).phase
      rw [hphase] at hkind
      cases hkind

/-- All that was announced is posted or ready, or the request was silenced in between. -/
inductive Heard (id : RequestId) (trace : List Moment) (d : Dispatch) (run : Run)
    (said : List Notification) : Prop where
  | loud (h : postedBy id trace ++ run.phase.pending = said)
  | hushed (hcancel : ∃ m ∈ trace, (m.event id).isCancelling = true)
      (hhushed : (d.view id).Hushed) (hphase : run.phase.isTelling = false)
      (hposted : postedBy id trace <+: said)

namespace Heard

variable {said : List Notification} {step : Step} {seen : Option Observation}

theorem isPrefix (h : Heard id trace d run said) : postedBy id trace <+: said := by
  cases h with
  | loud h => exact h ▸ List.prefix_append _ _
  | hushed _ _ _ hposted => exact hposted

theorem eq_of_quiet (h : Heard id trace d run said)
    (hquiet : ∀ m ∈ trace, (m.event id).isCancelling = false) :
    postedBy id trace ++ run.phase.pending = said := by
  cases h with
  | loud h => exact h
  | hushed hcancel _ _ _ =>
      obtain ⟨m, hm, hcancelling⟩ := hcancel
      cases (hquiet m hm).symm.trans hcancelling

theorem other (h : Heard id trace d run said) (hexecution : Execution (.empty maxWorkers) trace d)
    (hstep : d.step? step = some (d', seen))
    (hposted : postedBy id (trace ++ [⟨d, step, seen⟩]) = postedBy id trace) :
    Heard id (trace ++ [⟨d, step, seen⟩]) d' run said := by
  cases h with
  | loud h => exact .loud (hposted.symm ▸ h)
  | hushed hcancel hhushed hphase hsaid =>
      obtain ⟨m, hm, hcancelling⟩ := hcancel
      exact .hushed ⟨m, List.mem_append_left _ hm, hcancelling⟩
        ((hexecution.requestStep hstep id).hushed hhushed (hexecution.mailed id)).1 hphase
        (hposted.symm ▸ hsaid)

theorem moves (h : Heard id trace d run said) (hexecution : Execution (.empty maxWorkers) trace d)
    (hstep : d.step? step = some (d', seen)) (hrun : d.run? id = some run) {effect : Effect}
    (hmove : run.Moves (d.isHalted id) (d.isSilenced id) (Moment.event id ⟨d, step, seen⟩) run'
      effect) :
    Heard id (trace ++ [⟨d, step, seen⟩]) d' run' (said ++ run.added run') := by
  obtain ⟨-, c, hcourse, -⟩ := (hexecution.onCourse id).launched run hrun
  have hstays (hhushed : (d.view id).Hushed) : (d'.view id).Hushed :=
    ((hexecution.requestStep hstep id).hushed hhushed (hexecution.mailed id)).1
  -- A run that is silenced posts nothing, and what it announces from then on gets lost.
  have hhush (hcancel : ∃ m ∈ trace, (m.event id).isCancelling = true)
      (hhushed : (d.view id).Hushed) (hphase : run.phase.isTelling = false)
      (hposted : postedBy id trace <+: said) :
      Heard id (trace ++ [⟨d, step, seen⟩]) d' run' (said ++ run.added run') := by
    obtain ⟨hnone, hphase'⟩ := hmove.unposted hcourse hphase fun n next hasking =>
      hhushed.silenced_of_asking hrun hasking
    obtain ⟨m, hm, hcancelling⟩ := hcancel
    refine .hushed ⟨m, List.mem_append_left _ hm, hcancelling⟩ (hstays hhushed) hphase' ?_
    rw [postedBy_snoc, hnone, Option.toList_none, List.append_nil]
    exact hposted.trans (List.prefix_append _ _)
  cases h with
  | hushed hcancel hhushed hphase hposted => exact hhush hcancel hhushed hphase hposted
  | loud h =>
      rcases hmove.pending with hpending | ⟨hsilenced, -, n, next, hasking, -⟩
      · refine .loud ?_
        rw [postedBy_snoc, List.append_assoc, hpending, ← List.append_assoc, h]
      · refine hhush ?_ (.silenced hsilenced) (by rw [hasking]; rfl)
          (h ▸ List.prefix_append _ _)
        by_contra hnone
        have hquiet : ∀ event ∈ trace.map (Moment.event id), event.isCancelling = false := by
          simpa using hnone
        have hloud := ((hexecution.requestRun id).posted_eq_delivered_append hquiet).1
        cases hloud.symm.trans hsilenced

end Heard

/-- What a request posts begins what its run announces: the notifications of its batches, and what
stands behind them. -/
theorem Execution.announces (h : Execution (.empty maxWorkers) trace d)
    (hrun : d.run? id = some run) :
    ∃ rest, run.Announces (lastPercent (run.told (batchesBy id trace))) rest ∧
      Heard id trace d run (run.told (batchesBy id trace) ++ rest) := by
  refine h.from_launch (P := fun early d run =>
    ∃ rest, run.Announces (lastPercent (run.told (batchesBy id early))) rest ∧
      Heard id early d run (run.told (batchesBy id early) ++ rest)) ?_ ?_ ?_ hrun
  · rintro early d job - - - huntouched
    refine ⟨[], .initial [] rfl (.scanning _ rfl), .loud ?_⟩
    rw [huntouched.posted, huntouched.batches]
    rfl
  · rintro early d d' step seen run₁ run₂ effect - hearly hstep htarget hrun₁ hrun₂ hmove
      ⟨rest, hannounces, hheard⟩
    obtain ⟨rest', hnext, hsaid⟩ := hannounces.moves (hearly.counts hrun₁) hmove
    rw [batchesBy_snoc, Dispatch.batch?_eq_gained hstep htarget hrun₁ hrun₂]
    refine ⟨rest', hnext, ?_⟩
    rw [hsaid]
    exact hheard.moves hearly hstep hrun₁ hmove
  · rintro early d d' step seen run₁ - hearly hstep htarget hown ⟨rest, hannounces, hheard⟩
    obtain ⟨hbatches, -, hposted⟩ := snoc_of_ne_target (m := ⟨d, step, seen⟩) htarget hown
    rw [hbatches]
    exact ⟨rest, hannounces, hheard.other hearly hstep hposted⟩

end PatternScan.Analysis
