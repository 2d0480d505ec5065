import PatternScan.Analysis.Reception
import PatternScan.Proofs.Analysis.Execution
import PatternScan.Proofs.Analysis.Silence

/-!
# What steps do to the books

Two sets are kept of the requests: those of which messages may be queued, and those of them
that are silenced. The steps that matter to these books are few. A submission notes its
request, a run sends a message, the receiver takes one. All other steps leave the books as
they are, but for a call that silences a request noted there.
-/

namespace PatternScan.Analysis

/-- The run of the request has come to its end. -/
def Phase.isGone : Phase → Bool
  | .gone => true
  | _ => false

theorem Phase.isGone_iff {phase : Phase} : phase.isGone = true ↔ phase = .gone := by
  cases phase <;> simp [isGone]

/-- The request whose run a call is about to start, after having noted it. -/
def Call.noted? : Call → Option RequestId
  | .launching id _ => some id
  | _ => none

/-- An entry of the books. -/
inductive Entry where
  /-- A submission notes that messages of its request may be queued. -/
  | registered (id : RequestId)
  /-- A run sends a message. -/
  | sent (e : Envelope)
  /-- The receiver takes a message. -/
  | taken (e : Envelope)
  /-- A run fails to send a message. -/
  | bounced (e : Envelope)
  /-- The receiver leaves these messages behind. -/
  | abandoned (messages : List Envelope)
  deriving DecidableEq, Repr

namespace Dispatch

/-- The runs of these requests were started, or are about to be. -/
def registered (d : Dispatch) : List RequestId := d.launched ++ d.calls.filterMap Call.noted?

/-- The run of the request was started and has come to its end. -/
def hasEnded (d : Dispatch) (id : RequestId) : Bool := (d.run? id).any fun run => run.phase.isGone

/-- The entry of a step, read off the states before and after it. -/
def booking? (before : Dispatch) (step : Step) (after : Dispatch) : Option Entry :=
  match step with
  | .call index =>
      match before.calls[index]? with
      | some (.registering id _) => some (.registered id)
      | _ => none
  | .receive => before.queue.head?.map .taken
  | _ => after.queue[before.queue.length]?.map .sent

/-- What holds in every state, whether the receiver is there or not. -/
structure Regular (d : Dispatch) : Prop where
  orderly : d.Orderly
  onCourse : ∀ id, ∃ posted, (d.view id).OnCourse id posted

/-- What a step with the given entry does to the books. -/
inductive Books (d d' : Dispatch) : Option Entry → Prop where
  | quiet (hqueue : d'.queue = d.queue) (hunretired : d'.unretired = d.unretired)
      (hsilenced : d'.silenced ⊆ d.silenced ++ d.unretired)
      (hregistered : d'.registered.Perm d.registered)
      (hended : ∀ id, d'.hasEnded id = d.hasEnded id) : Books d d' none
  | register (id : RequestId) (hnew : d.hasEnded id = false) (hqueue : d'.queue = d.queue)
      (hunretired : d'.unretired = d.unretired.insert id) (hsilenced : d'.silenced = d.silenced)
      (hregistered : d'.registered.Perm (id :: d.registered))
      (hended : ∀ other, d'.hasEnded other = d.hasEnded other) : Books d d' (some (.registered id))
  | send (e : Envelope) (hhere : d.hasEnded e.request = false) (hqueue : d'.queue = d.queue ++ [e])
      (hunretired : d'.unretired = d.unretired) (hsilenced : d'.silenced = d.silenced)
      (hregistered : d'.registered.Perm d.registered)
      (hended : ∀ id, d'.hasEnded id = true ↔ d.hasEnded id = true ∨ e = .retired id) :
      Books d d' (some (.sent e))
  | take (e : Envelope) (hqueue : d.queue = e :: d'.queue)
      (hunretired : ∀ id, id ∈ d'.unretired ↔ id ∈ d.unretired ∧ e ≠ .retired id)
      (hsilenced : ∀ id, id ∈ d'.silenced ↔ id ∈ d.silenced ∧ e ≠ .retired id)
      (hregistered : d'.registered.Perm d.registered)
      (hended : ∀ id, d'.hasEnded id = d.hasEnded id) : Books d d' (some (.taken e))

variable {d d' : Dispatch} {run run' : Run} {id : RequestId} {index : Nat} {call : Call}
  {step : Step} {seen : Option Observation} {effect : Effect} {event : RequestEvent}

/-! ## States -/

theorem Regular.empty (maxWorkers : Nat) : (Dispatch.empty maxWorkers).Regular :=
  ⟨.empty maxWorkers, fun _ => ⟨[], fun _ => rfl, nofun⟩⟩

theorem Regular.steps (h : d.Regular) (hstep : d.Steps step seen d') : d'.Regular := by
  refine ⟨h.orderly.steps hstep, fun id => ?_⟩
  obtain ⟨posted, hposted⟩ := h.onCourse id
  exact ⟨_, (requestStep_of_steps hstep h.orderly id).onCourse hposted⟩

/-- Messages may get lost. -/
theorem Regular.abandon (h : d.Regular) : ({ d with queue := [] } : Dispatch).Regular :=
  ⟨{ h.orderly with queued := nofun }, fun id => by
    obtain ⟨posted, hposted⟩ := h.onCourse id
    exact ⟨posted, hposted.unlaunched, hposted.launched⟩⟩

/-- A message that could not be sent leaves the dispatch as one does that was taken. -/
theorem steps_bounce {e : Envelope} {rest : List Envelope} (h : d.queue = e :: rest) :
    ∃ seen, d.Steps .receive seen d.bounce := by
  cases e with
  | notification n =>
      rw [bounce, h]
      exact ⟨_, .deliver n rest h⟩
  | retired id =>
      rw [bounce, h]
      exact ⟨_, .retire id rest h⟩

theorem bounce_of_nil (h : d.queue = []) : d.bounce = d := by
  rw [bounce, h]

theorem Regular.bounce (h : d.Regular) : d.bounce.Regular := by
  cases hqueue : d.queue with
  | nil => exact (bounce_of_nil hqueue).symm ▸ h
  | cons e rest =>
      obtain ⟨seen, hstep⟩ := steps_bounce hqueue
      exact h.steps hstep

/-! ## Ends of runs -/

/-- A run is gone once it has posted its marker, and not before. -/
theorem isGone_of_moves {halted silenced : Bool} {posted : List Notification} {c : Course}
    (h : run.Moves halted silenced event run' effect) (hcourse : run.OnCourse posted c) :
    run'.phase.isGone = true ↔ run.phase.isGone = true ∨ effect = .post (.retired run.id) := by
  rw [Phase.isGone_iff, Phase.isGone_iff]
  constructor
  · intro hgone
    by_cases hhere : run.phase = .gone
    · exact .inl hhere
    · exact .inr (h.goes hcourse hhere hgone)
  · rintro (hgone | rfl)
    · exact (h.of_gone hgone).1
    · cases h with
      | retire hphase => rfl

theorem hasEnded_of_run? (hrun : d.run? id = some run) : d.hasEnded id = run.phase.isGone := by
  rw [hasEnded, hrun]
  rfl

theorem hasEnded_of_none (hrun : d.run? id = none) : d.hasEnded id = false := by
  rw [hasEnded, hrun]
  rfl

/-- Whether a request has ended is seen on its run. -/
theorem hasEnded_congr (h : (d'.view id).run = (d.view id).run) :
    d'.hasEnded id = d.hasEnded id := by
  change d'.run? id = d.run? id at h
  rw [hasEnded, hasEnded, h]

/-- A run that is started has not ended. -/
theorem hasEnded_launch (d : Dispatch) (other : RequestId) (job : Job) (id : RequestId) :
    ({ d with runs := d.runs ++ [.ofJob other job] } : Dispatch).hasEnded id = d.hasEnded id := by
  have hview := congrArg RequestView.run (@view_launch d id other job)
  split at hview
  · next h =>
      rw [hasEnded_of_none h.2]
      exact hasEnded_of_run? hview
  · exact hasEnded_congr hview

/-- A run that goes on ends by posting its marker. -/
theorem hasEnded_move (h : d.Regular) (hrun : d.run? run.id = some run)
    (hmove : run.Moves (d.isHalted run.id) (d.isSilenced run.id) event run' effect) :
    ((d.affect run.id effect).setRun run').hasEnded id = true ↔
      d.hasEnded id = true ∨ effect = .post (.retired id) := by
  obtain ⟨hid, -⟩ := hmove.id_and_job
  have hpost (e : Envelope) (he : effect = .post e) : e.request = run.id :=
    hmove.request_of_post (h.orderly.speaking run (mem_of_run? hrun)) he
  have hview := congrArg RequestView.run
    (@view_of_move d run run' id effect (hid ▸ hrun) fun e he => (hpost e he).trans hid.symm)
  rw [hid] at hview
  split at hview
  · next hown =>
      subst hown
      obtain ⟨posted, hposted⟩ := h.onCourse run.id
      obtain ⟨-, c, hcourse, -⟩ := hposted.launched run hrun
      have hafter : ((d.view run.id).after run' effect).run = some run' := by cases effect <;> rfl
      rw [hasEnded_of_run? (hview.trans hafter), hasEnded_of_run? hrun]
      exact isGone_of_moves hmove hcourse
  · next hother =>
      have hnot : effect ≠ .post (.retired id) := fun he => hother (hpost _ he).symm
      rw [hasEnded_congr hview, or_iff_left hnot]

/-! ## Requests on the books -/

theorem registered_of_move :
    ((d.affect run.id effect).setRun run').registered = d.registered := by
  have haffect : (d.affect run.id effect).runs = d.runs ∧
      (d.affect run.id effect).calls = d.calls := by cases effect <;> exact ⟨rfl, rfl⟩
  rw [registered, launched_setRun, launched, haffect.1, setRun, haffect.2, registered, launched]

/-- A call that begins has noted nothing yet. -/
theorem registered_begin (h : call.noted? = none) :
    ({ d with calls := d.calls ++ [call] } : Dispatch).registered = d.registered := by
  simp [registered, launched, h]

/-- The requests on the books after a step of a call. -/
theorem registered_advance (hcall : d.calls[index]? = some call) {next : Option Call}
    (hcalls : d'.calls = d.calls) :
    ∃ others : List RequestId,
      d.registered.Perm (d.launched ++ (call.noted?.toList ++ others)) ∧
      (d'.setCall index next).registered.Perm
        (d'.launched ++ ((next.bind Call.noted?).toList ++ others)) := by
  obtain ⟨others, hbefore, hafter⟩ := perm_setCall (hcalls ▸ hcall) next
  refine ⟨others.filterMap Call.noted?, ?_, ?_⟩
  · have hnoted := (hcalls ▸ hbefore).filterMap Call.noted?
    rw [← List.singleton_append, List.filterMap_append, filterMap_singleton] at hnoted
    exact hnoted.append_left _
  · have hnoted := hafter.filterMap Call.noted?
    have hnext : next.toList.filterMap Call.noted? = (next.bind Call.noted?).toList := by
      cases next with
      | none => rfl
      | some c => exact filterMap_singleton Call.noted? c
    rw [List.filterMap_append, hnext] at hnoted
    exact hnoted.append_left _

theorem noted?_cancelAll (ids : List RequestId) : (cancelAll ids).bind Call.noted? = none := by
  cases ids <;> rfl

/-! ## Steps -/

/-- A call that goes on notes its request, or leaves the books as they are but for silencing a
request on them. -/
theorem books_advance (h : d.Regular) (hcall : d.calls[index]? = some call) :
    d.Books ((d.advance call).1.setCall index (d.advance call).2.1)
      (d.booking? (.call index) d') := by
  obtain ⟨others, hbefore, hafter⟩ :=
    @registered_advance d (d.advance call).1 index call hcall (d.advance call).2.1
      (calls_advance d call)
  have hmem : call ∈ d.calls := List.mem_of_getElem? hcall
  have hquiet {after : Dispatch} {next : Option Call} (hentry : d.booking? (.call index) d' = none)
      (hqueue : after.queue = d.queue) (hunretired : after.unretired = d.unretired)
      (hsilenced : after.silenced ⊆ d.silenced ++ d.unretired) (hruns : after.runs = d.runs)
      (hregistered : (after.setCall index next).registered.Perm d.registered) :
      d.Books (after.setCall index next) (d.booking? (.call index) d') := by
    rw [hentry]
    refine .quiet hqueue hunretired hsilenced hregistered fun id => hasEnded_congr ?_
    exact congrArg (List.find? _) hruns
  have hsub : d.silenced ⊆ d.silenced ++ d.unretired := List.subset_append_left _ _
  cases call with
  | numbering | activating =>
      exact hquiet (by simp [booking?, hcall]) rfl rfl hsub rfl (hafter.trans hbefore.symm)
  | registering id job =>
      have hentry : d.booking? (.call index) d' = some (.registered id) := by simp [booking?, hcall]
      rw [hentry]
      refine .register id ?_ rfl rfl rfl ?_ fun other => rfl
      · exact hasEnded_of_none (h.orderly.run?_eq_none hmem rfl)
      · exact hafter.trans (List.perm_middle.trans (hbefore.symm.cons id))
  | launching id job =>
      have hentry : d.booking? (.call index) d' = none := by simp [booking?, hcall]
      rw [hentry]
      refine .quiet rfl rfl hsub ?_ (hasEnded_launch d id job)
      refine hafter.trans (List.Perm.trans ?_ hbefore.symm)
      simp [advance, launched, Run.ofJob, Run.begin, Call.noted?]
  | silencing id rest =>
      have hkept : (d.silence id).runs = d.runs ∧ (d.silence id).queue = d.queue ∧
          (d.silence id).unretired = d.unretired ∧
          (d.silence id).silenced ⊆ d.silenced ++ d.unretired := by
        unfold silence
        split
        · next hnoted =>
            refine ⟨rfl, rfl, rfl, fun other hother => ?_⟩
            rcases List.mem_insert_iff.1 hother with rfl | hold
            · exact List.mem_append_right _ (List.contains_iff_mem.1 hnoted)
            · exact hsub hold
        · exact ⟨rfl, rfl, rfl, hsub⟩
      obtain ⟨hruns, hqueue, hunretired, hsilenced⟩ := hkept
      refine hquiet (by simp [booking?, hcall]) hqueue hunretired hsilenced hruns ?_
      refine hafter.trans (List.Perm.trans ?_ hbefore.symm)
      rw [launched, advance, hruns]
      exact List.Perm.refl _
  | withdrawing id rest =>
      cases hactive : d.isActive id with
      | true =>
          simp only [advance, hactive, if_true] at hafter ⊢
          exact hquiet (by simp [booking?, hcall]) rfl rfl hsub rfl (hafter.trans hbefore.symm)
      | false =>
          simp only [advance, hactive, Bool.false_eq_true, if_false] at hafter ⊢
          rw [noted?_cancelAll] at hafter
          exact hquiet (by simp [booking?, hcall]) rfl rfl hsub rfl (hafter.trans hbefore.symm)
  | halting | listing =>
      simp only [advance, noted?_cancelAll] at hafter ⊢
      exact hquiet (by simp [booking?, hcall]) rfl rfl hsub rfl (hafter.trans hbefore.symm)

theorem booking?_of_target {target : RequestId} (h : step.target? = some target) (d d' : Dispatch) :
    d.booking? step d' = d'.queue[d.queue.length]?.map .sent := by
  cases step with
  | drive | poll | work | load => rfl
  | _ => cases h

/-- A run that goes on sends the message of its move, if it has one. -/
theorem books_move (h : d.Regular) (hrun : d.run? run.id = some run)
    (htarget : step.target? = some run.id)
    (hmove : run.Moves (d.isHalted run.id) (d.isSilenced run.id) event run' effect) :
    d.Books ((d.affect run.id effect).setRun run')
      (d.booking? step ((d.affect run.id effect).setRun run')) := by
  have hended (id : RequestId) :
      ((d.affect run.id effect).setRun run').hasEnded id = true ↔
        d.hasEnded id = true ∨ effect = .post (.retired id) := hasEnded_move h hrun hmove
  have hregistered : ((d.affect run.id effect).setRun run').registered.Perm d.registered :=
    .of_eq registered_of_move
  rw [booking?_of_target htarget]
  by_cases hpost : ∃ e, effect = .post e
  · obtain ⟨e, rfl⟩ := hpost
    have hrequest : e.request = run.id :=
      hmove.request_of_post (h.orderly.speaking run (mem_of_run? hrun)) rfl
    have hsent : ((d.affect run.id (.post e)).setRun run').queue[d.queue.length]? = some e := by
      simp [affect, post, setRun]
    rw [hsent]
    refine .send e ?_ rfl rfl rfl hregistered fun id => (hended id).trans ?_
    · rw [hrequest, hasEnded_of_run? hrun, ← Bool.not_eq_true, Phase.isGone_iff]
      intro hgone
      cases (hmove.of_gone hgone).2
    · rw [Effect.post.injEq]
  · have hkept : (d.affect run.id effect).queue = d.queue ∧
        (d.affect run.id effect).unretired = d.unretired ∧
        (d.affect run.id effect).silenced = d.silenced := by
      cases effect with
      | post e => exact absurd ⟨e, rfl⟩ hpost
      | _ => exact ⟨rfl, rfl, rfl⟩
    obtain ⟨hqueue, hunretired, hsilenced⟩ := hkept
    have hnone : ((d.affect run.id effect).setRun run').queue[d.queue.length]? = none := by
      rw [setRun, hqueue]
      exact List.getElem?_eq_none (Nat.le_refl _)
    rw [hnone]
    refine .quiet hqueue hunretired ?_ hregistered fun id => ?_
    · exact hsilenced.symm ▸ List.subset_append_left _ _
    · rw [Bool.eq_iff_iff, hended]
      exact or_iff_left fun he => hpost ⟨_, he⟩

/-- What the receiver takes off the queue. -/
theorem books_take {e : Envelope} {rest : List Envelope} (hqueue : d.queue = e :: rest)
    (hstep : d.Steps .receive seen d') : d.Books d' (some (.taken e)) := by
  cases hstep with
  | run step run run' effect hrun htarget => cases htarget
  | deliver n tail hhead =>
      obtain ⟨rfl, rfl⟩ := List.cons.inj (hqueue.symm.trans hhead)
      exact .take _ hqueue (by simp) (by simp) (.refl _) fun _ => rfl
  | retire id tail hhead =>
      obtain ⟨rfl, rfl⟩ := List.cons.inj (hqueue.symm.trans hhead)
      refine .take _ hqueue (fun other => ?_) (fun other => ?_) (.refl _) fun _ => rfl
      · simp [retire, mem_without, eq_comm]
      · simp [retire, mem_without, eq_comm]

/-- Every step does to the books what its entry tells. -/
theorem books_of_steps (h : d.Regular) (hstep : d.Steps step seen d') :
    d.Books d' (d.booking? step d') := by
  have hsub : d.silenced ⊆ d.silenced ++ d.unretired := List.subset_append_left _ _
  have hnone : d.queue[d.queue.length]? = none := List.getElem?_eq_none (Nat.le_refl _)
  have hbegin {call : Call} (hcall : call.noted? = none) :
      d.Books { d with calls := d.calls ++ [call] } none :=
    .quiet rfl rfl hsub (.of_eq (registered_begin hcall)) fun _ => rfl
  cases hstep with
  | submit | cancel | shutdown =>
      simp only [booking?, hnone, Option.map_none]
      exact hbegin rfl
  | refuse =>
      simp only [booking?, hnone, Option.map_none]
      exact .quiet rfl rfl hsub (.refl _) fun _ => rfl
  | call index call hcall => exact books_advance h hcall
  | run step run run' effect hrun htarget hmove => exact books_move h hrun htarget hmove
  | deliver n rest hqueue =>
      have hentry : d.booking? .receive { d with queue := rest } =
          some (.taken (.notification n)) := by simp [booking?, hqueue]
      rw [hentry]
      exact books_take hqueue (.deliver n rest hqueue)
  | retire id rest hqueue =>
      have hentry : d.booking? .receive (({ d with queue := rest } : Dispatch).retire id) =
          some (.taken (.retired id)) := by simp [booking?, hqueue]
      rw [hentry]
      exact books_take hqueue (.retire id rest hqueue)

end Dispatch

end PatternScan.Analysis
