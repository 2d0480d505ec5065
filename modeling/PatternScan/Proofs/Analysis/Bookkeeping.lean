import PatternScan.Proofs.Analysis.Ledger

/-!
# Delivery bookkeeping

A history of a dispatch is any order of its steps, in which the receiver may go away. The books
balance at every point of it: a request is noted as long as it was submitted and its marker was
not taken, and no request is silenced that is not noted. A marker that cannot be sent counts as
taken. One that is lost with the receiver does not.
-/

namespace PatternScan.Analysis

namespace Entry

/-- The request that is noted. -/
def registered? : Entry → Option RequestId
  | registered id => some id
  | _ => none

/-- The message that a run sends, whether it arrives or not. -/
def sent? : Entry → Option Envelope
  | sent e | bounced e => some e
  | _ => none

/-- The message that the receiver takes. -/
def taken? : Entry → Option Envelope
  | taken e => some e
  | _ => none

/-- The request that is forgotten: its marker is taken, or cannot be sent. -/
def retired? : Entry → Option RequestId
  | taken (.retired id) | bounced (.retired id) => some id
  | _ => none

theorem mem_retired?_taken {e : Envelope} {id : RequestId} :
    id ∈ (taken e).retired?.toList ↔ e = .retired id := by
  cases e <;> simp [retired?, eq_comm]

theorem mem_retired?_bounced {e : Envelope} {id : RequestId} :
    id ∈ (bounced e).retired?.toList ↔ e = .retired id := by
  cases e <;> simp [retired?, eq_comm]

/-- The messages that are lost. -/
def lost : Entry → List Envelope
  | abandoned messages => messages
  | _ => []

/-- The entry of the same step when nobody is there to receive a message. -/
def undelivered : Entry → Entry
  | sent e => bounced e
  | entry => entry

end Entry

/-- The entry of a step. -/
def Reception.booking? (r : Reception) : ReceptionStep → Option Entry
  | .go step =>
      (r.dispatch.step? step).bind fun (after, _) =>
        (r.dispatch.booking? step after).map fun entry =>
          if r.attended then entry else entry.undelivered
  | .hangUp => some (.abandoned r.dispatch.queue)

/-- Any order of possible steps from the start on, with its entries and the state it leads to. -/
inductive History (maxWorkers : Nat) : List Entry → Reception → Prop where
  | nil : History maxWorkers [] (.empty maxWorkers)
  | snoc (log : List Entry) (r r' : Reception) (step : ReceptionStep) (seen : Option Observation)
      (h : History maxWorkers log r) (hstep : r.step? step = some (r', seen)) :
      History maxWorkers (log ++ (r.booking? step).toList) r'

/-- The log and the state after one more step if it is possible. -/
def Reception.proceed (state : List Entry × Reception) (step : ReceptionStep) :
    List Entry × Reception :=
  match state.2.step? step with
  | some (next, _) => (state.1 ++ (state.2.booking? step).toList, next)
  | none => state

/-- The steps of a list that are possible, done one after another. -/
def Reception.replay (maxWorkers : Nat) (steps : List ReceptionStep) : List Entry × Reception :=
  steps.foldl proceed ([], .empty maxWorkers)

/-! ## What a log tells -/

/-- The requests that were noted. -/
def registeredIn (log : List Entry) : List RequestId := log.filterMap Entry.registered?

/-- The messages that runs have sent, in their order. -/
def sentIn (log : List Entry) : List Envelope := log.filterMap Entry.sent?

/-- The messages that the receiver has taken, in their order. -/
def takenIn (log : List Entry) : List Envelope := log.filterMap Entry.taken?

/-- The requests that were forgotten. -/
def retiredIn (log : List Entry) : List RequestId := log.filterMap Entry.retired?

/-- The messages that were lost with the receiver. -/
def lostIn (log : List Entry) : List Envelope := log.flatMap Entry.lost

section Log

variable (log : List Entry) (entry : Entry)

@[simp]
theorem registeredIn_snoc :
    registeredIn (log ++ [entry]) = registeredIn log ++ entry.registered?.toList := by
  rw [registeredIn, List.filterMap_append, filterMap_singleton, registeredIn]

@[simp]
theorem sentIn_snoc : sentIn (log ++ [entry]) = sentIn log ++ entry.sent?.toList := by
  rw [sentIn, List.filterMap_append, filterMap_singleton, sentIn]

@[simp]
theorem takenIn_snoc : takenIn (log ++ [entry]) = takenIn log ++ entry.taken?.toList := by
  rw [takenIn, List.filterMap_append, filterMap_singleton, takenIn]

@[simp]
theorem retiredIn_snoc :
    retiredIn (log ++ [entry]) = retiredIn log ++ entry.retired?.toList := by
  rw [retiredIn, List.filterMap_append, filterMap_singleton, retiredIn]

@[simp]
theorem lostIn_snoc : lostIn (log ++ [entry]) = lostIn log ++ entry.lost := by
  rw [lostIn, List.flatMap_append, List.flatMap_singleton, lostIn]

end Log

/-! ## Steps of a reception -/

namespace Reception

/-- Everything that a step can do, and its entry. -/
inductive Steps (r : Reception) : ReceptionStep → Option Entry → Reception → Prop where
  | attended (step : Step) (seen : Option Observation) (d' : Dispatch)
      (hattended : r.attended = true) (hstep : r.dispatch.Steps step seen d') :
      Steps r (.go step) (r.dispatch.booking? step d') ⟨d', r.attended⟩
  | unattended (step : Step) (seen : Option Observation) (d' : Dispatch)
      (hattended : r.attended = false) (hstep : r.dispatch.Steps step seen d') :
      Steps r (.go step) ((r.dispatch.booking? step d').map Entry.undelivered)
        ⟨d'.bounce, r.attended⟩
  | hangUp (hattended : r.attended = true) :
      Steps r .hangUp (some (.abandoned r.dispatch.queue))
        ⟨{ r.dispatch with queue := [] }, false⟩

variable {r r' : Reception} {step : ReceptionStep} {seen : Option Observation}
  {entry : Option Entry} {d' : Dispatch} {id : RequestId} {e : Envelope} {log : List Entry}

theorem steps_of_step? (h : r.step? step = some (r', seen)) :
    r.Steps step (r.booking? step) r' := by
  cases step with
  | go step =>
      simp only [step?, Option.map_eq_some_iff, Prod.mk.injEq] at h
      obtain ⟨⟨d', seen⟩, hstep, rfl, rfl⟩ := h
      have hsteps := Dispatch.steps_of_step? hstep
      cases hattended : r.attended with
      | true =>
          simp only [booking?, hstep, Option.bind_some, hattended, if_true, Option.map_id']
          exact hattended ▸ .attended step seen d' hattended hsteps
      | false =>
          simp only [booking?, hstep, Option.bind_some, hattended, Bool.false_eq_true, if_false]
          exact hattended ▸ .unattended step seen d' hattended hsteps
  | hangUp =>
      rw [step?] at h
      obtain ⟨hattended, ⟨⟩⟩ := Option.ite_none_right_eq_some.1 h
      exact .hangUp hattended

theorem regular_of_steps (h : r.dispatch.Regular) (hstep : r.Steps step entry r') :
    r'.dispatch.Regular := by
  cases hstep with
  | attended step seen d' hattended hstep => exact h.steps hstep
  | unattended step seen d' hattended hstep => exact (h.steps hstep).bounce
  | hangUp hattended => exact h.abandon

end Reception

/-! ## Balance -/

/-- The books agree with the log. -/
structure Balanced (log : List Entry) (r : Reception) : Prop where
  silenced : r.dispatch.silenced ⊆ r.dispatch.unretired
  unretired : ∀ id, id ∈ r.dispatch.unretired ↔ id ∈ registeredIn log ∧ id ∉ retiredIn log
  registered : (registeredIn log).Perm r.dispatch.registered
  marked : ∀ id, .retired id ∈ sentIn log ↔ r.dispatch.hasEnded id = true
  ordered : (sentIn log).Pairwise fun e later => e ≠ .retired later.request
  accounted : ∀ id, .retired id ∈ sentIn log ↔
    id ∈ retiredIn log ∨ .retired id ∈ r.dispatch.queue ∨ .retired id ∈ lostIn log
  queued : r.attended = true → sentIn log = takenIn log ++ r.dispatch.queue
  deserted : r.attended = false → r.dispatch.queue = []

namespace Balanced

variable {r r' : Reception} {step : ReceptionStep} {entry : Option Entry} {d' d'' : Dispatch}
  {id : RequestId} {e : Envelope} {log : List Entry}

theorem empty (maxWorkers : Nat) : Balanced [] (.empty maxWorkers) where
  silenced := List.Subset.refl _
  unretired := by simp [Reception.empty, Dispatch.empty, registeredIn]
  registered := .refl _
  marked := by simp [Reception.empty, Dispatch.empty, Dispatch.hasEnded, Dispatch.run?, sentIn]
  ordered := .nil
  accounted := by simp [Reception.empty, Dispatch.empty, sentIn, retiredIn, lostIn]
  queued := fun _ => rfl
  deserted := nofun

theorem quiet (h : Balanced log r) (hbooks : r.dispatch.Books d' none) :
    Balanced log ⟨d', r.attended⟩ := by
  cases hbooks with
  | quiet hqueue hunretired hsilenced hregistered hended =>
      exact {
        silenced := by
          intro id hid
          rw [hunretired]
          rcases List.mem_append.1 (hsilenced hid) with hold | hnoted
          · exact h.silenced hold
          · exact hnoted
        unretired := fun id => hunretired ▸ h.unretired id
        registered := h.registered.trans hregistered.symm
        marked := fun id => hended id ▸ h.marked id
        ordered := h.ordered
        accounted := fun id => hqueue ▸ h.accounted id
        queued := fun hattended => hqueue ▸ h.queued hattended
        deserted := fun hattended => hqueue.trans (h.deserted hattended) }

theorem register (h : Balanced log r) (hbooks : r.dispatch.Books d' (some (.registered id))) :
    Balanced (log ++ [.registered id]) ⟨d', r.attended⟩ := by
  cases hbooks with
  | register id hnew hqueue hunretired hsilenced hregistered hended =>
      -- The request has not ended, so its marker was not sent yet.
      have hunforgotten : id ∉ retiredIn log := by
        intro hid
        have hgone := (h.marked id).1 ((h.accounted id).2 (.inl hid))
        rw [hnew] at hgone
        cases hgone
      exact {
        silenced := by
          intro other hother
          rw [hunretired]
          exact List.mem_insert_of_mem (h.silenced (hsilenced ▸ hother))
        unretired := by
          intro other
          simp only [registeredIn_snoc, retiredIn_snoc, Entry.registered?, Entry.retired?,
            Option.toList_some, Option.toList_none, List.append_nil, List.mem_append,
            List.mem_singleton]
          rw [hunretired, List.mem_insert_iff, h.unretired]
          constructor
          · rintro (rfl | ⟨hnoted, hnot⟩)
            · exact ⟨.inr rfl, hunforgotten⟩
            · exact ⟨.inl hnoted, hnot⟩
          · rintro ⟨hnoted | rfl, hnot⟩
            · exact .inr ⟨hnoted, hnot⟩
            · exact .inl rfl
        registered := by
          rw [registeredIn_snoc]
          refine (List.perm_append_singleton id _).trans ?_
          exact (h.registered.cons id).trans hregistered.symm
        marked := fun other => by simpa [Entry.sent?, hended] using h.marked other
        ordered := by simpa [Entry.sent?] using h.ordered
        accounted := fun other => by
          simpa [Entry.sent?, Entry.retired?, Entry.lost, hqueue] using h.accounted other
        queued := fun hattended => by
          simpa [Entry.sent?, Entry.taken?, hqueue] using h.queued hattended
        deserted := fun hattended => hqueue.trans (h.deserted hattended) }

/-- A message that is sent is not about a request whose marker was sent. -/
theorem ordered_snoc (h : Balanced log r) (hhere : r.dispatch.hasEnded e.request = false) :
    (sentIn log ++ [e]).Pairwise fun e later => e ≠ .retired later.request := by
  refine List.pairwise_append.2 ⟨h.ordered, List.pairwise_singleton _ _, ?_⟩
  intro earlier hearlier later hlater
  obtain rfl := List.mem_singleton.1 hlater
  rintro rfl
  rw [(h.marked _).1 hearlier] at hhere
  cases hhere

theorem marked_snoc (h : Balanced log r)
    (hended : ∀ id, d'.hasEnded id = true ↔ r.dispatch.hasEnded id = true ∨ e = .retired id)
    (id : RequestId) : .retired id ∈ sentIn log ++ [e] ↔ d'.hasEnded id = true := by
  rw [List.mem_append, List.mem_singleton, h.marked, hended, @eq_comm _ e]

/-- A request whose marker is the message of the entry is noted no more. -/
theorem unretired_snoc (h : Balanced log r) {note : Entry} (hnote : note.registered? = none)
    (hretired : ∀ id, id ∈ note.retired?.toList ↔ e = .retired id) :
    id ∈ r.dispatch.unretired ∧ e ≠ .retired id ↔
      id ∈ registeredIn (log ++ [note]) ∧ id ∉ retiredIn (log ++ [note]) := by
  rw [registeredIn_snoc, retiredIn_snoc, hnote, Option.toList_none, List.append_nil,
    List.mem_append, hretired, not_or, ← and_assoc, h.unretired]

theorem send (h : Balanced log r) (hattended : r.attended = true)
    (hbooks : r.dispatch.Books d' (some (.sent e))) :
    Balanced (log ++ [.sent e]) ⟨d', r.attended⟩ := by
  cases hbooks with
  | send e hhere hqueue hunretired hsilenced hregistered hended =>
      exact {
        silenced := by
          intro id hid
          rw [hunretired]
          exact h.silenced (hsilenced ▸ hid)
        unretired := fun id => by
          simpa [Entry.registered?, Entry.retired?, hunretired] using h.unretired id
        registered := by
          simpa [Entry.registered?] using h.registered.trans hregistered.symm
        marked := fun id => by simpa [Entry.sent?] using h.marked_snoc hended id
        ordered := by simpa [Entry.sent?] using h.ordered_snoc hhere
        accounted := fun id => by
          simp only [sentIn_snoc, retiredIn_snoc, lostIn_snoc, Entry.sent?, Entry.retired?,
            Entry.lost, Option.toList_some, Option.toList_none, List.append_nil, hqueue,
            List.mem_append, List.mem_singleton, h.accounted]
          tauto
        queued := fun _ => by
          simp [Entry.sent?, Entry.taken?, hqueue, h.queued hattended]
        deserted := fun hdeserted => absurd (hattended.symm.trans hdeserted) nofun }

theorem take (h : Balanced log r) (hattended : r.attended = true)
    (hbooks : r.dispatch.Books d' (some (.taken e))) :
    Balanced (log ++ [.taken e]) ⟨d', r.attended⟩ := by
  cases hbooks with
  | take e hqueue hunretired hsilenced hregistered hended =>
      exact {
        silenced := by
          intro id hid
          obtain ⟨hold, hother⟩ := (hsilenced id).1 hid
          exact (hunretired id).2 ⟨h.silenced hold, hother⟩
        unretired := fun id => (hunretired id).trans
          (h.unretired_snoc rfl fun _ => Entry.mem_retired?_taken)
        registered := by
          simpa [Entry.registered?] using h.registered.trans hregistered.symm
        marked := fun id => by simpa [Entry.sent?, hended] using h.marked id
        ordered := by simpa [Entry.sent?] using h.ordered
        accounted := by
          intro id
          simp only [sentIn_snoc, retiredIn_snoc, lostIn_snoc, List.mem_append,
            Entry.mem_retired?_taken, Entry.sent?, Entry.lost, Option.toList_none, List.append_nil]
          rw [h.accounted, hqueue, List.mem_cons, or_assoc, or_assoc, @eq_comm _ e]
        queued := fun _ => by
          simp [Entry.sent?, Entry.taken?, h.queued hattended, hqueue]
        deserted := fun hdeserted => absurd (hattended.symm.trans hdeserted) nofun }

/-- A message that cannot be sent has the effect of being sent and taken at once. -/
theorem bounce (h : Balanced log r) (hattended : r.attended = false)
    (hsend : r.dispatch.Books d' (some (.sent e))) (htake : d'.Books d'' (some (.taken e))) :
    Balanced (log ++ [.bounced e]) ⟨d'', r.attended⟩ := by
  cases hsend with
  | send e hhere hqueue hunretired hsilenced hregistered hended =>
      cases htake with
      | take e hqueue' hunretired' hsilenced' hregistered' hended' =>
          have hempty : d''.queue = [] := by
            rw [hqueue, h.deserted hattended] at hqueue'
            exact (List.cons.inj hqueue').2.symm
          exact {
            silenced := by
              intro id hid
              obtain ⟨hold, hother⟩ := (hsilenced' id).1 hid
              exact (hunretired' id).2 ⟨hunretired ▸ h.silenced (hsilenced ▸ hold), hother⟩
            unretired := fun id => (hunretired ▸ hunretired' id).trans
              (h.unretired_snoc rfl fun _ => Entry.mem_retired?_bounced)
            registered := by
              simpa [Entry.registered?] using
                h.registered.trans (hregistered'.trans hregistered).symm
            marked := fun id => by
              simpa [Entry.sent?, hended'] using h.marked_snoc hended id
            ordered := by simpa [Entry.sent?] using h.ordered_snoc hhere
            accounted := by
              intro id
              simp only [sentIn_snoc, retiredIn_snoc, lostIn_snoc, List.mem_append,
                Entry.mem_retired?_bounced, Entry.sent?, Entry.lost, Option.toList_some,
                List.append_nil, List.mem_singleton]
              rw [h.accounted, h.deserted hattended, hempty, @eq_comm _ e]
              tauto
            queued := fun hthere => absurd (hattended.symm.trans hthere) nofun
            deserted := fun _ => hempty }

/-- What is lost with the receiver is not taken. -/
theorem abandon (h : Balanced log r) :
    Balanced (log ++ [.abandoned r.dispatch.queue])
      ⟨{ r.dispatch with queue := [] }, false⟩ where
  silenced := h.silenced
  unretired := fun id => by simpa [Entry.registered?, Entry.retired?] using h.unretired id
  registered := by
    have hlog : registeredIn (log ++ [.abandoned r.dispatch.queue]) = registeredIn log := by
      simp [Entry.registered?]
    rw [hlog]
    exact h.registered
  marked := by
    have hlog : sentIn (log ++ [.abandoned r.dispatch.queue]) = sentIn log := by
      simp [Entry.sent?]
    rw [hlog]
    exact h.marked
  ordered := by simpa [Entry.sent?] using h.ordered
  accounted := by
    intro id
    simp only [sentIn_snoc, retiredIn_snoc, lostIn_snoc, Entry.sent?, Entry.retired?, Entry.lost,
      Option.toList_none, List.append_nil, List.mem_append, List.not_mem_nil, false_or]
    rw [h.accounted, @or_comm (_ ∈ lostIn log)]
  queued := nofun
  deserted := fun _ => rfl

/-- A step keeps the balance. -/
theorem steps (h : Balanced log r) (hregular : r.dispatch.Regular)
    (hstep : r.Steps step entry r') : Balanced (log ++ entry.toList) r' := by
  cases hstep with
  | hangUp hattended => exact h.abandon
  | attended step seen d' hattended hstep =>
      have hbooks := Dispatch.books_of_steps hregular hstep
      generalize r.dispatch.booking? step d' = entry at hbooks
      cases entry with
      | none =>
          rw [Option.toList_none, List.append_nil]
          exact h.quiet hbooks
      | some note =>
          cases note with
          | registered id => exact h.register hbooks
          | sent e => exact h.send hattended hbooks
          | taken e => exact h.take hattended hbooks
          | bounced | abandoned => cases hbooks
  | unattended step seen d' hattended hstep =>
      have hbooks := Dispatch.books_of_steps hregular hstep
      generalize r.dispatch.booking? step d' = entry at hbooks
      have hempty := h.deserted hattended
      cases entry with
      | none =>
          have hqueue : d'.queue = [] := by
            cases hbooks with
            | quiet hqueue => exact hqueue.trans hempty
          rw [Option.map_none, Option.toList_none, List.append_nil,
            Dispatch.bounce_of_nil hqueue]
          exact h.quiet hbooks
      | some note =>
          cases note with
          | registered id =>
              have hqueue : d'.queue = [] := by
                cases hbooks with
                | register id hnew hqueue => exact hqueue.trans hempty
              rw [Dispatch.bounce_of_nil hqueue]
              exact h.register hbooks
          | sent e =>
              have hqueue : d'.queue = [e] := by
                cases hbooks with
                | send e hhere hqueue => rw [hqueue, hempty, List.nil_append]
              obtain ⟨seen, htaken⟩ := Dispatch.steps_bounce hqueue
              exact h.bounce hattended hbooks (Dispatch.books_take hqueue htaken)
          | taken e =>
              cases hbooks with
              | take e hqueue => cases hempty.symm.trans hqueue
          | bounced | abandoned => cases hbooks

end Balanced

/-! ## Histories -/

namespace History

variable {maxWorkers : Nat} {log : List Entry} {r : Reception}

theorem regular (h : History maxWorkers log r) : r.dispatch.Regular := by
  induction h with
  | nil => exact .empty maxWorkers
  | snoc log r r' step seen h hstep ih =>
      exact Reception.regular_of_steps ih (Reception.steps_of_step? hstep)

theorem balanced (h : History maxWorkers log r) : Balanced log r := by
  induction h with
  | nil => exact .empty maxWorkers
  | snoc log r r' step seen h hstep ih =>
      exact ih.steps h.regular (Reception.steps_of_step? hstep)

theorem proceed {state : List Entry × Reception} (h : History maxWorkers state.1 state.2)
    (step : ReceptionStep) :
    History maxWorkers (Reception.proceed state step).1 (Reception.proceed state step).2 := by
  rw [Reception.proceed]
  split
  · next next seen hstep => exact .snoc state.1 state.2 next step seen h hstep
  · exact h

theorem foldl_proceed {state : List Entry × Reception} (h : History maxWorkers state.1 state.2)
    (steps : List ReceptionStep) :
    History maxWorkers (steps.foldl Reception.proceed state).1
      (steps.foldl Reception.proceed state).2 := by
  induction steps generalizing state with
  | nil => exact h
  | cons step rest ih => exact ih (h.proceed step)

/-- To replay steps is a history. -/
theorem replay (maxWorkers : Nat) (steps : List ReceptionStep) :
    History maxWorkers (Reception.replay maxWorkers steps).1
      (Reception.replay maxWorkers steps).2 :=
  foldl_proceed .nil steps

/-- An execution of the dispatch is a history in which the receiver stays. -/
theorem of_execution {trace : List Moment} {d : Dispatch}
    (h : Execution (.empty maxWorkers) trace d) : ∃ log, History maxWorkers log ⟨d, true⟩ := by
  induction h with
  | nil => exact ⟨[], .nil⟩
  | snoc trace d d' step seen h hstep ih =>
      obtain ⟨log, hlog⟩ := ih
      refine ⟨_, .snoc log ⟨d, true⟩ ⟨d', true⟩ (.go step) seen hlog ?_⟩
      rw [Reception.step?, hstep]
      rfl

end History

/-! ## The books -/

/-- A marker is sent at most once if no message of its request is sent behind it. -/
theorem count_marker_le {messages : List Envelope}
    (h : messages.Pairwise fun e later => e ≠ .retired later.request) (id : RequestId) :
    messages.count (.retired id) ≤ 1 := by
  induction messages with
  | nil => exact Nat.zero_le 1
  | cons e rest ih =>
      obtain ⟨hfirst, hrest⟩ := List.pairwise_cons.1 h
      rw [List.count_cons]
      split
      · next hmarker =>
          have hnone : (.retired id : Envelope) ∉ rest := fun hmem =>
            hfirst _ hmem (eq_of_beq hmarker)
          have hzero := List.count_eq_zero_of_not_mem hnone
          omega
      · exact ih hrest

theorem Dispatch.mem_registered {d : Dispatch} {id : RequestId} :
    id ∈ d.registered ↔ (d.run? id).isSome = true ∨ ∃ job, .launching id job ∈ d.calls := by
  have hrun : id ∈ d.launched ↔ (d.run? id).isSome = true := by
    rw [← not_iff_not, ← run?_eq_none_iff, Option.not_isSome_iff_eq_none]
  rw [registered, List.mem_append, hrun, List.mem_filterMap]
  refine or_congr_right ⟨?_, ?_⟩
  · rintro ⟨call, hcall, hnoted⟩
    cases call with
    | launching target job =>
        obtain rfl := Option.some.inj hnoted
        exact ⟨job, hcall⟩
    | _ => cases hnoted
  · rintro ⟨job, hcall⟩
    exact ⟨_, hcall, rfl⟩

/-- To cancel a request that is not noted leaves the books as they are. -/
theorem Dispatch.advance_of_isCancelling {d : Dispatch} {call : Call} {id : RequestId}
    (hcall : (call.event id).isCancelling = true) (hid : id ∉ d.unretired) :
    (d.advance call).1.unretired = d.unretired ∧ (d.advance call).1.silenced = d.silenced ∧
      (d.advance call).1.queue = d.queue := by
  cases call with
  | silencing target rest =>
      have htarget : target = id := by
        by_contra hother
        simp [Call.event, hother, RequestEvent.isCancelling] at hcall
      subst htarget
      have hsame : d.silence target = d := if_neg fun h => hid (List.contains_iff_mem.1 h)
      rw [advance, hsame]
      exact ⟨rfl, rfl, rfl⟩
  | withdrawing target rest =>
      simp only [advance]
      split <;> exact ⟨rfl, rfl, rfl⟩
  | halting target rest => exact ⟨rfl, rfl, rfl⟩
  | _ => cases hcall

namespace Balanced

variable {r r' : Reception} {log : List Entry} {id : RequestId} {index : Nat} {call : Call}
  {seen : Option Observation}

/-- A run that has ended has sent one marker, and no other run has sent one. -/
theorem count_marker (h : Balanced log r) (id : RequestId) :
    (sentIn log).count (.retired id) = if r.dispatch.hasEnded id then 1 else 0 := by
  split
  · next hended =>
      have hmarked := List.count_pos_iff.2 ((h.marked id).2 hended)
      have hle := count_marker_le h.ordered id
      omega
  · next hrunning =>
      refine List.count_eq_zero_of_not_mem fun hmarked => ?_
      exact hrunning ((h.marked id).1 hmarked)

/-- No message is queued behind the marker of its request. -/
theorem ordered_queue (h : Balanced log r) :
    r.dispatch.queue.Pairwise fun e later => e ≠ .retired later.request := by
  cases hattended : r.attended with
  | true =>
      have hsent := h.ordered
      rw [h.queued hattended] at hsent
      exact (List.pairwise_append.1 hsent).2.1
  | false =>
      rw [h.deserted hattended]
      exact .nil

/-- To cancel a request that was never noted, or was forgotten, changes nothing. -/
theorem same_of_isCancelling (h : Balanced log r)
    (hid : id ∉ registeredIn log ∨ id ∈ retiredIn log)
    (hcall : r.dispatch.calls[index]? = some call)
    (hcancelling : (call.event id).isCancelling = true)
    (hstep : r.step? (.go (.call index)) = some (r', seen)) :
    r'.dispatch.unretired = r.dispatch.unretired ∧
      r'.dispatch.silenced = r.dispatch.silenced := by
  have hunnoted : id ∉ r.dispatch.unretired := by
    rw [h.unretired]
    rintro ⟨hnoted, hnot⟩
    exact hid.elim (· hnoted) hnot
  obtain ⟨hunretired, hsilenced, hqueue⟩ := Dispatch.advance_of_isCancelling hcancelling hunnoted
  simp only [Reception.step?, Dispatch.step?, hcall, Option.map_some, Option.some.injEq,
    Prod.mk.injEq] at hstep
  obtain ⟨rfl, -⟩ := hstep
  cases hattended : r.attended with
  | true => exact ⟨hunretired, hsilenced⟩
  | false =>
      have hempty :
          ((r.dispatch.advance call).1.setCall index (r.dispatch.advance call).2.1).queue = [] :=
        hqueue.trans (h.deserted hattended)
      simp only [Bool.false_eq_true, if_false]
      rw [Dispatch.bounce_of_nil hempty]
      exact ⟨hunretired, hsilenced⟩

/-- When the runs of all requests have ended and what they sent was taken, the books are empty. -/
theorem settled (h : Balanced log r)
    (hended : ∀ id ∈ registeredIn log, r.dispatch.hasEnded id = true)
    (hempty : r.dispatch.queue = []) (hkept : ∀ id, .retired id ∉ lostIn log) :
    r.dispatch.unretired = [] ∧ r.dispatch.silenced = [] := by
  have hnone : r.dispatch.unretired = [] := by
    refine List.eq_nil_iff_forall_not_mem.2 fun id hid => ?_
    obtain ⟨hnoted, hnot⟩ := (h.unretired id).1 hid
    have hmarked := (h.marked id).2 (hended id hnoted)
    rcases (h.accounted id).1 hmarked with hretired | hqueued | hlost
    · exact hnot hretired
    · rw [hempty] at hqueued
      cases hqueued
    · exact hkept id hlost
  exact ⟨hnone, List.eq_nil_of_subset_nil (hnone ▸ h.silenced)⟩

end Balanced

/-- In every history of a dispatch the books balance. Every silenced request is noted, and the
noted requests are those submitted of which the marker was not taken and did not fail to be sent.
Each run sends one marker, at its end, and none of its messages is queued behind it. To cancel a
request that was not noted, or was forgotten, changes nothing. Once the runs of all requests have
ended, the queue is empty and no marker was lost with the receiver, nothing is noted any more. -/
theorem delivery_books_balance {maxWorkers : Nat} {log : List Entry} {r : Reception}
    (h : History maxWorkers log r) :
    (r.dispatch.silenced ⊆ r.dispatch.unretired ∧
      (∀ id, id ∈ r.dispatch.unretired ↔ id ∈ registeredIn log ∧ id ∉ retiredIn log) ∧
      ∀ id, id ∈ registeredIn log ↔ (r.dispatch.run? id).isSome = true ∨
        ∃ job, .launching id job ∈ r.dispatch.calls) ∧
    ((∀ id, (sentIn log).count (.retired id) = if r.dispatch.hasEnded id then 1 else 0) ∧
      (sentIn log).Pairwise (fun e later => e ≠ .retired later.request) ∧
      r.dispatch.queue.Pairwise (fun e later => e ≠ .retired later.request) ∧
      (r.attended = true → sentIn log = takenIn log ++ r.dispatch.queue)) ∧
    (∀ id, id ∉ registeredIn log ∨ id ∈ retiredIn log →
      ∀ index call r' seen, r.dispatch.calls[index]? = some call →
        (call.event id).isCancelling = true →
        r.step? (.go (.call index)) = some (r', seen) →
        r'.dispatch.unretired = r.dispatch.unretired ∧
          r'.dispatch.silenced = r.dispatch.silenced) ∧
    ((∀ id ∈ registeredIn log, r.dispatch.hasEnded id = true) → r.dispatch.queue = [] →
      (∀ id, .retired id ∉ lostIn log) →
      r.dispatch.unretired = [] ∧ r.dispatch.silenced = []) := by
  have hbalanced := h.balanced
  refine ⟨⟨hbalanced.silenced, hbalanced.unretired, fun id => ?_⟩,
    ⟨hbalanced.count_marker, hbalanced.ordered, hbalanced.ordered_queue, hbalanced.queued⟩, ?_,
    hbalanced.settled⟩
  · rw [hbalanced.registered.mem_iff, Dispatch.mem_registered]
  · intro id hid index call r' seen hcall hcancelling hstep
    exact hbalanced.same_of_isCancelling hid hcall hcancelling hstep

/-- A request for no records, which stays alive until it is cancelled. -/
def lingeringSubmission : Submission := ⟨0, 0, "a", 1, true, Settings.standard⟩

/-- Two requests are submitted. The first one tells that it is alive and is cancelled, the second
one comes to its end. -/
def lingeringSteps : List Step :=
  [.submit lingeringSubmission (.ok 0), .call 0, .call 0, .call 0, .call 0,
    .submit { lingeringSubmission with continuous := false } (.ok 0),
    .call 0, .call 0, .call 0, .call 0,
    .drive 1, .drive 1, .drive 1, .drive 1, .drive 1, .cancel 1, .call 0, .call 0, .call 0,
    .drive 2, .drive 2, .drive 2, .drive 2, .drive 2, .drive 2, .drive 2]

/-- The receiver takes what is queued and goes away. The first request comes to its end, and is
about to be cancelled once more. -/
def desertedSteps : List ReceptionStep :=
  [.go .receive, .go .receive, .go .receive, .hangUp,
    .go (.drive 1), .go (.drive 1), .go (.drive 1), .go (.cancel 1)]

def lingeringBegun : List Entry × Reception := Reception.replay 1 (lingeringSteps.map .go)

def lingeringEnded : List Entry × Reception := desertedSteps.foldl Reception.proceed lingeringBegun

set_option maxRecDepth 1000 in
/-- The marker of the cancelled request cannot be sent, so its run forgets the request. -/
theorem delivery_books_balance_lingering :
    lingeringBegun.2.dispatch.silenced = [1] ∧
      retiredIn lingeringEnded.1 = [2, 1] ∧
      (sentIn lingeringEnded.1).count (.retired 1) = 1 ∧
      lingeringEnded.2.dispatch.unretired = [] ∧ lingeringEnded.2.dispatch.silenced = [] ∧
      ∀ r' seen, lingeringEnded.2.step? (.go (.call 0)) = some (r', seen) →
        r'.dispatch.silenced = [] := by
  have hbegun : History 1 lingeringBegun.1 lingeringBegun.2 := .replay 1 _
  have h : History 1 lingeringEnded.1 lingeringEnded.2 := hbegun.foldl_proceed _
  obtain ⟨-, ⟨hcount, -⟩, hcancel, hsettled⟩ := delivery_books_balance h
  have hended : ∀ id ∈ registeredIn lingeringEnded.1,
      lingeringEnded.2.dispatch.hasEnded id = true := by decide +kernel
  have hlost : lostIn lingeringEnded.1 = [] := by decide +kernel
  have hempty : lingeringEnded.2.dispatch.queue = [] := by decide +kernel
  have hcall : lingeringEnded.2.dispatch.calls[0]? = some (.silencing 1 []) := rfl
  have hretired : retiredIn lingeringEnded.1 = [2, 1] := by decide +kernel
  obtain ⟨hunretired, hsilenced⟩ := hsettled hended hempty fun id hid => by
    rw [hlost] at hid
    cases hid
  refine ⟨by decide +kernel, hretired, ?_, hunretired, hsilenced, fun r' seen hstep => ?_⟩
  · rw [hcount]
    exact if_pos (by decide +kernel)
  · have hforgotten : 1 ∈ retiredIn lingeringEnded.1 := by
      rw [hretired]
      decide
    exact (hcancel 1 (.inr hforgotten) 0 _ r' seen hcall rfl hstep).2.trans hsilenced

end PatternScan.Analysis
