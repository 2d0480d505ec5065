import PatternScan.Proofs.Analysis.Course

/-!
# Silence of a request

A request is noted before its run is started, and forgotten when the marker behind its last
notification is taken off the queue. Between the two a cancellation silences it, and no message
of it is queued before or after. A silenced request therefore stays silent: when its silence
ends, nothing of it is left to be delivered.
-/

namespace PatternScan.Analysis

variable {id : RequestId} {v v' : RequestView} {event : RequestEvent}
  {posted : List Notification}

namespace Run.Moves

variable {halted silenced : Bool} {run run' : Run} {effect : Effect} {c : Course}

/-- A run that is gone makes no moves but those of its workers. -/
theorem of_gone (h : run.Moves halted silenced event run' effect) (hgone : run.phase = .gone) :
    run'.phase = .gone ∧ effect = .nothing := by
  cases h with
  | work | load => exact ⟨hgone, rfl⟩
  | start _ hphase | hire _ _ hphase | take _ _ hphase | close hphase | finish hphase
  | fail _ _ hphase | leave _ hphase | ask _ _ hphase | tell _ _ hphase | rest hphase
  | poll _ hphase | retire hphase =>
      rw [hgone] at hphase
      cases hphase

/-- A run goes away by posting its marker. -/
theorem goes (h : run.Moves halted silenced event run' effect) (hcourse : run.OnCourse posted c)
    (hhere : run.phase ≠ .gone) (hgone : run'.phase = .gone) :
    effect = .post (.retired run.id) := by
  have hon := hcourse.phase
  cases h with
  | start parts hphase =>
      cases parts with
      | nil => cases hgone
      | cons part rest => cases halted <;> cases hgone
  | hire part rest hphase => cases hgone
  | take event rest hphase hevents => cases event <;> cases hgone
  | close hphase hevents hidle =>
      simp only [enter, afterScan] at hgone
      split at hgone <;> cases hgone
  | finish hphase =>
      cases halted with
      | true => cases hgone
      | false =>
          simp only [Run.finish, Bool.false_eq_true, if_false] at hgone
          split at hgone <;> cases hgone
  | fail percent error hphase => cases hgone
  | leave farewell hphase => cases farewell <;> cases hgone
  | ask n next hphase =>
      rw [hphase] at hon
      cases silenced with
      | false => cases hgone
      | true => cases hon <;> cases hgone
  | tell n next hphase =>
      rw [hphase] at hon
      cases hon <;> cases hgone
  | rest hphase => cases halted <;> cases hgone
  | poll answer hphase =>
      cases answer with
      | error e => cases hgone
      | ok size =>
          simp only [Run.poll] at hgone
          split at hgone
          · cases hgone
          · split at hgone <;> cases hgone
  | retire hphase => rfl
  | work | load => exact absurd hgone hhere

end Run.Moves

/-! ## Messages of a request -/

namespace RequestView

/-- The run of the request is gone, and all its messages are taken. -/
def Drained (v : RequestView) : Prop :=
  v.unretired = false ∧ v.mail = [] ∧ ∃ run, v.run = some run ∧ run.phase = .gone

/-- The messages of a request that may be queued. -/
inductive Mailed (id : RequestId) (v : RequestView) : Prop where
  | unlaunched (hrun : v.run = none) (hmail : v.mail = [])
  | running (run : Run) (hrun : v.run = some run) (hhere : run.phase ≠ .gone)
      (hunretired : v.unretired = true) (ns : List Notification)
      (hmail : v.mail = ns.map .notification)
  | ended (run : Run) (hrun : v.run = some run) (hgone : run.phase = .gone)
      (hunretired : v.unretired = true) (ns : List Notification)
      (hmail : v.mail = ns.map .notification ++ [.retired id])
  | drained (h : v.Drained)

theorem Mailed.congr (h : v.Mailed id) (hrun : v'.run = v.run) (hmail : v'.mail = v.mail)
    (hunretired : v'.unretired = v.unretired) : v'.Mailed id := by
  cases h with
  | unlaunched hnone hempty => exact .unlaunched (hrun.trans hnone) (hmail.trans hempty)
  | running run hsome hhere hnoted ns hns =>
      exact .running run (hrun.trans hsome) hhere (hunretired.trans hnoted) ns (hmail.trans hns)
  | ended run hsome hgone hnoted ns hns =>
      exact .ended run (hrun.trans hsome) hgone (hunretired.trans hnoted) ns (hmail.trans hns)
  | drained hdrained =>
      obtain ⟨hretired, hempty, run, hsome, hgone⟩ := hdrained
      exact .drained ⟨hunretired.trans hretired, hmail.trans hempty, run, hrun.trans hsome, hgone⟩

theorem Mailed.mail_eq_nil (h : v.Mailed id) (hrun : v.run = none) : v.mail = [] := by
  cases h with
  | unlaunched _ hempty => exact hempty
  | running run hsome => exact absurd (hrun.symm.trans hsome) nofun
  | ended run hsome => exact absurd (hrun.symm.trans hsome) nofun
  | drained hdrained => exact hdrained.2.1

end RequestView

/-- A step of a request keeps the marker of its run behind its notifications. -/
theorem RequestStep.mailed (hstep : RequestStep id v event v') (h : v.Mailed id)
    (hcourse : v.OnCourse id posted) : v'.Mailed id := by
  cases hstep with
  | elsewhere => exact h
  | activate hrun => exact h.congr rfl rfl rfl
  | register hrun => exact .unlaunched hrun (h.mail_eq_nil hrun)
  | launch job hrun hregistered hrange =>
      exact .running _ rfl nofun hregistered [] (h.mail_eq_nil hrun)
  | silence | withdraw | halt => exact h.congr rfl rfl rfl
  | move run run' event effect hrun hmove =>
      have hrun' : (v.after run' effect).run = some run' := by cases effect <;> rfl
      have hunretired : (v.after run' effect).unretired = v.unretired := by cases effect <;> rfl
      obtain ⟨hid, c, hon, -⟩ := hcourse.launched run hrun
      cases h with
      | unlaunched hnone => cases hrun.symm.trans hnone
      | running old hold hhere hnoted ns hns =>
          obtain rfl := Option.some.inj (hrun.symm.trans hold)
          by_cases hgone : run'.phase = .gone
          · obtain rfl := hmove.goes hon hhere hgone
            refine .ended run' hrun' hgone hnoted ns ?_
            simp [RequestView.after, hns, hid]
          · cases hmove with
            | tell n next hphase =>
                refine .running _ hrun' hgone hnoted (ns ++ [n]) ?_
                simp [RequestView.after, hns]
            | retire hphase => exact absurd rfl hgone
            | _ => exact .running _ hrun' hgone hnoted ns hns
      | ended old hold hgone hnoted ns hns =>
          obtain rfl := Option.some.inj (hrun.symm.trans hold)
          obtain ⟨hgone', rfl⟩ := hmove.of_gone hgone
          exact .ended run' rfl hgone' hnoted ns hns
      | drained hdrained =>
          obtain ⟨hretired, hempty, old, hold, hgone⟩ := hdrained
          obtain rfl := Option.some.inj (hrun.symm.trans hold)
          obtain ⟨hgone', rfl⟩ := hmove.of_gone hgone
          exact .drained ⟨hretired, hempty, run', rfl, hgone'⟩
  | deliver n rest hmail =>
      cases h with
      | unlaunched hnone hempty => cases hmail.symm.trans hempty
      | running run hrun hhere hnoted ns hns =>
          obtain ⟨m, ms, rfl, -, hrest⟩ := List.map_eq_cons_iff.1 (hns.symm.trans hmail)
          exact .running run hrun hhere hnoted ms hrest.symm
      | ended run hrun hgone hnoted ns hns =>
          cases ns with
          | nil => cases hmail.symm.trans hns
          | cons m ms =>
              exact .ended run hrun hgone hnoted ms (List.cons.inj (hmail.symm.trans hns)).2
      | drained hdrained => cases hmail.symm.trans hdrained.2.1
  | retire rest hmail =>
      cases h with
      | unlaunched hnone hempty => cases hmail.symm.trans hempty
      | running run hrun hhere hnoted ns hns =>
          obtain ⟨m, ms, -, hm, -⟩ := List.map_eq_cons_iff.1 (hns.symm.trans hmail)
          cases hm
      | ended run hrun hgone hnoted ns hns =>
          cases ns with
          | nil =>
              exact .drained ⟨rfl, (List.cons.inj (hmail.symm.trans hns)).2, run, hrun, hgone⟩
          | cons m ms => cases hmail.symm.trans hns
      | drained hdrained => cases hmail.symm.trans hdrained.2.1

theorem RequestRun.mailed {events : List RequestEvent} (h : RequestRun id events v) :
    v.Mailed id := by
  induction h with
  | nil => exact .unlaunched rfl rfl
  | snoc events event v v' hrun hstep ih => exact hstep.mailed ih hrun.onCourse

/-! ## Silence -/

/-- The phases of a run whose stop flag was raised before it began. -/
def Phase.isMute : Phase → Bool
  | starting _ | collecting | finishing | leaving none | retiring | gone => true
  | _ => false

/-- The run has started no worker and has nothing to send. -/
structure Run.Mute (run : Run) : Prop where
  phase : run.phase.isMute = true
  workers : run.workers = []
  events : run.events = []
  initial : run.scan.live = false

theorem Run.Mute.unposted {halted silenced : Bool} {event : RequestEvent} {run run' : Run}
    {effect : Effect} (h : run.Mute) (hmove : run.Moves halted silenced event run' effect)
    (n : Notification) : effect ≠ .post (.notification n) := by
  rintro rfl
  have hmute := h.phase
  cases hmove with
  | tell n next hphase =>
      rw [hphase] at hmute
      cases hmute

/-- A run whose stop flag is raised starts no worker. -/
theorem Run.Mute.moves {silenced : Bool} {run run' : Run} {effect : Effect} (h : run.Mute)
    (hmove : run.Moves true silenced event run' effect) : run'.Mute := by
  have hmute := h.phase
  have hnone (index : Nat) : run.workers[index]? = none := by simp [h.workers]
  cases hmove with
  | start parts hphase =>
      cases parts <;> exact ⟨rfl, h.workers, h.events, h.initial⟩
  | take event rest hphase hevents =>
      rw [h.events] at hevents
      cases hevents
  | close hphase hevents hidle =>
      have hafter : run.afterScan = .finishing := by simp [afterScan, h.initial]
      rw [hafter]
      exact ⟨rfl, h.workers, h.events, h.initial⟩
  | finish hphase => exact ⟨rfl, h.workers, h.events, h.initial⟩
  | leave farewell hphase =>
      rw [hphase] at hmute
      cases farewell with
      | none => exact ⟨rfl, h.workers, h.events, h.initial⟩
      | some n => cases hmute
  | retire hphase => exact ⟨rfl, h.workers, h.events, h.initial⟩
  | work index w next event hworker hstep =>
      rw [hnone] at hworker
      cases hworker
  | load index w answer hworker hstage =>
      rw [hnone] at hworker
      cases hworker
  | hire _ _ hphase | fail _ _ hphase | ask _ _ hphase | tell _ _ hphase | rest hphase
  | poll _ hphase =>
      rw [hphase] at hmute
      cases hmute

namespace RequestView

/-- Messages of the request may be queued, or all have been taken. -/
def Known (v : RequestView) : Prop := v.unretired = true ∨ v.Drained

/-- No notification of the request is delivered any more. -/
inductive Hushed (v : RequestView) : Prop where
  | silenced (h : v.silenced = true)
  | drained (h : v.Drained)
  /-- The stop flag was raised before the run was started. -/
  | unspoken (hhalted : v.halted = true) (hrun : ∀ run, v.run = some run → run.Mute)
      (hmail : v.mail.filterMap Envelope.notification? = [])

theorem Mailed.known (h : v.Mailed id) (hrun : v.run ≠ none) : v.Known := by
  cases h with
  | unlaunched hnone => exact absurd hnone hrun
  | running _ _ _ hunretired => exact .inl hunretired
  | ended _ _ _ hunretired => exact .inl hunretired
  | drained hdrained => exact .inr hdrained

/-- A call silences a request that is known. -/
theorem Known.hushed (h : v.Known) :
    ({ v with silenced := v.silenced || v.unretired } : RequestView).Hushed := by
  rcases h with hunretired | hdrained
  · exact .silenced (by simp [hunretired])
  · exact .drained hdrained

end RequestView

/-- A known request stays known. -/
theorem RequestStep.known (hstep : RequestStep id v event v') (h : v.Known)
    (hmailed : v.Mailed id) (hmailed' : v'.Mailed id) : v'.Known := by
  cases hstep with
  | elsewhere | activate | silence | withdraw | halt => exact h
  | register hrun => exact .inl rfl
  | launch job hrun hregistered hrange => exact .inl hregistered
  | move run run' event effect hrun hmove =>
      exact hmailed'.known (by cases effect <;> nofun)
  | deliver n rest hmail =>
      rcases h with hunretired | hdrained
      · exact .inl hunretired
      · exact absurd (hmail.symm.trans hdrained.2.1) nofun
  | retire rest hmail =>
      exact hmailed'.known fun hnone => absurd (hmail.symm.trans (hmailed.mail_eq_nil hnone)) nofun

/-- A request that is silent stays so. When a marker ends the silence, no message is left. -/
theorem RequestStep.hushed (hstep : RequestStep id v event v') (h : v.Hushed)
    (hmailed : v.Mailed id) : v'.Hushed ∧ event.delivered? = none := by
  cases h with
  | silenced hsilenced =>
      cases hstep with
      | elsewhere | activate | register | launch | withdraw | halt =>
          exact ⟨.silenced hsilenced, rfl⟩
      | silence => exact ⟨.silenced (by simp [hsilenced]), rfl⟩
      | move run run' event effect hrun hmove =>
          refine ⟨.silenced ?_, ?_⟩
          · cases effect <;> exact hsilenced
          · cases hmove <;> rfl
      | deliver n rest hmail =>
          rw [if_pos hsilenced]
          exact ⟨.silenced hsilenced, rfl⟩
      | retire rest hmail =>
          refine ⟨.drained ?_, rfl⟩
          cases hmailed with
          | unlaunched hrun hempty => exact absurd (hmail.symm.trans hempty) nofun
          | running run hrun hhere hunretired ns hns =>
              obtain ⟨m, ms, -, hm, -⟩ := List.map_eq_cons_iff.1 (hns.symm.trans hmail)
              cases hm
          | ended run hrun hgone hunretired ns hns =>
              cases ns with
              | nil => exact ⟨rfl, (List.cons.inj (hmail.symm.trans hns)).2, run, hrun, hgone⟩
              | cons m ms => exact absurd (hmail.symm.trans hns) nofun
          | drained hdrained => exact absurd (hmail.symm.trans hdrained.2.1) nofun
  | drained hdrained =>
      obtain ⟨hretired, hempty, run, hrun, hgone⟩ := hdrained
      cases hstep with
      | elsewhere | silence | withdraw | halt =>
          exact ⟨.drained ⟨hretired, hempty, run, hrun, hgone⟩, rfl⟩
      | activate hnone | register hnone | launch _ hnone =>
          exact absurd (hrun.symm.trans hnone) nofun
      | move old run' event effect hold hmove =>
          obtain rfl := Option.some.inj (hrun.symm.trans hold)
          obtain ⟨hgone', rfl⟩ := hmove.of_gone hgone
          refine ⟨.drained ⟨hretired, hempty, run', rfl, hgone'⟩, ?_⟩
          cases hmove <;> rfl
      | deliver n rest hmail | retire rest hmail =>
          exact absurd (hmail.symm.trans hempty) nofun
  | unspoken hhalted hmute hmail =>
      cases hstep with
      | elsewhere | activate | register | silence | withdraw | halt =>
          exact ⟨.unspoken (by first | exact hhalted | rfl) hmute hmail, rfl⟩
      | launch job hrun hregistered hrange =>
          refine ⟨.unspoken hhalted (fun run hsome => ?_) hmail, rfl⟩
          obtain rfl := Option.some.inj hsome
          exact ⟨rfl, rfl, rfl, rfl⟩
      | move run run' event effect hrun hmove =>
          rw [hhalted] at hmove
          have hunposted := (hmute run hrun).unposted hmove
          refine ⟨.unspoken ?_ (fun r hr => ?_) ?_, ?_⟩
          · cases effect <;> first | exact hhalted | rfl
          · have hrun' : (v.after run' effect).run = some run' := by cases effect <;> rfl
            obtain rfl := Option.some.inj (hrun'.symm.trans hr)
            exact (hmute run hrun).moves hmove
          · cases effect with
            | post e =>
                cases e with
                | notification n => exact absurd rfl (hunposted n)
                | retired other => simp [RequestView.after, hmail, Envelope.notification?]
            | _ => exact hmail
          · cases hmove <;> rfl
      | deliver n rest hrest =>
          rw [hrest] at hmail
          cases hmail
      | retire rest hrest =>
          rw [hrest] at hmail
          exact ⟨.unspoken hhalted hmute hmail, rfl⟩

end PatternScan.Analysis
