import PatternScan.Proofs.Analysis.Execution

/-!
# Refused submissions

A submission is refused for one of four faults, which are looked for in a fixed order before
anything is changed. A refused submission can therefore be left out of an execution without a
difference to the states that follow and to what is delivered.
-/

namespace PatternScan.Analysis

variable {maxWorkers : Nat} {trace : List Moment} {d d' : Dispatch} {id : RequestId}
  {step : Step} {seen : Option Observation} {s : Submission} {size : Except ScanError Nat}

/-! ## Faults -/

/-- Why a submission is refused. The source fails to tell its size, the range ends beyond what a
number holds or beyond the source, or the pattern cannot be compiled; what comes first counts. -/
inductive Submission.Refused (s : Submission) : Except ScanError Nat → ScanError → Prop where
  | source (e : ScanError) : s.Refused (.error e) e
  | overflow (size : Nat) (h : Number.maxNat64 < s.start + s.count) :
      s.Refused (.ok size) (.request .overflow)
  | beyondSource (size : Nat) (hnumber : s.start + s.count ≤ Number.maxNat64)
      (h : size < s.start + s.count) :
      s.Refused (.ok size) (.request (.beyondSource s.start (s.start + s.count) size))
  | pattern (size : Nat) (e : PatternError) (hnumber : s.start + s.count ≤ Number.maxNat64)
      (hinside : s.start + s.count ≤ size) (h : CompiledPattern.compile s.pattern = .error e) :
      s.Refused (.ok size) (.pattern e)

theorem Submission.job_eq_error_iff {e : ScanError} :
    s.job maxWorkers size = .error e ↔ s.Refused size e := by
  constructor
  · intro h
    cases size with
    | error fault =>
        obtain rfl := Except.error.inj h
        exact .source _
    | ok size =>
        simp only [job, bind, Except.bind, throw, throwThe, MonadExceptOf.throw, pure,
          Except.pure] at h
        split at h
        · next hoverflow =>
            obtain rfl := Except.error.inj h
            exact .overflow size hoverflow
        · next hnumber =>
            split at h
            · next hbeyond =>
                obtain rfl := Except.error.inj h
                exact .beyondSource size (Nat.not_lt.1 hnumber) hbeyond
            · next hinside =>
                cases hpattern : CompiledPattern.compile s.pattern with
                | error fault =>
                    rw [Context.compile, hpattern] at h
                    obtain rfl := Except.error.inj h
                    exact .pattern size fault (Nat.not_lt.1 hnumber) (Nat.not_lt.1 hinside) hpattern
                | ok pattern =>
                    rw [Context.compile, hpattern] at h
                    cases h
  · intro h
    cases h with
    | source => rfl
    | overflow size h =>
        simp [job, bind, Except.bind, throw, throwThe, MonadExceptOf.throw, h]
    | beyondSource size hnumber h =>
        simp [job, bind, Except.bind, throw, throwThe, MonadExceptOf.throw, h,
          Nat.not_lt.2 hnumber]
    | pattern size fault hnumber hinside h =>
        simp [job, bind, Except.bind, Context.compile, h, Nat.not_lt.2 hnumber,
          Nat.not_lt.2 hinside, Except.map, Except.mapError]

/-! ## Executions without refused submissions -/

/-- A submission was refused. -/
def Moment.isRefused (m : Moment) : Bool :=
  match m.seen with
  | some (.refused _) => true
  | _ => false

theorem Moment.exists_refused {m : Moment} (h : m.isRefused = true) :
    ∃ e, m.seen = some (.refused e) := by
  unfold isRefused at h
  split at h
  · next e hseen => exact ⟨e, hseen⟩
  · cases h

namespace Dispatch

theorem refused_iff (h : d.step? (.submit s size) = some (d', seen)) {e : ScanError} :
    seen = some (.refused e) ↔ s.Refused size e := by
  rw [← Submission.job_eq_error_iff]
  cases hjob : s.job d.maxWorkers size with
  | ok job =>
      simp only [step?, hjob, Option.some.injEq, Prod.mk.injEq] at h
      obtain ⟨-, rfl⟩ := h
      constructor
      · intro hseen
        cases hseen
      · intro herror
        cases herror
  | error fault =>
      simp only [step?, hjob, Option.some.injEq, Prod.mk.injEq] at h
      obtain ⟨-, rfl⟩ := h
      rw [Option.some.injEq, Observation.refused.injEq, Except.error.injEq]

theorem seen_of_advance {call : Call} {o : Observation} (h : (d.advance call).2.2 = some o) :
    (∃ id job, call = .launching id job ∧ o = .accepted id) ∨
      ∃ id wasActive, o = .cancelled id wasActive := by
  cases call with
  | launching id job => exact .inl ⟨id, job, rfl, (Option.some.inj h).symm⟩
  | withdrawing id rest =>
      simp only [advance] at h
      split at h
      · cases h
      · exact .inr ⟨id, false, (Option.some.inj h).symm⟩
  | halting id rest => exact .inr ⟨id, true, (Option.some.inj h).symm⟩
  | _ => cases h

/-- To refuse a submission leaves the dispatch as it is. -/
theorem eq_of_refused {e : ScanError} (h : d.Steps step seen d')
    (hseen : seen = some (.refused e)) : d' = d := by
  cases h with
  | refuse => rfl
  | call index call hcall =>
      rcases seen_of_advance hseen with ⟨id, job, -, ho⟩ | ⟨id, wasActive, ho⟩ <;> cases ho
  | deliver n rest hqueue =>
      obtain ⟨n', -, hn⟩ := Option.map_eq_some_iff.1 hseen
      cases hn
  | _ => cases hseen

end Dispatch

/-- Refused submissions can be left out of an execution. -/
theorem Execution.without_refused {start : Dispatch} (h : Execution start trace d) :
    Execution start (trace.filter fun m => !m.isRefused) d := by
  induction h with
  | nil => exact .nil
  | snoc trace d d' step seen h hstep ih =>
      rw [List.filter_append]
      cases hrefused : Moment.isRefused ⟨d, step, seen⟩ with
      | true =>
          obtain ⟨e, hseen⟩ := Moment.exists_refused hrefused
          rw [Dispatch.eq_of_refused (Dispatch.steps_of_step? hstep) hseen]
          simpa [hrefused] using ih
      | false =>
          have hkept : [(⟨d, step, seen⟩ : Moment)].filter (fun m => !m.isRefused) =
              [⟨d, step, seen⟩] := by simp [hrefused]
          rw [hkept]
          exact .snoc _ d d' step seen ih hstep

theorem delivered_without_refused (trace : List Moment) :
    delivered (trace.filter fun m => !m.isRefused) = delivered trace := by
  rw [delivered, List.filterMap_filter]
  refine List.filterMap_congr fun m _ => ?_
  cases hrefused : m.isRefused with
  | false => rfl
  | true =>
      obtain ⟨e, hseen⟩ := Moment.exists_refused hrefused
      simp [Moment.delivered?, hseen]

end PatternScan.Analysis
