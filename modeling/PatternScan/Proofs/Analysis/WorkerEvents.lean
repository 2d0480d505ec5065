import Mathlib.Algebra.Ring.Nat
import PatternScan.Proofs.Analysis.Tally

/-!
# Events of one worker

What a worker will send if it is left alone can be told from its state: a step that sends an
event takes that event off the front, and no other step changes it. A worker that is told to
stop, or that nobody listens to, sends nothing more, so whatever it has sent by then is the
beginning of the same events. Told from the start of a range, they are one batch for each full
chunk and one for the records left, up to the first record that cannot be read.
-/

namespace PatternScan.Analysis

variable {context : Context} {chunkSize : Nat} {get : Nat → Except ScanError Record}

/-! ## Runs of one worker -/

/-- What a worker meets at a step: whether it is to stop, and whether its report is taken. -/
structure Signal where
  cancelled : Bool
  taken : Bool
  deriving DecidableEq, Repr, Inhabited

/-- The worker is to go on, and its report is taken. -/
def Signal.calm : Signal := ⟨false, true⟩

/-- What is sent at a step. A report that nobody takes is not sent. -/
def Signal.sent (signal : Signal) (event : Option WorkerEvent) : List WorkerEvent :=
  if signal.taken then event.toList else []

/-- From one state to another a worker meets the signals and sends the events. -/
inductive Worker.Sends (context : Context) (chunkSize : Nat)
    (get : Nat → Except ScanError Record) :
    Worker → List Signal → List WorkerEvent → Worker → Prop
  | here (w : Worker) : Sends context chunkSize get w [] [] w
  | step {w next last : Worker} {signal : Signal} {signals : List Signal}
      {event : Option WorkerEvent} {events : List WorkerEvent}
      (h : w.step signal.cancelled signal.taken = some (next, event))
      (rest : Sends context chunkSize get next signals events last) :
      Sends context chunkSize get w (signal :: signals) (signal.sent event ++ events) last
  | load {w last : Worker} {signals : List Signal} {events : List WorkerEvent}
      (h : w.stage = .loading)
      (rest : Sends context chunkSize get (w.load context chunkSize (get w.position)) signals
        events last) :
      Sends context chunkSize get w signals events last

/-! ## What is still to be sent -/

/-- The events for the next positions, where some records are scanned but not reported. -/
def streamFrom (context : Context) (chunkSize : Nat) (get : Nat → Except ScanError Record) :
    Nat → Nat → Nat → List RecordResult → List WorkerEvent
  | 0, _, processed, results =>
      if 0 < processed || !results.isEmpty then [.batch processed results] else []
  | count + 1, position, processed, results =>
      match get position with
      | .error e => [.failed e.message]
      | .ok record =>
          if processed + 1 = max chunkSize 1 then
            .batch (processed + 1) (results ++ (context.analyze? record).toList) ::
              streamFrom context chunkSize get count (position + 1) 0 []
          else
            streamFrom context chunkSize get count (position + 1) (processed + 1)
              (results ++ (context.analyze? record).toList)

namespace Worker

/-- The events that the worker sends if it is left alone. At the stage of reading there is a
position to read. -/
def pending (context : Context) (chunkSize : Nat) (get : Nat → Except ScanError Record)
    (w : Worker) : List WorkerEvent :=
  match w.stage with
  | .pulling =>
      streamFrom context chunkSize get (w.stop - w.position) w.position w.processed w.results
  | .loading =>
      streamFrom context chunkSize get (w.stop - (w.position + 1) + 1) w.position w.processed
        w.results
  | .flushing =>
      .batch w.processed w.results ::
        streamFrom context chunkSize get (w.stop - w.position) w.position 0 []
  | .reporting (.batch processed results) =>
      .batch processed results ::
        streamFrom context chunkSize get (w.stop - w.position) w.position 0 []
  | .reporting (.failed error) => [.failed error]
  | .stopped => []

variable {w next last : Worker} {signal : Signal} {signals : List Signal}
  {event : Option WorkerEvent} {events : List WorkerEvent}

theorem pending_of_stopped (h : w.stage = .stopped) : w.pending context chunkSize get = [] := by
  rw [pending, h]

theorem pending_load (h : w.stage = .loading) :
    (w.load context chunkSize (get w.position)).pending context chunkSize get =
      w.pending context chunkSize get := by
  simp only [pending, h, load, streamFrom]
  cases hget : get w.position with
  | error e => rfl
  | ok record =>
      simp only
      split_ifs <;> rfl

theorem pending_pull : (w.pull false).pending context chunkSize get =
    streamFrom context chunkSize get (w.stop - w.position) w.position w.processed w.results := by
  unfold pull
  split
  · next hlt =>
      have hcount : w.stop - w.position = w.stop - (w.position + 1) + 1 := by omega
      rw [hcount]
      rfl
  · next hend =>
      have hcount : w.stop - w.position = 0 := by omega
      rw [hcount]
      split <;> simp_all [pending, enter, streamFrom]

/-- A step of a worker that is left alone sends the first of the events that are still to be
sent, or none. -/
theorem pending_step (h : w.step false true = some (next, event)) :
    w.pending context chunkSize get = event.toList ++ next.pending context chunkSize get := by
  cases hstage : w.stage with
  | pulling =>
      simp only [step, hstage, Option.some.injEq, Prod.mk.injEq] at h
      obtain ⟨rfl, rfl⟩ := h
      rw [pending_pull, pending, hstage]
      rfl
  | loading => simp [step, hstage] at h
  | flushing =>
      simp only [step, hstage, Option.some.injEq, Prod.mk.injEq] at h
      obtain ⟨rfl, rfl⟩ := h
      rw [pending, hstage]
      rfl
  | reporting report =>
      simp only [step, hstage, Option.some.injEq, Prod.mk.injEq] at h
      obtain ⟨rfl, rfl⟩ := h
      rw [pending, hstage]
      cases report <;> rfl
  | stopped => simp [step, hstage] at h

/-- A signal changes nothing about a step, or it stops the worker and nothing is sent. -/
theorem step_calm_or_stops (h : w.step signal.cancelled signal.taken = some (next, event)) :
    w.step false true = some (next, event) ∧ signal.sent event = event.toList ∨
      next.stage = .stopped ∧ signal.sent event = [] := by
  obtain ⟨cancelled, taken⟩ := signal
  cases hstage : w.stage with
  | pulling =>
      simp only [step, hstage, Option.some.injEq, Prod.mk.injEq] at h ⊢
      obtain ⟨rfl, rfl⟩ := h
      cases cancelled with
      | false => exact .inl ⟨⟨rfl, rfl⟩, by simp [Signal.sent]⟩
      | true =>
          by_cases hlt : w.position < w.stop
          · exact .inr ⟨by simp [pull, hlt, enter], by simp [Signal.sent]⟩
          · exact .inl ⟨⟨by simp [pull, hlt], rfl⟩, by simp [Signal.sent]⟩
  | loading => simp [step, hstage] at h
  | flushing =>
      simp only [step, hstage, Option.some.injEq, Prod.mk.injEq] at h ⊢
      obtain ⟨rfl, rfl⟩ := h
      cases cancelled with
      | false => exact .inl ⟨⟨rfl, rfl⟩, by simp [Signal.sent]⟩
      | true => exact .inr ⟨rfl, by simp [Signal.sent]⟩
  | reporting report =>
      simp only [step, hstage, Option.some.injEq, Prod.mk.injEq] at h ⊢
      obtain ⟨rfl, rfl⟩ := h
      cases taken with
      | true => exact .inl ⟨⟨rfl, rfl⟩, rfl⟩
      | false => exact .inr ⟨by cases report <;> rfl, rfl⟩
  | stopped => simp [step, hstage] at h

/-- What a step sends and what is to be sent after it begin what was to be sent before. -/
theorem sent_append_isPrefix (h : w.step signal.cancelled signal.taken = some (next, event)) :
    signal.sent event ++ next.pending context chunkSize get <+:
      w.pending context chunkSize get := by
  rcases step_calm_or_stops h with ⟨hcalm, hsent⟩ | ⟨hstopped, hsent⟩
  · exact ⟨[], by rw [hsent, pending_step hcalm, List.append_nil]⟩
  · rw [hsent, pending_of_stopped hstopped]
    exact List.nil_prefix

namespace Sends

/-- What a run has sent and what is to be sent after it begin what was to be sent before. -/
theorem append_pending_isPrefix (h : Sends context chunkSize get w signals events last) :
    events ++ last.pending context chunkSize get <+: w.pending context chunkSize get := by
  induction h with
  | here w => exact List.prefix_rfl
  | step hstep _ ih =>
      rw [List.append_assoc]
      exact ((List.prefix_append_right_inj _).2 ih).trans (sent_append_isPrefix hstep)
  | load hstage _ ih => rwa [pending_load hstage] at ih

/-- Left alone, a worker sends what was to be sent. -/
theorem append_pending_eq (h : Sends context chunkSize get w signals events last)
    (hcalm : ∀ signal ∈ signals, signal = .calm) :
    events ++ last.pending context chunkSize get = w.pending context chunkSize get := by
  induction h with
  | here w => rfl
  | step hstep _ ih =>
      obtain rfl := hcalm _ List.mem_cons_self
      rw [pending_step hstep, List.append_assoc,
        ih fun signal hsignal => hcalm signal (List.mem_cons_of_mem _ hsignal)]
      rfl
  | load hstage _ ih => rw [ih hcalm, pending_load hstage]

end Sends

/-! ## Runs to the end -/

/-- Left alone, the worker sends the events and comes to its end. -/
def Completes (context : Context) (chunkSize : Nat) (get : Nat → Except ScanError Record)
    (w : Worker) (events : List WorkerEvent) : Prop :=
  ∃ signals last, Sends context chunkSize get w signals events last ∧
    (∀ signal ∈ signals, signal = .calm) ∧ last.stage = .stopped

/-- A worker that comes to its end has sent all that was to be sent. -/
theorem Completes.eq_pending (h : Completes context chunkSize get w events) :
    events = w.pending context chunkSize get := by
  obtain ⟨signals, last, hsends, hcalm, hstopped⟩ := h
  rw [← hsends.append_pending_eq hcalm, pending_of_stopped hstopped, List.append_nil]

/-- Left alone, the worker comes to its end. -/
def Finishes (context : Context) (chunkSize : Nat) (get : Nat → Except ScanError Record)
    (w : Worker) : Prop :=
  ∃ events, Completes context chunkSize get w events

namespace Finishes

theorem of_stopped (h : w.stage = .stopped) : Finishes context chunkSize get w :=
  ⟨[], [], w, .here w, nofun, h⟩

theorem of_step (h : w.step false true = some (next, event))
    (hnext : Finishes context chunkSize get next) : Finishes context chunkSize get w := by
  obtain ⟨events, signals, last, hsends, hcalm, hstopped⟩ := hnext
  exact ⟨_, .calm :: signals, last, .step h hsends, List.forall_mem_cons.2 ⟨rfl, hcalm⟩,
    hstopped⟩

theorem of_load (hstage : w.stage = .loading)
    (hnext : Finishes context chunkSize get (w.load context chunkSize (get w.position))) :
    Finishes context chunkSize get w := by
  obtain ⟨events, signals, last, hsends, hcalm, hstopped⟩ := hnext
  exact ⟨events, signals, last, .load hstage hsends, hcalm, hstopped⟩

/-- A batch is reported, and the worker pulls again. -/
theorem of_flushing (hstage : w.stage = .flushing)
    (hnext : Finishes context chunkSize get
      { w with processed := 0, results := [], stage := .pulling }) :
    Finishes context chunkSize get w := by
  have hflush : w.step false true = some (w.flush false, none) := by simp only [step, hstage]
  have hreport : (w.flush false).step false true =
      some ({ w with processed := 0, results := [], stage := .pulling },
        some (.batch w.processed w.results)) := rfl
  exact of_step hflush (of_step hreport hnext)

theorem of_failing {error : String} (hstage : w.stage = .reporting (.failed error)) :
    Finishes context chunkSize get w := by
  have hreport : w.step false true = some (w.enter .stopped, some (.failed error)) := by
    simp only [step, hstage, afterReport]
  exact of_step hreport (of_stopped rfl)

theorem of_end (hstage : w.stage = .pulling) (hend : w.stop ≤ w.position)
    (hnone : w.processed = 0) (hempty : w.results = []) : Finishes context chunkSize get w := by
  have hpull : w.step false true = some (w.enter .stopped, none) := by
    simp [step, hstage, pull, Nat.not_lt.2 hend, hnone, hempty]
  exact of_step hpull (of_stopped rfl)

theorem of_pulling (hstage : w.stage = .pulling) : Finishes context chunkSize get w := by
  induction hcount : w.stop - w.position generalizing w with
  | zero =>
      have hend : w.stop ≤ w.position := Nat.le_of_sub_eq_zero hcount
      have hpull : w.step false true = some (w.pull false, none) := by simp only [step, hstage]
      refine of_step hpull ?_
      rw [pull, if_neg (Nat.not_lt.2 hend)]
      split
      · exact of_flushing rfl (of_end rfl hend rfl rfl)
      · exact of_stopped rfl
  | succ count ih =>
      have hlt : w.position < w.stop := by omega
      have hpull : w.step false true = some (w.enter .loading, none) := by
        simp [step, hstage, pull, hlt]
      refine of_step hpull (of_load rfl ?_)
      have hnext : w.stop - (w.position + 1) = count := by omega
      simp only [load]
      split
      · exact of_failing rfl
      · split_ifs
        · exact of_flushing rfl (ih rfl hnext)
        · exact ih rfl hnext

end Finishes

end Worker

/-! ## Chunks -/

/-- The number of records that an event tells of as scanned. -/
def WorkerEvent.processed : WorkerEvent → Nat
  | .batch processed _ => processed
  | .failed _ => 0

/-- The results of the records at the given number of positions, in the order of these. -/
def Context.foundIn (context : Context) (get : Nat → Except ScanError Record)
    (start count : Nat) : List RecordResult :=
  (List.range' start count).filterMap fun p => (get p).toOption.bind context.analyze?

/-- The batches of the given number of full chunks. -/
def fullBatches (context : Context) (get : Nat → Except ScanError Record)
    (chunk start count : Nat) : List WorkerEvent :=
  (List.range count).map fun i =>
    .batch chunk (context.foundIn get (start + i * chunk) chunk)

/-- The batch of the records behind the last full chunk, if there are any. -/
def lastBatch (context : Context) (get : Nat → Except ScanError Record) (start count : Nat) :
    List WorkerEvent :=
  if count = 0 then [] else [.batch count (context.foundIn get start count)]

/-- The records at the given number of positions can be read. -/
def ReadableFrom (get : Nat → Except ScanError Record) (start count : Nat) : Prop :=
  ∀ p, start ≤ p → p < start + count → ∃ record, get p = .ok record

section Chunks

variable {start position count more processed chunk : Nat} {results : List RecordResult}
  {record : Record} {error : ScanError}

namespace ReadableFrom

theorem head (h : ReadableFrom get start (count + 1)) : ∃ record, get start = .ok record :=
  h start (Nat.le_refl start) (by omega)

theorem left (h : ReadableFrom get start (count + more)) : ReadableFrom get start count :=
  fun p hstart hlt => h p hstart (by omega)

theorem right (h : ReadableFrom get start (count + more)) :
    ReadableFrom get (start + count) more :=
  fun p hstart hlt => h p (by omega) (by omega)

end ReadableFrom

theorem foundIn_one (h : get start = .ok record) :
    context.foundIn get start 1 = (context.analyze? record).toList := by
  cases hresult : context.analyze? record <;> simp [Context.foundIn, h, Except.toOption, hresult]

theorem foundIn_add : context.foundIn get start (count + more) =
    context.foundIn get start count ++ context.foundIn get (start + count) more := by
  rw [Context.foundIn, ← List.range'_append_1, List.filterMap_append]
  rfl

/-- The chunk takes in the records that it has room for. -/
theorem streamFrom_gather (h : ReadableFrom get position count)
    (hroom : processed + count < max chunkSize 1) :
    streamFrom context chunkSize get (count + more) position processed results =
      streamFrom context chunkSize get more (position + count) (processed + count)
        (results ++ context.foundIn get position count) := by
  induction count generalizing position processed results with
  | zero => simp [Context.foundIn]
  | succ count ih =>
      obtain ⟨record, hrecord⟩ := h.head
      have hcount : count + 1 + more = count + more + 1 := by omega
      rw [Nat.add_comm count 1] at h
      rw [hcount, streamFrom, hrecord]
      simp only
      rw [if_neg (by omega), ih h.right (by omega), Nat.add_comm count 1, foundIn_add,
        foundIn_one hrecord, Nat.add_assoc, Nat.add_assoc, List.append_assoc]

/-- A full chunk is reported. -/
theorem streamFrom_fill (h : ReadableFrom get position (max chunkSize 1)) :
    streamFrom context chunkSize get (max chunkSize 1 + more) position 0 [] =
      .batch (max chunkSize 1) (context.foundIn get position (max chunkSize 1)) ::
        streamFrom context chunkSize get more (position + max chunkSize 1) 0 [] := by
  obtain ⟨room, hroom⟩ : ∃ room, max chunkSize 1 = room + 1 :=
    ⟨max chunkSize 1 - 1, by omega⟩
  rw [hroom] at h ⊢
  obtain ⟨record, hrecord⟩ := h.right.head
  rw [Nat.add_assoc, streamFrom_gather h.left (by omega), Nat.add_comm 1 more, streamFrom, hrecord]
  simp only [Nat.zero_add, List.nil_append, hroom, if_true, foundIn_add, foundIn_one hrecord]
  rfl

theorem fullBatches_succ : fullBatches context get chunk start (count + 1) =
    .batch chunk (context.foundIn get start chunk) ::
      fullBatches context get chunk (start + chunk) count := by
  rw [fullBatches, List.range_succ_eq_map, List.map_cons, List.map_map, Nat.zero_mul, Nat.add_zero,
    fullBatches]
  refine congrArg _ (List.map_congr_left fun i _ => ?_)
  rw [Function.comp_apply, Nat.succ_mul, Nat.add_assoc, Nat.add_comm chunk]

/-- Full chunks are reported one by one. -/
theorem streamFrom_fullBatches (h : ReadableFrom get position (count * max chunkSize 1)) :
    streamFrom context chunkSize get (count * max chunkSize 1 + more) position 0 [] =
      fullBatches context get (max chunkSize 1) position count ++
        streamFrom context chunkSize get more (position + count * max chunkSize 1) 0 [] := by
  induction count generalizing position with
  | zero => simp [fullBatches]
  | succ count ih =>
      rw [Nat.succ_mul, Nat.add_comm (count * _)] at h ⊢
      rw [Nat.add_assoc, streamFrom_fill h.left, ih h.right, fullBatches_succ, List.cons_append,
        Nat.add_assoc]

/-- Of the records that can be read, those in full chunks are reported and the others held. -/
theorem streamFrom_scanned (h : ReadableFrom get position count) :
    streamFrom context chunkSize get (count + more) position 0 [] =
      fullBatches context get (max chunkSize 1) position (count / max chunkSize 1) ++
        streamFrom context chunkSize get more (position + count) (count % max chunkSize 1)
          (context.foundIn get (position + count / max chunkSize 1 * max chunkSize 1)
            (count % max chunkSize 1)) := by
  have hcount : count / max chunkSize 1 * max chunkSize 1 + count % max chunkSize 1 = count := by
    rw [Nat.mul_comm, Nat.div_add_mod]
  have hroom : 0 + count % max chunkSize 1 < max chunkSize 1 := by
    rw [Nat.zero_add]
    exact Nat.mod_lt _ (by omega)
  rw [← hcount] at h
  have hfull : streamFrom context chunkSize get (count / max chunkSize 1 * max chunkSize 1 +
      (count % max chunkSize 1 + more)) position 0 [] = _ := streamFrom_fullBatches h.left
  rw [streamFrom_gather h.right hroom, Nat.zero_add, List.nil_append, Nat.add_assoc position,
    ← Nat.add_assoc, hcount] at hfull
  exact hfull

/-- Where every record can be read, full chunks are followed by the records left. -/
theorem streamFrom_readable (h : ReadableFrom get position count) :
    streamFrom context chunkSize get count position 0 [] =
      fullBatches context get (max chunkSize 1) position (count / max chunkSize 1) ++
        lastBatch context get (position + count / max chunkSize 1 * max chunkSize 1)
          (count % max chunkSize 1) := by
  rw [← Nat.add_zero count, streamFrom_scanned h, Nat.add_zero, streamFrom, lastBatch]
  by_cases hleft : count % max chunkSize 1 = 0
  · rw [hleft]
    rfl
  · simp only [Nat.pos_of_ne_zero hleft, decide_true, Bool.true_or, if_true, if_neg hleft]

/-- The first record that cannot be read is followed by nothing, and the records since the last
full chunk are lost. -/
theorem streamFrom_failing (h : ReadableFrom get position count)
    (herror : get (position + count) = .error error) :
    streamFrom context chunkSize get (count + (more + 1)) position 0 [] =
      fullBatches context get (max chunkSize 1) position (count / max chunkSize 1) ++
        [.failed error.message] := by
  rw [streamFrom_scanned h, streamFrom, herror]

theorem sum_processed_fullBatches :
    ((fullBatches context get chunk start count).map WorkerEvent.processed).sum =
      count * chunk := by
  simp [fullBatches, Function.comp_def, WorkerEvent.processed]

theorem results_fullBatches :
    (fullBatches context get chunk start count).flatMap WorkerEvent.results =
      context.foundIn get start (count * chunk) := by
  induction count generalizing start with
  | zero => simp [fullBatches, Context.foundIn]
  | succ count ih =>
      rw [fullBatches_succ, List.flatMap_cons, ih, Nat.succ_mul, Nat.add_comm (count * chunk),
        foundIn_add]
      rfl

theorem sum_processed_lastBatch :
    ((lastBatch context get start count).map WorkerEvent.processed).sum = count := by
  rw [lastBatch]
  split
  · next h => rw [h]; rfl
  · rfl

theorem results_lastBatch :
    (lastBatch context get start count).flatMap WorkerEvent.results =
      context.foundIn get start count := by
  rw [lastBatch]
  split
  · next h => rw [h]; rfl
  · rw [List.flatMap_singleton]
    rfl

end Chunks

/-! ## The events -/

/-- A worker that is left alone comes to its end. If it can read every record of its range, it
sends a batch for each full chunk and one for the records left; these tell of all positions as
scanned, and their results are those of the records in order. If it first fails after `count`
records, it sends the full chunks among these and one failure. Whatever it meets in another run,
what it has sent there is a beginning of the same events. -/
theorem worker_event_stream (context : Context) (chunkSize : Nat)
    (get : Nat → Except ScanError Record) (part : ScanRange) :
    let chunk := max chunkSize 1
    (∃ events, (Worker.ofRange part).Completes context chunkSize get events) ∧
      ∀ events, (Worker.ofRange part).Completes context chunkSize get events →
        (ReadableFrom get part.start part.size →
          events = fullBatches context get chunk part.start (part.size / chunk) ++
              lastBatch context get (part.start + part.size / chunk * chunk)
                (part.size % chunk) ∧
            (events.map WorkerEvent.processed).sum = part.size ∧
            events.flatMap WorkerEvent.results = context.foundIn get part.start part.size) ∧
        (∀ count error, count < part.size → ReadableFrom get part.start count →
          get (part.start + count) = .error error →
          events = fullBatches context get chunk part.start (count / chunk) ++
            [.failed error.message]) ∧
        ∀ signals sent last,
          (Worker.ofRange part).Sends context chunkSize get signals sent last →
            sent <+: events := by
  intro chunk
  have hpending : (Worker.ofRange part).pending context chunkSize get =
      streamFrom context chunkSize get part.size part.start 0 [] := rfl
  have hsize : part.size / chunk * chunk + part.size % chunk = part.size := by
    rw [Nat.mul_comm, Nat.div_add_mod]
  refine ⟨Worker.Finishes.of_pulling rfl, ?_⟩
  intro events hcompletes
  have hevents := hcompletes.eq_pending
  refine ⟨?_, ?_, ?_⟩
  · intro hreadable
    have hstream := hevents.trans (hpending.trans (streamFrom_readable hreadable))
    refine ⟨hstream, ?_, ?_⟩
    · calc (events.map WorkerEvent.processed).sum
          = part.size / chunk * chunk + part.size % chunk := by
            rw [hstream, List.map_append, List.sum_append, sum_processed_fullBatches,
              sum_processed_lastBatch]
        _ = part.size := hsize
    · calc events.flatMap WorkerEvent.results
          = context.foundIn get part.start (part.size / chunk * chunk) ++
              context.foundIn get (part.start + part.size / chunk * chunk)
                (part.size % chunk) := by
            rw [hstream, List.flatMap_append, results_fullBatches, results_lastBatch]
        _ = context.foundIn get part.start part.size := by rw [← foundIn_add, hsize]
  · intro count error hlt hreadable herror
    obtain ⟨more, hmore⟩ := Nat.exists_eq_add_of_lt hlt
    rw [hevents, hpending, hmore, Nat.add_assoc]
    exact streamFrom_failing hreadable herror
  · intro signals sent last hsends
    rw [hevents]
    exact (List.prefix_append _ _).trans hsends.append_pending_isPrefix

/-- Five positions of which the fourth cannot be read. -/
def brokenSource (position : Nat) : Except ScanError Record :=
  if position = 3 then .error (.source (.lineOutOfRange position))
  else .ok (.ofText position (if position = 1 then "b" else "a"))

/-- The context of the pattern `a`. -/
def letterContext : Context :=
  (Context.compile "a" Settings.standard).toOption.getD default

theorem worker_events_brokenSource :
    (∃ events, (Worker.ofRange ⟨0, 3⟩).Completes letterContext 2 brokenSource events ∧
        events.map WorkerEvent.processed = [2, 1] ∧
        (events.flatMap WorkerEvent.results).map RecordResult.id = [0, 2]) ∧
      ∃ events, (Worker.ofRange ⟨0, 5⟩).Completes letterContext 2 brokenSource events ∧
        events.map WorkerEvent.processed = [2, 0] ∧
        events.getLast? = some (.failed "Source read failure: line 3 out of range") := by
  have hread (count : Nat) (h : count ≤ 3) : ReadableFrom brokenSource 0 count :=
    fun p _ hlt => ⟨_, if_neg (by omega)⟩
  constructor
  · obtain ⟨⟨events, hcompletes⟩, hall⟩ :=
      worker_event_stream letterContext 2 brokenSource ⟨0, 3⟩
    obtain ⟨hevents, -, hresults⟩ := (hall events hcompletes).1 (hread 3 (Nat.le_refl 3))
    refine ⟨events, hcompletes, ?_, ?_⟩
    · rw [hevents]
      rfl
    · rw [hresults]
      rfl
  · obtain ⟨⟨events, hcompletes⟩, hall⟩ :=
      worker_event_stream letterContext 2 brokenSource ⟨0, 5⟩
    have hevents := (hall events hcompletes).2.1 3 (.source (.lineOutOfRange 3)) (by decide)
      (hread 3 (Nat.le_refl 3)) rfl
    refine ⟨events, hcompletes, ?_, ?_⟩ <;> rw [hevents] <;> rfl

end PatternScan.Analysis
