import PatternScan.Analysis.Dispatch

/-!
# The receiver of a dispatch

The receiver may go away while requests are running. The messages that are still queued are
lost with it, and none can be sent from then on. A notification that cannot be sent is
dropped. A marker that cannot be sent is not: its run forgets the request itself, as the
receiver would have done on taking the marker.
-/

namespace PatternScan.Analysis

/-- A dispatch together with whether its receiver is still there. -/
structure Reception where
  dispatch : Dispatch
  attended : Bool
  deriving Repr, Inhabited

/-- A possible step of a dispatch and its receiver. -/
inductive ReceptionStep where
  | go (step : Step)
  /-- The receiver goes away. -/
  | hangUp

/-- The dispatch after the one message that was to be sent could not be sent. -/
def Dispatch.bounce (d : Dispatch) : Dispatch :=
  match d.queue with
  | [] => d
  | .notification _ :: rest => { d with queue := rest }
  | .retired id :: rest => retire { d with queue := rest } id

namespace Reception

/-- A dispatch without requests, and its receiver. -/
def empty (maxWorkers : Nat) : Reception := ⟨.empty maxWorkers, true⟩

/-- The state after a step and what can be seen of it. A run that fails to send its marker
forgets the request in the same step: the failed attempt has changed nothing, and the
receiver does not come back. -/
def step? (r : Reception) : ReceptionStep → Option (Reception × Option Observation)
  | .go step =>
      (r.dispatch.step? step).map fun (after, seen) =>
        (⟨if r.attended then after else after.bounce, r.attended⟩, seen)
  | .hangUp =>
      if r.attended then some (⟨{ r.dispatch with queue := [] }, false⟩, none) else none

end Reception

end PatternScan.Analysis
