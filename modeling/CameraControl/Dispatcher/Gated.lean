import CameraControl.Dispatcher

/-!
A dispatcher whose jobs carry labels and may be held up: a gated job runs only once its gate is open, and a
closing job shuts the dispatcher down from inside before it ends. `settle` lets the worker go as far as it
can; what callers see of a run is the list of labels in the order in which their jobs ended.
-/
namespace CameraControl.Dispatcher

namespace Gated

inductive Errand
  | plain
  | gated (gate : Nat)
  | closing
deriving DecidableEq, Repr

structure Job where
  label : String
  errand : Errand
deriving DecidableEq, Repr

end Gated

structure Gated where
  dispatcher : Dispatcher Gated.Job
  /-- The gates that are still closed, oldest first. -/
  closed : List Nat := []
  gates : Nat := 0
  /-- The running job has made its shutdown call. -/
  asked : Bool := false
deriving DecidableEq, Repr

namespace Gated

def ofCapacity (capacity : Nat) : Gated := { dispatcher := { capacity } }

def labels (g : Gated) : List String := g.dispatcher.finished.map Job.label

/-- One move of the running job, if it can make one. -/
def work? (g : Gated) (job : Job) : Option Gated :=
  match job.errand with
  | .plain => g.dispatcher.finish?.map fun d => { g with dispatcher := d }
  | .gated gate =>
    if gate ∈ g.closed then none
    else g.dispatcher.finish?.map fun d => { g with dispatcher := d }
  | .closing =>
    if g.asked then g.dispatcher.finish?.map fun d => { g with dispatcher := d, asked := false }
    else some { g with dispatcher := g.dispatcher.shutDownInside, asked := true }

def next? (g : Gated) : Option Gated :=
  match g.dispatcher.place? with
  | some d => some { g with dispatcher := d }
  | none =>
    match g.dispatcher.current? with
    | some job => g.work? job
    | none =>
      match g.dispatcher.take? with
      | some d => some { g with dispatcher := d }
      | none =>
        if g.dispatcher.listening then none
        else g.dispatcher.listen?.map fun d => { g with dispatcher := d }

def go (g : Gated) : Nat → Gated
  | 0 => g
  | n + 1 =>
    match g.next? with
    | some g => g.go n
    | none => g

/-- An item takes three moves at most, and the stop marker one more to be placed. In the end the worker comes
to wait for the next item. -/
def settle (g : Gated) : Gated := g.go (3 * g.dispatcher.queue.length + 5)

def submit (g : Gated) (job : Job) : Except Failure Gated :=
  (g.dispatcher.submit job).map fun d => { g with dispatcher := d }.settle

def run (g : Gated) (label : String) : Except Failure Gated := g.submit ⟨label, .plain⟩

def runClosing (g : Gated) (label : String) : Except Failure Gated := g.submit ⟨label, .closing⟩

/-- The gate of a refused job is never closed. -/
def runGated (g : Gated) (label : String) : Except Failure Gated :=
  { g with closed := g.closed ++ [g.gates], gates := g.gates + 1 }.submit ⟨label, .gated g.gates⟩

/-- Whether the job that was accepted last has ended; all before it have then ended too. -/
def isDone (g : Gated) : Bool :=
  g.dispatcher.finished.length = g.dispatcher.accepted.length

/-- Waits for the job, which is not taken back when the wait is over. -/
def runAndWait (g : Gated) (label : String) (ms : Nat) : Except Failure (Gated × Option Failure) :=
  (g.run label).map fun g => (g, if g.isDone then none else some (.timeout ms label))

def openGate? (g : Gated) : Option Gated :=
  match g.closed with
  | [] => none
  | _ :: rest => some { g with closed := rest }.settle

/-- Opens every gate, then shuts down from outside. -/
def shutDown (g : Gated) : Gated :=
  let g := { g with closed := [] }.settle
  { g with dispatcher := g.dispatcher.shutDown }.settle

end Gated

end CameraControl.Dispatcher
