import CameraControl.Failure

/-!
A thread that runs jobs one at a time, in the order in which they were accepted, from a queue of bounded
capacity. Submitting never blocks: a full queue refuses the job. Shutting down is once and for all; it
sends a stop marker through the queue, for which there must be room, and what is queued behind the marker
is lost. A queue of capacity zero only hands over: a job is accepted if the worker already waits for one, while
the stop marker, whose sender is ready to wait, is placed once the worker is idle.
-/
namespace CameraControl

namespace Dispatcher

inductive Item (κ : Type)
  | job (job : κ)
  | stop
deriving DecidableEq, Repr

inductive Worker (κ : Type)
  | idle
  | running (job : κ)
  | ended
deriving DecidableEq, Repr

/-- Where the stop marker is. While it waits for room it holds up whoever asked for the shutdown: a caller
outside, or the running job itself. -/
inductive Marker
  | unclaimed
  | outside
  | inside
  | placed
deriving DecidableEq, Repr

end Dispatcher

structure Dispatcher (κ : Type) where
  capacity : Nat
  queue : List (Dispatcher.Item κ) := []
  worker : Dispatcher.Worker κ := .idle
  /-- The idle worker has come to wait for something to be queued. -/
  listening : Bool := false
  marker : Dispatcher.Marker := .unclaimed
  accepted : List κ := []
  finished : List κ := []
deriving DecidableEq, Repr

namespace Dispatcher

variable {κ : Type}

def Item.job? : Item κ → Option κ
  | .job j => some j
  | .stop => none

def pending (d : Dispatcher κ) : List κ := d.queue.filterMap Item.job?

def current? (d : Dispatcher κ) : Option κ :=
  match d.worker with
  | .running job => some job
  | _ => none

def hasEnded (d : Dispatcher κ) : Bool :=
  match d.worker with
  | .ended => true
  | _ => false

def isIdle (d : Dispatcher κ) : Bool :=
  match d.worker with
  | .idle => true
  | _ => false

/-- Whether a sender that is ready to wait gets rid of one more item. A queue of capacity zero hands it over to
the worker, which is idle or will be. -/
def hasRoom (d : Dispatcher κ) : Bool :=
  if d.capacity = 0 then d.isIdle && d.queue.isEmpty else d.queue.length < d.capacity

/-- Whether a job is accepted on the spot. With capacity zero the worker must be there to take it over. -/
def accepts (d : Dispatcher κ) : Bool := d.hasRoom && (d.capacity ≠ 0 || d.listening)

def submit (d : Dispatcher κ) (job : κ) : Except Failure (Dispatcher κ) :=
  if d.hasEnded then .error .dispatchStopped
  else if d.accepts then
    .ok { d with queue := d.queue ++ [.job job], accepted := d.accepted ++ [job] }
  else .error (.queueFull d.capacity)

/-- The idle worker takes the head of the queue. The stop marker ends it, and the queue with it. -/
def take? (d : Dispatcher κ) : Option (Dispatcher κ) :=
  match d.worker, d.queue with
  | .idle, .job job :: rest => some { d with queue := rest, worker := .running job, listening := false }
  | .idle, .stop :: _ => some { d with queue := [], worker := .ended, listening := false }
  | _, _ => none

/-- The idle worker finds nothing queued, and waits. -/
def listen? (d : Dispatcher κ) : Option (Dispatcher κ) :=
  if d.isIdle && d.queue.isEmpty then some { d with listening := true } else none

/-- The running job ends, unless it is held up in a shutdown of its own. -/
def finish? (d : Dispatcher κ) : Option (Dispatcher κ) :=
  match d.worker, d.marker with
  | _, .inside => none
  | .running job, _ => some { d with worker := .idle, finished := d.finished ++ [job] }
  | _, _ => none

/-- Only the first shutdown has any effect. -/
def claim (d : Dispatcher κ) (asker : Marker) : Dispatcher κ :=
  if d.marker = .unclaimed then { d with marker := asker } else d

def shutDown (d : Dispatcher κ) : Dispatcher κ := d.claim .outside

/-- The running job shuts down the thread that runs it. -/
def shutDownInside (d : Dispatcher κ) : Dispatcher κ := d.claim .inside

/-- The waiting stop marker finds room. -/
def place? (d : Dispatcher κ) : Option (Dispatcher κ) :=
  match d.marker with
  | .outside | .inside =>
    if d.hasRoom then some { d with queue := d.queue ++ [.stop], marker := .placed } else none
  | _ => none

inductive Move (κ : Type)
  | submit (job : κ)
  | listen
  | take
  | finish
  | shutDown
  | shutDownInside
  | place
deriving DecidableEq, Repr

/-- A move of the worker or of a caller, where it is possible. A refused job leaves everything as it was. -/
def step? (d : Dispatcher κ) : Move κ → Option (Dispatcher κ)
  | .submit job => (d.submit job).toOption
  | .listen => d.listen?
  | .take => d.take?
  | .finish => d.finish?
  | .shutDown => some d.shutDown
  | .shutDownInside => if d.current?.isSome then some d.shutDownInside else none
  | .place => d.place?

/-- A move that is not possible leaves everything as it is. -/
def step (d : Dispatcher κ) (move : Move κ) : Dispatcher κ := (d.step? move).getD d

def run (d : Dispatcher κ) (moves : List (Move κ)) : Dispatcher κ := moves.foldl step d

end Dispatcher

end CameraControl
