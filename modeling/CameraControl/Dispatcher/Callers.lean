import CameraControl.Dispatcher

/-!
A dispatcher and those who call it, from any number of threads. A call may wait for its job, for a limited
time: the wait ends once the job has ended, or when its time is over, which may be at any moment. Nobody
takes a job back.
-/
namespace CameraControl.Dispatcher

/-- A wait for a job before which `turn` others were accepted. -/
structure Wait (κ : Type) where
  turn : Nat
  job : κ
  ms : Nat
  description : String
deriving DecidableEq, Repr

structure Callers (κ : Type) where
  dispatcher : Dispatcher κ
  waits : List (Wait κ) := []
  /-- What became of each call that submitted a job, the latest last. -/
  answers : List (κ × Option Failure) := []
  /-- How waits ended, the latest last. -/
  ends : List (Wait κ × Option Failure) := []
deriving DecidableEq, Repr

namespace Callers

variable {κ : Type}

def ofCapacity (capacity : Nat) : Callers κ := { dispatcher := { capacity } }

inductive Move (κ : Type)
  /-- A job is to be run, and to be waited for if it says for how long and under what description. -/
  | call (job : κ) (patience : Option (Nat × String))
  /-- A caller learns that the job it waits for has ended. -/
  | hear (turn : Nat)
  /-- The time of a caller that waits is over. -/
  | giveUp (turn : Nat)
  | listen
  | take
  | finish
  | shutDown
  | shutDownInside
  | place
deriving DecidableEq, Repr

def call (s : Callers κ) (job : κ) (patience : Option (Nat × String)) : Callers κ :=
  match s.dispatcher.submit job with
  | .error failure => { s with answers := s.answers ++ [(job, some failure)] }
  | .ok d =>
    let wait? := patience.map fun (ms, description) =>
      { turn := s.dispatcher.accepted.length, job, ms, description : Wait κ }
    { s with
      dispatcher := d
      answers := s.answers ++ [(job, none)]
      waits := s.waits ++ wait?.toList }

def waiting? (s : Callers κ) (turn : Nat) : Option (Wait κ) := s.waits.find? (·.turn = turn)

def endWait (s : Callers κ) (wait : Wait κ) (failure : Option Failure) : Callers κ :=
  { s with
    waits := s.waits.filter (·.turn ≠ wait.turn)
    ends := s.ends ++ [(wait, failure)] }

def hear? (s : Callers κ) (turn : Nat) : Option (Callers κ) :=
  if turn < s.dispatcher.finished.length then
    (s.waiting? turn).map fun wait => s.endWait wait none
  else none

def giveUp? (s : Callers κ) (turn : Nat) : Option (Callers κ) :=
  (s.waiting? turn).map fun wait => s.endWait wait (some (.timeout wait.ms wait.description))

def follow (s : Callers κ) (d : Dispatcher κ) : Callers κ := { s with dispatcher := d }

def step? (s : Callers κ) : Move κ → Option (Callers κ)
  | .call job patience => some (s.call job patience)
  | .hear turn => s.hear? turn
  | .giveUp turn => s.giveUp? turn
  | .listen => (s.dispatcher.step? .listen).map s.follow
  | .take => (s.dispatcher.step? .take).map s.follow
  | .finish => (s.dispatcher.step? .finish).map s.follow
  | .shutDown => (s.dispatcher.step? .shutDown).map s.follow
  | .shutDownInside => (s.dispatcher.step? .shutDownInside).map s.follow
  | .place => (s.dispatcher.step? .place).map s.follow

/-- A move that is not possible leaves everything as it is. -/
def step (s : Callers κ) (move : Move κ) : Callers κ := (s.step? move).getD s

def run (s : Callers κ) (moves : List (Move κ)) : Callers κ := moves.foldl step s

/-- The jobs that were accepted. -/
def granted (answers : List (κ × Option Failure)) : List κ :=
  (answers.filter (·.2.isNone)).map (·.1)

end Callers

end CameraControl.Dispatcher
