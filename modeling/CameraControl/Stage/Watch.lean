import CameraControl.Stage.Cell

/-!
Waiters on a stage cell. A waiter looks at the cell while it holds the lock and, unless it gets an answer,
falls asleep; every write to the cell wakes all sleepers, and each of them then looks again. Between a
write and that look anything may happen to the cell.
-/
namespace CameraControl.Stage

namespace Watch

inductive Phase
  | awake
  | asleep
  | answered (reached : Bool)
deriving DecidableEq, Repr

structure Waiter where
  wanted : Set
  phase : Phase := .awake
deriving DecidableEq, Repr

/-- One atomic step on the cell or by one of its waiters. -/
inductive Move
  | set (stage : Stage)
  | invalidate
  | arrive (wanted : Set)
  | look (waiter : Nat)
deriving DecidableEq, Repr

end Watch

structure Watch where
  cell : Cell := {}
  waiters : List Watch.Waiter := []
deriving DecidableEq, Repr

namespace Watch

namespace Waiter

def wake (w : Waiter) : Waiter := if w.phase = .asleep then { w with phase := .awake } else w

def look (w : Waiter) (cell : Cell) : Waiter :=
  if w.phase = .awake then
    match cell.check w.wanted with
    | some reached => { w with phase := .answered reached }
    | none => { w with phase := .asleep }
  else w

end Waiter

def step (s : Watch) : Move → Watch
  | .set stage => { cell := s.cell.set stage, waiters := s.waiters.map Waiter.wake }
  | .invalidate => { cell := s.cell.invalidate, waiters := s.waiters.map Waiter.wake }
  | .arrive wanted => { s with waiters := s.waiters ++ [{ wanted }] }
  | .look n => { s with waiters := s.waiters.modify n fun w => w.look s.cell }

def run (s : Watch) (moves : List Move) : Watch := moves.foldl step s

/-- Every waiter that is awake looks once. -/
def settle (s : Watch) : Watch := s.run ((List.range s.waiters.length).map .look)

def answers (s : Watch) : List (Option Bool) :=
  s.waiters.map fun w =>
    match w.phase with
    | .answered reached => some reached
    | _ => none

end Watch

end CameraControl.Stage
