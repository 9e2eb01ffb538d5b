import CameraControl.Agent
import CameraControl.Stage.Watch

/-!
An agent with everyone who may have to wait for something, in smaller steps than its own moves. A job that
waits for a stage looks at the cell, falls asleep and is woken like all other waiters, and its action is
posted in a step of its own once the wait is over. Whoever recycles the agent puts the stop marker into the
queue by himself.
-/
namespace CameraControl.Agent

structure Crew (σ δ τ : Type) where
  agent : Agent σ δ τ
  /-- How far the running job has come with its wait for a stage, if it waits for one. -/
  wait : Stage.Watch.Phase := .awake
  waiters : List Stage.Watch.Waiter := []

namespace Crew

variable {σ δ τ : Type}

inductive Move (σ δ τ : Type)
  /-- A move of the agent, but for those of the dispatcher's thread, which come in its own steps. -/
  | agent (move : Agent.Move σ δ τ)
  /-- The stop marker is put into the queue. -/
  | place
  | arrive (wanted : Stage.Set)
  | look (waiter : Nat)

def cell (s : Crew σ δ τ) : Stage.Cell := s.agent.controller.cell

def watch (s : Crew σ δ τ) : Stage.Watch := { cell := s.cell, waiters := s.waiters }

/-- Whenever the cell is written to, everyone who is asleep is woken. -/
def follow (s : Crew σ δ τ) (agent : Agent σ δ τ) : Crew σ δ τ :=
  if agent.controller.cell = s.cell then { s with agent }
  else
    { agent
      wait := if s.wait = .asleep then .awake else s.wait
      waiters := s.waiters.map Stage.Watch.Waiter.wake }

/-- The running job ends, and the next one has not begun to wait. -/
def finish? (s : Crew σ δ τ) (agent : Agent σ δ τ) : Option (Crew σ δ τ) :=
  agent.finish?.map fun agent => { s with agent, wait := .awake }

/-- The next step of the dispatcher's thread. -/
def dispatch? (s : Crew σ δ τ) : Option (Crew σ δ τ) :=
  match s.agent.dispatcher.current? with
  | none => s.agent.dispatcher.take?.map fun d => { s with agent := s.agent.dispatching d }
  | some (.post (some wanted) action) =>
    match s.wait with
    | .awake =>
      let waiter : Stage.Watch.Waiter := { wanted }
      some { s with wait := (waiter.look s.cell).phase }
    | .asleep => none
    | .answered true => s.finish? (s.agent.deliver [.action action])
    | .answered false => s.finish? s.agent
  | some job => (s.agent.work? job).map fun agent => { s with agent, wait := .awake }

variable [Subsystem σ δ τ]

def step? (s : Crew σ δ τ) : Move σ δ τ → Option (Crew σ δ τ)
  | .agent .dispatch => s.dispatch?
  | .agent .giveUp => s.agent.giveUp?.map fun agent => { s with agent, wait := .awake }
  | .agent move => (s.agent.step? move).map s.follow
  | .place =>
    s.agent.dispatcher.place?.map fun d => { s with agent := s.agent.dispatching d }
  | .arrive wanted => some { s with waiters := s.waiters ++ [{ wanted }] }
  | .look n =>
    if s.waiters[n]?.any (·.phase = .awake) then
      some { s with waiters := s.waiters.modify n fun w => w.look s.cell }
    else none

/-- A move that is not possible leaves everything as it is. -/
def step (s : Crew σ δ τ) (move : Move σ δ τ) : Crew σ δ τ := (s.step? move).getD s

def run (s : Crew σ δ τ) (moves : List (Move σ δ τ)) : Crew σ δ τ := moves.foldl step s

end Crew

end CameraControl.Agent
