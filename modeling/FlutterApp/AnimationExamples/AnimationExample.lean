import FlutterApp.Library.EventSystem
import Mathlib.Algebra.Order.Field.Rat
import Mathlib.Tactic.NormNum

/-!
The screen AnimationExample: one AnimationController with two status listeners.

A call of the controller notifies its listeners synchronously, and a listener may call
the controller again before the next listener has been told. What is still to be done is
a stack of calls; proceeding takes the top one a step further. Ticks and presses come
only when the stack is empty. Times are in seconds.
-/

namespace FlutterApp

inductive AnimationStatus where
  | dismissed
  | forward
  | reverse
  | completed
  deriving DecidableEq, Repr

inductive AnimationDirection where
  | forward
  | reverse
  deriving DecidableEq, Repr

/-- A linear run from one value to another. -/
structure Simulation where
  start : ℚ
  target : ℚ
  duration : ℚ
  deriving DecidableEq

namespace Simulation

def x (sim : Simulation) (time : ℚ) : ℚ :=
  sim.start + (sim.target - sim.start) * max 0 (min 1 (time / sim.duration))

def isDone (sim : Simulation) (time : ℚ) : Prop := sim.duration < time

instance (sim : Simulation) (time : ℚ) : Decidable (sim.isDone time) :=
  inferInstanceAs (Decidable (_ < _))

end Simulation

structure AnimationController where
  value : ℚ
  direction : AnimationDirection
  status : AnimationStatus
  lastReportedStatus : AnimationStatus
  simulation : Option Simulation
  deriving DecidableEq

/-- The listeners that the two animations register on the controller. -/
inductive StatusListener where
  | animation
  | tweenAnimation
  deriving DecidableEq, Repr

/-- Calls that have been started and not yet carried out. -/
inductive AnimationCall where
  | forward (start : ℚ)
  | reverse (start : ℚ)
  | setValue (value : ℚ)
  | animateToInternal (target : ℚ)
  | checkStatusChanged
  | notify (listener : StatusListener) (status : AnimationStatus)
  deriving DecidableEq

namespace AnimationController

def lowerBound : ℚ := 0
def upperBound : ℚ := 1
def duration : ℚ := 5

/-- A new controller, of which nothing has been reported. -/
def new : AnimationController := ⟨0, .forward, .dismissed, .dismissed, none⟩

def clamp (value : ℚ) : ℚ := max lowerBound (min upperBound value)

def stop (c : AnimationController) : AnimationController := { c with simulation := none }

/-- The status of a running animation. -/
def running : AnimationDirection → AnimationStatus
  | .forward => .forward
  | .reverse => .reverse

/-- The status of a finished one. -/
def finished : AnimationDirection → AnimationStatus
  | .forward => .completed
  | .reverse => .dismissed

def internalSetValue (c : AnimationController) (value : ℚ) : AnimationController :=
  { c with
    value := clamp value
    status :=
      if clamp value = lowerBound then .dismissed
      else if clamp value = upperBound then .completed
      else running c.direction }

def startSimulation (c : AnimationController) (sim : Simulation) : AnimationController :=
  { c with
    simulation := some sim
    value := clamp (sim.x 0)
    status := running c.direction }

def animateToInternal (c : AnimationController) (target : ℚ) : AnimationController :=
  let remainingFraction := |target - c.value| / (upperBound - lowerBound)
  let simulationDuration := duration * remainingFraction
  if simulationDuration = 0 then
    { c.stop with value := clamp target, status := finished c.direction }
  else c.stop.startSimulation ⟨c.value, target, simulationDuration⟩

def tick (c : AnimationController) (sim : Simulation) (elapsed : ℚ) : AnimationController :=
  let moved := { c with value := clamp (sim.x elapsed) }
  if sim.isDone elapsed then { moved.stop with status := finished c.direction } else moved

end AnimationController

structure AnimationExample where
  controller : AnimationController
  calls : List AnimationCall
  /-- What each listener has been told, latest first. -/
  told : List (StatusListener × AnimationStatus)
  reverseRuns : Nat
  deriving DecidableEq

namespace AnimationExample

/-- The switch of both status listeners. -/
def onStatus : AnimationStatus → List AnimationCall
  | .completed => [.reverse 1]
  | .reverse => []
  | .dismissed => []
  | .forward => []

def statusListener : StatusListener → AnimationStatus → List AnimationCall
  | .animation => onStatus
  | .tweenAnimation => onStatus

/-- The listeners in the order of their registration. -/
def statusListeners : List StatusListener := [.animation, .tweenAnimation]

def notifyStatusListeners (status : AnimationStatus) : List AnimationCall :=
  statusListeners.map fun listener => .notify listener status

/-- One step of the call on top of the stack. -/
def perform (s : AnimationExample) (rest : List AnimationCall) : AnimationCall → AnimationExample
  | .forward start =>
      { s with
        controller := { s.controller with direction := .forward }
        calls := .setValue start :: .animateToInternal AnimationController.upperBound :: rest }
  | .reverse start =>
      { s with
        controller := { s.controller with direction := .reverse }
        calls := .setValue start :: .animateToInternal AnimationController.lowerBound :: rest }
  | .setValue value =>
      { s with
        controller := s.controller.stop.internalSetValue value
        calls := .checkStatusChanged :: rest }
  | .animateToInternal target =>
      let controller := s.controller.animateToInternal target
      { s with
        controller := controller
        calls := .checkStatusChanged :: rest
        reverseRuns :=
          if controller.direction = .reverse ∧ controller.simulation.isSome then s.reverseRuns + 1
          else s.reverseRuns }
  | .checkStatusChanged =>
      if s.controller.lastReportedStatus = s.controller.status then { s with calls := rest }
      else
        { s with
          controller := { s.controller with lastReportedStatus := s.controller.status }
          calls := notifyStatusListeners s.controller.status ++ rest }
  | .notify listener status =>
      { s with
        told := (listener, status) :: s.told
        calls := statusListener listener status ++ rest }

def proceed (s : AnimationExample) : AnimationExample :=
  match s.calls with
  | [] => s
  | call :: rest => s.perform rest call

/-- The value from which the program starts forward runs. -/
def forwardFrom : ℚ := 1 / 10

/-- initState ends by calling forward(from: 0.1), as the button does. -/
def initial : AnimationExample := ⟨.new, [.forward forwardFrom], [], 0⟩

inductive Event where
  | tick (elapsed : ℚ)
  | animateAgain
  | proceed
  deriving DecidableEq

def step (s : AnimationExample) : Event → Option AnimationExample
  | .tick elapsed =>
      match s.calls, s.controller.simulation with
      | [], some sim =>
          some { s with
            controller := s.controller.tick sim elapsed
            calls := [.checkStatusChanged] }
      | _, _ => none
  | .animateAgain =>
      match s.calls with
      | [] => some { s with calls := [.forward forwardFrom] }
      | _ => none
  | .proceed =>
      match s.calls with
      | [] => none
      | _ => some s.proceed

end AnimationExample

end FlutterApp
