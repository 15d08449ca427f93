import FlutterApp.AnimationExamples.AnimationExample

/-!
What happens when a forward run is finished.

The first listener answers completed with a reverse run, which reports nothing at its
upper bound because completed has just been reported, and then reports reverse. When the
second listener is told completed, the last reported status is reverse, so its own
reverse(from: 1.0) reports completed again, to both listeners, before its outer call has
ended. The cascade never ends.
-/

namespace FlutterApp

namespace AnimationController
open AnimationExample (forwardFrom)

theorem internalSetValue_forwardFrom (c : AnimationController) :
    c.internalSetValue forwardFrom =
      { c with value := forwardFrom, status := running c.direction } := by
  have hclamp : clamp forwardFrom = forwardFrom := by
    norm_num [clamp, lowerBound, upperBound, forwardFrom]
  simp only [internalSetValue, hclamp]
  norm_num [lowerBound, upperBound, forwardFrom]

theorem internalSetValue_upperBound (c : AnimationController) :
    c.internalSetValue 1 = { c with value := 1, status := .completed } := by
  have hclamp : clamp 1 = 1 := by norm_num [clamp, lowerBound, upperBound]
  norm_num [internalSetValue, hclamp, lowerBound, upperBound]

theorem animateToInternal_upperBound {c : AnimationController} (h : c.value = forwardFrom) :
    c.animateToInternal upperBound =
      { c with
        value := forwardFrom
        status := running c.direction
        simulation := some ⟨forwardFrom, upperBound, 9 / 2⟩ } := by
  have hduration : duration * (|upperBound - c.value| / (upperBound - lowerBound)) = 9 / 2 := by
    rw [h, abs_of_nonneg] <;> norm_num [duration, upperBound, lowerBound, forwardFrom]
  simp only [animateToInternal, hduration]
  norm_num [startSimulation, stop, Simulation.x, clamp, upperBound, lowerBound, forwardFrom, h]

theorem animateToInternal_lowerBound {c : AnimationController} (h : c.value = 1) :
    c.animateToInternal lowerBound =
      { c with
        value := 1
        status := running c.direction
        simulation := some ⟨1, 0, 5⟩ } := by
  have hduration : duration * (|lowerBound - c.value| / (upperBound - lowerBound)) = 5 := by
    rw [h, abs_of_nonpos] <;> norm_num [duration, upperBound, lowerBound]
  simp only [animateToInternal, hduration]
  norm_num [startSimulation, stop, Simulation.x, clamp, upperBound, lowerBound, h]

end AnimationController

namespace AnimationExample
open AnimationController

def Idle (s : AnimationExample) : Prop := s.calls = []

theorem proceed_of_idle (s : AnimationExample) (h : Idle s) : proceed s = s := by
  simp only [proceed, show s.calls = [] from h]

theorem idle_proceed (s : AnimationExample) (h : Idle s) : Idle (proceed s) := by
  rw [proceed_of_idle s h]
  exact h

/-- The controller of a reverse run that has just been started from the upper bound. -/
def reversing : AnimationController := ⟨1, .reverse, .reverse, .reverse, some ⟨1, 0, 5⟩⟩

/-- The first listener is told completed as soon as that has been reported. -/
theorem animation_told_completed (v : ℚ) (d : AnimationDirection) (st : AnimationStatus)
    (sim : Option Simulation) (rest : List AnimationCall)
    (told : List (StatusListener × AnimationStatus)) (runs : Nat) :
    proceed^[8] ⟨⟨v, d, st, .completed, sim⟩, .notify .animation .completed :: rest, told, runs⟩ =
      ⟨reversing, rest, (.tweenAnimation, .reverse) :: (.animation, .reverse) ::
        (.animation, .completed) :: told, runs + 1⟩ := by
  simp [Function.iterate_succ_apply, proceed, perform, statusListener, onStatus, stop,
    internalSetValue_upperBound, animateToInternal_lowerBound, running, notifyStatusListeners,
    statusListeners, reversing]

/-- The second listener is told completed after the first one has started a reverse run. -/
theorem tweenAnimation_told_completed (v : ℚ) (d : AnimationDirection) (st : AnimationStatus)
    (sim : Option Simulation) (rest : List AnimationCall)
    (told : List (StatusListener × AnimationStatus)) (runs : Nat) :
    proceed^[4] ⟨⟨v, d, st, .reverse, sim⟩, .notify .tweenAnimation .completed :: rest, told,
        runs⟩ =
      ⟨⟨1, .reverse, .completed, .completed, none⟩, .notify .animation .completed ::
        .notify .tweenAnimation .completed :: .animateToInternal lowerBound :: rest,
        (.tweenAnimation, .completed) :: told, runs⟩ := by
  simp [Function.iterate_succ_apply, proceed, perform, statusListener, onStatus, stop,
    internalSetValue_upperBound, notifyStatusListeners, statusListeners]

/-- The second listener is to be told completed, while reverse was reported last. -/
def Bouncing (s : AnimationExample) : Prop :=
  s.controller.lastReportedStatus = .reverse ∧
    ∃ rest, s.calls = .notify .tweenAnimation .completed :: rest

theorem bouncing_again (s : AnimationExample) (h : Bouncing s) :
    ∃ k, Bouncing (proceed^[k + 1] s) := by
  obtain ⟨⟨v, d, st, last, sim⟩, calls, told, runs⟩ := s
  obtain ⟨hlast, rest, hcalls⟩ := h
  cases hlast
  cases hcalls
  refine ⟨11, ?_⟩
  rw [show 11 + 1 = 8 + 4 from rfl, Function.iterate_add_apply, tweenAnimation_told_completed,
    animation_told_completed]
  exact ⟨rfl, _, rfl⟩

theorem bouncing_never_halts {s : AnimationExample} (h : Bouncing s) :
    ¬ EventSystem.Halts proceed Idle s := by
  refine EventSystem.not_halts_of_recurrent idle_proceed Bouncing ?_ bouncing_again h
  intro u hu hidle
  obtain ⟨rest, hcalls⟩ := hu.2
  cases hcalls.symm.trans hidle

/-- The controller has reached completed and is about to report it. -/
def Completed (s : AnimationExample) : Prop :=
  s.controller.status = .completed ∧ s.controller.lastReportedStatus = .forward ∧
    s.calls = [.checkStatusChanged]

theorem completed_never_halts {s : AnimationExample} (h : Completed s) :
    ¬ EventSystem.Halts proceed Idle s := by
  obtain ⟨⟨v, d, st, last, sim⟩, calls, told, runs⟩ := s
  obtain ⟨hstatus, hlast, hcalls⟩ := h
  cases hstatus
  cases hlast
  cases hcalls
  have hreport : proceed^[1] ⟨⟨v, d, .completed, .forward, sim⟩, [.checkStatusChanged], told,
      runs⟩ = ⟨⟨v, d, .completed, .completed, sim⟩, .notify .animation .completed ::
        [.notify .tweenAnimation .completed], told, runs⟩ := by
    simp [proceed, perform, notifyStatusListeners, statusListeners]
  apply EventSystem.not_halts_of_reached idle_proceed 9
  rw [show 9 = 8 + 1 from rfl, Function.iterate_add_apply, hreport, animation_told_completed]
  exact bouncing_never_halts ⟨rfl, _, rfl⟩

/-- The controller between two events. -/
def Running (c : AnimationController) : Prop :=
  c.direction = .forward ∧ c.status = .forward ∧ c.lastReportedStatus = .forward ∧
    c.simulation = some ⟨forwardFrom, upperBound, 9 / 2⟩

theorem forward_settles {s : AnimationExample} (hcalls : s.calls = [.forward forwardFrom])
    (hlast : s.controller.lastReportedStatus = .dismissed ∨
      s.controller.lastReportedStatus = .forward) :
    ∃ n, Idle (proceed^[n] s) ∧ Running (proceed^[n] s).controller := by
  obtain ⟨⟨v, d, st, last, sim⟩, calls, told, runs⟩ := s
  cases hcalls
  cases hlast with
  | inl hdismissed =>
      cases hdismissed
      refine ⟨7, ?_⟩
      simp [Function.iterate_succ_apply, proceed, perform, stop, internalSetValue_forwardFrom,
        animateToInternal_upperBound, running, notifyStatusListeners, statusListeners,
        statusListener, onStatus, Idle, Running]
  | inr hforward =>
      cases hforward
      refine ⟨5, ?_⟩
      simp [Function.iterate_succ_apply, proceed, perform, stop, internalSetValue_forwardFrom,
        animateToInternal_upperBound, running, Idle, Running]

theorem check_settles {s : AnimationExample} (hcalls : s.calls = [.checkStatusChanged])
    (hrunning : Running s.controller) :
    ∃ n, Idle (proceed^[n] s) ∧ Running (proceed^[n] s).controller := by
  obtain ⟨⟨v, d, st, last, sim⟩, calls, told, runs⟩ := s
  obtain ⟨hd, hst, hlast, hsim⟩ := hrunning
  cases hcalls
  cases hd
  cases hst
  cases hlast
  cases hsim
  exact ⟨1, rfl, rfl, rfl, rfl, rfl⟩

/-- What an event leaves to be carried out: it comes to rest, or never does. -/
def Begun (s : AnimationExample) : Prop :=
  (∃ n, Idle (proceed^[n] s) ∧ Running (proceed^[n] s).controller) ∨
    ¬ EventSystem.Halts proceed Idle s

def Underway (s : AnimationExample) : Prop := ∃ start n, Begun start ∧ s = proceed^[n] start

theorem running_of_idle {s : AnimationExample} (h : Underway s) (hidle : Idle s) :
    Running s.controller := by
  obtain ⟨start, n, hbegun, rfl⟩ := h
  cases hbegun with
  | inl hsettles =>
      obtain ⟨m, hrests, hrunning⟩ := hsettles
      rwa [EventSystem.iterate_eq_of_halted proceed_of_idle hidle hrests]
  | inr hnever => exact absurd ⟨n, hidle⟩ hnever

theorem underway_of_begun {s : AnimationExample} (h : Begun s) : Underway s := ⟨s, 0, h, rfl⟩

/-- A tick ends the forward run. -/
def Finishes (s : AnimationExample) : Event → Prop
  | .tick elapsed => s.calls = [] ∧ s.controller.direction = .forward ∧
      ∃ sim, s.controller.simulation = some sim ∧ sim.isDone elapsed
  | _ => False

/-- What a step can do. -/
inductive Stepped (s : AnimationExample) : Event → AnimationExample → Prop
  | tick {elapsed : ℚ} {sim : Simulation} : s.calls = [] → s.controller.simulation = some sim →
      Stepped s (.tick elapsed) { s with
        controller := s.controller.tick sim elapsed
        calls := [.checkStatusChanged] }
  | animateAgain : s.calls = [] →
      Stepped s .animateAgain { s with calls := [.forward forwardFrom] }
  | proceed : s.calls ≠ [] → Stepped s .proceed s.proceed

theorem stepped {s t : AnimationExample} {e : Event} (h : step s e = some t) : Stepped s e t := by
  cases e with
  | tick elapsed =>
      simp only [step] at h
      split at h
      · rename_i hcalls hsim
        cases h
        exact .tick hcalls hsim
      · cases h
  | animateAgain =>
      simp only [step] at h
      split at h
      · rename_i hcalls
        cases h
        exact .animateAgain hcalls
      · cases h
  | proceed =>
      simp only [step] at h
      split at h
      · cases h
      · rename_i hcalls
        cases h
        exact .proceed hcalls

theorem tick_completed {s t : AnimationExample} {elapsed : ℚ} (h : Underway s)
    (hfinishes : Finishes s (.tick elapsed)) (hstep : step s (.tick elapsed) = some t) :
    Completed t := by
  obtain ⟨hcalls, hdirection, sim, hsim, hdone⟩ := hfinishes
  obtain ⟨-, -, hlast, -⟩ := running_of_idle h hcalls
  cases stepped hstep with
  | tick _ hsim' =>
      cases hsim.symm.trans hsim'
      exact ⟨by simp [tick, hdone, hdirection, finished, stop],
        by simp [tick, hdone, hlast, stop], rfl⟩

theorem underway_step {s t : AnimationExample} {e : Event} (h : Underway s)
    (hstep : step s e = some t) : Underway t := by
  cases stepped hstep with
  | tick hcalls hsim =>
      rename_i elapsed sim
      have hrunning := running_of_idle h hcalls
      apply underway_of_begun
      by_cases hdone : sim.isDone elapsed
      · exact Or.inr (completed_never_halts
          (tick_completed h ⟨hcalls, hrunning.1, sim, hsim, hdone⟩ hstep))
      · refine Or.inl (check_settles rfl ?_)
        simpa [Running, AnimationController.tick, hdone] using hrunning
  | animateAgain hcalls =>
      exact underway_of_begun
        (Or.inl (forward_settles rfl (Or.inr (running_of_idle h hcalls).2.2.1)))
  | proceed hcalls =>
      obtain ⟨start, n, hbegun, rfl⟩ := h
      exact ⟨start, n + 1, hbegun, (Function.iterate_succ_apply' _ _ _).symm⟩

def heard (listener : StatusListener) (s : AnimationExample) : List AnimationStatus :=
  (s.told.filter fun entry => entry.1 = listener).map Prod.snd

/-- One reverse run has been started, and each listener has been told completed once and
not directly after reverse. -/
def ReversedOnce (s t : AnimationExample) : Prop :=
  t.reverseRuns = s.reverseRuns + 1 ∧
    ∀ listener, (heard listener t).count .completed = (heard listener s).count .completed + 1 ∧
      ∀ newer older, heard listener t ≠ newer ++ .completed :: .reverse :: older

/-- If the event ends a forward run, the cascade it triggers ends, with one reverse run. -/
def ReversesOnce (s : AnimationExample) (e : Event) : Prop :=
  Finishes s e → ∀ t, step s e = some t →
    ∃ n, Idle (proceed^[n] t) ∧ ReversedOnce s (proceed^[n] t)

def NotFinished (s : AnimationExample) (e : Event) : Prop := ¬ Finishes s e

theorem not_reversesOnce {s : AnimationExample} {elapsed : ℚ} (h : Underway s)
    (hfinishes : Finishes s (.tick elapsed)) : ¬ ReversesOnce s (.tick elapsed) := by
  intro honce
  obtain ⟨hcalls, hdirection, sim, hsim, hdone⟩ := hfinishes
  have hstep : step s (.tick elapsed) = some { s with
      controller := s.controller.tick sim elapsed
      calls := [.checkStatusChanged] } := by
    simp only [step, hcalls, hsim]
  obtain ⟨n, hidle, -⟩ := honce ⟨hcalls, hdirection, sim, hsim, hdone⟩ _ hstep
  exact completed_never_halts
    (tick_completed h ⟨hcalls, hdirection, sim, hsim, hdone⟩ hstep) ⟨n, hidle⟩

theorem underway_initial : Underway initial :=
  underway_of_begun (Or.inl (forward_settles rfl (Or.inl rfl)))

theorem underway_run {s : AnimationExample} {es : List Event}
    (h : EventSystem.run step initial es = some s) : Underway s :=
  EventSystem.run_invariant Underway underway_initial
    (fun _ _ _ hmid hstep => underway_step hmid hstep) h

/-- In every run the cascades of finished forward runs end with one reverse run exactly
when no forward run is ever played to its end. -/
theorem reverses_once_iff (es : List Event) :
    EventSystem.StepsMeet step ReversesOnce initial es ↔
      EventSystem.StepsMeet step NotFinished initial es := by
  apply EventSystem.stepsMeet_congr Underway underway_initial
    (fun _ _ _ hmid hstep => underway_step hmid hstep)
  intro mid e hmid
  constructor
  · intro honce hfinishes
    cases e with
    | tick elapsed => exact not_reversesOnce hmid hfinishes honce
    | animateAgain | proceed => exact hfinishes
  · intro hnot hfinishes
    exact absurd hfinishes hnot

/-- The screen once initState has returned. -/
def opened : AnimationExample :=
  ⟨⟨forwardFrom, .forward, .forward, .forward, some ⟨forwardFrom, upperBound, 9 / 2⟩⟩, [],
    [(.tweenAnimation, .forward), (.animation, .forward)], 0⟩

theorem run_opened : EventSystem.run step initial (List.replicate 7 .proceed) = some opened := by
  simp [EventSystem.run, List.replicate, step, initial, AnimationController.new, proceed, perform,
    stop, internalSetValue_forwardFrom, animateToInternal_upperBound, running,
    notifyStatusListeners, statusListeners, statusListener, onStatus, opened]

theorem opened_finishes : Finishes opened (.tick 5) := by
  refine ⟨rfl, rfl, _, rfl, ?_⟩
  norm_num [Simulation.isDone]

/-- The first forward run is left to play for five seconds. -/
theorem cascade_never_ends :
    EventSystem.run step initial (List.replicate 7 .proceed) = some opened ∧
      Finishes opened (.tick 5) ∧
      (∃ t, step opened (.tick 5) = some t ∧ ¬ EventSystem.Halts proceed Idle t) ∧
      ¬ EventSystem.StepsMeet step ReversesOnce initial
        (List.replicate 7 .proceed ++ [.tick 5]) := by
  have hunderway : Underway opened := underway_run run_opened
  refine ⟨run_opened, opened_finishes, ⟨_, rfl, ?_⟩, ?_⟩
  · exact completed_never_halts (tick_completed hunderway opened_finishes rfl)
  · rw [EventSystem.stepsMeet_snoc _ run_opened]
    exact fun hmeets => not_reversesOnce hunderway opened_finishes hmeets.2

end AnimationExample

end FlutterApp
