import FlutterApp.AnimationExamples.StatusCascade
import Mathlib.Tactic.Linarith

/-!
What the status listeners are told over whole runs. Between two events the screen is always
in its forward run, as opened: pressing the button starts another forward run, which is not
a change of status. When a run is played to its end the screen never rests again, and the
cascade stays at the upper bound.
-/

namespace FlutterApp
namespace AnimationExample
open AnimationController

/-- Between two events: both listeners have been told forward, and nothing else. -/
structure Resting (s : AnimationExample) : Prop where
  idle : Idle s
  running : Running s.controller
  started : forwardFrom ≤ s.controller.value
  told : s.told = [(.tweenAnimation, .forward), (.animation, .forward)]
  reverseRuns : s.reverseRuns = 0

theorem initial_rests : ∃ n, Resting (proceed^[n] initial) := by
  refine ⟨7, ?_, ?_, ?_, ?_, ?_⟩ <;>
    simp [Function.iterate_succ_apply, initial, AnimationController.new, proceed, perform, stop,
      internalSetValue_forwardFrom, animateToInternal_upperBound, running, notifyStatusListeners,
      statusListeners, statusListener, onStatus, Idle, Running]

theorem again_rests {s : AnimationExample} (h : Resting s) :
    ∃ n, Resting (proceed^[n] { s with calls := [.forward forwardFrom] }) := by
  obtain ⟨⟨v, d, st, last, sim⟩, calls, told, runs⟩ := s
  obtain ⟨-, ⟨hd, hst, hlast, hsim⟩, -, htold, hruns⟩ := h
  cases hd
  cases hst
  cases hlast
  cases hsim
  cases htold
  cases hruns
  refine ⟨5, ?_, ?_, ?_, ?_, ?_⟩ <;>
    simp [Function.iterate_succ_apply, proceed, perform, stop, internalSetValue_forwardFrom,
      animateToInternal_upperBound, running, Idle, Running]

/-- The values that a forward run goes through. -/
theorem forwardFrom_le_x {elapsed : ℚ} :
    forwardFrom ≤ (⟨forwardFrom, upperBound, 9 / 2⟩ : Simulation).x elapsed ∧
      (⟨forwardFrom, upperBound, 9 / 2⟩ : Simulation).x elapsed ≤ upperBound := by
  have hlow : (0 : ℚ) ≤ max 0 (min 1 (elapsed / (9 / 2))) := le_max_left _ _
  have hhigh : max 0 (min 1 (elapsed / (9 / 2))) ≤ (1 : ℚ) := max_le zero_le_one (min_le_left _ _)
  simp only [Simulation.x, forwardFrom, upperBound]
  constructor
  · linarith
  · linarith

theorem clamp_of_mem {value : ℚ} (hlow : forwardFrom ≤ value) (hhigh : value ≤ upperBound) :
    clamp value = value := by
  have hpositive : lowerBound ≤ value := le_trans (by norm_num [lowerBound, forwardFrom]) hlow
  rw [clamp, min_eq_right hhigh, max_eq_right hpositive]

theorem tick_rests {s : AnimationExample} {sim : Simulation} {elapsed : ℚ} (h : Resting s)
    (hsim : s.controller.simulation = some sim) (hdone : ¬ sim.isDone elapsed) :
    ∃ n, Resting (proceed^[n] { s with
      controller := s.controller.tick sim elapsed
      calls := [.checkStatusChanged] }) := by
  obtain ⟨⟨v, d, st, last, sim'⟩, calls, told, runs⟩ := s
  obtain ⟨-, ⟨hd, hst, hlast, hrun⟩, -, htold, hruns⟩ := h
  cases hst
  cases hlast
  cases hrun
  cases hsim
  obtain ⟨hlow, hhigh⟩ := @forwardFrom_le_x elapsed
  have hquiet : proceed^[1] ⟨tick ⟨v, d, .forward, .forward,
        some ⟨forwardFrom, upperBound, 9 / 2⟩⟩ ⟨forwardFrom, upperBound, 9 / 2⟩ elapsed,
      [.checkStatusChanged], told, runs⟩ =
      ⟨⟨(⟨forwardFrom, upperBound, 9 / 2⟩ : Simulation).x elapsed, d, .forward, .forward,
        some ⟨forwardFrom, upperBound, 9 / 2⟩⟩, [], told, runs⟩ := by
    simp [proceed, perform, tick, hdone, clamp_of_mem hlow hhigh]
  refine ⟨1, ?_⟩
  rw [hquiet]
  exact ⟨rfl, ⟨hd, rfl, rfl, rfl⟩, hlow, htold, hruns⟩

/-- The calls of the cascade, none of which leaves the upper bound. -/
def Echo : AnimationCall → Prop
  | .forward _ => False
  | .reverse start => start = upperBound
  | .setValue value => value = upperBound
  | .animateToInternal target => target = lowerBound
  | .checkStatusChanged => True
  | .notify _ status => status ≠ .dismissed

structure Cascading (s : AnimationExample) : Prop where
  value_eq : s.controller.value = upperBound
  status_ne : s.controller.status ≠ .dismissed
  calls : ∀ call ∈ s.calls, Echo call
  told : ∀ listener, (listener, .dismissed) ∉ s.told

theorem running_ne_dismissed (d : AnimationDirection) : running d ≠ .dismissed := by
  cases d <;> simp [running]

theorem echo_onStatus (listener : StatusListener) (status : AnimationStatus) :
    ∀ call ∈ statusListener listener status, Echo call := by
  cases listener <;> cases status <;> simp [statusListener, onStatus, Echo, upperBound]

theorem echo_notify {status : AnimationStatus} (h : status ≠ .dismissed) :
    ∀ call ∈ notifyStatusListeners status, Echo call := by
  intro call hcall
  obtain ⟨listener, -, rfl⟩ := List.mem_map.mp hcall
  exact h

theorem cascading_proceed {s : AnimationExample} (h : Cascading s) : Cascading (proceed s) := by
  obtain ⟨c, calls, told, runs⟩ := s
  obtain ⟨hvalue, hstatus, hcalls, htold⟩ := h
  cases calls with
  | nil => exact ⟨hvalue, hstatus, hcalls, htold⟩
  | cons call rest =>
      obtain ⟨hcall, hrest⟩ := List.forall_mem_cons.mp hcalls
      cases call with
      | forward _ => exact hcall.elim
      | reverse start =>
          refine ⟨hvalue, hstatus, ?_, htold⟩
          exact List.forall_mem_cons.mpr ⟨hcall, List.forall_mem_cons.mpr ⟨rfl, hrest⟩⟩
      | setValue value =>
          cases hcall
          simp only [proceed, perform, upperBound, internalSetValue_upperBound]
          exact ⟨rfl, by simp, List.forall_mem_cons.mpr ⟨trivial, hrest⟩, htold⟩
      | animateToInternal target =>
          cases hcall
          simp only [proceed, perform, animateToInternal_lowerBound hvalue]
          exact ⟨rfl, running_ne_dismissed _, List.forall_mem_cons.mpr ⟨trivial, hrest⟩, htold⟩
      | checkStatusChanged =>
          simp only [proceed, perform]
          split
          · exact ⟨hvalue, hstatus, hrest, htold⟩
          · refine ⟨hvalue, hstatus, ?_, htold⟩
            exact List.forall_mem_append.mpr ⟨echo_notify hstatus, hrest⟩
      | notify listener status =>
          refine ⟨hvalue, hstatus, ?_, ?_⟩
          · exact List.forall_mem_append.mpr ⟨echo_onStatus listener status, hrest⟩
          · intro listener' hmem
            cases List.mem_cons.mp hmem with
            | inl heq => exact hcall (congrArg Prod.snd heq).symm
            | inr hold => exact htold listener' hold

/-- The screen comes to rest as described, or is in a cascade that never ends. -/
def Known (s : AnimationExample) : Prop :=
  (∃ n, Resting (proceed^[n] s)) ∨ Cascading s ∧ ¬ EventSystem.Halts proceed Idle s

theorem resting_of_idle {s : AnimationExample} (h : Known s) (hidle : Idle s) : Resting s := by
  cases h with
  | inl hrests =>
      obtain ⟨n, hn⟩ := hrests
      rwa [EventSystem.iterate_eq_of_halted proceed_of_idle (n := n) (m := 0) hn.idle hidle] at hn
  | inr hcascade => exact absurd ⟨0, hidle⟩ hcascade.2

theorem x_of_done {elapsed : ℚ}
    (h : (⟨forwardFrom, upperBound, 9 / 2⟩ : Simulation).isDone elapsed) :
    (⟨forwardFrom, upperBound, 9 / 2⟩ : Simulation).x elapsed = upperBound := by
  have hlate : (1 : ℚ) ≤ elapsed / (9 / 2) := by
    rw [le_div_iff₀ (by norm_num)]
    simp only [Simulation.isDone] at h
    linarith
  simp only [Simulation.x, min_eq_left hlate]
  norm_num [forwardFrom, upperBound]

theorem tick_known {s : AnimationExample} {sim : Simulation} {elapsed : ℚ} (h : Resting s)
    (hsim : s.controller.simulation = some sim) : Known { s with
      controller := s.controller.tick sim elapsed
      calls := [.checkStatusChanged] } := by
  by_cases hdone : sim.isDone elapsed
  · obtain ⟨hd, hst, hlast, hrun⟩ := h.running
    cases hsim.symm.trans hrun
    have hvalue : clamp ((⟨forwardFrom, upperBound, 9 / 2⟩ : Simulation).x elapsed) =
        upperBound := by
      rw [x_of_done hdone]
      norm_num [clamp, lowerBound, upperBound]
    refine Or.inr ⟨⟨?_, ?_, ?_, ?_⟩, completed_never_halts ⟨?_, ?_, rfl⟩⟩
    · simp [tick, hdone, stop, hvalue]
    · simp [tick, hdone, hd, finished]
    · simp [Echo]
    · intro listener
      rw [h.told]
      simp
    · simp [tick, hdone, hd, finished]
    · simp [tick, hdone, stop, hlast]
  · exact Or.inl (tick_rests h hsim hdone)

theorem known_step {s t : AnimationExample} {e : Event} (h : Known s) (hstep : step s e = some t) :
    Known t := by
  cases stepped hstep with
  | tick hcalls hsim => exact tick_known (resting_of_idle h hcalls) hsim
  | animateAgain hcalls => exact Or.inl (again_rests (resting_of_idle h hcalls))
  | proceed hcalls =>
      cases h with
      | inl hrests =>
          obtain ⟨n, hn⟩ := hrests
          cases n with
          | zero => exact absurd hn.idle hcalls
          | succ n => exact Or.inl ⟨n, by rwa [Function.iterate_succ_apply] at hn⟩
      | inr hcascade =>
          obtain ⟨hcascading, hnever⟩ := hcascade
          exact Or.inr ⟨cascading_proceed hcascading, EventSystem.not_halts_next hnever⟩

theorem told_suffix_proceed (s : AnimationExample) : s.told <:+ (proceed s).told := by
  obtain ⟨c, calls, told, runs⟩ := s
  cases calls with
  | nil => exact List.suffix_rfl
  | cons call rest =>
      cases call with
      | forward _ | reverse _ | setValue _ | animateToInternal _ => exact List.suffix_rfl
      | checkStatusChanged =>
          simp only [proceed, perform]
          split <;> exact List.suffix_rfl
      | notify listener status => exact List.suffix_cons _ _

theorem told_suffix_iterate (s : AnimationExample) (n : Nat) : s.told <:+ (proceed^[n] s).told := by
  induction n generalizing s with
  | zero => exact List.suffix_rfl
  | succ n ih =>
      rw [Function.iterate_succ_apply]
      exact (told_suffix_proceed s).trans (ih _)

theorem no_dismissal {s : AnimationExample} (h : Known s) (listener : StatusListener) :
    (listener, .dismissed) ∉ s.told := by
  cases h with
  | inl hrests =>
      obtain ⟨n, hn⟩ := hrests
      intro hmem
      have hlater := (told_suffix_iterate s n).subset hmem
      rw [hn.told] at hlater
      simp at hlater
  | inr hcascade => exact hcascade.1.told listener

theorem known_run {s : AnimationExample} {es : List Event}
    (h : EventSystem.run step initial es = some s) : Known s :=
  EventSystem.run_invariant Known (Or.inl initial_rests) (fun _ _ _ => known_step) h

/-- The steps for which the call stack has room. -/
def stepWithin (limit : Nat) : AnimationExample → Event → Option AnimationExample :=
  EventSystem.within step fun t => t.calls.length ≤ limit

theorem length_statusListener (listener : StatusListener) (status : AnimationStatus) :
    (statusListener listener status).length ≤ 1 := by
  cases listener <;> cases status <;> simp [statusListener, onStatus]

/-- A call puts at most two others in its place. -/
theorem calls_proceed (s : AnimationExample) : (proceed s).calls.length ≤ s.calls.length + 1 := by
  obtain ⟨c, calls, told, runs⟩ := s
  cases calls with
  | nil => exact Nat.zero_le _
  | cons call rest =>
      cases call with
      | forward _ | reverse _ | setValue _ | animateToInternal _ => simp [proceed, perform]
      | checkStatusChanged =>
          simp only [proceed, perform]
          split
          · exact Nat.le_add_right _ 2
          · simp [notifyStatusListeners, statusListeners]
      | notify listener status =>
          have hlistener := length_statusListener listener status
          simp only [proceed, perform, List.length_append, List.length_cons]
          omega

theorem calls_step {s t : AnimationExample} {e : Event} (h : step s e = some t) :
    t.calls.length ≤ s.calls.length + 1 := by
  cases stepped h with
  | tick _ _ | animateAgain _ => simp
  | proceed _ => exact calls_proceed s

theorem run_stepWithin {limit : Nat} {s t : AnimationExample} {es : List Event}
    (h : EventSystem.run step s es = some t) (hroom : s.calls.length + es.length ≤ limit) :
    EventSystem.run (stepWithin limit) s es = some t :=
  EventSystem.run_within_of_room (fun _ _ _ => calls_step) h hroom

/-- In every run that stays within the call stack, cascades included, no listener is ever told
dismissed; and whenever the screen rests its controller is in a forward run at 1/10 or later,
each listener has been told forward once and nothing else, and no reverse run has ever been
started. -/
theorem listeners_hear_forward {limit : Nat} {s : AnimationExample} {es : List Event}
    (h : EventSystem.run (stepWithin limit) initial es = some s) :
    (∀ listener, (listener, .dismissed) ∉ s.told) ∧
      (Idle s → Running s.controller ∧ forwardFrom ≤ s.controller.value ∧
        s.told = [(.tweenAnimation, .forward), (.animation, .forward)] ∧ s.reverseRuns = 0) := by
  have hknown := known_run (EventSystem.run_of_within h)
  refine ⟨no_dismissal hknown, ?_⟩
  intro hidle
  have hrests := resting_of_idle hknown hidle
  exact ⟨hrests.running, hrests.started, hrests.told, hrests.reverseRuns⟩

theorem listeners_hear_forward_opened :
    EventSystem.run (stepWithin 10) initial (List.replicate 7 .proceed) = some opened ∧
      Running opened.controller ∧
      opened.told = [(.tweenAnimation, .forward), (.animation, .forward)] := by
  have hrun := @run_stepWithin 10 _ _ _ run_opened (by decide)
  obtain ⟨hrunning, -, htold, -⟩ := (listeners_hear_forward hrun).2 rfl
  exact ⟨hrun, hrunning, htold⟩

end AnimationExample

end FlutterApp
