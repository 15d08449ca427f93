import FlutterApp.AnimationExamples.Notifications

/-!
How deep the cascade of a finished forward run nests. A round of it takes twelve steps and
ends where it began, with one more reverse call below: the call that the second listener
made, which has still to start its run and waits for what its own value notified. Nothing
else is taken while the cascade goes on, so the calls that wait exceed any stack in the end.
-/

namespace FlutterApp
namespace AnimationExample
open AnimationController

/-- What the listeners are told in one round, latest first. -/
def roundTold : List (StatusListener × AnimationStatus) :=
  [(.tweenAnimation, .reverse), (.animation, .reverse), (.animation, .completed),
    (.tweenAnimation, .completed)]

/-- The cascade after so many rounds. -/
def deepened (told : List (StatusListener × AnimationStatus)) (rounds : Nat) : AnimationExample :=
  ⟨reversing,
    .notify .tweenAnimation .completed :: List.replicate rounds (.animateToInternal lowerBound),
    (List.replicate rounds roundTold).flatten ++
      (.tweenAnimation, .reverse) :: (.animation, .reverse) :: (.animation, .completed) :: told,
    rounds + 1⟩

theorem deepened_succ (told : List (StatusListener × AnimationStatus)) (rounds : Nat) :
    proceed^[12] (deepened told rounds) = deepened told (rounds + 1) := by
  rw [show 12 = 8 + 4 from rfl, Function.iterate_add_apply, deepened, reversing,
    tweenAnimation_told_completed, animation_told_completed]
  rfl

theorem deepened_rounds (told : List (StatusListener × AnimationStatus)) (rounds : Nat) :
    proceed^[12 * rounds] (deepened told 0) = deepened told rounds := by
  induction rounds with
  | zero => rfl
  | succ rounds ih =>
      rw [Nat.mul_succ, Nat.add_comm, Function.iterate_add_apply, ih, deepened_succ]

/-- What each listener hears in so many rounds, latest first. -/
def roundsHeard (rounds : Nat) : List AnimationStatus :=
  (List.replicate rounds [.reverse, .completed]).flatten

theorem heard_rounds (listener : StatusListener) (rounds : Nat) :
    ((List.replicate rounds roundTold).flatten.filter fun entry => entry.1 = listener).map
        Prod.snd = roundsHeard rounds := by
  induction rounds with
  | zero => rfl
  | succ rounds ih =>
      rw [List.replicate_succ, List.flatten_cons, List.filter_append, List.map_append, ih,
        roundsHeard, roundsHeard, List.replicate_succ, List.flatten_cons]
      cases listener <;> rfl

/-- The steps from a finished forward run to the first round. -/
theorem completed_deepens {s : AnimationExample} (h : Completed s) (hruns : s.reverseRuns = 0) :
    proceed^[9] s = deepened s.told 0 := by
  obtain ⟨⟨v, d, st, last, sim⟩, calls, told, runs⟩ := s
  obtain ⟨hstatus, hlast, hcalls⟩ := h
  cases hstatus
  cases hlast
  cases hcalls
  cases hruns
  have hreport : proceed^[1] ⟨⟨v, d, .completed, .forward, sim⟩, [.checkStatusChanged], told, 0⟩ =
      ⟨⟨v, d, .completed, .completed, sim⟩, .notify .animation .completed ::
        [.notify .tweenAnimation .completed], told, 0⟩ := by
    simp [proceed, perform, notifyStatusListeners, statusListeners]
  rw [show 9 = 8 + 1 from rfl, Function.iterate_add_apply, hreport, animation_told_completed]
  rfl

theorem step_proceed {s : AnimationExample} (h : ¬ Idle s) :
    step s .proceed = some (proceed s) := by
  simp only [step]
  split
  · rename_i hcalls
    exact absurd hcalls h
  · rfl

theorem only_proceeds {s t : AnimationExample} {es : List Event}
    (h : EventSystem.run step s es = some t) (hnever : ¬ EventSystem.Halts proceed Idle s) :
    es = List.replicate es.length .proceed := by
  induction es generalizing s with
  | nil => rfl
  | cons e es ih =>
      obtain ⟨next, hstep, hrest⟩ := Option.bind_eq_some_iff.mp h
      cases stepped hstep with
      | tick hidle _ | animateAgain hidle => exact absurd ⟨0, hidle⟩ hnever
      | proceed _ =>
          rw [List.length_cons, List.replicate_succ, ← ih hrest (EventSystem.not_halts_next hnever)]

/-- What a tick that ends a forward run leaves. -/
theorem finished_step {s : AnimationExample} {es : List Event} {elapsed : ℚ}
    (h : EventSystem.run step initial es = some s) (hfinishes : Finishes s (.tick elapsed)) :
    ∃ t, step s (.tick elapsed) = some t ∧ Completed t ∧ t.reverseRuns = 0 ∧
      t.told = [(.tweenAnimation, .forward), (.animation, .forward)] := by
  have hrests : Resting s := resting_of_idle (known_run h) hfinishes.1
  have hunderway : Underway s := underway_run h
  obtain ⟨hidle, -, sim, hsim, -⟩ := id hfinishes
  have hstep : step s (.tick elapsed) = some { s with
      controller := s.controller.tick sim elapsed
      calls := [.checkStatusChanged] } := by
    simp only [step, hidle, hsim]
  exact ⟨_, hstep, tick_completed hunderway hfinishes hstep, hrests.reverseRuns, hrests.told⟩

theorem deepened_never_halts (told : List (StatusListener × AnimationStatus)) (rounds : Nat) :
    ¬ EventSystem.Halts proceed Idle (deepened told rounds) :=
  bouncing_never_halts ⟨rfl, _, rfl⟩

/-- A round fits on a stack that has room for twelve calls more. -/
theorem run_rounds {limit rounds : Nat} (hroom : rounds + 12 ≤ limit)
    (told : List (StatusListener × AnimationStatus)) :
    EventSystem.run (stepWithin limit) (deepened told 0)
      (List.replicate (12 * rounds) .proceed) = some (deepened told rounds) := by
  induction rounds with
  | zero => rfl
  | succ rounds ih =>
      have hround : EventSystem.run (stepWithin limit) (deepened told rounds)
          (List.replicate 12 .proceed) = some (deepened told (rounds + 1)) := by
        rw [← deepened_succ]
        refine run_stepWithin (EventSystem.run_of_not_halts (fun _ => step_proceed)
          (deepened_never_halts told rounds) 12) ?_
        simp only [deepened, List.length_cons, List.length_replicate]
        omega
      rw [Nat.mul_succ, List.replicate_add, EventSystem.run_append, ih (by omega)]
      exact hround

/-- No stack has room for as many rounds as calls. -/
theorem overflows {limit : Nat} {s t : AnimationExample} {es : List Event} (h : Completed s)
    (hruns : s.reverseRuns = 0) (hrun : EventSystem.run (stepWithin limit) s es = some t) :
    es.length < 9 + 12 * limit := by
  by_contra hlong
  have hnever := completed_never_halts h
  have honly := only_proceeds (EventSystem.run_of_within hrun) hnever
  obtain ⟨more, hmore⟩ := Nat.exists_eq_add_of_le (Nat.le_of_not_lt hlong)
  rw [honly, hmore, List.replicate_add, EventSystem.run_append] at hrun
  obtain ⟨mid, hmid, -⟩ := Option.bind_eq_some_iff.mp hrun
  have heq : mid = deepened s.told limit := by
    have hiterate := EventSystem.run_of_not_halts (fun _ => step_proceed) hnever (9 + 12 * limit)
    rw [Nat.add_comm, Function.iterate_add_apply, completed_deepens h hruns, deepened_rounds,
      Nat.add_comm] at hiterate
    exact Option.some.inj ((EventSystem.run_of_within hmid).symm.trans hiterate)
  rw [show 9 + 12 * limit = 8 + 12 * limit + 1 by omega, List.replicate_succ'] at hmid
  obtain ⟨before, -, hlast⟩ := EventSystem.run_snoc.mp hmid
  have hroom : mid.calls.length ≤ limit := (EventSystem.within_eq_some.mp hlast).2
  rw [heq, deepened, List.length_cons, List.length_replicate] at hroom
  exact absurd hroom (Nat.not_succ_le_self limit)

/-- In every run that stays within the call stack, once a tick has played a forward run to its
end, no tick and no press is ever taken again; and after 9 + 12 n steps of the cascade, as far
as the stack has room for them, n + 1 reverse runs have been started, of which none has moved,
n calls of reverse wait for the calls that are nested in them, and each listener has heard
completed and reverse by turns. The cascade exceeds every stack in the end. -/
theorem cascade_deepens {limit : Nat} {s : AnimationExample} {es : List Event} {elapsed : ℚ}
    (h : EventSystem.run (stepWithin limit) initial es = some s)
    (hfinishes : Finishes s (.tick elapsed)) :
    (∀ fs t, EventSystem.run (stepWithin limit) initial (es ++ .tick elapsed :: fs) = some t →
        fs = List.replicate fs.length .proceed ∧ fs.length < 9 + 12 * limit) ∧
      ∀ n, n + 12 ≤ limit → ∃ t, EventSystem.run (stepWithin limit) initial
          (es ++ .tick elapsed :: List.replicate (9 + 12 * n) .proceed) = some t ∧
        t.controller = reversing ∧ t.reverseRuns = n + 1 ∧
        t.calls = .notify .tweenAnimation .completed ::
          List.replicate n (.animateToInternal lowerBound) ∧
        heard .animation t = roundsHeard n ++ [.reverse, .completed, .forward] ∧
        heard .tweenAnimation t = roundsHeard n ++ [.reverse, .forward] := by
  obtain ⟨u, hstep, hcompleted, hruns, htold⟩ :=
    finished_step (EventSystem.run_of_within h) hfinishes
  have hnever := completed_never_halts hcompleted
  have hcalls : u.calls.length = 1 := by rw [hcompleted.2.2, List.length_singleton]
  refine ⟨?_, ?_⟩
  · intro fs t hrun
    simp only [EventSystem.run_append, h, Option.bind_some, EventSystem.run] at hrun
    obtain ⟨v, hv, hfs⟩ := Option.bind_eq_some_iff.mp hrun
    obtain rfl : u = v := Option.some.inj (hstep.symm.trans (EventSystem.within_eq_some.mp hv).1)
    exact ⟨only_proceeds (EventSystem.run_of_within hfs) hnever, overflows hcompleted hruns hfs⟩
  · intro n hroom
    have htick : stepWithin limit s (.tick elapsed) = some u :=
      EventSystem.within_eq_some.mpr ⟨hstep, by omega⟩
    have hfirst : EventSystem.run (stepWithin limit) u (List.replicate 9 .proceed) =
        some (deepened u.told 0) := by
      rw [← completed_deepens hcompleted hruns]
      refine run_stepWithin (EventSystem.run_of_not_halts (fun _ => step_proceed) hnever 9) ?_
      simp only [List.length_replicate]
      omega
    refine ⟨deepened u.told n, ?_, rfl, rfl, rfl, ?_, ?_⟩
    · simp only [EventSystem.run_append, h, Option.bind_some, EventSystem.run, htick,
        List.replicate_add, hfirst]
      exact run_rounds hroom u.told
    · rw [heard, deepened, List.filter_append, List.map_append, heard_rounds, htold]
      rfl
    · rw [heard, deepened, List.filter_append, List.map_append, heard_rounds, htold]
      rfl

theorem cascade_deepens_opened :
    (∃ t, EventSystem.run (stepWithin 1000) initial (List.replicate 7 .proceed ++
        .tick 5 :: List.replicate (9 + 12 * 100) .proceed) = some t ∧
      t.reverseRuns = 101 ∧ t.calls.length = 101) ∧
    ¬ ∃ t, EventSystem.run (stepWithin 1000) initial (List.replicate 7 .proceed ++
      .tick 5 :: List.replicate 12009 .proceed) = some t := by
  have hrun := @run_stepWithin 1000 _ _ _ run_opened (by decide)
  obtain ⟨hends, hdeep⟩ := cascade_deepens hrun opened_finishes
  refine ⟨?_, ?_⟩
  · obtain ⟨t, hsteps, -, hruns, hcalls, -⟩ := hdeep 100 (by decide)
    refine ⟨t, hsteps, hruns, ?_⟩
    rw [hcalls, List.length_cons, List.length_replicate]
  · intro hlong
    obtain ⟨t, hsteps⟩ := hlong
    have hshort := (hends _ t hsteps).2
    rw [List.length_replicate] at hshort
    exact absurd hshort (Nat.lt_irrefl _)

end AnimationExample

end FlutterApp
