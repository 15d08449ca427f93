import FlutterApp.Weather.WeatherHome

/-!
The requests of WeatherHome and what they show. Only a build of the State issues a
request, and no answer marks the State dirty; the FutureBuilder listens to the newest
request alone.
-/

namespace FlutterApp
namespace WeatherHome

open EventSystem

section Run
variable {decode : String → Except Thrown Dynamic} {doubleText : UInt64 → String}

/-- Whether the State is due to be built after an event. -/
def due (before : Bool) : Event → Bool
  | .rebuild => true
  | .frame => false
  | .answer .. | .leave => before

/-- The builds of the State that the framework makes for reasons outside the screen: the
frames at which it is due. -/
def externalBuilds : Bool → List Event → Nat
  | _, [] => 0
  | before, e :: es =>
      (if before = true ∧ e = .frame then 1 else 0) + externalBuilds (due before e) es

theorem step_requests {s t : WeatherHome} {e : Event}
    (h : step decode doubleText s e = some t) :
    t.dirty = due s.dirty e ∧
      t.requests.length = s.requests.length + if s.dirty = true ∧ e = .frame then 1 else 0 := by
  cases stepped h with
  | rebuild _ | leave _ | answer _ => simp [due]
  | buildFrame _ hdirty => simp [due, build, rebuildBuilder, hdirty]
  | builderFrame _ hdirty _ => simp [due, rebuildBuilder, hdirty]
  | idleFrame _ hdirty _ => simp [due, hdirty]

theorem run_requests {s t : WeatherHome} {es : List Event}
    (h : run (step decode doubleText) s es = some t) :
    t.requests.length = s.requests.length + externalBuilds s.dirty es := by
  induction es generalizing s with
  | nil =>
      obtain rfl : s = t := by simpa [run] using h
      rfl
  | cons e es ih =>
      obtain ⟨mid, hstep, hrest⟩ := Option.bind_eq_some_iff.mp h
      obtain ⟨hdirty, hlength⟩ := step_requests hstep
      rw [ih hrest, hdirty, hlength, externalBuilds, Nat.add_assoc]

/-- Every request is for the city of the screen. -/
structure ForCity (city : String) (s : WeatherHome) : Prop where
  city_eq : s.city = city
  requests_eq : ∀ sent ∈ s.requests, sent = url city

theorem step_forCity {city : String} {s t : WeatherHome} {e : Event} (hs : ForCity city s)
    (h : step decode doubleText s e = some t) : ForCity city t := by
  cases stepped h with
  | rebuild _ | leave _ | answer _ | builderFrame _ _ _ | idleFrame _ _ _ =>
      exact ⟨hs.city_eq, hs.requests_eq⟩
  | buildFrame _ _ =>
      refine ⟨hs.city_eq, ?_⟩
      intro sent hsent
      simp only [rebuildBuilder, build, List.mem_append, List.mem_singleton, hs.city_eq] at hsent
      exact hsent.elim (hs.requests_eq sent) id

theorem run_forCity {city : String} {s : WeatherHome} {es : List Event}
    (h : run (step decode doubleText) (initial city) es = some s) : ForCity city s :=
  run_invariant (ForCity city) ⟨rfl, List.forall_mem_nil _⟩ (fun _ _ _ => step_forCity) h

/-- The FutureBuilder listens to no request but the newest. -/
def ListensToNewest (s : WeatherHome) : Prop :=
  ∀ request, s.builder.future = some request → request + 1 = s.requests.length

theorem initial_listensToNewest (city : String) : ListensToNewest (initial city) := by
  intro request hrequest
  cases hrequest

theorem step_listensToNewest {s t : WeatherHome} {e : Event} (hs : ListensToNewest s)
    (h : step decode doubleText s e = some t) : ListensToNewest t := by
  cases stepped h with
  | rebuild _ | builderFrame _ _ _ | idleFrame _ _ _ => exact hs
  | buildFrame _ _ =>
      intro request hrequest
      simpa [rebuildBuilder, build, FutureBuilder.subscribe] using (Option.some.inj hrequest).symm
  | answer _ =>
      intro request hrequest
      refine hs request ?_
      simp only [FutureBuilder.complete] at hrequest
      split at hrequest <;> exact hrequest
  | leave _ =>
      intro request hrequest
      cases hrequest

/-- Two screens that differ at most in the answers still to come, all those of the first
being still to come in the second too. -/
def SameScreen (s s' : WeatherHome) : Prop :=
  ∃ outstanding, s.outstanding.Sublist outstanding ∧ s' = { s with outstanding := outstanding }

theorem step_sameScreen {s s' t : WeatherHome} {e : Event} (hsame : SameScreen s s')
    (h : step decode doubleText s e = some t) :
    ∃ t', step decode doubleText s' e = some t' ∧ SameScreen t t' := by
  obtain ⟨outstanding, hsub, rfl⟩ := hsame
  cases stepped h with
  | rebuild hmounted | leave hmounted =>
      exact ⟨_, by simp only [step, hmounted, if_true], outstanding, hsub, rfl⟩
  | buildFrame hmounted hdirty =>
      exact ⟨_, by simp only [step, frame, hmounted, hdirty, if_true, build, rebuildBuilder],
        outstanding ++ [s.requests.length], hsub.append_right _, rfl⟩
  | builderFrame hmounted hdirty hbuilder =>
      exact ⟨_, by simp only [step, frame, hmounted, hdirty, hbuilder, if_true,
        Bool.false_eq_true, if_false, rebuildBuilder], outstanding, hsub, rfl⟩
  | idleFrame hmounted hdirty hbuilder =>
      exact ⟨_, by simp only [step, frame, hmounted, hdirty, hbuilder, if_true,
        Bool.false_eq_true, if_false], outstanding, hsub, rfl⟩
  | @answer request _ houtstanding =>
      exact ⟨_, by simp only [step, hsub.subset houtstanding, if_true],
        outstanding.erase request, hsub.erase request, rfl⟩

/-- The run without the answer to a replaced request shows the same. -/
theorem run_without_answer {s t : WeatherHome} {request : Nat} {answer : Answer}
    {later : List Event} (hs : ListensToNewest s) (hold : request + 1 < s.requests.length)
    (h : run (step decode doubleText) s (.answer request answer :: later) = some t) :
    ∃ t', run (step decode doubleText) s later = some t' ∧ t'.shown = t.shown ∧
      t'.requests = t.requests := by
  obtain ⟨mid, hanswer, hlater⟩ := Option.bind_eq_some_iff.mp h
  have hsame : SameScreen mid s := by
    cases stepped hanswer with
    | answer _ =>
        have hnewer : s.builder.future ≠ some request := by
          intro hlistens
          have hnewest := hs request hlistens
          omega
        rw [FutureBuilder.complete_of_ne hnewer]
        exact ⟨s.outstanding, List.erase_sublist, rfl⟩
  have hfollows : ∀ u u' e next, SameScreen u u' → step decode doubleText u e = some next →
      ∃ next', step decode doubleText u' e = some next' ∧ SameScreen next next' :=
    fun _ _ _ _ => step_sameScreen
  obtain ⟨_, hrun, _, _, rfl⟩ := run_related SameScreen hfollows hsame hlater
  exact ⟨_, hrun, rfl, rfl⟩

end Run

/-- Requests are issued by builds from outside alone, and the answer to a request that a
later build has replaced changes neither what is shown, then and later, nor the requests. -/
theorem answers_cause_no_request {decode : String → Except Thrown Dynamic}
    {doubleText : UInt64 → String} {city : String} {es : List Event} {s : WeatherHome}
    (h : run (step decode doubleText) (initial city) es = some s) :
    s.requests.length = externalBuilds true es ∧
      ∀ request answer later t, request + 1 < s.requests.length →
        run (step decode doubleText) s (.answer request answer :: later) = some t →
        ∃ t', run (step decode doubleText) s later = some t' ∧ t'.shown = t.shown ∧
          t'.requests = t.requests := by
  have hnewest : ListensToNewest s :=
    run_invariant ListensToNewest (initial_listensToNewest city)
      (fun _ _ _ => step_listensToNewest) h
  refine ⟨?_, fun request answer later t hold hrun => run_without_answer hnewest hold hrun⟩
  simpa [initial] using run_requests h

/-- The bodies of two answers. -/
def mild : String :=
  "\x7b\"main\": \x7b\"temp\": 12, \"humidity\": 80, \"temp_min\": 9, \"temp_max\": 15\x7d\x7d"

def frosty : String :=
  "\x7b\"main\": \x7b\"temp\": -3, \"humidity\": 60, \"temp_min\": -8, \"temp_max\": 0\x7d\x7d"

def report (temp humidity tempMin tempMax : Int) : Dynamic :=
  .map [(.str "main", .map [(.str "temp", .int temp), (.str "humidity", .int humidity),
    (.str "temp_min", .int tempMin), (.str "temp_max", .int tempMax)])]

/-- What json.decode yields for the two; any other text is malformed here. -/
def decodeReports (body : String) : Except Thrown Dynamic :=
  if body = mild then .ok (report 12 80 9 15)
  else if body = frosty then .ok (report (-3) 60 (-8) 0)
  else .error .formatException

/-- A rebuild before the first answer, which comes after that to the second request. -/
theorem answers_cause_no_request_late_answer :
    ∃ s t, run (step decodeReports fun _ => "") (initial "Brest")
        [.frame, .rebuild, .frame, .answer 1 (.response 200 mild)] = some s ∧
      s.requests.length = externalBuilds true
        [.frame, .rebuild, .frame, .answer 1 (.response 200 mild)] ∧
      run (step decodeReports fun _ => "") s [.frame] = some t ∧
      t.shown = .ok (some ⟨"12 °C", "Humidity: 80\nMin: 9 °C\nMax: 15 °C"⟩) ∧
      t.requests = [url "Brest", url "Brest"] := by
  have h := @answers_cause_no_request decodeReports (fun _ => "") "Brest"
    [.frame, .rebuild, .frame, .answer 1 (.response 200 mild)] _ rfl
  obtain ⟨t, hrun, hshown, hrequests⟩ := h.2 0 (.response 200 frosty) [.frame] _ (by decide) rfl
  exact ⟨_, t, rfl, h.1, hrun, hshown, hrequests⟩

end WeatherHome

end FlutterApp
