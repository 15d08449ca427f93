import FlutterApp.Weather.Rebuilds
import Mathlib.Data.List.Nodup

/-!
Which answer WeatherHome shows. The FutureBuilder takes an answer only while its request is
the newest one and the screen is mounted, so what a frame leaves on the screen is what the
last such answer has brought, and the answer to the newest request once it has come.
-/

namespace FlutterApp
namespace WeatherHome

open EventSystem

/-- The data of the snapshot when a future has completed. -/
def snapshotData : Except Thrown (Option (List (Dynamic × Dynamic))) →
    Option (List (Dynamic × Dynamic))
  | .ok data => data
  | .error _ => none

/-- The answer to the newest request, on a mounted screen. -/
def accepted (s : WeatherHome) : Event → List Answer
  | .answer request answer =>
      if s.mounted = true ∧ request + 1 = s.requests.length then [answer] else []
  | .rebuild | .frame | .leave => []

section Run
variable {decode : String → Except Thrown Dynamic} {doubleText : UInt64 → String}

/-- The data that the answers leave, the last of which decides. -/
def latestData (decode : String → Except Thrown Dynamic) (answers : List Answer) :
    Option (List (Dynamic × Dynamic)) :=
  answers.getLast?.bind fun answer => snapshotData (getWeather decode answer)

theorem latestData_snoc (answers : List Answer) (answer : Answer) :
    latestData decode (answers ++ [answer]) = snapshotData (getWeather decode answer) := by
  simp [latestData]

/-- Requests are numbered, and each is answered once. -/
structure Numbered (s : WeatherHome) : Prop where
  issued : ∀ request ∈ s.outstanding, request < s.requests.length
  once : s.outstanding.Nodup
  listens : ∀ request, s.builder.future = some request ↔
    s.mounted = true ∧ request + 1 = s.requests.length

theorem numbered_initial (city : String) : Numbered (initial city) where
  issued := List.forall_mem_nil _
  once := List.nodup_nil
  listens := by
    intro request
    simp [initial, FutureBuilder.initState]

theorem complete_future {α : Type} (b : FutureBuilder α) (request : Nat)
    (result : Except Thrown (Option α)) : (b.complete request result).future = b.future := by
  simp only [FutureBuilder.complete]
  split <;> rfl

theorem numbered_step {s t : WeatherHome} {e : Event} (hs : Numbered s)
    (h : step decode doubleText s e = some t) : Numbered t := by
  cases stepped h with
  | rebuild _ | builderFrame _ _ _ | idleFrame _ _ _ => exact ⟨hs.issued, hs.once, hs.listens⟩
  | buildFrame hmounted _ =>
      refine ⟨?_, ?_, ?_⟩
      · intro request hrequest
        simp only [rebuildBuilder, build, List.length_append, List.length_singleton,
          List.mem_append, List.mem_singleton] at hrequest ⊢
        have := hrequest.imp_left (hs.issued request)
        omega
      · refine List.nodup_append.mpr ⟨hs.once, List.nodup_singleton _, ?_⟩
        intro request hrequest new hnew heq
        have hlt := hs.issued request hrequest
        rw [List.mem_singleton.mp hnew] at heq
        omega
      · intro request
        simp only [rebuildBuilder, build, FutureBuilder.subscribe, Option.some.injEq,
          List.length_append, List.length_singleton, hmounted, true_and]
        omega
  | answer _ =>
      refine ⟨?_, hs.once.erase _, ?_⟩
      · exact fun request hrequest => hs.issued request (List.mem_of_mem_erase hrequest)
      · intro request
        rw [complete_future]
        exact hs.listens request
  | leave _ =>
      refine ⟨hs.issued, hs.once, ?_⟩
      intro request
      simp [FutureBuilder.dispose]

theorem numbered_run {city : String} {s : WeatherHome} {es : List Event}
    (h : run (step decode doubleText) (initial city) es = some s) : Numbered s :=
  run_invariant Numbered (numbered_initial city) (fun _ _ _ => numbered_step) h

theorem complete_data {b : FutureBuilder (List (Dynamic × Dynamic))} {request : Nat}
    (h : b.future = some request)
    (result : Except Thrown (Option (List (Dynamic × Dynamic)))) :
    (b.complete request result).data = snapshotData result := by
  simp only [FutureBuilder.complete, h, if_true, snapshotData]
  cases result with
  | ok data => rfl
  | error _ => rfl

/-- What the snapshot and the screen are, given the answers accepted so far. -/
structure Shows (decode : String → Except Thrown Dynamic) (doubleText : UInt64 → String)
    (answers : List Answer) (s : WeatherHome) : Prop where
  data : s.builder.data = latestData decode answers
  built : s.dirty = false → s.builder.dirty = false →
    s.shown = futureWidget doubleText s.builder.data

theorem data_of_unanswered {answers : List Answer} {s t : WeatherHome} {e : Event}
    (hs : Shows decode doubleText answers s) (hnone : accepted s e = [])
    (hdata : t.builder.data = s.builder.data) :
    t.builder.data = latestData decode (answers ++ accepted s e) := by
  rw [hnone, List.append_nil, hdata]
  exact hs.data

theorem shows_step {answers : List Answer} {s t : WeatherHome} {e : Event} (hn : Numbered s)
    (hs : Shows decode doubleText answers s) (h : step decode doubleText s e = some t) :
    Shows decode doubleText (answers ++ accepted s e) t := by
  cases stepped h with
  | rebuild _ => exact ⟨data_of_unanswered hs rfl rfl, nofun⟩
  | buildFrame _ _ | builderFrame _ _ _ =>
      exact ⟨data_of_unanswered hs rfl rfl, fun _ _ => rfl⟩
  | idleFrame _ _ _ | leave _ => exact ⟨data_of_unanswered hs rfl rfl, hs.built⟩
  | @answer request answer _ =>
      by_cases hlistens : s.builder.future = some request
      · have hnewest := (hn.listens request).mp hlistens
        rw [accepted, if_pos hnewest]
        refine ⟨?_, ?_⟩
        · rw [latestData_snoc]
          exact complete_data hlistens _
        · intro _ hclean
          simp [FutureBuilder.complete, hlistens] at hclean
      · have hold : ¬ (s.mounted = true ∧ request + 1 = s.requests.length) :=
          fun hnewest => hlistens ((hn.listens request).mpr hnewest)
        rw [FutureBuilder.complete_of_ne hlistens]
        exact ⟨data_of_unanswered hs (if_neg hold) rfl, hs.built⟩

theorem shows_run {city : String} {s : WeatherHome} {es : List Event}
    (h : run (step decode doubleText) (initial city) es = some s) :
    Shows decode doubleText (trace (step decode doubleText) accepted (initial city) es) s := by
  refine run_induction (motive := fun es s => Shows decode doubleText
    (trace (step decode doubleText) accepted (initial city) es) s) ?_ ?_ h
  · exact ⟨rfl, nofun⟩
  · intro es mid e t hrun ih hstep
    rw [trace_snoc accepted e hrun]
    exact shows_step (numbered_run hrun) ih hstep

/-- An answer that has come is not awaited any more, and decides the snapshot as long as no
newer request has been issued. -/
def Answered (decode : String → Except Thrown Dynamic) (es : List Event) (s : WeatherHome) :
    Prop :=
  ∀ request answer, .answer request answer ∈ es →
    request ∉ s.outstanding ∧ request < s.requests.length ∧
      (s.mounted = true → request + 1 = s.requests.length →
        s.builder.data = snapshotData (getWeather decode answer))

theorem answered_of_same {es : List Event} {s t : WeatherHome} {e : Event}
    (h : Answered decode es s) (he : ∀ request answer, e ≠ .answer request answer)
    (houtstanding : t.outstanding = s.outstanding) (hrequests : t.requests = s.requests)
    (hmounted : t.mounted = true → s.mounted = true) (hdata : t.builder.data = s.builder.data) :
    Answered decode (es ++ [e]) t := by
  intro request answer hmem
  have hbefore : .answer request answer ∈ es := by
    refine (List.mem_append.mp hmem).resolve_right ?_
    intro hlast
    exact he request answer (List.mem_singleton.mp hlast).symm
  rw [houtstanding, hrequests, hdata]
  obtain ⟨hgone, hlt, hdecides⟩ := h request answer hbefore
  exact ⟨hgone, hlt, fun hm => hdecides (hmounted hm)⟩

theorem answered_step {es : List Event} {s t : WeatherHome} {e : Event} (hn : Numbered s)
    (h : Answered decode es s) (hstep : step decode doubleText s e = some t) :
    Answered decode (es ++ [e]) t := by
  cases stepped hstep with
  | rebuild _ | builderFrame _ _ _ | idleFrame _ _ _ =>
      exact answered_of_same h nofun rfl rfl id rfl
  | leave _ => exact answered_of_same h nofun rfl rfl nofun rfl
  | buildFrame _ _ =>
      intro request answer hmem
      obtain ⟨hgone, hlt, -⟩ := h request answer (by simpa using hmem)
      simp only [rebuildBuilder, build, List.mem_append, List.mem_singleton, List.length_append,
        List.length_singleton, not_or]
      exact ⟨⟨hgone, by omega⟩, by omega, fun _ hnewest => by omega⟩
  | @answer request answer houtstanding =>
      intro request' answer' hmem
      cases List.mem_append.mp hmem with
      | inl hbefore =>
          obtain ⟨hgone, hlt, hdecides⟩ := h request' answer' hbefore
          refine ⟨fun hmem' => hgone (List.mem_of_mem_erase hmem'), hlt, ?_⟩
          intro hm hnewest
          have hlast : request' + 1 = s.requests.length := hnewest
          -- the newest request has been answered, so this answer is to an older one
          have hne : request ≠ request' := fun heq => hgone (heq ▸ houtstanding)
          have hold : s.builder.future ≠ some request := by
            intro hlistens
            have := (hn.listens request).mp hlistens
            omega
          rw [FutureBuilder.complete_of_ne hold]
          exact hdecides hm hnewest
      | inr hthis =>
          obtain ⟨rfl, rfl⟩ : request' = request ∧ answer' = answer := by simpa using hthis
          refine ⟨fun hmem' => ?_, hn.issued _ houtstanding, ?_⟩
          · exact (hn.once.mem_erase_iff.mp hmem').1 rfl
          · intro hm hnewest
            exact complete_data ((hn.listens request').mpr ⟨hm, hnewest⟩) _

end Run

/-- In every run, whenever nothing is left to be built on the mounted screen, it shows what
the last answer has brought that came for the request that was then the newest, and nothing
before the first; and if the newest request has been answered, it shows that answer,
whenever it and the answers to older requests came. -/
theorem shows_newest_answer {decode : String → Except Thrown Dynamic}
    {doubleText : UInt64 → String} {city : String} {s : WeatherHome} {es : List Event}
    (h : run (step decode doubleText) (initial city) es = some s) (hmounted : s.mounted = true)
    (hclean : s.dirty = false) (hbuilt : s.builder.dirty = false) :
    s.shown = futureWidget doubleText
        (latestData decode (trace (step decode doubleText) accepted (initial city) es)) ∧
      ∀ request answer, .answer request answer ∈ es → request + 1 = s.requests.length →
        s.shown = futureWidget doubleText (snapshotData (getWeather decode answer)) := by
  have hshows := shows_run h
  have hanswered : Answered decode es s := by
    refine run_induction (motive := fun es s => Answered decode es s) ?_ ?_ h
    · intro request answer hmem
      cases hmem
    · exact fun es mid e t hrun ih hstep => answered_step (numbered_run hrun) ih hstep
  rw [hshows.built hclean hbuilt]
  refine ⟨congrArg (futureWidget doubleText) hshows.data, ?_⟩
  intro request answer hmem hnewest
  rw [(hanswered request answer hmem).2.2 hmounted hnewest]

/-- The answer to the second request comes before the one to the first. -/
theorem shows_newest_answer_overtaken :
    ∃ s, run (step decodeReports fun _ => "") (initial "Brest")
        [.frame, .rebuild, .frame, .answer 1 (.response 200 mild),
          .answer 0 (.response 200 frosty), .frame] = some s ∧
      s.shown = .ok (some ⟨"12 °C", "Humidity: 80\nMin: 9 °C\nMax: 15 °C"⟩) := by
  refine ⟨_, rfl, ?_⟩
  exact (@shows_newest_answer decodeReports (fun _ => "") "Brest" _
    [.frame, .rebuild, .frame, .answer 1 (.response 200 mild),
      .answer 0 (.response 200 frosty), .frame] rfl rfl rfl rfl).2 1 (.response 200 mild)
    (by decide) rfl

end WeatherHome

end FlutterApp
