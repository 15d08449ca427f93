import FlutterApp.Weather.WeatherSearch

/-!
The two weather screens over whole runs: every WeatherHome runs as it would alone, from the
text that was searched for, and the stack is what the user has opened and not yet left.
-/

namespace FlutterApp
namespace WeatherScreens

open EventSystem

section Run
variable {decode : String → Except Thrown Dynamic} {doubleText : UInt64 → String}

/-- The text that is in the field when Get Weather is pressed. -/
def searched (s : WeatherScreens) : Event → List String
  | .getWeather =>
      match s.stack with
      | .weatherSearch search :: _ => s.searchControllers[search]?.toList
      | _ => []
  | .edit _ | .floatingActionButton | .back | .home _ _ => []

/-- What an event is to one WeatherHome. -/
def ownEvents (home : Nat) (s : WeatherScreens) : Event → List WeatherHome.Event
  | .back => if s.stack.head? = some (.weatherHome home) then [.leave] else []
  | .home home' e => if home' = home then [e] else []
  | .edit _ | .getWeather | .floatingActionButton => []

/-- What an event is to all of them. -/
def homeEvents (s : WeatherScreens) :
    Event → List (Instances.Event WeatherHome WeatherHome.Event)
  | .getWeather => (searched s .getWeather).map fun city => .start (WeatherHome.initial city)
  | .back =>
      match s.stack with
      | .weatherHome home :: _ => [.take home .leave]
      | _ => []
  | .home home e => [.take home e]
  | .edit _ | .floatingActionButton => []

theorem started_homeEvents (s : WeatherScreens) (e : Event) :
    Instances.started (homeEvents s e) = (searched s e).map WeatherHome.initial := by
  have hstarts : ∀ cities : List String, Instances.started (cities.map fun city =>
      (.start (WeatherHome.initial city) : Instances.Event WeatherHome WeatherHome.Event)) =
      cities.map WeatherHome.initial := by
    intro cities
    induction cities with
    | nil => rfl
    | cons city cities ih => simp only [List.map_cons, Instances.started, ih]
  cases e with
  | getWeather => exact hstarts _
  | edit _ | floatingActionButton | home _ _ => rfl
  | back =>
      simp only [homeEvents, searched]
      split <;> rfl

theorem started_trace (es : List Event) :
    Instances.started (trace (step decode doubleText) homeEvents initial es) =
      (trace (step decode doubleText) searched initial es).map WeatherHome.initial := by
  rw [trace_map Instances.started rfl Instances.started_append started_homeEvents]
  exact (trace_map (List.map WeatherHome.initial) rfl (fun _ _ => List.map_append)
    (fun _ _ => rfl) _ _).symm

theorem taken_homeEvents (home : Nat) (s : WeatherScreens) (e : Event) :
    Instances.taken home (homeEvents s e) = ownEvents home s e := by
  have hstarts : ∀ cities : List String, Instances.taken home (cities.map fun city =>
      (.start (WeatherHome.initial city) : Instances.Event WeatherHome WeatherHome.Event)) =
      [] := by
    intro cities
    induction cities with
    | nil => rfl
    | cons city cities ih => simp only [List.map_cons, Instances.taken, ih]
  cases e with
  | getWeather => exact hstarts _
  | edit _ | floatingActionButton | home _ _ => rfl
  | back =>
      simp only [homeEvents, ownEvents]
      cases s.stack with
      | nil => rfl
      | cons top rest =>
          cases top with
          | weatherSearch search => rfl
          | weatherHome home' => simp [Instances.taken]

/-- A step of the screens is, for the WeatherHomes, the events it stands for. -/
theorem step_homes {s t : WeatherScreens} {e : Event} (h : step decode doubleText s e = some t) :
    run (Instances.step (WeatherHome.step decode doubleText)) s.homes (homeEvents s e) =
      some t.homes := by
  cases stepped h with
  | edit _ | pushWeatherSearch _ | ignored _ => rfl
  | getWeather hstack hcity =>
      simp [homeEvents, searched, hstack, hcity, run, Instances.step, pushWeatherHome,
        clearFields]
  | leaveSearch hstack => simp [homeEvents, hstack, run, pop]
  | leaveHome hstack hw hleft => simp [homeEvents, hstack, run, Instances.step, hw, hleft]
  | home _ hw hnext => simp [homeEvents, run, Instances.step, hw, hnext]

theorem run_homes {s : WeatherScreens} {es : List Event}
    (h : run (step decode doubleText) initial es = some s) :
    run (Instances.step (WeatherHome.step decode doubleText)) []
      (trace (step decode doubleText) homeEvents initial es) = some s.homes := by
  refine run_induction (motive := fun es s =>
    run (Instances.step (WeatherHome.step decode doubleText)) []
      (trace (step decode doubleText) homeEvents initial es) = some s.homes) rfl ?_ h
  intro es mid e t hrun ih hstep
  rw [trace_snoc homeEvents e hrun, run_append, ih]
  exact step_homes hstep

end Run

/-- In every run of the weather screens, each WeatherHome is in a state that its own events
lead to when it runs alone, opened for the text of the field at the press that pushed it; all
its requests are for that text; and whenever it has nothing left to build it shows what its
own last accepted answer has brought. -/
theorem homes_run_alone {decode : String → Except Thrown Dynamic}
    {doubleText : UInt64 → String} {s : WeatherScreens} {es : List Event}
    (h : run (step decode doubleText) initial es = some s) {home : Nat} {w : WeatherHome}
    (hw : s.homes[home]? = some w) :
    ∃ city own, (trace (step decode doubleText) searched initial es)[home]? = some city ∧
      own = trace (step decode doubleText) (ownEvents home) initial es ∧
      run (WeatherHome.step decode doubleText) (WeatherHome.initial city) own = some w ∧
      (∀ sent ∈ w.requests, sent = WeatherHome.url city) ∧
      (w.dirty = false → w.builder.dirty = false → w.shown =
        WeatherHome.futureWidget doubleText (WeatherHome.latestData decode
          (trace (WeatherHome.step decode doubleText) WeatherHome.accepted
            (WeatherHome.initial city) own))) := by
  obtain ⟨start, hstart, hown⟩ := (Instances.allAlone_run (run_homes h)).alone home w hw
  rw [started_trace, List.getElem?_map] at hstart
  rw [trace_map (Instances.taken home) rfl (Instances.taken_append home)
    (taken_homeEvents home)] at hown
  obtain ⟨city, hcity, rfl⟩ := Option.map_eq_some_iff.mp hstart
  refine ⟨city, _, hcity, rfl, hown, (WeatherHome.run_forCity hown).requests_eq, ?_⟩
  intro hclean hbuilt
  have hshows := WeatherHome.shows_run hown
  rw [hshows.built hclean hbuilt, hshows.data]

/-- Lima is searched for from above the screen for Oslo. -/
def twoCities : List Event :=
  [.edit "Oslo", .getWeather, .home 0 .frame, .floatingActionButton, .edit "Lima", .getWeather,
    .home 1 .frame, .home 0 (.answer 0 (.response 200 "null"))]

theorem homes_run_alone_two_cities :
    ∃ s w own, run (step (fun _ => .ok .null) fun _ => "") initial twoCities = some s ∧
      s.homes[1]? = some w ∧ w.requests = [WeatherHome.url "Lima"] ∧
      run (WeatherHome.step (fun _ => .ok .null) fun _ => "") (WeatherHome.initial "Lima") own =
        some w := by
  obtain ⟨city, own, hcity, -, hown, -, -⟩ :=
    @homes_run_alone (fun _ => .ok .null) (fun _ => "") _ twoCities rfl 1 _ rfl
  cases hcity
  exact ⟨_, _, own, rfl, rfl, rfl, hown⟩

/-- Both kinds of screen in turn, above the first WeatherSearch. -/
inductive Alternates : List WeatherRoute → Prop
  | opened : Alternates [.weatherSearch 0]
  | weatherHome {home search : Nat} {rest : List WeatherRoute} :
      Alternates (.weatherSearch search :: rest) →
      Alternates (.weatherHome home :: .weatherSearch search :: rest)
  | weatherSearch {search home : Nat} {rest : List WeatherRoute} :
      Alternates (.weatherHome home :: rest) →
      Alternates (.weatherSearch search :: .weatherHome home :: rest)

theorem alternates_below {top below : WeatherRoute} {rest : List WeatherRoute}
    (h : Alternates (top :: below :: rest)) : Alternates (below :: rest) := by
  cases h with
  | weatherHome h => exact h
  | weatherSearch h => exact h

def isOpen (s : WeatherScreens) (home : Nat) : Prop :=
  ∃ w, s.homes[home]? = some w ∧ w.mounted = true

structure Navigates (s : WeatherScreens) : Prop where
  alternates : Alternates s.stack
  distinct : s.stack.Nodup
  searches : ∀ search, .weatherSearch search ∈ s.stack → search < s.searchControllers.length
  homes : ∀ home, .weatherHome home ∈ s.stack ↔ isOpen s home
  cleared : ∀ search, .weatherSearch search ∈ s.stack.tail →
    s.searchControllers[search]? = some ""

theorem navigates_initial : Navigates initial where
  alternates := .opened
  distinct := List.nodup_singleton _
  searches := by simp [initial]
  homes := by simp [initial, isOpen]
  cleared := by simp [initial]

section Run
variable {decode : String → Except Thrown Dynamic} {doubleText : UInt64 → String}

theorem isOpen_set {s : WeatherScreens} {home : Nat} {w next : WeatherHome}
    (hw : s.homes[home]? = some w) (home' : Nat) :
    (∃ w', (s.homes.set home next)[home']? = some w' ∧ w'.mounted = true) ↔
      if home' = home then next.mounted = true else isOpen s home' := by
  have hlt : home < s.homes.length := (List.getElem?_eq_some_iff.mp hw).1
  by_cases heq : home' = home
  · subst heq
    simp [hlt]
  · rw [List.getElem?_set_ne (Ne.symm heq), if_neg heq]
    rfl

theorem isOpen_snoc (s : WeatherScreens) (city : String) (home : Nat) :
    (∃ w, (s.homes ++ [WeatherHome.initial city])[home]? = some w ∧ w.mounted = true) ↔
      home = s.homes.length ∨ isOpen s home := by
  simp only [isOpen, List.getElem?_append]
  by_cases hold : home < s.homes.length
  · simp only [hold, if_true]
    exact ⟨Or.inr, fun h => h.resolve_left (by omega)⟩
  · by_cases hlast : home = s.homes.length
    · subst hlast
      simp [WeatherHome.initial]
    · have hnone : ([WeatherHome.initial city])[home - s.homes.length]? = none := by
        rw [List.getElem?_eq_none_iff]
        simp
        omega
      simp [hold, hlast, hnone]

theorem navigates_getWeather {s : WeatherScreens} {search : Nat} {rest : List WeatherRoute}
    {city : String} (hs : Navigates s) (hstack : s.stack = .weatherSearch search :: rest)
    (hcity : s.searchControllers[search]? = some city) :
    Navigates ((s.pushWeatherHome city).clearFields search) := by
  have hlt : search < s.searchControllers.length := (List.getElem?_eq_some_iff.mp hcity).1
  refine ⟨?_, ?_, ?_, ?_, ?_⟩
  · have halternates := hs.alternates
    simp only [pushWeatherHome, clearFields, hstack] at halternates ⊢
    exact .weatherHome halternates
  · refine List.nodup_cons.mpr ⟨?_, hs.distinct⟩
    intro hmem
    obtain ⟨w, hw, -⟩ := (hs.homes _).mp hmem
    simp at hw
  · intro search' hmem
    have hbefore : .weatherSearch search' ∈ s.stack := by
      simpa [pushWeatherHome, clearFields] using hmem
    simpa [pushWeatherHome, clearFields] using hs.searches search' hbefore
  · intro home
    refine Iff.trans ?_ (isOpen_snoc s city home).symm
    simp only [pushWeatherHome, clearFields, List.mem_cons, WeatherRoute.weatherHome.injEq,
      hs.homes home]
  · intro search' hmem
    have hmem' : .weatherSearch search' ∈ s.stack := by
      simpa [pushWeatherHome, clearFields] using hmem
    simp only [pushWeatherHome, clearFields]
    by_cases heq : search' = search
    · subst heq
      simp [hlt]
    · rw [List.getElem?_set_ne (Ne.symm heq)]
      refine hs.cleared search' ?_
      rw [hstack] at hmem' ⊢
      simpa [heq] using hmem'

theorem navigates_pushWeatherSearch {s : WeatherScreens} {home : Nat}
    {rest : List WeatherRoute} (hs : Navigates s) (hstack : s.stack = .weatherHome home :: rest) :
    Navigates s.pushWeatherSearch := by
  refine ⟨?_, ?_, ?_, ?_, ?_⟩
  · have halternates := hs.alternates
    simp only [pushWeatherSearch, hstack] at halternates ⊢
    exact .weatherSearch halternates
  · refine List.nodup_cons.mpr ⟨?_, hs.distinct⟩
    intro hmem
    exact absurd (hs.searches _ hmem) (Nat.lt_irrefl _)
  · intro search hmem
    simp only [pushWeatherSearch, List.mem_cons, WeatherRoute.weatherSearch.injEq,
      List.length_append, List.length_singleton] at hmem ⊢
    cases hmem with
    | inl hnew => omega
    | inr hold =>
        have := hs.searches search hold
        omega
  · intro home'
    simp only [pushWeatherSearch, List.mem_cons, reduceCtorEq, false_or]
    exact hs.homes home'
  · intro search hmem
    have hmem' : .weatherSearch search ∈ s.stack := by simpa [pushWeatherSearch] using hmem
    simp only [pushWeatherSearch]
    rw [List.getElem?_append_left (hs.searches search hmem')]
    refine hs.cleared search ?_
    rw [hstack] at hmem' ⊢
    simpa using hmem'

theorem navigates_edit {s : WeatherScreens} {search : Nat} {rest : List WeatherRoute}
    (text : String) (hs : Navigates s) (hstack : s.stack = .weatherSearch search :: rest) :
    Navigates { s with searchControllers := s.searchControllers.set search text } := by
  refine ⟨hs.alternates, hs.distinct, ?_, hs.homes, ?_⟩
  · intro search' hmem
    simpa using hs.searches search' hmem
  · intro search' hmem
    have hne : search ≠ search' := by
      intro heq
      have hdistinct := hs.distinct
      rw [hstack] at hdistinct hmem
      exact (List.nodup_cons.mp hdistinct).1 (heq ▸ hmem)
    rw [List.getElem?_set_ne hne]
    exact hs.cleared search' hmem

/-- What going back leaves, whatever becomes of the screen that was on top. -/
theorem navigates_pop {s : WeatherScreens} {top below : WeatherRoute} {rest : List WeatherRoute}
    (hs : Navigates s) (hstack : s.stack = top :: below :: rest) {homes : List WeatherHome}
    (hhomes : ∀ home, .weatherHome home ∈ below :: rest ↔
      ∃ w, homes[home]? = some w ∧ w.mounted = true) :
    Navigates { s.pop (below :: rest) with homes := homes } := by
  refine ⟨alternates_below (hstack ▸ hs.alternates), ?_, ?_, hhomes, ?_⟩
  · exact (List.nodup_cons.mp (hstack ▸ hs.distinct)).2
  · intro search hmem
    refine hs.searches search ?_
    rw [hstack]
    exact List.mem_cons_of_mem _ hmem
  · intro search hmem
    refine hs.cleared search ?_
    rw [hstack]
    exact List.mem_cons_of_mem _ hmem

theorem navigates_leaveSearch {s : WeatherScreens} {search : Nat} {below : WeatherRoute}
    {rest : List WeatherRoute} (hs : Navigates s)
    (hstack : s.stack = .weatherSearch search :: below :: rest) :
    Navigates (s.pop (below :: rest)) := by
  refine @navigates_pop s _ _ _ hs hstack s.homes ?_
  intro home
  refine Iff.trans ?_ (hs.homes home)
  simp only [hstack, List.mem_cons, reduceCtorEq, false_or]

theorem navigates_leaveHome {s : WeatherScreens} {home : Nat} {below : WeatherRoute}
    {rest : List WeatherRoute} {w left : WeatherHome} (hs : Navigates s)
    (hstack : s.stack = .weatherHome home :: below :: rest) (hw : s.homes[home]? = some w)
    (hleft : left.mounted = false) :
    Navigates { s.pop (below :: rest) with homes := s.homes.set home left } := by
  refine navigates_pop hs hstack ?_
  intro home'
  refine Iff.trans ?_ (isOpen_set hw home').symm
  by_cases heq : home' = home
  · subst heq
    simp only [if_true, hleft, Bool.false_eq_true, iff_false]
    exact (List.nodup_cons.mp (hstack ▸ hs.distinct)).1
  · rw [if_neg heq, ← hs.homes home', hstack]
    simp [heq]

theorem home_step_mounted {w next : WeatherHome} {e : WeatherHome.Event} (he : e ≠ .leave)
    (h : WeatherHome.step decode doubleText w e = some next) : next.mounted = w.mounted := by
  cases WeatherHome.stepped h with
  | rebuild _ | buildFrame _ _ | builderFrame _ _ _ | idleFrame _ _ _ | answer _ => rfl
  | leave _ => exact absurd rfl he

theorem navigates_home {s : WeatherScreens} {home : Nat} {w next : WeatherHome}
    (hs : Navigates s) (hw : s.homes[home]? = some w) (hmounted : next.mounted = w.mounted) :
    Navigates { s with homes := s.homes.set home next } := by
  refine ⟨hs.alternates, hs.distinct, hs.searches, ?_, hs.cleared⟩
  intro home'
  refine (hs.homes home').trans ?_
  refine Iff.trans ?_ (isOpen_set hw home').symm
  by_cases heq : home' = home
  · subst heq
    simp [isOpen, hw, hmounted]
  · rw [if_neg heq]

theorem navigates_step {s t : WeatherScreens} {e : Event} (hs : Navigates s)
    (h : step decode doubleText s e = some t) : Navigates t := by
  cases stepped h with
  | edit hstack => exact navigates_edit _ hs hstack
  | getWeather hstack hcity => exact navigates_getWeather hs hstack hcity
  | pushWeatherSearch hstack => exact navigates_pushWeatherSearch hs hstack
  | ignored _ => exact hs
  | leaveSearch hstack => exact navigates_leaveSearch hs hstack
  | leaveHome hstack hw hleft =>
      refine navigates_leaveHome hs hstack hw ?_
      cases WeatherHome.stepped hleft with
      | leave _ => rfl
  | home he hw hnext => exact navigates_home hs hw (home_step_mounted he hnext)

theorem navigates_run {s : WeatherScreens} {es : List Event}
    (h : run (step decode doubleText) initial es = some s) : Navigates s :=
  run_invariant Navigates navigates_initial (fun _ _ _ => navigates_step) h

/-- Only a mounted WeatherHome issues a request. -/
theorem home_requests {w next : WeatherHome} {e : WeatherHome.Event}
    (h : WeatherHome.step decode doubleText w e = some next) :
    next.requests = w.requests ∨ w.mounted = true := by
  cases WeatherHome.stepped h with
  | rebuild hmounted | buildFrame hmounted _ | builderFrame hmounted _ _
  | idleFrame hmounted _ _ | leave hmounted => exact Or.inr hmounted
  | answer _ => exact Or.inl rfl

theorem set_requests {s : WeatherScreens} {home home' : Nat} {w w' next next' : WeatherHome}
    {e : WeatherHome.Event} (hs : Navigates s) (hw : s.homes[home]? = some w)
    (hnext : WeatherHome.step decode doubleText w e = some next)
    (hw' : s.homes[home']? = some w') (hnext' : (s.homes.set home next)[home']? = some next') :
    next'.requests = w'.requests ∨ .weatherHome home' ∈ s.stack := by
  have hlt : home < s.homes.length := (List.getElem?_eq_some_iff.mp hw).1
  by_cases heq : home = home'
  · subst heq
    obtain rfl : w = w' := Option.some.inj (hw.symm.trans hw')
    obtain rfl : next = next' := by simpa [List.getElem?_set, hlt] using hnext'
    refine (home_requests hnext).imp_right ?_
    intro hmounted
    exact (hs.homes home).mpr ⟨w, hw, hmounted⟩
  · rw [List.getElem?_set_ne heq, hw'] at hnext'
    cases hnext'
    exact Or.inl rfl

theorem step_requests {s t : WeatherScreens} {e : Event} (hs : Navigates s)
    (h : step decode doubleText s e = some t) {home : Nat} {w next : WeatherHome}
    (hw : s.homes[home]? = some w) (hnext : t.homes[home]? = some next) :
    next.requests = w.requests ∨ .weatherHome home ∈ s.stack := by
  cases stepped h with
  | edit _ | pushWeatherSearch _ | ignored _ | leaveSearch _ =>
      cases hw.symm.trans hnext
      exact Or.inl rfl
  | getWeather _ _ =>
      have hlt : home < s.homes.length := (List.getElem?_eq_some_iff.mp hw).1
      rw [pushWeatherHome, clearFields, List.getElem?_append_left hlt, hw] at hnext
      cases hnext
      exact Or.inl rfl
  | leaveHome _ hw' hleft => exact set_requests hs hw' hleft hw hnext
  | home _ hw' hnext' => exact set_requests hs hw' hnext' hw hnext

theorem back_reveals {s : WeatherScreens} (hs : Navigates s) {top below : WeatherRoute}
    {rest : List WeatherRoute} (hstack : s.stack = top :: below :: rest) :
    ∃ t, step decode doubleText s .back = some t ∧ t.stack = below :: rest ∧
      t.searchControllers = s.searchControllers ∧
      ∀ home, .weatherHome home ∈ t.stack → t.homes[home]? = s.homes[home]? := by
  cases top with
  | weatherSearch search =>
      exact ⟨s.pop (below :: rest), by simp only [step, hstack], rfl, rfl, fun _ _ => rfl⟩
  | weatherHome home =>
      obtain ⟨w, hw, hmounted⟩ := (hs.homes home).mp (by simp [hstack])
      obtain ⟨left, hleft⟩ : ∃ left, WeatherHome.step decode doubleText w .leave = some left :=
        ⟨_, by rw [WeatherHome.step, if_pos hmounted]⟩
      refine ⟨{ s.pop (below :: rest) with homes := s.homes.set home left },
        by simp [step, hstack, hw, hleft], rfl, rfl, ?_⟩
      intro home' hmem
      have hdistinct := List.nodup_cons.mp (hstack ▸ hs.distinct)
      have hne : home ≠ home' := fun heq => hdistinct.1 (heq ▸ hmem)
      rw [List.getElem?_set_ne hne]

end Run

/-- In every run of the weather screens the two kinds alternate on the stack, above the
first WeatherSearch, and the WeatherHomes on it are the mounted ones. Going back from any
but the first screen is always possible and leaves what lies below as it was, the search
fields included; the WeatherSearch that is uncovered has an empty field. Only a WeatherHome
on the stack ever issues a request. -/
theorem screens_navigate {decode : String → Except Thrown Dynamic}
    {doubleText : UInt64 → String} {s : WeatherScreens} {es : List Event}
    (h : run (step decode doubleText) initial es = some s) :
    Alternates s.stack ∧ (∀ home, .weatherHome home ∈ s.stack ↔ isOpen s home) ∧
      (∀ top below rest, s.stack = top :: below :: rest →
        ∃ t, step decode doubleText s .back = some t ∧ t.stack = below :: rest ∧
          (∀ search, below = .weatherSearch search → t.searchControllers[search]? = some "") ∧
          t.searchControllers = s.searchControllers ∧
          ∀ home, .weatherHome home ∈ t.stack → t.homes[home]? = s.homes[home]?) ∧
      ∀ e t home w next, step decode doubleText s e = some t → s.homes[home]? = some w →
        t.homes[home]? = some next →
        next.requests = w.requests ∨ .weatherHome home ∈ s.stack := by
  have hs := navigates_run h
  refine ⟨hs.alternates, hs.homes, ?_, ?_⟩
  · intro top below rest hstack
    obtain ⟨t, hstep, hbelow, hfields, hhomes⟩ :=
      @back_reveals decode doubleText s hs top below rest hstack
    refine ⟨t, hstep, hbelow, ?_, hfields, hhomes⟩
    intro search hsearch
    subst hsearch
    rw [hfields]
    refine hs.cleared search ?_
    rw [hstack]
    exact List.mem_cons_self
  · intro e t home w next hstep hw hnext
    exact step_requests hs hstep hw hnext

theorem screens_navigate_two_cities :
    ∃ s t, run (step (fun _ => .ok .null) fun _ => "") initial twoCities = some s ∧
      step (fun _ => .ok .null) (fun _ => "") s .back = some t ∧
      t.stack = [.weatherSearch 1, .weatherHome 0, .weatherSearch 0] ∧
      t.searchControllers[1]? = some "" := by
  have h := @screens_navigate (fun _ => .ok .null) (fun _ => "") _ twoCities rfl
  obtain ⟨t, hstep, hstack, hfield, -⟩ := h.2.2.1 _ _ _ rfl
  exact ⟨_, t, rfl, hstep, hstack, hfield 1 rfl⟩

end WeatherScreens

end FlutterApp
