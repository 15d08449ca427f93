import FlutterApp.Library.Instances
import FlutterApp.Weather.Answers

/-!
The screens WeatherSearch and WeatherHome on one navigator. Get Weather pushes a WeatherHome
for the text of the field and then clears the field; the action button of a WeatherHome
pushes another WeatherSearch. The screens below keep their States.
-/

namespace FlutterApp

/-- Screens are numbered in the order in which they were pushed, each kind by itself. -/
inductive WeatherRoute where
  | weatherSearch (search : Nat)
  | weatherHome (home : Nat)
  deriving DecidableEq

structure WeatherScreens where
  /-- The texts of the search fields. -/
  searchControllers : List String
  homes : List WeatherHome
  /-- The top comes first. -/
  stack : List WeatherRoute
  printed : List String

namespace WeatherScreens

open EventSystem

/-- The application opens with a WeatherSearch. -/
def initial : WeatherScreens := ⟨[""], [], [.weatherSearch 0], []⟩

/-- The push of moveToNextScreen in a WeatherSearch. -/
def pushWeatherHome (s : WeatherScreens) (city : String) : WeatherScreens :=
  { s with
    homes := s.homes ++ [WeatherHome.initial city]
    stack := .weatherHome s.homes.length :: s.stack }

def clearFields (s : WeatherScreens) (search : Nat) : WeatherScreens :=
  { s with searchControllers := s.searchControllers.set search "" }

/-- The push of moveToNextScreen in a WeatherHome. -/
def pushWeatherSearch (s : WeatherScreens) : WeatherScreens :=
  { s with
    searchControllers := s.searchControllers ++ [""]
    stack := .weatherSearch s.searchControllers.length :: s.stack }

/-- The back button gives no result, and moveToNextScreen prints the one that it awaits. -/
def pop (s : WeatherScreens) (below : List WeatherRoute) : WeatherScreens :=
  { s with stack := below, printed := s.printed ++ ["null"] }

inductive Event where
  | edit (text : String)
  | getWeather
  | floatingActionButton
  | back
  | home (home : Nat) (e : WeatherHome.Event)
  deriving DecidableEq

def step (decode : String → Except Thrown Dynamic) (doubleText : UInt64 → String)
    (s : WeatherScreens) : Event → Option WeatherScreens
  | .edit text =>
      match s.stack with
      | .weatherSearch search :: _ =>
          some { s with searchControllers := s.searchControllers.set search text }
      | _ => none
  | .getWeather =>
      match s.stack with
      | .weatherSearch search :: _ => do
          let city ← s.searchControllers[search]?
          return (s.pushWeatherHome city).clearFields search
      | _ => none
  | .floatingActionButton =>
      match s.stack with
      | .weatherHome _ :: _ => some s.pushWeatherSearch
      -- the handler of a WeatherSearch returns moveToNextScreen and does not call it
      | .weatherSearch _ :: _ => some s
      | [] => none
  | .back =>
      match s.stack with
      | .weatherSearch _ :: below :: rest => some (s.pop (below :: rest))
      | .weatherHome home :: below :: rest => do
          let w ← s.homes[home]?
          let left ← WeatherHome.step decode doubleText w .leave
          return { s.pop (below :: rest) with homes := s.homes.set home left }
      | _ => none
  -- only the navigator disposes a WeatherHome
  | .home home e =>
      if e = .leave then none
      else do
        let w ← s.homes[home]?
        let next ← WeatherHome.step decode doubleText w e
        return { s with homes := s.homes.set home next }

inductive Stepped (decode : String → Except Thrown Dynamic) (doubleText : UInt64 → String)
    (s : WeatherScreens) : Event → WeatherScreens → Prop
  | edit {text : String} {search : Nat} {rest : List WeatherRoute} :
      s.stack = .weatherSearch search :: rest → Stepped decode doubleText s (.edit text)
        { s with searchControllers := s.searchControllers.set search text }
  | getWeather {search : Nat} {rest : List WeatherRoute} {city : String} :
      s.stack = .weatherSearch search :: rest → s.searchControllers[search]? = some city →
      Stepped decode doubleText s .getWeather ((s.pushWeatherHome city).clearFields search)
  | pushWeatherSearch {home : Nat} {rest : List WeatherRoute} :
      s.stack = .weatherHome home :: rest →
      Stepped decode doubleText s .floatingActionButton s.pushWeatherSearch
  | ignored {search : Nat} {rest : List WeatherRoute} :
      s.stack = .weatherSearch search :: rest →
      Stepped decode doubleText s .floatingActionButton s
  | leaveSearch {search : Nat} {below : WeatherRoute} {rest : List WeatherRoute} :
      s.stack = .weatherSearch search :: below :: rest →
      Stepped decode doubleText s .back (s.pop (below :: rest))
  | leaveHome {home : Nat} {below : WeatherRoute} {rest : List WeatherRoute}
      {w left : WeatherHome} : s.stack = .weatherHome home :: below :: rest →
      s.homes[home]? = some w → WeatherHome.step decode doubleText w .leave = some left →
      Stepped decode doubleText s .back
        { s.pop (below :: rest) with homes := s.homes.set home left }
  | home {home : Nat} {e : WeatherHome.Event} {w next : WeatherHome} : e ≠ .leave →
      s.homes[home]? = some w → WeatherHome.step decode doubleText w e = some next →
      Stepped decode doubleText s (.home home e) { s with homes := s.homes.set home next }

section Run
variable {decode : String → Except Thrown Dynamic} {doubleText : UInt64 → String}

theorem stepped {s t : WeatherScreens} {e : Event} (h : step decode doubleText s e = some t) :
    Stepped decode doubleText s e t := by
  cases e with
  | edit text =>
      simp only [step] at h
      split at h
      · rename_i hstack
        cases h
        exact .edit hstack
      · cases h
  | getWeather =>
      simp only [step] at h
      split at h
      · rename_i hstack
        obtain ⟨city, hcity, h⟩ := Option.bind_eq_some_iff.mp h
        cases h
        exact .getWeather hstack hcity
      · cases h
  | floatingActionButton =>
      simp only [step] at h
      split at h
      · rename_i hstack
        cases h
        exact .pushWeatherSearch hstack
      · rename_i hstack
        cases h
        exact .ignored hstack
      · cases h
  | back =>
      simp only [step] at h
      split at h
      · rename_i hstack
        cases h
        exact .leaveSearch hstack
      · rename_i hstack
        obtain ⟨w, hw, h⟩ := Option.bind_eq_some_iff.mp h
        obtain ⟨left, hleft, h⟩ := Option.bind_eq_some_iff.mp h
        cases h
        exact .leaveHome hstack hw hleft
      · cases h
  | home home e =>
      simp only [step] at h
      split at h
      · cases h
      · rename_i hleave
        obtain ⟨w, hw, h⟩ := Option.bind_eq_some_iff.mp h
        obtain ⟨next, hnext, h⟩ := Option.bind_eq_some_iff.mp h
        cases h
        exact .home hleave hw hnext

end Run

end WeatherScreens

end FlutterApp
