import FlutterApp.Flutter
import FlutterApp.Library.EventSystem
import FlutterApp.Requests.RequestsExample

/-!
The screen WeatherHome. Every build of its State calls getWeather, which issues a request,
and hands the future to a FutureBuilder. Elements marked dirty are rebuilt at the next
frame: the State with everything below it, or the FutureBuilder alone.
-/

namespace FlutterApp

namespace Utils

def appId : String := "dccb2058143e6c38a279eed9c6727397"

end Utils

/-- The two texts that are built from a snapshot with data. -/
structure WeatherTexts where
  title : String
  details : String
  deriving DecidableEq

/-- Requests are numbered by their place in the list of requested URLs. -/
structure WeatherHome where
  city : String
  mounted : Bool
  dirty : Bool
  builder : FutureBuilder (List (Dynamic × Dynamic))
  requests : List String
  outstanding : List Nat
  /-- What the FutureBuilder has built last: an empty container, texts, or an error. -/
  shown : Except Thrown (Option WeatherTexts)

namespace WeatherHome

/-- A screen that has been pushed is built at the next frame. -/
def initial (city : String) : WeatherHome := ⟨city, true, true, .initState, [], [], .ok none⟩

/-- The URL of getWeather. -/
def url (city : String) : String :=
  "https://api.openweathermap.org/data/2.5/weather?q=" ++ city ++ "&appid=" ++ Utils.appId ++
    "&units=metric"

/-- How the future of getWeather completes, given the answer to its request. -/
def getWeather (decode : String → Except Thrown Dynamic) :
    Answer → Except Thrown (Option (List (Dynamic × Dynamic)))
  | .failed error => .error error
  | .response statusCode body =>
      if statusCode = 200 then decode body >>= Dynamic.asMap
      else .error (.str "Error when getting data")

/-- The builder of the FutureBuilder. -/
def futureWidget (doubleText : UInt64 → String) :
    Option (List (Dynamic × Dynamic)) → Except Thrown (Option WeatherTexts)
  | none => .ok none
  | some data => do
      let main ← (Dynamic.map data).subscript "main"
      let temp ← main.subscript "temp"
      let humidity ← main.subscript "humidity"
      let tempMin ← main.subscript "temp_min"
      let tempMax ← main.subscript "temp_max"
      return some {
        title := temp.toText doubleText ++ " °C"
        details := "Humidity: " ++ humidity.toText doubleText ++ "\nMin: " ++
          tempMin.toText doubleText ++ " °C\nMax: " ++ tempMax.toText doubleText ++ " °C" }

/-- The build of the State: a new request, whose future the FutureBuilder is given. -/
def build (s : WeatherHome) : WeatherHome :=
  { s with
    dirty := false
    builder := s.builder.subscribe s.requests.length
    requests := s.requests ++ [url s.city]
    outstanding := s.outstanding ++ [s.requests.length] }

def rebuildBuilder (doubleText : UInt64 → String) (s : WeatherHome) : WeatherHome :=
  { s with
    builder := { s.builder with dirty := false }
    shown := futureWidget doubleText s.builder.data }

def frame (doubleText : UInt64 → String) (s : WeatherHome) : WeatherHome :=
  if s.dirty then s.build.rebuildBuilder doubleText
  else if s.builder.dirty then s.rebuildBuilder doubleText
  else s

inductive Event where
  /-- Something outside the screen marks its State dirty. -/
  | rebuild
  | frame
  | answer (request : Nat) (answer : Answer)
  | leave
  deriving DecidableEq

def step (decode : String → Except Thrown Dynamic) (doubleText : UInt64 → String)
    (s : WeatherHome) : Event → Option WeatherHome
  | .rebuild => if s.mounted then some { s with dirty := true } else none
  | .frame => if s.mounted then some (s.frame doubleText) else none
  | .answer request answer =>
      if request ∈ s.outstanding then
        some { s with
          builder := s.builder.complete request (getWeather decode answer)
          outstanding := s.outstanding.erase request }
      else none
  | .leave =>
      if s.mounted then some { s with mounted := false, builder := s.builder.dispose } else none

inductive Stepped (decode : String → Except Thrown Dynamic) (doubleText : UInt64 → String)
    (s : WeatherHome) : Event → WeatherHome → Prop
  | rebuild : s.mounted = true → Stepped decode doubleText s .rebuild { s with dirty := true }
  | buildFrame : s.mounted = true → s.dirty = true →
      Stepped decode doubleText s .frame (s.build.rebuildBuilder doubleText)
  | builderFrame : s.mounted = true → s.dirty = false → s.builder.dirty = true →
      Stepped decode doubleText s .frame (s.rebuildBuilder doubleText)
  | idleFrame : s.mounted = true → s.dirty = false → s.builder.dirty = false →
      Stepped decode doubleText s .frame s
  | answer {request : Nat} {answer : Answer} : request ∈ s.outstanding →
      Stepped decode doubleText s (.answer request answer) { s with
        builder := s.builder.complete request (getWeather decode answer)
        outstanding := s.outstanding.erase request }
  | leave : s.mounted = true →
      Stepped decode doubleText s .leave
        { s with mounted := false, builder := s.builder.dispose }

theorem stepped {decode : String → Except Thrown Dynamic} {doubleText : UInt64 → String}
    {s t : WeatherHome} {e : Event} (h : step decode doubleText s e = some t) :
    Stepped decode doubleText s e t := by
  cases e with
  | rebuild =>
      simp only [step] at h
      split at h
      · rename_i hmounted
        cases h
        exact .rebuild hmounted
      · cases h
  | frame =>
      simp only [step] at h
      split at h
      · rename_i hmounted
        cases h
        simp only [frame]
        split
        · rename_i hdirty
          exact .buildFrame hmounted hdirty
        · rename_i hclean
          split
          · rename_i hbuilder
            exact .builderFrame hmounted (by simpa using hclean) hbuilder
          · rename_i hbuilder
            exact .idleFrame hmounted (by simpa using hclean) (by simpa using hbuilder)
      · cases h
  | answer request answer =>
      simp only [step] at h
      split at h
      · rename_i houtstanding
        cases h
        exact .answer houtstanding
      · cases h
  | leave =>
      simp only [step] at h
      split at h
      · rename_i hmounted
        cases h
        exact .leave hmounted
      · cases h

end WeatherHome

end FlutterApp
