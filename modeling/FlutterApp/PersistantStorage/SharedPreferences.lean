import FlutterApp.Flutter
import FlutterApp.Library.EventSystem
import FlutterApp.Library.TaskPool

/-!
The screen SharedPreferencesStorageWidget.

Loading and saving both await an instance of the preferences; what they do with it then runs
without a further await. Which instance a call is given, and what the instance does, is not
part of the program: the one comes with the event, the other is a parameter.
-/

namespace FlutterApp
universe u

/-- The methods of an instance that the screen calls, over all that is stored. -/
structure PreferencesPlugin (σ ι : Type u) where
  getString : σ → ι → String → Option String
  setString : σ → ι → String → String → σ

/-- From setString on, getString of the same instance returns the new value for the key, and
for any other key what it returned before. -/
def PreferencesPlugin.Lawful {σ ι : Type u} (plugin : PreferencesPlugin σ ι) : Prop :=
  ∀ stored preferences key value other,
    plugin.getString (plugin.setString stored preferences key value) preferences other =
      if other = key then some value else plugin.getString stored preferences other

/-- Instances that hold a map from keys to texts each. -/
def PreferencesPlugin.maps : PreferencesPlugin (Nat → String → Option String) Nat where
  getString := fun stored preferences key => stored preferences key
  setString := fun stored preferences key value =>
    Function.update stored preferences (Function.update (stored preferences) key (some value))

theorem PreferencesPlugin.maps_lawful : PreferencesPlugin.maps.Lawful := by
  intro stored preferences key value other
  simp only [PreferencesPlugin.maps, Function.update_self, Function.update_apply]

structure PreferencesFields where
  data : Option String
  deriving DecidableEq

/-- The calls that await SharedPreferences.getInstance. -/
inductive PreferencesTask where
  | loadSharedPreferencesData
  | saveData (inputKey inputValue : String)
  deriving DecidableEq

structure SharedPreferences (σ : Type u) where
  widget : StateObject PreferencesFields
  stored : σ
  tasks : List PreferencesTask

namespace SharedPreferences
variable {σ ι : Type u} (plugin : PreferencesPlugin σ ι)

/-- initState starts a load. -/
def initial (stored : σ) : SharedPreferences σ :=
  ⟨.initState ⟨none⟩, stored, [.loadSharedPreferencesData]⟩

def showData (stored : σ) (preferences : ι) (_ : PreferencesFields) :
    Except Thrown PreferencesFields :=
  .ok ⟨plugin.getString stored preferences "data"⟩

/-- What a call does with the instance that it has been given. -/
def advance (s : SharedPreferences σ) (preferences : ι) : PreferencesTask → SharedPreferences σ
  | .loadSharedPreferencesData =>
      { s with widget := (s.widget.setState (showData plugin s.stored preferences)).1 }
  | .saveData inputKey inputValue =>
      { s with stored := plugin.setString s.stored preferences inputKey inputValue }

inductive Event (ι : Type u) where
  | loadSharedPreferencesData
  | saveData (inputValue : String)
  /-- getInstance gives a call this instance. -/
  | resume (i : Nat) (preferences : ι)
  | failed (i : Nat)
  | leave
  deriving DecidableEq

def step (s : SharedPreferences σ) : Event ι → Option (SharedPreferences σ)
  | .loadSharedPreferencesData =>
      if s.widget.mounted then
        some { s with tasks := s.tasks ++ [.loadSharedPreferencesData] }
      else none
  | .saveData inputValue =>
      if s.widget.mounted then
        some { s with tasks := s.tasks ++ [.saveData "data" inputValue] }
      else none
  | .resume i preferences =>
      s.tasks[i]?.map fun task =>
        { s.advance plugin preferences task with tasks := TaskPool.resume s.tasks i [] }
  | .failed i => s.tasks[i]?.map fun _ => { s with tasks := TaskPool.resume s.tasks i [] }
  | .leave => if s.widget.mounted then some { s with widget := s.widget.dispose } else none

inductive Stepped (s : SharedPreferences σ) : Event ι → SharedPreferences σ → Prop
  | loadSharedPreferencesData : s.widget.mounted = true → Stepped s .loadSharedPreferencesData
      { s with tasks := s.tasks ++ [.loadSharedPreferencesData] }
  | saveData {inputValue : String} : s.widget.mounted = true → Stepped s (.saveData inputValue)
      { s with tasks := s.tasks ++ [.saveData "data" inputValue] }
  | resume {i : Nat} {preferences : ι} {task : PreferencesTask} : s.tasks[i]? = some task →
      Stepped s (.resume i preferences)
        { s.advance plugin preferences task with tasks := TaskPool.resume s.tasks i [] }
  | failed {i : Nat} {task : PreferencesTask} : s.tasks[i]? = some task →
      Stepped s (.failed i) { s with tasks := TaskPool.resume s.tasks i [] }
  | leave : s.widget.mounted = true → Stepped s .leave { s with widget := s.widget.dispose }

theorem stepped {plugin : PreferencesPlugin σ ι} {s t : SharedPreferences σ} {e : Event ι}
    (h : step plugin s e = some t) : Stepped plugin s e t := by
  cases e with
  | loadSharedPreferencesData =>
      simp only [step] at h
      split at h
      · rename_i hmounted
        cases h
        exact .loadSharedPreferencesData hmounted
      · cases h
  | saveData inputValue =>
      simp only [step] at h
      split at h
      · rename_i hmounted
        cases h
        exact .saveData hmounted
      · cases h
  | resume i preferences =>
      obtain ⟨task, htask, rfl⟩ := Option.map_eq_some_iff.mp h
      exact .resume htask
  | failed i =>
      obtain ⟨task, htask, rfl⟩ := Option.map_eq_some_iff.mp h
      exact .failed htask
  | leave =>
      simp only [step] at h
      split at h
      · rename_i hmounted
        cases h
        exact .leave hmounted
      · cases h

end SharedPreferences

end FlutterApp
