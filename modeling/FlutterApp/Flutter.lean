import FlutterApp.Dart

/-!
The State object of a screen, as the framework treats it. Leaving a screen disposes
its State; the continuations that refer to it may still run. setState on a disposed
State throws before its callback runs, and such calls are counted. A FutureBuilder is
subscribed to the future it was given last.
-/

namespace FlutterApp
universe u

structure StateObject (σ : Type u) where
  fields : σ
  mounted : Bool
  lateSetState : Nat
  deriving DecidableEq

namespace StateObject
variable {σ : Type u}

def initState (fields : σ) : StateObject σ := ⟨fields, true, 0⟩

def dispose (w : StateObject σ) : StateObject σ := { w with mounted := false }

/-- The callbacks of the program make one assignment each, so one that throws has
assigned nothing. -/
def setState (w : StateObject σ) (callback : σ → Except Thrown σ) :
    StateObject σ × Except Thrown Unit :=
  if w.mounted then
    match callback w.fields with
    | .ok fields => ({ w with fields := fields }, .ok ())
    | .error e => (w, .error e)
  else ({ w with lateSetState := w.lateSetState + 1 }, .error .flutterError)

@[simp] theorem dispose_mounted (w : StateObject σ) : w.dispose.mounted = false := rfl

@[simp] theorem dispose_lateSetState (w : StateObject σ) :
    w.dispose.lateSetState = w.lateSetState := rfl

@[simp] theorem setState_mounted (w : StateObject σ) (callback : σ → Except Thrown σ) :
    (w.setState callback).1.mounted = w.mounted := by
  simp only [setState]
  split
  · split <;> rfl
  · rfl

@[simp] theorem setState_lateSetState (w : StateObject σ) (callback : σ → Except Thrown σ) :
    (w.setState callback).1.lateSetState = w.lateSetState + if w.mounted then 0 else 1 := by
  simp only [setState]
  split
  · split <;> rfl
  · rfl

theorem setState_of_mounted {w : StateObject σ} (h : w.mounted = true)
    {callback : σ → Except Thrown σ} {fields : σ} (hc : callback w.fields = .ok fields) :
    w.setState callback = ({ w with fields := fields }, .ok ()) := by
  simp only [setState, h, if_true, hc]

theorem setState_of_disposed {w : StateObject σ} (h : w.mounted = false)
    (callback : σ → Except Thrown σ) :
    w.setState callback =
      ({ w with lateSetState := w.lateSetState + 1 }, .error .flutterError) := by
  simp [setState, h]

theorem setState_fields_of_error {w : StateObject σ} {callback : σ → Except Thrown σ}
    {e : Thrown} (h : callback w.fields = .error e) :
    (w.setState callback).1.fields = w.fields := by
  simp only [setState]
  split <;> simp only [h]

/-- A property of the fields that the callback establishes holds after the call. -/
theorem setState_keeps {w : StateObject σ} {callback : σ → Except Thrown σ} {P : σ → Prop}
    (h : P w.fields) (hcallback : ∀ fields, callback w.fields = .ok fields → P fields) :
    P (w.setState callback).1.fields := by
  simp only [setState]
  split
  · split
    · rename_i hfields
      exact hcallback _ hfields
    · exact h
  · exact h

end StateObject

/-- The texts of a ListTile. -/
structure RowTexts where
  title : String
  subtitle : String
  deriving DecidableEq

/-- A property of the list of a screen, once there is one, and of the rows that a build has
rendered. -/
structure ListMeets {α : Type u} (P : List α → Prop) (items : Option (List α)) (frame : List α) :
    Prop where
  list : ∀ rows, items = some rows → P rows
  rendered : frame = [] ∨ P frame

namespace ListMeets
variable {α : Type u} {P Q : List α → Prop} {items : Option (List α)} {frame : List α}

theorem imp (h : ListMeets P items frame) (himp : ∀ rows, P rows → Q rows) :
    ListMeets Q items frame :=
  ⟨fun rows hrows => himp rows (h.list rows hrows), h.rendered.imp id (himp frame)⟩

theorem assign {rows : List α} (h : ListMeets P items frame) (hrows : P rows) :
    ListMeets P (some rows) frame := by
  refine ⟨?_, h.rendered⟩
  intro rows' heq
  cases heq
  exact hrows

theorem build (h : ListMeets P items frame) : ListMeets P items (items.getD []) := by
  refine ⟨h.list, ?_⟩
  cases items with
  | none => exact Or.inl rfl
  | some rows => exact Or.inr (h.list rows rfl)

end ListMeets

/-- The element of a FutureBuilder. Futures are numbered, and data is what its snapshot
holds. -/
structure FutureBuilder (α : Type u) where
  future : Option Nat
  data : Option α
  dirty : Bool
  deriving DecidableEq

namespace FutureBuilder
variable {α : Type u}

def initState : FutureBuilder α := ⟨none, none, false⟩

/-- A new future replaces the subscription; the data stays until it completes. -/
def subscribe (b : FutureBuilder α) (future : Nat) : FutureBuilder α :=
  { b with future := some future }

/-- A future that fails leaves a snapshot without data. -/
def complete (b : FutureBuilder α) (future : Nat) (result : Except Thrown (Option α)) :
    FutureBuilder α :=
  if b.future = some future then
    { b with
      data := match result with
        | .ok data => data
        | .error _ => none
      dirty := true }
  else b

def dispose (b : FutureBuilder α) : FutureBuilder α := { b with future := none }

theorem complete_of_ne {b : FutureBuilder α} {future : Nat} (h : b.future ≠ some future)
    (result : Except Thrown (Option α)) : b.complete future result = b := by
  simp only [complete, h, if_false]

end FutureBuilder

end FlutterApp
