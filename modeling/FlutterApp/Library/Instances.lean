import FlutterApp.Library.EventSystem

/-!
Instances of one system, started one after another, whose events interleave. No event
concerns more than one of them, so each takes the steps that it would take alone.
-/

namespace Instances
universe u v
variable {S : Type u} {E : Type v}

/-- Instances are numbered in the order in which they are started. -/
inductive Event (S : Type u) (E : Type v) where
  | start (s : S)
  | take (i : Nat) (e : E)

def step (one : S → E → Option S) (instances : List S) : Event S E → Option (List S)
  | .start s => some (instances ++ [s])
  | .take i e => do
      let s ← instances[i]?
      let t ← one s e
      return instances.set i t

def started : List (Event S E) → List S
  | [] => []
  | .start s :: es => s :: started es
  | .take _ _ :: es => started es

/-- The events of one instance. -/
def taken (i : Nat) : List (Event S E) → List E
  | [] => []
  | .start _ :: es => taken i es
  | .take j e :: es => if j = i then e :: taken i es else taken i es

theorem started_append (es fs : List (Event S E)) :
    started (es ++ fs) = started es ++ started fs := by
  induction es with
  | nil => rfl
  | cons e es ih =>
      cases e with
      | start s => simp only [List.cons_append, started, ih]
      | take j e => simp only [List.cons_append, started, ih]

theorem taken_append (i : Nat) (es fs : List (Event S E)) :
    taken i (es ++ fs) = taken i es ++ taken i fs := by
  induction es with
  | nil => rfl
  | cons e es ih =>
      cases e with
      | start s => simp only [List.cons_append, taken, ih]
      | take j e =>
          simp only [List.cons_append, taken, ih]
          split <;> rfl

/-- An instance that has run alone on its own events from where it was started. -/
def RunAlone (one : S → E → Option S) (es : List (Event S E)) (i : Nat) (t : S) : Prop :=
  ∃ s, (started es)[i]? = some s ∧ EventSystem.run one s (taken i es) = some t

/-- What holds of the instances after any run. -/
structure AllAlone (one : S → E → Option S) (es : List (Event S E)) (instances : List S) :
    Prop where
  length_eq : instances.length = (started es).length
  alone : ∀ i t, instances[i]? = some t → RunAlone one es i t
  unborn : ∀ i, instances.length ≤ i → taken i es = []

theorem AllAlone.start {one : S → E → Option S} {es : List (Event S E)} {instances : List S}
    (h : AllAlone one es instances) (s : S) :
    AllAlone one (es ++ [.start s]) (instances ++ [s]) where
  length_eq := by simp [started_append, started, h.length_eq]
  alone := by
    intro i t hi
    rw [List.getElem?_append] at hi
    simp only [RunAlone, started_append, taken_append, taken, started, List.append_nil]
    split at hi
    · rename_i hlt
      obtain ⟨s', hs', hrun⟩ := h.alone i t hi
      exact ⟨s', by rwa [List.getElem?_append_left (h.length_eq ▸ hlt)], hrun⟩
    · rename_i hge
      have hle : instances.length ≤ i := Nat.le_of_not_lt hge
      obtain ⟨hzero, rfl⟩ := List.getElem?_eq_some_iff.mp hi
      have hlast : i = (started es).length := by
        have := h.length_eq
        simp only [List.length_singleton] at hzero
        omega
      refine ⟨s, by simp [hlast], ?_⟩
      simp [h.unborn i hle, EventSystem.run]
  unborn := by
    intro i hle
    rw [taken_append, h.unborn i (by simp at hle; omega)]
    rfl

theorem AllAlone.take {one : S → E → Option S} {es : List (Event S E)} {instances : List S}
    (h : AllAlone one es instances) {j : Nat} {e : E} {s t : S} (hj : instances[j]? = some s)
    (hstep : one s e = some t) : AllAlone one (es ++ [.take j e]) (instances.set j t) where
  length_eq := by simp [started_append, started, h.length_eq]
  alone := by
    intro i u hi
    simp only [RunAlone, started_append, taken_append, taken, started, List.append_nil]
    by_cases hij : j = i
    · subst hij
      have hlt : j < instances.length := (List.getElem?_eq_some_iff.mp hj).1
      obtain rfl : t = u := by simpa [List.getElem?_set, hlt] using hi
      obtain ⟨s', hs', hrun⟩ := h.alone j s hj
      rw [if_pos rfl]
      exact ⟨s', hs', EventSystem.run_snoc.mpr ⟨s, hrun, hstep⟩⟩
    · rw [List.getElem?_set_ne hij] at hi
      rw [if_neg hij, List.append_nil]
      exact h.alone i u hi
  unborn := by
    intro i hle
    rw [List.length_set] at hle
    have hlt : j < instances.length := (List.getElem?_eq_some_iff.mp hj).1
    rw [taken_append, h.unborn i hle, taken, if_neg (by omega)]
    rfl

theorem allAlone_run {one : S → E → Option S} {es : List (Event S E)} {instances : List S}
    (h : EventSystem.run (step one) [] es = some instances) : AllAlone one es instances := by
  refine EventSystem.run_induction (motive := AllAlone one) ?_ ?_ h
  · refine ⟨rfl, ?_, fun _ _ => rfl⟩
    intro i t hi
    simp at hi
  · intro es mid e t _ ih hstep
    cases e with
    | start s =>
        cases hstep
        exact ih.start s
    | take j e =>
        obtain ⟨s, hs, hrest⟩ := Option.bind_eq_some_iff.mp hstep
        obtain ⟨next, hnext, ht⟩ := Option.bind_eq_some_iff.mp hrest
        cases ht
        exact ih.take hs hnext

end Instances
