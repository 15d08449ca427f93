import FlutterApp.Flutter
import FlutterApp.PersistantStorage.Connections

/-!
The screens TodoApp and AddUsers over the shared database.

Pushing a TodoApp runs its initState, which starts a fetch; the screens below keep
their State objects and are not refreshed when they are uncovered. A row is rendered
when the screen is rebuilt, while its icon looks the row up again when it is tapped.
-/

namespace FlutterApp

/-- The State of a TodoApp: its list, and the rows that the last build rendered. -/
structure TodoFields where
  databaseItems : Option (List UserItem)
  frame : List UserItem
  deriving DecidableEq

inductive Route where
  | todoApp (screen : Nat)
  | addUsers
  deriving DecidableEq

/-- Screens are numbered in the order in which they were pushed. The top of the stack
comes first. -/
structure Todo where
  store : Store
  screens : List (StateObject TodoFields)
  stack : List Route
  rangeErrors : Nat

namespace Todo

def initial (t : Table) : Todo := ⟨.initial t, [], [], 0⟩

def fetchValue (s : Todo) (screen : Nat) : Todo :=
  { s with store := s.store.call (.fetchValue screen) }

def pushTodoApp (s : Todo) : Todo :=
  { s with
    screens := s.screens ++ [StateObject.initState (⟨none, []⟩ : TodoFields)]
    stack := .todoApp s.screens.length :: s.stack }.fetchValue s.screens.length

def insertUser (s : Todo) (username password : String) : Todo :=
  { s with store := s.store.call (.insertUser username password) }

def disposeTop (s : Todo) : Route → List (StateObject TodoFields)
  | .todoApp screen => s.screens.modify screen .dispose
  | .addUsers => s.screens

/-- The handler onPointerDown of the row at an index. -/
def onPointerDown (s : Todo) (screen : Nat) (fields : TodoFields) (index : Nat)
    (tapped : UserItem) : Todo :=
  match (fields.databaseItems.getD [])[index]? with
  | none => { s with rangeErrors := s.rangeErrors + 1 }
  | some item => { s with store := s.store.call (.deleteItem screen item.row.id tapped) }

/-- The callback of a finished fetch, which is the only continuation that calls setState. -/
def showItems (s : Todo) (screen : Nat) (rows : List UserItem) : List (StateObject TodoFields) :=
  s.screens.modify screen fun w =>
    (w.setState fun fields => .ok { fields with databaseItems := some rows }).1

def isMounted (s : Todo) (screen : Nat) : Bool :=
  (s.screens[screen]?.map StateObject.mounted).getD false

inductive Event where
  /-- The application opens with a TodoApp, or with an AddUsers when nothing is open. -/
  | openTodoApp
  | openAddUsers
  | insertValue (username password : String)
  | back
  | build (screen : Nat)
  | tap (index : Nat)
  | resume (i : Nat)
  deriving DecidableEq

def resume (supply : KeySupply Int) (s : Todo) (i : Nat) : Task → Todo
  | .fetched screen rows =>
      { s with
        store := s.store.resumeTask supply (s.isMounted screen) i (.fetched screen rows)
        screens := s.showItems screen rows }
  | task => { s with store := s.store.resumeTask supply true i task }

def step (supply : KeySupply Int) (s : Todo) : Event → Option Todo
  | .openTodoApp =>
      match s.stack with
      | [] => some s.pushTodoApp
      | _ => none
  | .openAddUsers =>
      match s.stack with
      | .addUsers :: _ => none
      | _ => some { s with stack := .addUsers :: s.stack }
  | .insertValue username password =>
      match s.stack with
      | .addUsers :: _ => some (s.insertUser username password).pushTodoApp
      | _ => none
  | .back =>
      match s.stack with
      | top :: below :: rest =>
          some { s with screens := s.disposeTop top, stack := below :: rest }
      | _ => none
  | .build screen =>
      if s.isMounted screen then
        some { s with screens := s.screens.modify screen fun w =>
          { w with fields := { w.fields with frame := w.fields.databaseItems.getD [] } } }
      else none
  | .tap index =>
      match s.stack with
      | .todoApp screen :: _ => do
          let w ← s.screens[screen]?
          let tapped ← w.fields.frame[index]?
          some (s.onPointerDown screen w.fields index tapped)
      | _ => none
  | .resume i => s.store.tasks[i]?.map (s.resume supply i)

theorem mem_modify {α : Type*} {xs : List α} {i : Nat} {f : α → α} {x : α}
    (h : x ∈ xs.modify i f) : x ∈ xs ∨ ∃ y, xs[i]? = some y ∧ x = f y := by
  obtain ⟨j, hj⟩ := List.mem_iff_getElem?.mp h
  rw [List.getElem?_modify] at hj
  obtain ⟨y, hy, hx⟩ := Option.map_eq_some_iff.mp hj
  by_cases hij : i = j
  · subst hij
    exact Or.inr ⟨y, hy, by simpa using hx.symm⟩
  · rw [if_neg hij] at hx
    exact Or.inl (List.mem_of_getElem? (hx ▸ hy))

inductive Stepped (supply : KeySupply Int) (s : Todo) : Event → Todo → Prop
  | openTodoApp : s.stack = [] → Stepped supply s .openTodoApp s.pushTodoApp
  | openAddUsers : (∀ rest, s.stack ≠ .addUsers :: rest) →
      Stepped supply s .openAddUsers { s with stack := .addUsers :: s.stack }
  | insertValue {username password : String} {rest : List Route} :
      s.stack = .addUsers :: rest → Stepped supply s (.insertValue username password)
        (s.insertUser username password).pushTodoApp
  | back {top below : Route} {rest : List Route} : s.stack = top :: below :: rest →
      Stepped supply s .back { s with screens := s.disposeTop top, stack := below :: rest }
  | build {screen : Nat} : s.isMounted screen = true → Stepped supply s (.build screen)
      { s with screens := s.screens.modify screen fun w =>
        { w with fields := { w.fields with frame := w.fields.databaseItems.getD [] } } }
  | tap {index screen : Nat} {rest : List Route} {w : StateObject TodoFields}
      {tapped : UserItem} : s.stack = .todoApp screen :: rest → s.screens[screen]? = some w →
      w.fields.frame[index]? = some tapped →
      Stepped supply s (.tap index) (s.onPointerDown screen w.fields index tapped)
  | resume {i : Nat} {task : Task} : s.store.tasks[i]? = some task →
      Stepped supply s (.resume i) (s.resume supply i task)

theorem stepped {supply : KeySupply Int} {s t : Todo} {e : Event}
    (h : step supply s e = some t) : Stepped supply s e t := by
  cases e with
  | openTodoApp =>
      simp only [step] at h
      split at h
      · rename_i hstack
        cases h
        exact .openTodoApp hstack
      · cases h
  | openAddUsers =>
      simp only [step] at h
      split at h
      · cases h
      · rename_i hstack
        cases h
        exact .openAddUsers hstack
  | insertValue username password =>
      simp only [step] at h
      split at h
      · rename_i hstack
        cases h
        exact .insertValue hstack
      · cases h
  | back =>
      simp only [step] at h
      split at h
      · rename_i hstack
        cases h
        exact .back hstack
      · cases h
  | build screen =>
      simp only [step] at h
      split at h
      · rename_i hmounted
        cases h
        exact .build hmounted
      · cases h
  | tap index =>
      simp only [step] at h
      split at h
      · rename_i hstack
        obtain ⟨w, hw, h⟩ := Option.bind_eq_some_iff.mp h
        obtain ⟨tapped, htapped, h⟩ := Option.bind_eq_some_iff.mp h
        cases h
        exact .tap hstack hw htapped
      · cases h
  | resume i =>
      obtain ⟨task, htask, rfl⟩ := Option.map_eq_some_iff.mp h
      exact .resume htask

structure Stacked (s : Todo) : Prop where
  mounted : ∀ n, s.isMounted n = true ↔ .todoApp n ∈ s.stack
  distinct : s.stack.Pairwise fun above below => ∀ n, above = .todoApp n → below ≠ .todoApp n

theorem isMounted_lt {s : Todo} {n : Nat} (h : s.isMounted n = true) : n < s.screens.length := by
  apply Classical.byContradiction
  intro hge
  simp [isMounted, List.getElem?_eq_none (Nat.le_of_not_lt hge)] at h

theorem mounted_modify {screens : List (StateObject TodoFields)} {m n : Nat}
    {f : StateObject TodoFields → StateObject TodoFields}
    (hf : m = n → ∀ w, (f w).mounted = w.mounted) :
    (screens.modify m f)[n]?.map StateObject.mounted = screens[n]?.map StateObject.mounted := by
  rw [List.getElem?_modify]
  by_cases hmn : m = n
  · cases screens[n]? with
    | none => rfl
    | some w => simp [hmn, hf hmn w]
  · simp [hmn]

theorem stacked_initial (t : Table) : Stacked (initial t) :=
  ⟨by simp [initial, isMounted], by simp [initial]⟩

theorem stacked_of_screens {s : Todo} (h : Stacked s) {store : Store}
    {screens : List (StateObject TodoFields)} {rangeErrors : Nat}
    (hscreens : ∀ n : Nat, screens[n]?.map StateObject.mounted =
      s.screens[n]?.map StateObject.mounted) :
    Stacked ⟨store, screens, s.stack, rangeErrors⟩ := by
  refine ⟨?_, h.distinct⟩
  intro n
  simp only [isMounted, hscreens n]
  exact h.mounted n

theorem stacked_pushTodoApp {s : Todo} (h : Stacked s) : Stacked s.pushTodoApp := by
  have hnew : .todoApp s.screens.length ∉ s.stack := fun hmem =>
    Nat.lt_irrefl _ (isMounted_lt ((h.mounted _).mpr hmem))
  refine ⟨?_, List.pairwise_cons.mpr ⟨?_, h.distinct⟩⟩
  · intro n
    by_cases hn : n = s.screens.length
    · subst hn
      simp [isMounted, pushTodoApp, fetchValue, StateObject.initState]
    · have hold : s.pushTodoApp.isMounted n = s.isMounted n := by
        simp only [isMounted, pushTodoApp, fetchValue]
        by_cases hlt : n < s.screens.length
        · rw [List.getElem?_append_left hlt]
        · rw [List.getElem?_eq_none (by simp; omega), List.getElem?_eq_none (by omega)]
      rw [hold, h.mounted n]
      simp [pushTodoApp, fetchValue, hn]
  · intro below hbelow n htop heq
    cases htop
    exact hnew (heq ▸ hbelow)

theorem stacked_back {s : Todo} (h : Stacked s) {top : Route} {rest : List Route}
    (hstack : s.stack = top :: rest) :
    Stacked { s with screens := s.disposeTop top, stack := rest } := by
  have hdistinct := h.distinct
  rw [hstack, List.pairwise_cons] at hdistinct
  refine ⟨?_, hdistinct.2⟩
  intro n
  have hm := h.mounted n
  rw [hstack, List.mem_cons] at hm
  cases top with
  | addUsers => simpa [isMounted, disposeTop] using hm
  | todoApp m =>
      simp only [isMounted, disposeTop]
      by_cases hmn : m = n
      · subst hmn
        have hgone : .todoApp m ∉ rest := fun hmem => hdistinct.1 _ hmem m rfl rfl
        simp only [hgone, iff_false, List.getElem?_modify]
        cases s.screens[m]? <;> simp
      · rw [mounted_modify fun heq => absurd heq hmn]
        simpa [isMounted, Ne.symm hmn] using hm

theorem stacked_resume {supply : KeySupply Int} {s : Todo} (h : Stacked s) (i : Nat)
    (task : Task) : Stacked (s.resume supply i task) := by
  cases task with
  | fetched screen rows =>
      apply stacked_of_screens h
      intro n
      exact mounted_modify fun _ w => StateObject.setState_mounted w _
  | awaitDb _ | awaitStatement _ _ | deleted _ | closeDb | closeConn _ =>
      exact stacked_of_screens h fun _ => rfl

theorem stacked_step {supply : KeySupply Int} {s t : Todo} {e : Event} (h : Stacked s)
    (hstep : step supply s e = some t) : Stacked t := by
  cases stepped hstep with
  | openTodoApp hstack => exact stacked_pushTodoApp h
  | openAddUsers hstack =>
      refine ⟨?_, List.pairwise_cons.mpr ⟨?_, h.distinct⟩⟩
      · intro n
        simpa [isMounted] using h.mounted n
      · intro below hbelow n htop
        cases htop
  | insertValue hstack => exact stacked_pushTodoApp ⟨h.mounted, h.distinct⟩
  | back hstack => exact stacked_back h hstack
  | build hmounted => exact stacked_of_screens h fun n => mounted_modify fun _ _ => rfl
  | tap hstack hw htapped =>
      simp only [onPointerDown]
      split <;> exact ⟨h.mounted, h.distinct⟩
  | resume htask => exact stacked_resume h _ _

theorem step_store {supply : KeySupply Int} {s t : Todo} {e : Event}
    (h : step supply s e = some t) :
    ∃ es, EventSystem.run (Store.step supply) s.store es = some t.store := by
  cases stepped h with
  | openTodoApp hstack => exact ⟨[.call (.fetchValue s.screens.length)], rfl⟩
  | openAddUsers hstack => exact ⟨[], rfl⟩
  | insertValue hstack =>
      rename_i username password rest
      exact ⟨[.call (.insertUser username password), .call (.fetchValue s.screens.length)], rfl⟩
  | back hstack => exact ⟨[], rfl⟩
  | build hmounted => exact ⟨[], rfl⟩
  | tap hstack hw htapped =>
      simp only [onPointerDown]
      split
      · exact ⟨[], rfl⟩
      · exact ⟨[.call (.deleteItem _ _ _)], rfl⟩
  | resume htask =>
      rename_i i task
      cases task with
      | fetched screen rows =>
          exact ⟨[.resume i (s.isMounted screen)], by
            simp [EventSystem.run, Store.step, htask, resume]⟩
      | awaitDb _ | awaitStatement _ _ | deleted _ | closeDb | closeConn _ =>
          exact ⟨[.resume i true], by simp [EventSystem.run, Store.step, htask, resume]⟩

theorem run_store {supply : KeySupply Int} {t₀ : Table} {s : Todo} {es : List Event}
    (h : EventSystem.run (step supply) (initial t₀) es = some s) :
    ∃ fs, EventSystem.run (Store.step supply) (.initial t₀) fs = some s.store :=
  EventSystem.run_simulation (Store.step supply) Todo.store
    (fun _ _ _ hstep => step_store hstep) h

end Todo

end FlutterApp
