import FlutterApp.Login.Login
import FlutterApp.PersistantStorage.AsText
import FlutterApp.PersistantStorage.FirestoreDB
import FlutterApp.PersistantStorage.SharedPreferences
import FlutterApp.Requests.RequestsExample
import FlutterApp.Todo.Screens

/-!
When setState is called on a disposed State.

No continuation of the program asks whether its screen is still there, and nothing is
cancelled when a screen is left. So setState stays on mounted States exactly in the runs
in which nothing that a screen waits for arrives after it has been left.
-/

namespace FlutterApp

/-- A screen with a single State: a call is late exactly when an event that reports back to
the State follows the one that leaves the screen. -/
theorem clean_iff_neverAfter {S E σ : Type*} {step : S → E → Option S} (widget : S → StateObject σ)
    (leaves : E → Prop) (reports : S → E → Prop) {s : S} (mounted : (widget s).mounted = true)
    (clean : (widget s).lateSetState = 0)
    (stays : ∀ mid e t, step mid e = some t →
      ((widget t).mounted = true ↔ (widget mid).mounted = true ∧ ¬ leaves e))
    (latched : ∀ mid e t, step mid e = some t → ((widget t).lateSetState = 0 ↔
      (widget mid).lateSetState = 0 ∧ (reports mid e → (widget mid).mounted = true)))
    {es : List E} {t : S} (h : EventSystem.run step s es = some t) :
    (widget t).lateSetState = 0 ↔ EventSystem.NeverAfter step leaves reports s es := by
  refine (EventSystem.run_induction (motive := fun es t =>
    ((widget t).mounted = true ↔ ¬ ∃ m ∈ es, leaves m) ∧
    ((widget t).lateSetState = 0 ↔ EventSystem.NeverAfter step leaves reports s es)) ?_ ?_ h).2
  · exact ⟨iff_of_true mounted (by simp), iff_of_true clean (EventSystem.neverAfter_nil _ _ _ _)⟩
  · intro es mid e t hrun ih hstep
    obtain ⟨hmounted, hclean⟩ := ih
    refine ⟨?_, ?_⟩
    · rw [stays mid e t hstep, hmounted]
      simp only [List.mem_append, List.mem_singleton, not_exists, not_and]
      constructor
      · intro hboth m hmem
        exact hmem.elim (hboth.1 m) fun heq => heq ▸ hboth.2
      · intro hall
        exact ⟨fun m hmem => hall m (Or.inl hmem), hall e (Or.inr rfl)⟩
    · rw [latched mid e t hstep, EventSystem.neverAfter_snoc e hrun, hclean, hmounted]
      exact and_congr_right fun _ => imp_not_comm

namespace FirestoreDB
variable {ι : Type} [DecidableEq ι]

def Leaves : Event ι → Prop
  | .leave => True
  | _ => False

/-- A snapshot arrives or a deletion completes. -/
def ChangesList (s : FirestoreDB ι) : Event ι → Prop
  | .snapshot _ => True
  | .completed i => ∃ w position tapped, s.writes[i]? = some w ∧ w.kind = .delete position tapped
  | _ => False

theorem clean_iff (supply : KeySupply ι) (c : Collection ι) (es : List (Event ι))
    (s : FirestoreDB ι) (h : EventSystem.run (step supply) (initial c) es = some s) :
    s.widget.lateSetState = 0 ↔
      EventSystem.NeverAfter (step supply) Leaves ChangesList (initial c) es := by
  refine clean_iff_neverAfter FirestoreDB.widget Leaves ChangesList rfl rfl ?_ ?_ h
  · intro mid e t hstep
    cases stepped hstep with
    | build _ | tap _ _ | insertValue _ | applied _ _ | failed _ _ | changed =>
        simp [Leaves, deleteValue, FirestoreDB.insertValue, write]
    | completed hwrite _ =>
        simp only [FirestoreDB.completed]
        split <;> simp [Leaves, fetchValues]
    | snapshot _ | leave _ => simp [Leaves]
  · intro mid e t hstep
    cases stepped hstep with
    | build _ | tap _ _ | insertValue _ | applied _ _ | failed _ _ | changed | leave _ =>
        simp [ChangesList, deleteValue, FirestoreDB.insertValue, write]
    | completed hwrite _ =>
        rename_i i w
        simp only [FirestoreDB.completed, ChangesList, hwrite]
        split
        · rename_i hkind
          simp [fetchValues, hkind]
        · rename_i hkind
          simp [hkind]
    | snapshot _ => simp [ChangesList]

end FirestoreDB

namespace Requests

def Leaves : Event → Prop
  | .leave => True
  | _ => False

/-- A 200 response arrives, whatever its body. -/
def Succeeds (_ : Requests) : Event → Prop
  | .answer _ (.response statusCode _) => statusCode = 200
  | _ => False

theorem clean_iff (decode : String → Except Thrown Dynamic) (es : List Event) (s : Requests)
    (h : EventSystem.run (step decode) initial es = some s) :
    s.widget.lateSetState = 0 ↔
      EventSystem.NeverAfter (step decode) Leaves Succeeds initial es := by
  refine clean_iff_neverAfter Requests.widget Leaves Succeeds rfl rfl ?_ ?_ h
  · intro mid e t hstep
    cases stepped hstep with
    | listData _ | build _ | leave _ => simp [Leaves]
    | answer _ => simp [Leaves, getData_mounted]
  · intro mid e t hstep
    cases stepped hstep with
    | listData _ | build _ | leave _ => simp [Succeeds]
    | answer houtstanding =>
        rename_i request answer
        cases answer with
        | failed _ => simp [Succeeds, getData]
        | response statusCode body =>
            simp only [Succeeds, getData]
            split <;> simp_all

end Requests

namespace TextStorage

def Leaves : Event → Prop
  | .leave => True
  | _ => False

/-- The text of a file arrives. -/
def FinishesRead (s : TextStorage) : Event → Prop
  | .resume i => ∃ text, s.tasks[i]? = some (.readDone text)
  | _ => False

theorem clean_iff (file : Option ByteArray) (es : List Event) (s : TextStorage)
    (h : EventSystem.run step (initial file) es = some s) :
    s.widget.lateSetState = 0 ↔
      EventSystem.NeverAfter step Leaves FinishesRead (initial file) es := by
  refine clean_iff_neverAfter TextStorage.widget Leaves FinishesRead rfl rfl ?_ ?_ h
  · intro mid e t hstep
    cases stepped hstep with
    | readData _ | writeData _ | failed _ | leave _ => simp [Leaves]
    | resume htask =>
        rename_i i task
        cases task <;> simp [Leaves, advance]
  · intro mid e t hstep
    cases stepped hstep with
    | readData _ | writeData _ | failed _ | leave _ => simp [FinishesRead]
    | resume htask =>
        rename_i i task
        cases task <;> simp [FinishesRead, advance, htask]

end TextStorage

namespace SharedPreferences
universe u
variable {σ ι : Type u}

def Leaves : Event ι → Prop
  | .leave => True
  | _ => False

/-- A load, the one of initState included, is given its instance. -/
def FinishesLoad (s : SharedPreferences σ) : Event ι → Prop
  | .resume i _ => s.tasks[i]? = some .loadSharedPreferencesData
  | _ => False

theorem clean_iff (plugin : PreferencesPlugin σ ι) (stored : σ) (es : List (Event ι))
    (s : SharedPreferences σ) (h : EventSystem.run (step plugin) (initial stored) es = some s) :
    s.widget.lateSetState = 0 ↔
      EventSystem.NeverAfter (step plugin) Leaves FinishesLoad (initial stored) es := by
  refine clean_iff_neverAfter SharedPreferences.widget Leaves FinishesLoad rfl rfl ?_ ?_ h
  · intro mid e t hstep
    cases stepped hstep with
    | loadSharedPreferencesData _ | saveData _ | failed _ | leave _ => simp [Leaves]
    | resume htask =>
        rename_i i task
        cases task <;> simp [Leaves, advance]
  · intro mid e t hstep
    cases stepped hstep with
    | loadSharedPreferencesData _ | saveData _ | failed _ | leave _ => simp [FinishesLoad]
    | resume htask =>
        rename_i i task
        cases task <;> simp [FinishesLoad, advance, htask]

end SharedPreferences

namespace Login

def Leaves : Event → Prop
  | .leave => True
  | _ => False

/-- A user who passes the assertions signs in, or the Google session is disconnected. -/
def SignsInOrOut (_ : Login) : Event → Prop
  | .resume _ (.user user) => assertUser user = .ok ()
  | .resume _ .disconnected => True
  | _ => False

theorem clean_iff (firebase : Option FirebaseUser) (google : Option GoogleSignInAccount)
    (es : List Event) (s : Login) (h : EventSystem.run step (initial firebase google) es = some s) :
    s.widget.lateSetState = 0 ↔
      EventSystem.NeverAfter step Leaves SignsInOrOut (initial firebase google) es := by
  refine clean_iff_neverAfter Login.widget Leaves SignsInOrOut rfl rfl ?_ ?_ h
  · intro mid e t hstep
    cases stepped hstep with
    | handleLoginGoogle _ | handleSignOut _ | refreshFails _ | leave _ =>
        simp [Leaves, signOutByForce]
    | resume htask hadvance =>
        cases advanced hadvance with
        | cancelled | account _ | authentication _ | idToken _ | invalidToken _ _ | currentUser _
        | failed _ _ | disconnected => simp [Leaves, assignCurrentUser, signOutByForce]
        | user _ _ | refused _ | disposed _ _ => simp [Leaves]
  · intro mid e t hstep
    cases stepped hstep with
    | handleLoginGoogle _ | handleSignOut _ | refreshFails _ | leave _ =>
        simp [SignsInOrOut, signOutByForce]
    | resume htask hadvance =>
        cases advanced hadvance with
        | cancelled | account _ | authentication _ | idToken _ | invalidToken _ _ | currentUser _
        | failed _ _ | disconnected => simp [SignsInOrOut, assignCurrentUser, signOutByForce]
        | user hassert hmounted => simp [SignsInOrOut, hmounted]
        | refused hassert => simp [SignsInOrOut, hassert]
        | disposed hassert hmounted => simp [SignsInOrOut, hassert, hmounted]

end Login

namespace Todo

def Clean (s : Todo) : Prop := ∀ w ∈ s.screens, w.lateSetState = 0

/-- The rows of a fetch arrive while its screen is on the navigation stack. -/
def FetchesOnStack (s : Todo) : Event → Prop
  | .resume i => ∀ n items, s.store.tasks[i]? = some (.fetched n items) → .todoApp n ∈ s.stack
  | _ => True

/-- The screen that a call reports back to. -/
def callScreen : Operation → Option Nat
  | .fetchValue n | .deleteItem n _ _ => some n
  | .insertUser _ _ => none

def taskScreen : Task → Option Nat
  | .awaitDb op | .awaitStatement op _ => callScreen op
  | .fetched n _ | .deleted n => some n
  | .closeDb | .closeConn _ => none

structure Addressed (s : Todo) : Prop where
  stacked : Stacked s
  known : ∀ task ∈ s.store.tasks, ∀ n, taskScreen task = some n → n < s.screens.length

theorem advance_taskScreen {supply : KeySupply Int} {mounted : Bool} {s : Store} {task : Task} :
    ∀ task' ∈ (Store.advance supply mounted s task).2, ∀ n, taskScreen task' = some n →
      taskScreen task = some n := by
  cases task with
  | awaitDb op => simp [Store.advance, taskScreen]
  | awaitStatement op conn =>
      simp only [Store.advance]
      split
      · cases op with
        | fetchValue m => simp [Store.execute, taskScreen, callScreen]
        | deleteItem m id tapped => simp [Store.execute, taskScreen, callScreen]
        | insertUser _ _ => simp only [Store.execute]; split <;> simp
      · simp
  | fetched m items => cases mounted <;> simp [Store.advance, taskScreen]
  | deleted m => simp [Store.advance, taskScreen, callScreen]
  | closeDb => simp [Store.advance, taskScreen]
  | closeConn conn => simp [Store.advance]

theorem resume_length (supply : KeySupply Int) (s : Todo) (i : Nat) (task : Task) :
    (s.resume supply i task).screens.length = s.screens.length := by
  cases task with
  | fetched n items => simp [resume, showItems]
  | awaitDb _ | awaitStatement _ _ | deleted _ | closeDb | closeConn _ => rfl

theorem known_resume (supply : KeySupply Int) {s : Todo} {i : Nat} {task : Task}
    (h : ∀ task ∈ s.store.tasks, ∀ n, taskScreen task = some n → n < s.screens.length)
    (hi : s.store.tasks[i]? = some task) (mounted : Bool) :
    ∀ task' ∈ (s.store.resumeTask supply mounted i task).tasks, ∀ n,
      taskScreen task' = some n → n < s.screens.length :=
  TaskPool.forall_mem_resume h fun task' hmem n hn =>
    h task (List.mem_of_getElem? hi) n (advance_taskScreen task' hmem n hn)

theorem known_call {s : Todo} {op : Operation} {length : Nat} (hle : s.screens.length ≤ length)
    (h : ∀ task ∈ s.store.tasks, ∀ n, taskScreen task = some n → n < s.screens.length)
    (hop : ∀ n, callScreen op = some n → n < length) :
    ∀ task ∈ (s.store.call op).tasks, ∀ n, taskScreen task = some n → n < length := by
  intro task hmem n hn
  cases List.mem_append.mp hmem with
  | inl hold => exact Nat.lt_of_lt_of_le (h task hold n hn) hle
  | inr hnew =>
      rw [List.mem_singleton.mp hnew] at hn
      exact hop n hn

theorem known_pushTodoApp {s : Todo}
    (h : ∀ task ∈ s.store.tasks, ∀ n, taskScreen task = some n → n < s.screens.length) :
    ∀ task ∈ s.pushTodoApp.store.tasks, ∀ n, taskScreen task = some n →
      n < s.pushTodoApp.screens.length := by
  have hlength : s.pushTodoApp.screens.length = s.screens.length + 1 := by
    simp [pushTodoApp, fetchValue]
  rw [hlength]
  apply known_call (Nat.le_succ _) h
  intro n hn
  cases hn
  exact Nat.lt_succ_self _

theorem addressed_initial (t₀ : Table) : Addressed (initial t₀) :=
  ⟨stacked_initial t₀, by simp [initial, Store.initial]⟩

theorem addressed_step {supply : KeySupply Int} {s t : Todo} {e : Event} (h : Addressed s)
    (hstep : step supply s e = some t) : Addressed t := by
  refine ⟨stacked_step h.stacked hstep, ?_⟩
  cases stepped hstep with
  | openTodoApp _ => exact known_pushTodoApp h.known
  | openAddUsers _ => exact h.known
  | insertValue hstack =>
      rename_i username password rest
      exact known_pushTodoApp (s := s.insertUser username password)
        (known_call (Nat.le_refl _) h.known nofun)
  | back hstack =>
      rename_i top below rest
      cases top with
      | addUsers => exact h.known
      | todoApp m => simpa [disposeTop] using h.known
  | build _ => simpa using h.known
  | tap hstack hw htapped =>
      simp only [onPointerDown]
      split
      · exact h.known
      · apply known_call (Nat.le_refl _) h.known
        intro n hn
        cases hn
        exact (List.getElem?_eq_some_iff.mp hw).1
  | resume htask =>
      rename_i i task
      rw [resume_length]
      cases task with
      | fetched n items => exact known_resume supply h.known htask (s.isMounted n)
      | awaitDb _ | awaitStatement _ _ | deleted _ | closeDb | closeConn _ =>
          exact known_resume supply h.known htask true

theorem clean_modify {screens : List (StateObject TodoFields)} (m : Nat)
    {f : StateObject TodoFields → StateObject TodoFields}
    (hf : ∀ w, (f w).lateSetState = w.lateSetState) :
    (∀ w ∈ screens.modify m f, w.lateSetState = 0) ↔ ∀ w ∈ screens, w.lateSetState = 0 := by
  have hlates : (screens.modify m f).map StateObject.lateSetState =
      screens.map StateObject.lateSetState := by
    apply List.ext_getElem?
    intro j
    simp only [List.getElem?_map, List.getElem?_modify]
    cases screens[j]? with
    | none => rfl
    | some w => by_cases hj : m = j <;> simp [hj, hf]
  rw [← List.forall_mem_map (f := StateObject.lateSetState) (P := fun late => late = 0), hlates,
    List.forall_mem_map]

theorem clean_showItems {s : Todo} {n : Nat} (items : List UserItem) (hn : n < s.screens.length) :
    (∀ w ∈ s.showItems n items, w.lateSetState = 0) ↔ Clean s ∧ s.isMounted n = true := by
  obtain ⟨w₀, hw₀⟩ : ∃ w, s.screens[n]? = some w := ⟨s.screens[n], List.getElem?_eq_getElem hn⟩
  have hshown : (w₀.setState fun fields => .ok { fields with databaseItems := some items }).1 ∈
      s.showItems n items := by
    apply List.mem_of_getElem? (i := n)
    simp [showItems, hw₀]
  have hmounted : s.isMounted n = w₀.mounted := by simp [isMounted, hw₀]
  rw [hmounted]
  constructor
  · intro hall
    have hthis := hall _ hshown
    rw [StateObject.setState_lateSetState] at hthis
    refine ⟨?_, by by_contra hm; simp [hm] at hthis⟩
    intro w hw
    obtain ⟨j, hj⟩ := List.mem_iff_getElem?.mp hw
    by_cases hjn : n = j
    · subst hjn
      rw [← Option.some.inj (hw₀.symm.trans hj)]
      exact Nat.eq_zero_of_add_eq_zero_right hthis
    · apply hall w (List.mem_of_getElem? (i := j) _)
      simp [showItems, hjn, hj]
  · intro hboth w hw
    cases mem_modify hw with
    | inl hold => exact hboth.1 w hold
    | inr hnew =>
        obtain ⟨w', hw', rfl⟩ := hnew
        obtain rfl : w₀ = w' := Option.some.inj (hw₀.symm.trans hw')
        rw [StateObject.setState_lateSetState, hboth.1 _ (List.mem_of_getElem? hw₀), hboth.2]
        rfl

theorem clean_step {supply : KeySupply Int} {s t : Todo} {e : Event} (h : Addressed s)
    (hstep : step supply s e = some t) : Clean t ↔ Clean s ∧ FetchesOnStack s e := by
  cases stepped hstep with
  | openTodoApp _ | insertValue _ =>
      simp [Clean, FetchesOnStack, pushTodoApp, fetchValue, insertUser, StateObject.initState,
        or_imp, forall_and]
  | openAddUsers _ => simp [Clean, FetchesOnStack]
  | back hstack =>
      rename_i top below rest
      cases top with
      | addUsers => simp [Clean, FetchesOnStack, disposeTop]
      | todoApp m =>
          exact (clean_modify (f := .dispose) m fun _ => rfl).trans (and_iff_left trivial).symm
  | build _ => exact (clean_modify _ (by simp)).trans (and_iff_left trivial).symm
  | tap _ _ _ =>
      simp only [onPointerDown]
      split <;> simp [Clean, FetchesOnStack]
  | resume htask =>
      rename_i i task
      cases task with
      | fetched n items =>
          have hn := h.known _ (List.mem_of_getElem? htask) n rfl
          have hcond : FetchesOnStack s (.resume i) ↔ s.isMounted n = true := by
            rw [h.stacked.mounted n]
            simp [FetchesOnStack, htask]
          rw [hcond]
          exact clean_showItems items hn
      | awaitDb _ | awaitStatement _ _ | deleted _ | closeDb | closeConn _ =>
          simp [Clean, FetchesOnStack, resume, htask]

theorem clean_iff (supply : KeySupply Int) (t₀ : Table) (es : List Event) (s : Todo)
    (h : EventSystem.run (step supply) (initial t₀) es = some s) :
    Clean s ↔ EventSystem.StepsMeet (step supply) FetchesOnStack (initial t₀) es :=
  EventSystem.run_fault_iff Addressed Clean (addressed_initial t₀) (by simp [Clean, initial])
    (fun _ _ _ hmid hstep => addressed_step hmid hstep)
    (fun _ _ _ hmid hstep => clean_step hmid hstep) h

end Todo

/-- For each screen and in each of its runs, setState was called only on mounted States
exactly when nothing that the screen waits for arrived after it had been left. -/
theorem setState_only_mounted_iff (supply : KeySupply Int) (t₀ : Table)
    {ι : Type} [DecidableEq ι] (documents : KeySupply ι) (c : Collection ι)
    (decode : String → Except Thrown Dynamic) (file : Option ByteArray)
    {σ κ : Type} (plugin : PreferencesPlugin σ κ) (stored : σ)
    (firebase : Option FirebaseUser) (google : Option GoogleSignInAccount) :
    (∀ es s, EventSystem.run (Todo.step supply) (Todo.initial t₀) es = some s →
      (Todo.Clean s ↔
        EventSystem.StepsMeet (Todo.step supply) Todo.FetchesOnStack (Todo.initial t₀) es)) ∧
    (∀ es s, EventSystem.run (FirestoreDB.step documents) (FirestoreDB.initial c) es = some s →
      (s.widget.lateSetState = 0 ↔ EventSystem.NeverAfter (FirestoreDB.step documents)
        FirestoreDB.Leaves FirestoreDB.ChangesList (FirestoreDB.initial c) es)) ∧
    (∀ es s, EventSystem.run (Requests.step decode) Requests.initial es = some s →
      (s.widget.lateSetState = 0 ↔ EventSystem.NeverAfter (Requests.step decode)
        Requests.Leaves Requests.Succeeds Requests.initial es)) ∧
    (∀ es s, EventSystem.run TextStorage.step (TextStorage.initial file) es = some s →
      (s.widget.lateSetState = 0 ↔ EventSystem.NeverAfter TextStorage.step
        TextStorage.Leaves TextStorage.FinishesRead (TextStorage.initial file) es)) ∧
    (∀ es s, EventSystem.run (SharedPreferences.step plugin)
        (SharedPreferences.initial stored) es = some s →
      (s.widget.lateSetState = 0 ↔ EventSystem.NeverAfter (SharedPreferences.step plugin)
        SharedPreferences.Leaves SharedPreferences.FinishesLoad
        (SharedPreferences.initial stored) es)) ∧
    (∀ es s, EventSystem.run Login.step (Login.initial firebase google) es = some s →
      (s.widget.lateSetState = 0 ↔ EventSystem.NeverAfter Login.step
        Login.Leaves Login.SignsInOrOut (Login.initial firebase google) es)) :=
  ⟨Todo.clean_iff supply t₀, FirestoreDB.clean_iff documents c, Requests.clean_iff decode,
    TextStorage.clean_iff file, SharedPreferences.clean_iff plugin stored,
    Login.clean_iff firebase google⟩

/-- A user is inserted, and the TodoApp that this pushes gets its rows before it is left. -/
def leftAfterFetched : List Todo.Event :=
  [.openAddUsers, .insertValue "ann" "secret", .resume 1, .resume 1, .resume 1, .back]

theorem setState_only_mounted_one_answer :
    (∃ s, EventSystem.run (Todo.step .largestPlusOne) (Todo.initial DatabaseHelper.onCreate)
        leftAfterFetched = some s ∧ s.stack = [.addUsers] ∧
      (Todo.Clean s ↔ EventSystem.StepsMeet (Todo.step .largestPlusOne) Todo.FetchesOnStack
        (Todo.initial DatabaseHelper.onCreate) leftAfterFetched)) ∧
    ∃ s, EventSystem.run (Requests.step Requests.decodeThree) Requests.initial
        [.listData, .answer 0 (.response 200 "[1]"), .leave] = some s ∧
      (s.widget.lateSetState = 0 ↔ EventSystem.NeverAfter (Requests.step Requests.decodeThree)
        Requests.Leaves Requests.Succeeds Requests.initial
        [.listData, .answer 0 (.response 200 "[1]"), .leave]) := by
  have heach := setState_only_mounted_iff .largestPlusOne DatabaseHelper.onCreate
    .largestPlusOne (.empty : Collection Int) Requests.decodeThree none .maps (fun _ _ => none)
    none none
  exact ⟨⟨_, rfl, rfl, heach.1 leftAfterFetched _ rfl⟩,
    ⟨_, rfl, heach.2.2.1 [.listData, .answer 0 (.response 200 "[1]"), .leave] _ rfl⟩⟩

/-- A TodoApp is left before its first fetch has finished. -/
def leftBeforeFetched : List Todo.Event :=
  [.openAddUsers, .insertValue "ann" "secret", .back, .resume 1, .resume 1, .resume 1]

theorem setState_after_leaving :
    ∃ s, EventSystem.run (Todo.step .largestPlusOne) (Todo.initial DatabaseHelper.onCreate)
        leftBeforeFetched = some s ∧
      s.stack = [.addUsers] ∧ s.screens.map StateObject.lateSetState = [1] ∧ ¬ Todo.Clean s := by
  refine ⟨_, rfl, rfl, rfl, ?_⟩
  intro h
  have hclean := h _ List.mem_cons_self
  cases hclean

end FlutterApp
