import FlutterApp.Todo.Rendering

/-!
The two text fields of AddUsers. A press of InsertValue reads them, pushes a TodoApp and
then clears them. The screens with their fields run as the screens without them, each
insertion being of the texts that stand in the fields on top.
-/

namespace FlutterApp

structure UserForm where
  usernameController : String
  passwordController : String
  deriving DecidableEq

/-- The fields after _clearFields, and of a new screen. -/
def UserForm.cleared : UserForm := ⟨"", ""⟩

structure TodoForms where
  todo : Todo
  /-- The fields of the AddUsers screens on the stack, the top first. -/
  forms : List UserForm

namespace TodoForms

open EventSystem

def initial (t : Table) : TodoForms := ⟨.initial t, []⟩

inductive Event where
  | editUsername (text : String)
  | editPassword (text : String)
  | insertValue
  /-- What happens on the screens, other than a press of InsertValue. -/
  | screens (e : Todo.Event)
  deriving DecidableEq

def isInsertion : Todo.Event → Bool
  | .insertValue _ _ => true
  | .openTodoApp | .openAddUsers | .back | .build _ | .tap _ | .resume _ => false

/-- The fields of the screens on the stack after an event. -/
def formsAfter (s : TodoForms) : Todo.Event → List UserForm
  | .openAddUsers => .cleared :: s.forms
  | .back =>
      match s.todo.stack with
      | .addUsers :: _ => s.forms.tail
      | _ => s.forms
  | .openTodoApp | .insertValue _ _ | .build _ | .tap _ | .resume _ => s.forms

/-- An edit of the fields on top. -/
def edit (s : TodoForms) (change : UserForm → UserForm) : Option TodoForms :=
  match s.todo.stack, s.forms with
  | .addUsers :: _, form :: forms => some { s with forms := change form :: forms }
  | _, _ => none

def step (supply : KeySupply Int) (s : TodoForms) : Event → Option TodoForms
  | .editUsername text => s.edit fun form => { form with usernameController := text }
  | .editPassword text => s.edit fun form => { form with passwordController := text }
  | .insertValue =>
      match s.forms with
      | form :: forms => do
          let todo ← Todo.step supply s.todo
            (.insertValue form.usernameController form.passwordController)
          return ⟨todo, .cleared :: forms⟩
      | [] => none
  | .screens e =>
      if isInsertion e = true then none
      else do
        let todo ← Todo.step supply s.todo e
        return ⟨todo, s.formsAfter e⟩

inductive Stepped (supply : KeySupply Int) (s : TodoForms) : Event → TodoForms → Prop
  | edit {e : Event} {rest : List Route} {form changed : UserForm} {forms : List UserForm} :
      (∀ e', e ≠ .screens e') → e ≠ .insertValue → s.todo.stack = .addUsers :: rest →
      s.forms = form :: forms → Stepped supply s e { s with forms := changed :: forms }
  | insertValue {form : UserForm} {forms : List UserForm} {todo : Todo} :
      s.forms = form :: forms → Todo.step supply s.todo
        (.insertValue form.usernameController form.passwordController) = some todo →
      Stepped supply s .insertValue ⟨todo, .cleared :: forms⟩
  | screens {e : Todo.Event} {todo : Todo} : isInsertion e = false →
      Todo.step supply s.todo e = some todo →
      Stepped supply s (.screens e) ⟨todo, s.formsAfter e⟩

section Run
variable {supply : KeySupply Int} {s t : TodoForms} {e : Event}

theorem edited {change : UserForm → UserForm} (h : s.edit change = some t)
    (hscreens : ∀ e', e ≠ .screens e') (hinsert : e ≠ .insertValue) :
    Stepped supply s e t := by
  simp only [edit] at h
  split at h
  · rename_i hstack hforms
    cases h
    exact .edit hscreens hinsert hstack hforms
  · cases h

theorem stepped (h : step supply s e = some t) : Stepped supply s e t := by
  cases e with
  | editUsername text => exact edited h (by simp) (by simp)
  | editPassword text => exact edited h (by simp) (by simp)
  | insertValue =>
      simp only [step] at h
      split at h
      · rename_i hforms
        obtain ⟨todo, htodo, h⟩ := Option.bind_eq_some_iff.mp h
        cases h
        exact .insertValue hforms htodo
      · cases h
  | screens e =>
      simp only [step] at h
      split at h
      · cases h
      · rename_i hother
        obtain ⟨todo, htodo, h⟩ := Option.bind_eq_some_iff.mp h
        cases h
        exact .screens (by simpa using hother) htodo

/-- The texts that a press of InsertValue inserts. -/
def typed (s : TodoForms) : Event → List UserForm
  | .insertValue => s.forms.head?.toList
  | .editUsername _ | .editPassword _ | .screens _ => []

def todoEvents (s : TodoForms) : Event → List Todo.Event
  | .insertValue => (typed s .insertValue).map fun form =>
      .insertValue form.usernameController form.passwordController
  | .screens e => if isInsertion e = true then [] else [e]
  | .editUsername _ | .editPassword _ => []

/-- The texts of the insertions among the events of the screens. -/
def insertions (es : List Todo.Event) : List UserForm :=
  es.filterMap fun
    | .insertValue username password => some ⟨username, password⟩
    | _ => none

theorem insertions_todoEvents (s : TodoForms) (e : Event) :
    insertions (todoEvents s e) = typed s e := by
  cases e with
  | editUsername _ | editPassword _ => rfl
  | insertValue =>
      simp only [todoEvents, typed]
      cases s.forms <;> rfl
  | screens e => cases e <;> rfl

theorem step_todo (h : step supply s e = some t) :
    run (Todo.step supply) s.todo (todoEvents s e) = some t.todo := by
  cases stepped h with
  | edit hscreens hinsert _ _ =>
      cases e with
      | editUsername _ | editPassword _ => rfl
      | insertValue => exact absurd rfl hinsert
      | screens e' => exact absurd rfl (hscreens e')
  | insertValue hforms htodo => simp [todoEvents, typed, hforms, run, htodo]
  | screens hother htodo => simp [todoEvents, hother, run, htodo]

theorem run_todo {t₀ : Table} {es : List Event} (h : run (step supply) (initial t₀) es = some s) :
    run (Todo.step supply) (.initial t₀) (trace (step supply) todoEvents (initial t₀) es) =
      some s.todo := by
  refine run_induction (motive := fun es s => run (Todo.step supply) (.initial t₀)
    (trace (step supply) todoEvents (initial t₀) es) = some s.todo) rfl ?_ h
  intro es mid e t hrun ih hstep
  rw [trace_snoc todoEvents e hrun, run_append, ih]
  exact step_todo hstep

theorem insertions_trace (t₀ : Table) (es : List Event) :
    insertions (trace (step supply) todoEvents (initial t₀) es) =
      trace (step supply) typed (initial t₀) es :=
  trace_map insertions rfl (fun _ _ => List.filterMap_append) insertions_todoEvents _ _

/-- The fields that are not on top. -/
def covered (s : TodoForms) : List UserForm :=
  match s.todo.stack with
  | .addUsers :: _ => s.forms.tail
  | _ => s.forms

/-- Each AddUsers of the stack has its fields, and those not on top are empty. -/
structure Kept (s : TodoForms) : Prop where
  length_eq : s.forms.length = s.todo.stack.count .addUsers
  cleared : ∀ form ∈ covered s, form = .cleared

theorem kept_of_same {todo : Todo} (h : Kept s) (hstack : todo.stack = s.todo.stack) :
    Kept ⟨todo, s.forms⟩ := by
  refine ⟨?_, ?_⟩
  · rw [hstack]
    exact h.length_eq
  · simp only [covered, hstack]
    exact h.cleared

theorem kept_openAddUsers (h : Kept s) (hstack : ∀ rest, s.todo.stack ≠ .addUsers :: rest) :
    Kept ⟨{ s.todo with stack := .addUsers :: s.todo.stack }, .cleared :: s.forms⟩ := by
  refine ⟨?_, ?_⟩
  · simp [h.length_eq]
  · have hcovered : covered s = s.forms := by
      cases htop : s.todo.stack with
      | nil => simp only [covered, htop]
      | cons top rest =>
          cases top with
          | todoApp screen => simp only [covered, htop]
          | addUsers => exact absurd htop (hstack rest)
    simpa only [covered, List.tail_cons, hcovered] using h.cleared

theorem kept_back {todo : Todo} {top : Route} {rest : List Route} (h : Kept s)
    (hstack : s.todo.stack = top :: rest) (hrest : todo.stack = rest) :
    Kept ⟨todo, s.formsAfter .back⟩ := by
  have hlength := h.length_eq
  have hcleared := h.cleared
  rw [hstack] at hlength
  -- whatever is on top then, it was covered before
  have hall : Kept ⟨todo, covered s⟩ := by
    refine ⟨?_, ?_⟩
    · rw [hrest]
      cases top with
      | todoApp screen =>
          simp only [covered, hstack]
          simpa using hlength
      | addUsers =>
          simp only [covered, hstack, List.length_tail, hlength]
          simp
    · intro form hform
      refine hcleared form ?_
      simp only [covered] at hform
      split at hform
      · exact List.mem_of_mem_tail hform
      · exact hform
  have hafter : s.formsAfter .back = covered s := by
    simp only [formsAfter, covered]
  rw [hafter]
  exact hall

theorem kept_screens {todo : Todo} {e : Todo.Event} (h : Kept s)
    (hother : isInsertion e = false) (hstep : Todo.step supply s.todo e = some todo) :
    Kept ⟨todo, s.formsAfter e⟩ := by
  cases Todo.stepped hstep with
  | openTodoApp hstack =>
      have hforms := h.length_eq
      rw [hstack] at hforms
      have hnil : s.forms = [] := by simpa using hforms
      refine ⟨?_, ?_⟩
      · simp [formsAfter, hnil, Todo.pushTodoApp, Todo.fetchValue, hstack]
      · simp [covered, formsAfter, hnil, Todo.pushTodoApp, Todo.fetchValue]
  | openAddUsers hstack => exact kept_openAddUsers h hstack
  | insertValue _ => cases hother
  | back hstack => exact kept_back h hstack rfl
  | build _ => exact kept_of_same h rfl
  | tap _ _ _ =>
      refine kept_of_same h ?_
      simp only [Todo.onPointerDown]
      split <;> rfl
  | @resume i task _ =>
      refine kept_of_same h ?_
      cases task <;> rfl

theorem kept_step (h : Kept s) (hstep : step supply s e = some t) : Kept t := by
  cases stepped hstep with
  | edit _ _ hstack hforms =>
      refine ⟨?_, ?_⟩
      · simpa [hforms] using h.length_eq
      · simpa [covered, hstack, hforms] using h.cleared
  | insertValue hforms htodo =>
      cases Todo.stepped htodo with
      | insertValue hstack =>
          have hlength := h.length_eq
          have hcleared := h.cleared
          refine ⟨?_, ?_⟩
          · simpa [hforms, Todo.pushTodoApp, Todo.fetchValue, Todo.insertUser] using hlength
          · simpa [covered, hstack, hforms, Todo.pushTodoApp, Todo.fetchValue, Todo.insertUser]
              using hcleared
  | screens hother htodo => exact kept_screens h hother htodo

theorem kept_run {t₀ : Table} {es : List Event}
    (h : run (step supply) (initial t₀) es = some s) : Kept s := by
  refine run_invariant Kept ⟨rfl, ?_⟩ (fun _ _ _ => kept_step) h
  exact List.forall_mem_nil _

/-- The texts of a press, or those of a row that was stored at first. -/
def TypedOrStored (supply : KeySupply Int) (t₀ : Table) (es : List Event) (row : Row) : Prop :=
  row ∈ t₀.rows ∨ ∃ form ∈ trace (step supply) typed (initial t₀) es,
    row.username = some form.usernameController ∧ row.password = some form.passwordController

theorem rows_typed {t₀ : Table} {es : List Event}
    (h : run (step supply) (initial t₀) es = some s) :
    Todo.Holds (TypedOrStored supply t₀ es) s.todo := by
  refine Todo.holds_run (run_todo h) (fun row hrow => Or.inl hrow) ?_
  intro username password hmem id
  refine Or.inr ⟨⟨username, password⟩, ?_, rfl, rfl⟩
  rw [← insertions_trace]
  exact List.mem_filterMap.mpr ⟨_, hmem, rfl⟩

end Run

/-- In every run of the Todo screens with the fields of AddUsers, the screens run as they do
without fields, with one insertion for each press of InsertValue, of the two texts that
stand in the fields on top; the fields of every AddUsers that is covered are empty; and
every row of a list is one of the first table or has the texts of one such press. -/
theorem forms_reach_rows {supply : KeySupply Int} {t₀ : Table} {s : TodoForms}
    {es : List Event} (h : run (step supply) (initial t₀) es = some s) :
    (∃ events, run (Todo.step supply) (.initial t₀) events = some s.todo ∧
        insertions events = trace (step supply) typed (initial t₀) es) ∧
      s.forms.length = s.todo.stack.count .addUsers ∧
      (∀ form ∈ covered s, form = .cleared) ∧
      ∀ w ∈ s.todo.screens, ∀ item ∈ w.fields.databaseItems.getD [],
        TypedOrStored supply t₀ es item.row := by
  refine ⟨⟨_, run_todo h, insertions_trace t₀ es⟩, (kept_run h).length_eq, (kept_run h).cleared, ?_⟩
  intro w hw item hitem
  exact ((rows_typed h).screens w hw).1 item hitem

/-- Ann is typed and inserted, and the TodoApp that shows her is left again. -/
def annTyped : List Event :=
  [.screens .openAddUsers, .editUsername "ann", .editPassword "secret", .insertValue,
    .screens (.resume 0), .screens (.resume 1), .screens (.resume 0), .screens (.resume 0),
    .screens (.resume 0), .screens .back]

theorem forms_reach_rows_ann :
    ∃ s, run (step .largestPlusOne) (initial DatabaseHelper.onCreate) annTyped = some s ∧
      s.todo.stack = [.addUsers] ∧ s.forms.length = 1 ∧
      trace (step .largestPlusOne) typed (initial DatabaseHelper.onCreate) annTyped =
        [⟨"ann", "secret"⟩] ∧
      ∃ events, run (Todo.step .largestPlusOne) (.initial DatabaseHelper.onCreate) events =
          some s.todo ∧ insertions events = [⟨"ann", "secret"⟩] := by
  obtain ⟨⟨events, hrun, hinsertions⟩, hlength, -, -⟩ :=
    @forms_reach_rows .largestPlusOne DatabaseHelper.onCreate _ annTyped rfl
  exact ⟨_, rfl, rfl, hlength, rfl, events, hrun, hinsertions⟩

end TodoForms

end FlutterApp
