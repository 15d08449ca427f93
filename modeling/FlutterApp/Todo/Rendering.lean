import FlutterApp.Requests.RowTaps
import FlutterApp.Todo.Freshness

/-!
What the rows of a TodoApp show. Only the table's first rows can lack a text: whatever the
interleaving of fetches, insertions and deletions, every other row of a list has the two
texts of one press of InsertValue, and is rendered as they were typed.
-/

namespace FlutterApp

/-- What an insertion stores has the property under any id. -/
def Operation.Inserts (Q : Row → Prop) : Operation → Prop
  | .fetchValue _ | .deleteItem _ _ _ => True
  | .insertUser username password => ∀ id, Q ⟨id, username, password⟩

def Task.Carries (Q : Row → Prop) : Task → Prop
  | .awaitDb op | .awaitStatement op _ => op.Inserts Q
  | .fetched _ rows => ∀ item ∈ rows, Q item.row
  | .deleted _ | .closeDb | .closeConn _ => True

namespace Store

structure Holds (Q : Row → Prop) (s : Store) : Prop where
  table : ∀ row ∈ s.table.rows, Q row
  tasks : ∀ task ∈ s.tasks, task.Carries Q

theorem effect_holds {Q : Row → Prop} {supply : KeySupply Int} {t : Table} {op : Operation}
    (ht : ∀ row ∈ t.rows, Q row) (hop : op.Inserts Q) :
    ∀ row ∈ (effect supply t op).rows, Q row := by
  cases op with
  | fetchValue _ => exact ht
  | deleteItem screen id tapped =>
      simp only [effect, deleteUser_rows]
      exact fun row hrow => ht row (List.mem_of_mem_filter hrow)
  | insertUser username password =>
      rw [effect_insertUser_rows]
      exact List.forall_mem_append.mpr ⟨ht, List.forall_mem_singleton.mpr (hop _)⟩

theorem execute_carries {Q : Row → Prop} {supply : KeySupply Int} {s : Store} (op : Operation)
    (h : ∀ row ∈ s.table.rows, Q row) :
    ∀ started ∈ (execute supply s op).2, started.Carries Q := by
  cases op with
  | fetchValue screen =>
      refine List.forall_mem_singleton.mpr ?_
      intro item hitem
      obtain ⟨row, hrow, rfl⟩ := List.mem_map.mp hitem
      exact h row hrow
  | deleteItem screen id tapped => exact List.forall_mem_singleton.mpr trivial
  | insertUser username password =>
      simp only [execute]
      split <;> exact List.forall_mem_nil _

theorem advance_holds {Q : Row → Prop} {supply : KeySupply Int} {mounted : Bool} {s : Store}
    {task : Task} (h : ∀ row ∈ s.table.rows, Q row) (htask : task.Carries Q) :
    (∀ row ∈ (advance supply mounted s task).1.table.rows, Q row) ∧
      ∀ started ∈ (advance supply mounted s task).2, started.Carries Q := by
  cases task with
  | awaitDb op => exact ⟨h, List.forall_mem_singleton.mpr htask⟩
  | awaitStatement op conn =>
      simp only [advance]
      split
      · refine ⟨?_, execute_carries op h⟩
        rw [execute_table]
        exact effect_holds h htask
      · exact ⟨h, List.forall_mem_nil _⟩
  | fetched screen rows => cases mounted <;> exact ⟨h, by simp [advance, Task.Carries]⟩
  | deleted screen =>
      exact ⟨h, by simp [advance, Task.Carries, Operation.Inserts]⟩
  | closeDb | closeConn conn => exact ⟨h, by simp [advance, Task.Carries]⟩

theorem holds_resume {Q : Row → Prop} (supply : KeySupply Int) (mounted : Bool) {s : Store}
    {i : Nat} {task : Task} (h : Holds Q s) (hi : s.tasks[i]? = some task) :
    Holds Q (resumeTask supply mounted s i task) := by
  obtain ⟨htable, hstarted⟩ := @advance_holds Q supply mounted s task h.table
    (h.tasks task (List.mem_of_getElem? hi))
  exact ⟨htable, TaskPool.forall_mem_resume h.tasks hstarted⟩

theorem holds_call {Q : Row → Prop} {s : Store} {op : Operation} (h : Holds Q s)
    (hop : op.Inserts Q) : Holds Q (s.call op) :=
  ⟨h.table, List.forall_mem_append.mpr ⟨h.tasks, List.forall_mem_singleton.mpr hop⟩⟩

end Store

namespace Todo

/-- The rows of the list and of the last build. -/
def Shows (Q : Row → Prop) (w : StateObject TodoFields) : Prop :=
  (∀ item ∈ w.fields.databaseItems.getD [], Q item.row) ∧ ∀ item ∈ w.fields.frame, Q item.row

structure Holds (Q : Row → Prop) (s : Todo) : Prop where
  store : s.store.Holds Q
  screens : ∀ w ∈ s.screens, Shows Q w

section Step
variable {Q : Row → Prop} {supply : KeySupply Int} {s t : Todo}

theorem shows_modify {screens : List (StateObject TodoFields)} {screen : Nat}
    {f : StateObject TodoFields → StateObject TodoFields} (h : ∀ w ∈ screens, Shows Q w)
    (hf : ∀ w ∈ screens, Shows Q (f w)) : ∀ w ∈ screens.modify screen f, Shows Q w := by
  intro w hw
  cases mem_modify hw with
  | inl hold => exact h w hold
  | inr hnew =>
      obtain ⟨w', hw', rfl⟩ := hnew
      exact hf w' (List.mem_of_getElem? hw')

theorem holds_pushTodoApp (h : Holds Q s) : Holds Q s.pushTodoApp := by
  refine ⟨Store.holds_call h.store trivial, List.forall_mem_append.mpr ⟨h.screens, ?_⟩⟩
  refine List.forall_mem_singleton.mpr ⟨?_, List.forall_mem_nil _⟩
  exact List.forall_mem_nil _

theorem holds_resume {i : Nat} {task : Task} (h : Holds Q s)
    (hi : s.store.tasks[i]? = some task) : Holds Q (s.resume supply i task) := by
  cases task with
  | fetched screen rows =>
      refine ⟨Store.holds_resume supply _ h.store hi, shows_modify h.screens ?_⟩
      intro w hw
      have hrows := h.store.tasks _ (List.mem_of_getElem? hi)
      refine ⟨?_, ?_⟩
      · refine @StateObject.setState_keeps _ w _ (fun fields =>
          ∀ item ∈ fields.databaseItems.getD [], Q item.row) (h.screens w hw).1 ?_
        intro fields hfields
        cases hfields
        exact hrows
      · refine @StateObject.setState_keeps _ w _ (fun fields =>
          ∀ item ∈ fields.frame, Q item.row) (h.screens w hw).2 ?_
        intro fields hfields
        cases hfields
        exact (h.screens w hw).2
  | awaitDb _ | awaitStatement _ _ | deleted _ | closeDb | closeConn _ =>
      exact ⟨Store.holds_resume supply true h.store hi, h.screens⟩

theorem holds_step {e : Event} (h : Holds Q s)
    (htyped : ∀ username password : String, e = .insertValue username password →
      ∀ id, Q ⟨id, username, password⟩)
    (hstep : step supply s e = some t) : Holds Q t := by
  cases stepped hstep with
  | openTodoApp _ => exact holds_pushTodoApp h
  | openAddUsers _ => exact ⟨h.store, h.screens⟩
  | @insertValue username password rest hstack =>
      have hcall : Store.Holds Q (s.insertUser username password).store :=
        Store.holds_call h.store (htyped username password rfl)
      exact holds_pushTodoApp ⟨hcall, h.screens⟩
  | @back top below rest hstack =>
      refine ⟨h.store, ?_⟩
      cases top with
      | todoApp screen => exact shows_modify h.screens h.screens
      | addUsers => exact h.screens
  | build _ =>
      refine ⟨h.store, shows_modify h.screens ?_⟩
      exact fun w hw => ⟨(h.screens w hw).1, (h.screens w hw).1⟩
  | tap _ _ _ =>
      simp only [onPointerDown]
      split
      · exact ⟨h.store, h.screens⟩
      · exact ⟨Store.holds_call h.store trivial, h.screens⟩
  | resume htask => exact holds_resume h htask

/-- A property of the table's first rows and of every user that is typed is one of all rows. -/
theorem holds_run {t₀ : Table} {es : List Event}
    (h : EventSystem.run (step supply) (initial t₀) es = some s) (hstored : ∀ row ∈ t₀.rows, Q row)
    (htyped : ∀ username password : String, .insertValue username password ∈ es →
      ∀ id, Q ⟨id, username, password⟩) : Holds Q s := by
  refine EventSystem.run_invariant_of_events (Holds Q)
    (fun e => ∀ username password : String, e = .insertValue username password →
      ∀ id, Q ⟨id, username, password⟩) ?_ ?_ h ?_
  · exact ⟨⟨hstored, List.forall_mem_nil _⟩, List.forall_mem_nil _⟩
  · exact fun mid e t hmid he hstep => holds_step hmid he hstep
  · intro e he username password heq
    exact htyped username password (heq ▸ he)

end Step

/-- The texts of the row at an index, as the itemBuilder passes them to Text. -/
def itemBuilder (fields : TodoFields) (index : Nat) : Except Thrown RowTexts :=
  match fields.databaseItems with
  | none => .error .noSuchMethodError
  | some items =>
      match items[index]? with
      | none => .error .rangeError
      | some item => do
          let title ← Requests.newText (StringMap.get (Sql.queryRow item.row) "username")
          let subtitle ← Requests.newText (StringMap.get (Sql.queryRow item.row) "password")
          return ⟨title, subtitle⟩

def itemCount (fields : TodoFields) : Nat :=
  match fields.databaseItems with
  | none => 0
  | some items => items.length

theorem itemBuilder_eq {fields : TodoFields} {index : Nat} (h : index < itemCount fields) :
    ∃ item, (fields.databaseItems.getD [])[index]? = some item ∧ itemBuilder fields index =
      match item.row.username, item.row.password with
      | some title, some subtitle => .ok ⟨title, subtitle⟩
      | _, _ => .error .assertionError := by
  cases hitems : fields.databaseItems with
  | none => simp [itemCount, hitems] at h
  | some items =>
      have hlt : index < items.length := by simpa [itemCount, hitems] using h
      refine ⟨items[index], List.getElem?_eq_getElem hlt, ?_⟩
      have husername : StringMap.get (Sql.queryRow items[index].row) "username" =
          .ofString items[index].row.username := rfl
      have hpassword : StringMap.get (Sql.queryRow items[index].row) "password" =
          .ofString items[index].row.password := rfl
      simp only [itemBuilder, hitems, List.getElem?_eq_getElem hlt, husername, hpassword,
        Requests.newText_ofString]
      cases items[index].row.username with
      | none => rfl
      | some title => cases items[index].row.password <;> rfl

/-- The row shows the texts of the item, which were typed for one press of InsertValue or
stored at first; or the item was stored at first without one of them, and the build throws. -/
def BuiltFrom (t₀ : Table) (es : List Event) (item : UserItem)
    (built : Except Thrown RowTexts) : Prop :=
  (∃ texts, built = .ok texts ∧ item.row.username = some texts.title ∧
      item.row.password = some texts.subtitle ∧
      (.insertValue texts.title texts.subtitle ∈ es ∨ item.row ∈ t₀.rows)) ∨
    built = .error .assertionError ∧ item.row ∈ t₀.rows ∧
      (item.row.username = none ∨ item.row.password = none)

/-- In every run the row at an index of a list shows the two texts of the item there, which
were typed for one press of InsertValue or belong to a row of the first table; it makes the
build throw only when the item is itself a row of the first table that lacks one of them. -/
theorem rows_show_typed_users {supply : KeySupply Int} {t₀ : Table} {s : Todo} {es : List Event}
    (h : EventSystem.run (step supply) (initial t₀) es = some s) {w : StateObject TodoFields}
    (hw : w ∈ s.screens) {index : Nat} (hindex : index < itemCount w.fields) :
    ∃ item, (w.fields.databaseItems.getD [])[index]? = some item ∧
      BuiltFrom t₀ es item (itemBuilder w.fields index) := by
  have hholds : Holds (fun row => row ∈ t₀.rows ∨ ∃ username password : String,
      .insertValue username password ∈ es ∧ row.username = some username ∧
        row.password = some password) s := by
    refine holds_run h (fun row hrow => Or.inl hrow) ?_
    exact fun username password htyped id => Or.inr ⟨username, password, htyped, rfl, rfl⟩
  obtain ⟨item, hitem, hbuilt⟩ := itemBuilder_eq hindex
  refine ⟨item, hitem, ?_⟩
  rw [hbuilt]
  cases (hholds.screens w hw).1 item (List.mem_of_getElem? hitem) with
  | inl hstored =>
      cases husername : item.row.username with
      | none => exact Or.inr ⟨rfl, hstored, Or.inl husername⟩
      | some title =>
          cases hpassword : item.row.password with
          | none => exact Or.inr ⟨rfl, hstored, Or.inr hpassword⟩
          | some subtitle =>
              exact Or.inl ⟨⟨title, subtitle⟩, rfl, husername, hpassword, Or.inr hstored⟩
  | inr htyped =>
      obtain ⟨username, password, hevent, husername, hpassword⟩ := htyped
      rw [husername, hpassword]
      exact Or.inl ⟨⟨username, password⟩, rfl, husername, hpassword, Or.inl hevent⟩

/-- A user without a name is stored at first; ann is inserted while the screen that the press
has pushed fetches. -/
def nameless : Table := ⟨[⟨1, none, some "secret"⟩], by decide⟩

def annBesideNameless : List Event :=
  [.openAddUsers, .insertValue "ann" "secret", .resume 0, .resume 1, .resume 0, .resume 0,
    .resume 0]

theorem rows_show_typed_users_ann :
    ∃ s w, EventSystem.run (step .largestPlusOne) (initial nameless) annBesideNameless = some s ∧
      w ∈ s.screens ∧ itemBuilder w.fields 0 = .error .assertionError ∧
      itemBuilder w.fields 1 = .ok ⟨"ann", "secret"⟩ ∧
      ∃ item, (w.fields.databaseItems.getD [])[1]? = some item ∧
        BuiltFrom nameless annBesideNameless item (itemBuilder w.fields 1) := by
  refine ⟨_, _, rfl, List.mem_singleton_self _, rfl, rfl, ?_⟩
  exact @rows_show_typed_users .largestPlusOne nameless _ annBesideNameless rfl _
    (List.mem_singleton_self _) 1 (by decide)

end Todo

end FlutterApp
