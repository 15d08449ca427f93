import FlutterApp.PersistantStorage.ConnectionSafety
import FlutterApp.Todo.Screens

/-!
When the visible list is the stored one.

A screen is fresh when its list is the table's rows or a fetch that will bring them
is on its way. Statements, finished fetches and back navigations can make the visible
screen stale; in a run where none of them does, what is shown once all database work
has ended is what is stored.
-/

namespace FlutterApp

namespace Operation

/-- The call runs a select for the screen in the end. -/
def Refreshes (screen : Nat) : Operation → Prop
  | .fetchValue m => m = screen
  | .deleteItem m _ _ => m = screen
  | .insertUser _ _ => False

def Changes (t : Table) : Operation → Prop
  | .fetchValue _ => False
  | .deleteItem _ id _ => id ∈ t.keys
  | .insertUser _ _ => True

end Operation

namespace Store

theorem select_rows (s : Store) : s.select.map UserItem.row = s.table.rows := by
  simp only [select, List.map_map]
  exact List.map_id s.table.rows

theorem effect_rows_of_not_changes {supply : KeySupply Int} {t : Table} {op : Operation}
    (h : ¬ op.Changes t) : (effect supply t op).rows = t.rows := by
  cases op with
  | fetchValue _ => rfl
  | deleteItem screen id tapped =>
      simp only [effect, deleteUser_rows]
      apply List.filter_eq_self.mpr
      intro row hrow
      simp only [decide_eq_true_eq]
      intro hid
      exact h (hid ▸ List.mem_map_of_mem hrow)
  | insertUser _ _ => exact absurd trivial h

theorem effect_insertUser_rows (supply : KeySupply Int) (t : Table) (username password : String) :
    (effect supply t (.insertUser username password)).rows =
      t.rows ++ [⟨supply.next t.keys, username, password⟩] := by
  obtain ⟨next, hcall, hrows⟩ := insertUser_new supply username password t
  simp only [effect, hcall, hrows]

theorem mem_effect_rows {supply : KeySupply Int} {t : Table} {op : Operation} {row : Row}
    (hop : ∀ screen id tapped, op ≠ .deleteItem screen id tapped) (h : row ∈ t.rows) :
    row ∈ (effect supply t op).rows := by
  cases op with
  | fetchValue _ => exact h
  | deleteItem screen id tapped => exact absurd rfl (hop screen id tapped)
  | insertUser username password =>
      rw [effect_insertUser_rows]
      exact List.mem_append_left _ h

/-- A user is still stored when no deletion has run since the user was inserted. -/
theorem replay_inserted {supply : KeySupply Int} {t₀ : Table} {username password : String}
    {earlier : List Operation} (later : List Operation)
    (h : ∀ screen id tapped, .deleteItem screen id tapped ∉ later) :
    ∃ row ∈ (replay supply t₀ (later ++ .insertUser username password :: earlier)).rows,
      row.username = some username ∧ row.password = some password := by
  induction later with
  | nil =>
      refine ⟨⟨supply.next (replay supply t₀ earlier).keys, username, password⟩, ?_, rfl, rfl⟩
      simp only [List.nil_append, replay, effect_insertUser_rows]
      exact List.mem_append_right _ (List.mem_singleton_self _)
  | cons op later ih =>
      obtain ⟨row, hrow, huser⟩ := ih fun screen id tapped hmem =>
        h screen id tapped (List.mem_cons_of_mem _ hmem)
      refine ⟨row, ?_, huser⟩
      apply mem_effect_rows _ hrow
      intro screen id tapped hop
      exact h screen id tapped (hop ▸ List.mem_cons_self)

/-- The task leads to a select for the screen that has yet to run. -/
def WillRefetch (screen : Nat) : Task → Prop
  | .awaitDb op | .awaitStatement op _ => op.Refreshes screen
  | .deleted m => m = screen
  | _ => False

/-- The task ends in showing the rows on the screen, if nothing changes them until then. -/
def Brings (rows : List Row) (screen : Nat) (task : Task) : Prop :=
  WillRefetch screen task ∨
    ∃ items, task = .fetched screen items ∧ items.map UserItem.row = rows

theorem advance_rows {supply : KeySupply Int} {mounted : Bool} {s : Store} {task : Task}
    (h : ∀ op conn, task = .awaitStatement op conn → ¬ op.Changes s.table) :
    (advance supply mounted s task).1.table.rows = s.table.rows := by
  cases task with
  | awaitStatement op conn =>
      simp only [advance]
      split
      · rw [execute_table]
        exact effect_rows_of_not_changes (h op conn rfl)
      · rfl
  | awaitDb _ | fetched _ _ | deleted _ | closeDb | closeConn _ => rfl

/-- A task that brings the rows is followed by one that does, or shows them now. -/
theorem brings_advance (supply : KeySupply Int) (mounted : Bool) {s : Store} {screen : Nat}
    {task : Task} (hopen : ∀ op conn, task = .awaitStatement op conn → s.conns.isOpen conn)
    (h : Brings s.table.rows screen task) :
    (∃ task' ∈ (advance supply mounted s task).2,
        Brings (advance supply mounted s task).1.table.rows screen task') ∨
      ∃ items, task = .fetched screen items ∧ items.map UserItem.row = s.table.rows := by
  cases h with
  | inl hwill =>
      refine Or.inl ?_
      cases task with
      | awaitDb op => exact ⟨.awaitStatement op s.conns.db.1, by simp [advance], Or.inl hwill⟩
      | awaitStatement op conn =>
          simp only [advance, hopen op conn rfl, if_true]
          cases op with
          | fetchValue m =>
              obtain rfl : m = screen := hwill
              exact ⟨.fetched m s.select, by simp [execute], Or.inr ⟨_, rfl, select_rows s⟩⟩
          | deleteItem m id tapped => exact ⟨.deleted m, by simp [execute], Or.inl hwill⟩
          | insertUser _ _ => exact absurd hwill id
      | deleted m => exact ⟨.awaitDb (.fetchValue m), by simp [advance], Or.inl hwill⟩
      | fetched _ _ | closeDb | closeConn _ => exact absurd hwill id
  | inr hshow => exact Or.inr hshow

theorem advance_failed {supply : KeySupply Int} {mounted : Bool} {s : Store} {task : Task}
    (hopen : ∀ op conn, task = .awaitStatement op conn → s.conns.isOpen conn) :
    (advance supply mounted s task).1.failed = s.failed := by
  cases task with
  | awaitStatement op conn =>
      simp only [advance, hopen op conn rfl, if_true]
      exact execute_failed supply s op
  | awaitDb _ | fetched _ _ | deleted _ | closeDb | closeConn _ => rfl

end Store

namespace Todo

/-- The rows on a screen; none before its first fetch has finished. -/
def shown (s : Todo) (n : Nat) : Option (List Row) :=
  (s.screens[n]?.bind fun w => w.fields.databaseItems).map (List.map UserItem.row)

def Fresh (s : Todo) (n : Nat) : Prop :=
  s.shown n = some s.store.table.rows ∨
    ∃ task ∈ s.store.tasks, Store.Brings s.store.table.rows n task

theorem items_modify {screens : List (StateObject TodoFields)} {m n : Nat}
    {f : StateObject TodoFields → StateObject TodoFields}
    (hf : m = n → ∀ w, (f w).fields.databaseItems = w.fields.databaseItems) :
    ((screens.modify m f)[n]?.bind fun w => w.fields.databaseItems) =
      screens[n]?.bind fun w => w.fields.databaseItems := by
  rw [List.getElem?_modify]
  by_cases hmn : m = n
  · cases screens[n]? with
    | none => rfl
    | some w => simp [hmn, hf hmn w]
  · simp [hmn]

theorem fresh_of_kept {s t : Todo} {n : Nat} (h : Fresh s n) (hshown : t.shown n = s.shown n)
    (hrows : t.store.table.rows = s.store.table.rows)
    (htasks : ∀ task ∈ s.store.tasks, task ∈ t.store.tasks) : Fresh t n := by
  cases h with
  | inl hnow => exact Or.inl (by rw [hshown, hrows, hnow])
  | inr hpending =>
      obtain ⟨task, hmem, hbrings⟩ := hpending
      exact Or.inr ⟨task, htasks task hmem, hrows ▸ hbrings⟩

theorem resume_store (supply : KeySupply Int) (s : Todo) (i : Nat) (task : Task) :
    ∃ mounted, (s.resume supply i task).store = s.store.resumeTask supply mounted i task := by
  cases task with
  | fetched screen rows => exact ⟨s.isMounted screen, rfl⟩
  | awaitDb _ | awaitStatement _ _ | deleted _ | closeDb | closeConn _ => exact ⟨true, rfl⟩

theorem shown_resume_fetched {supply : KeySupply Int} {s : Todo} {n : Nat} (i : Nat)
    (items : List UserItem) (h : s.isMounted n = true) :
    (s.resume supply i (.fetched n items)).shown n = some (items.map UserItem.row) := by
  simp only [shown, resume, showItems, List.getElem?_modify]
  cases hw : s.screens[n]? with
  | none => simp [isMounted, hw] at h
  | some w =>
      have hm : w.mounted = true := by simpa [isMounted, hw] using h
      simp [StateObject.setState, hm]

theorem shown_resume_of_ne {supply : KeySupply Int} {s : Todo} {n : Nat} (i : Nat) {task : Task}
    (h : ∀ items, task ≠ .fetched n items) : (s.resume supply i task).shown n = s.shown n := by
  cases task with
  | fetched m items =>
      simp only [shown, resume, showItems]
      rw [items_modify]
      intro hmn
      exact absurd (hmn ▸ rfl) (h items)
  | awaitDb _ | awaitStatement _ _ | deleted _ | closeDb | closeConn _ => rfl

theorem fresh_of_other {supply : KeySupply Int} {s : Todo} {n i : Nat} {task : Task}
    (h : ∃ task' ∈ s.store.tasks.eraseIdx i,
      Store.Brings (s.resume supply i task).store.table.rows n task') :
    Fresh (s.resume supply i task) n := by
  obtain ⟨task', hmem, hbrings⟩ := h
  obtain ⟨mounted, hstore⟩ := resume_store supply s i task
  refine Or.inr ⟨task', ?_, hbrings⟩
  rw [hstore]
  exact List.mem_append_left _ hmem

theorem fresh_of_next {supply : KeySupply Int} {s : Todo} {n i : Nat} {task : Task}
    {mounted : Bool}
    (hstore : (s.resume supply i task).store = s.store.resumeTask supply mounted i task)
    (h : ∃ task' ∈ (Store.advance supply mounted s.store task).2,
      Store.Brings (Store.advance supply mounted s.store task).1.table.rows n task') :
    Fresh (s.resume supply i task) n := by
  obtain ⟨task', hmem, hbrings⟩ := h
  refine Or.inr ⟨task', ?_, ?_⟩
  · rw [hstore]
    exact TaskPool.mem_resume_of_mem_next hmem
  · rw [hstore]
    exact hbrings

/-- A statement, whatever it changes, while a select for the screen has yet to run. -/
theorem fresh_of_statement {supply : KeySupply Int} {s : Todo} {n i : Nat} {op : Operation}
    {conn : Nat} (hopen : s.store.conns.isOpen conn)
    (h : op.Refreshes n ∨ ∃ task ∈ s.store.tasks.eraseIdx i, Store.WillRefetch n task) :
    Fresh (s.resume supply i (.awaitStatement op conn)) n := by
  cases h with
  | inl hrefreshes =>
      have hbrings : Store.Brings s.store.table.rows n (.awaitStatement op conn) :=
        Or.inl hrefreshes
      have hopen' : ∀ op' conn', Task.awaitStatement op conn = .awaitStatement op' conn' →
          s.store.conns.isOpen conn' := by
        intro op' conn' heq
        cases heq
        exact hopen
      cases Store.brings_advance supply true hopen' hbrings with
      | inl hafter => exact fresh_of_next rfl hafter
      | inr hshow =>
          obtain ⟨items, heq, -⟩ := hshow
          cases heq
  | inr hpending =>
      obtain ⟨task, hmem, hwill⟩ := hpending
      exact fresh_of_other ⟨task, hmem, Or.inl hwill⟩

/-- A task that leaves the rows as they are. -/
theorem fresh_of_unchanged {supply : KeySupply Int} {s : Todo} {n i : Nat} {task : Task}
    (hfresh : Fresh s n) (hmounted : s.isMounted n = true) (hi : s.store.tasks[i]? = some task)
    (hopen : ∀ op conn, task = .awaitStatement op conn → s.store.conns.isOpen conn)
    (hrows : (s.resume supply i task).store.table.rows = s.store.table.rows)
    (hfetched : ∀ items, task = .fetched n items →
      items.map UserItem.row = s.store.table.rows ∨
        ∃ task' ∈ s.store.tasks.eraseIdx i, Store.Brings s.store.table.rows n task') :
    Fresh (s.resume supply i task) n := by
  have hshow : ∀ items, task = .fetched n items →
      items.map UserItem.row = s.store.table.rows → Fresh (s.resume supply i task) n := by
    intro items htask hitems
    refine Or.inl ?_
    rw [hrows, ← hitems, htask]
    exact shown_resume_fetched i items hmounted
  cases hfresh with
  | inl hnow =>
      by_cases hf : ∃ items, task = .fetched n items
      · obtain ⟨items, htask⟩ := hf
        cases hfetched items htask with
        | inl hitems => exact hshow items htask hitems
        | inr hpending => exact fresh_of_other (hrows ▸ hpending)
      · refine Or.inl ?_
        rw [hrows, shown_resume_of_ne i fun items htask => hf ⟨items, htask⟩, hnow]
  | inr hpending =>
      obtain ⟨task', hmem, hbrings⟩ := hpending
      cases List.mem_cons.mp ((TaskPool.perm_cons_eraseIdx hi).subset hmem) with
      | inl heq =>
          obtain ⟨mounted, hstore⟩ := resume_store supply s i task
          cases Store.brings_advance supply mounted hopen (heq ▸ hbrings) with
          | inl hafter => exact fresh_of_next hstore hafter
          | inr hnow =>
              obtain ⟨items, htask, hitems⟩ := hnow
              exact hshow items htask hitems
      | inr hrest => exact fresh_of_other ⟨task', hrest, hrows ▸ hbrings⟩

theorem fresh_resume {supply : KeySupply Int} {s : Todo} {n i : Nat} {task : Task}
    (hfresh : Fresh s n) (hmounted : s.isMounted n = true) (hi : s.store.tasks[i]? = some task)
    (hopen : ∀ op conn, task = .awaitStatement op conn → s.store.conns.isOpen conn)
    (hchange : ∀ op conn, task = .awaitStatement op conn → op.Changes s.store.table →
      op.Refreshes n ∨ ∃ task' ∈ s.store.tasks.eraseIdx i, Store.WillRefetch n task')
    (hfetched : ∀ items, task = .fetched n items →
      items.map UserItem.row = s.store.table.rows ∨
        ∃ task' ∈ s.store.tasks.eraseIdx i, Store.Brings s.store.table.rows n task') :
    Fresh (s.resume supply i task) n := by
  by_cases hch : ∃ op conn, task = .awaitStatement op conn ∧ op.Changes s.store.table
  · obtain ⟨op, conn, rfl, hchanges⟩ := hch
    exact fresh_of_statement (hopen op conn rfl) (hchange op conn rfl hchanges)
  · refine fresh_of_unchanged hfresh hmounted hi hopen ?_ hfetched
    obtain ⟨mounted, hstore⟩ := resume_store supply s i task
    rw [hstore]
    exact Store.advance_rows fun op conn htask hchanges => hch ⟨op, conn, htask, hchanges⟩

/-- The visible screen stays fresh: a back navigation uncovers only a fresh screen; a
statement runs on an open connection, and one that changes the table under a visible
TodoApp leads to a fetch of that screen, as some other task may; and a fetch that finishes
brings the rows of that moment, or another task still will. -/
def KeepsFresh (s : Todo) : Event → Prop
  | .back => ∀ top n rest, s.stack = top :: .todoApp n :: rest → Fresh s n
  | .resume i =>
      (∀ op conn, s.store.tasks[i]? = some (.awaitStatement op conn) →
        s.store.conns.isOpen conn ∧
          (op.Changes s.store.table → ∀ n rest, s.stack = .todoApp n :: rest →
            op.Refreshes n ∨ ∃ task ∈ s.store.tasks.eraseIdx i, Store.WillRefetch n task)) ∧
      ∀ n items rest, s.store.tasks[i]? = some (.fetched n items) → s.stack = .todoApp n :: rest →
        items.map UserItem.row = s.store.table.rows ∨
          ∃ task ∈ s.store.tasks.eraseIdx i, Store.Brings s.store.table.rows n task
  | _ => True

structure Current (s : Todo) : Prop where
  stacked : Stacked s
  top : ∀ n rest, s.stack = .todoApp n :: rest → Fresh s n
  unfailed : s.store.failed = []

theorem fresh_pushTodoApp (s : Todo) : Fresh s.pushTodoApp s.screens.length :=
  Or.inr ⟨.awaitDb (.fetchValue s.screens.length),
    List.mem_append_right _ (List.mem_singleton_self _), Or.inl rfl⟩

theorem current_step {supply : KeySupply Int} {s t : Todo} {e : Event} (h : Current s)
    (hkeeps : KeepsFresh s e) (hstep : step supply s e = some t) : Current t := by
  refine ⟨stacked_step h.stacked hstep, ?_, ?_⟩
  · cases stepped hstep with
    | openTodoApp hstack | insertValue hstack =>
        intro n rest htop
        cases htop
        exact fresh_pushTodoApp _
    | openAddUsers hstack =>
        intro n rest htop
        cases htop
    | back hstack =>
        rename_i top below rest
        intro n rest' htop
        cases htop
        refine fresh_of_kept (hkeeps _ _ _ hstack) ?_ rfl fun _ hmem => hmem
        cases top with
        | addUsers => rfl
        | todoApp m => exact congrArg (Option.map _) (items_modify fun _ _ => rfl)
    | build hmounted =>
        intro n rest htop
        refine fresh_of_kept (h.top n rest htop) ?_ rfl fun _ hmem => hmem
        exact congrArg (Option.map _) (items_modify fun _ _ => rfl)
    | tap hstack hw htapped =>
        simp only [onPointerDown]
        split
        · exact h.top
        · intro n rest htop
          exact fresh_of_kept (h.top n rest htop) rfl rfl fun _ hmem =>
            List.mem_append_left _ hmem
    | resume htask =>
        rename_i i task
        intro n rest htop
        have hstack : s.stack = .todoApp n :: rest := by
          cases task <;> exact htop
        have hmounted := (h.stacked.mounted n).mpr (hstack ▸ List.mem_cons_self)
        refine fresh_resume (h.top n rest hstack) hmounted htask ?_ ?_ ?_
        · intro op conn heq
          exact (hkeeps.1 op conn (heq ▸ htask)).1
        · intro op conn heq hchanges
          exact (hkeeps.1 op conn (heq ▸ htask)).2 hchanges n rest hstack
        · intro items heq
          exact hkeeps.2 n items rest (heq ▸ htask) hstack
  · cases stepped hstep with
    | openTodoApp _ | openAddUsers _ | insertValue _ | back _ | build _ => exact h.unfailed
    | tap hstack hw htapped =>
        simp only [onPointerDown]
        split <;> exact h.unfailed
    | resume htask =>
        rename_i i task
        obtain ⟨mounted, hstore⟩ := resume_store supply s i task
        rw [hstore]
        exact (Store.advance_failed fun op conn heq =>
          (hkeeps.1 op conn (heq ▸ htask)).1).trans h.unfailed

/-- When a TodoApp is on top and no database work is left, it shows the stored rows, every
requested statement has taken effect, and a user who was inserted and whom no later
statement deleted is shown. -/
def ShowsStored (supply : KeySupply Int) (t₀ : Table) (s : Todo) : Prop :=
  ∀ n rest, s.stack = .todoApp n :: rest → s.store.tasks = [] →
    s.shown n = some s.store.table.rows ∧ Store.AllTakeEffect supply t₀ s.store ∧
      ∀ username password later earlier,
        s.store.executed = later ++ .insertUser username password :: earlier →
        (∀ screen id tapped, .deleteItem screen id tapped ∉ later) →
        ∃ row ∈ (s.shown n).getD [],
          row.username = some username ∧ row.password = some password

theorem shows_stored_of_keepsFresh (supply : KeySupply Int) (t₀ : Table) (es : List Event)
    (s : Todo) (h : EventSystem.run (step supply) (initial t₀) es = some s)
    (hkeeps : EventSystem.StepsMeet (step supply) KeepsFresh (initial t₀) es) :
    ShowsStored supply t₀ s := by
  have hcurrent : Current s :=
    EventSystem.run_invariant_of_stepsMeet Current
      ⟨stacked_initial t₀, by simp [initial], rfl⟩
      (fun _ _ _ hmid hcond hstep => current_step hmid hcond hstep) h hkeeps
  obtain ⟨fs, hfs⟩ := run_store h
  have hbooked := Store.booked_run hfs
  intro n rest hstack htasks
  have hshown : s.shown n = some s.store.table.rows := by
    cases hcurrent.top n rest hstack with
    | inl hnow => exact hnow
    | inr hpending =>
        obtain ⟨task, hmem, -⟩ := hpending
        rw [htasks] at hmem
        cases hmem
  refine ⟨hshown, (Store.allTakeEffect_of_booked hbooked).mpr hcurrent.unfailed, ?_⟩
  intro username password later earlier hexecuted hlater
  obtain ⟨row, hrow, huser⟩ := Store.replay_inserted later hlater
  refine ⟨row, ?_, huser⟩
  rw [hshown, hbooked.replayed, hexecuted]
  exact hrow

/-- A select for the screen reads the rows. -/
def SelectReads (n : Nat) (items : List UserItem) (s : Todo) : Event → Prop
  | .resume i => s.store.select = items ∧ ∃ conn,
      s.store.tasks[i]? = some (.awaitStatement (.fetchValue n) conn) ∧ s.store.conns.isOpen conn
  | _ => False

/-- A statement runs that changes the table. -/
def ChangesTable (s : Todo) : Event → Prop
  | .resume i => ∃ op conn, s.store.tasks[i]? = some (.awaitStatement op conn) ∧
      s.store.conns.isOpen conn ∧ op.Changes s.store.table
  | _ => False

/-- The rows have been read by a select for the screen, and no statement has changed the table
since. -/
def ReadLast (supply : KeySupply Int) (t₀ : Table) (before : List Event) (n : Nat)
    (items : List UserItem) : Prop :=
  EventSystem.SomeSince (step supply) (SelectReads n items) ChangesTable (initial t₀) before

/-- The task has yet to run a select for the screen, or brings rows that were read last. -/
def StillBrings (supply : KeySupply Int) (t₀ : Table) (before : List Event) (n : Nat)
    (task : Task) : Prop :=
  Store.WillRefetch n task ∨ ∃ items, task = .fetched n items ∧ ReadLast supply t₀ before n items

/-- The list of a screen that is uncovered, and the rows that a fetch brings to the visible
one, were read by a select for the screen after which no statement has changed the table, or
another fetch is still to come; and statements are as above. -/
def FetchedLast (supply : KeySupply Int) (t₀ : Table) (before : List Event) (s : Todo) :
    Event → Prop
  | .back => ∀ top n rest, s.stack = top :: .todoApp n :: rest →
      (∃ w items, s.screens[n]? = some w ∧ w.fields.databaseItems = some items ∧
          ReadLast supply t₀ before n items) ∨
        ∃ task ∈ s.store.tasks, StillBrings supply t₀ before n task
  | .resume i =>
      (∀ op conn, s.store.tasks[i]? = some (.awaitStatement op conn) →
        s.store.conns.isOpen conn ∧
          (op.Changes s.store.table → ∀ n rest, s.stack = .todoApp n :: rest →
            op.Refreshes n ∨ ∃ task ∈ s.store.tasks.eraseIdx i, Store.WillRefetch n task)) ∧
      ∀ n items rest, s.store.tasks[i]? = some (.fetched n items) → s.stack = .todoApp n :: rest →
        ReadLast supply t₀ before n items ∨
          ∃ task ∈ s.store.tasks.eraseIdx i, StillBrings supply t₀ before n task
  | _ => True

section Run
variable {supply : KeySupply Int} {t₀ : Table} {before : List Event} {s t : Todo} {e : Event}
  {n : Nat} {items : List UserItem}

theorem rows_step (hstep : step supply s e = some t) (h : ¬ ChangesTable s e) :
    t.store.table.rows = s.store.table.rows := by
  cases stepped hstep with
  | openTodoApp _ | openAddUsers _ | insertValue _ | back _ | build _ => rfl
  | tap _ _ _ =>
      simp only [onPointerDown]
      split <;> rfl
  | resume htask =>
      rename_i i task
      obtain ⟨mounted, hstore⟩ := resume_store supply s i task
      rw [hstore]
      cases task with
      | awaitStatement op conn =>
          simp only [Store.resumeTask, Store.advance]
          split
          · rename_i hopen
            rw [Store.execute_table]
            exact Store.effect_rows_of_not_changes fun hchanges =>
              h ⟨op, conn, htask, hopen, hchanges⟩
          · rfl
      | awaitDb _ | fetched _ _ | deleted _ | closeDb | closeConn _ => rfl

theorem not_changesTable_of_selectReads (h : SelectReads n items s e) : ¬ ChangesTable s e := by
  intro hchanges
  cases e with
  | resume i =>
      obtain ⟨-, conn, htask, -⟩ := h
      obtain ⟨op, conn', htask', -, hop⟩ := hchanges
      cases Option.some.inj (htask.symm.trans htask')
      exact hop
  | openTodoApp | openAddUsers | insertValue _ _ | back | build _ | tap _ => exact h

theorem rows_of_readLast (hrun : EventSystem.run (step supply) (initial t₀) before = some s)
    (h : ReadLast supply t₀ before n items) : items.map UserItem.row = s.store.table.rows := by
  refine EventSystem.run_induction (motive := fun before s => ReadLast supply t₀ before n items →
    items.map UserItem.row = s.store.table.rows) ?_ ?_ hrun h
  · intro hnil
    exact absurd hnil (EventSystem.not_someSince_nil _ _ _ _)
  · intro before mid e t hmid ih hstep hread
    cases (EventSystem.someSince_snoc _ _ hmid hstep).mp hread with
    | inl hselect =>
        rw [rows_step hstep (not_changesTable_of_selectReads hselect)]
        cases e with
        | resume i =>
            obtain ⟨rfl, -⟩ := hselect
            exact Store.select_rows mid.store
        | openTodoApp | openAddUsers | insertValue _ _ | back | build _ | tap _ =>
            exact hselect.elim
    | inr hearlier => exact (ih hearlier.1).trans (rows_step hstep hearlier.2).symm

theorem brings_of_stillBrings {task : Task}
    (hrun : EventSystem.run (step supply) (initial t₀) before = some s)
    (h : StillBrings supply t₀ before n task) : Store.Brings s.store.table.rows n task := by
  refine h.imp id ?_
  intro hfetched
  obtain ⟨items, htask, hread⟩ := hfetched
  exact ⟨items, htask, rows_of_readLast hrun hread⟩

/-- What was read last is what the table holds. -/
theorem keepsFresh_of_fetchedLast
    (hrun : EventSystem.run (step supply) (initial t₀) before = some s)
    (h : FetchedLast supply t₀ before s e) : KeepsFresh s e := by
  cases e with
  | openTodoApp | openAddUsers | insertValue _ _ | build _ | tap _ => trivial
  | back =>
      intro top n rest hstack
      cases h top n rest hstack with
      | inl hlist =>
          obtain ⟨w, items, hw, hitems, hread⟩ := hlist
          refine Or.inl ?_
          rw [shown, hw, Option.bind_some, hitems, Option.map_some, rows_of_readLast hrun hread]
      | inr hpending =>
          obtain ⟨task, hmem, hstill⟩ := hpending
          exact Or.inr ⟨task, hmem, brings_of_stillBrings hrun hstill⟩
  | resume i =>
      refine ⟨h.1, ?_⟩
      intro n items rest htask hstack
      refine (h.2 n items rest htask hstack).imp (rows_of_readLast hrun) ?_
      intro hpending
      obtain ⟨task, hmem, hstill⟩ := hpending
      exact ⟨task, hmem, brings_of_stillBrings hrun hstill⟩

theorem keepsFresh_run {es : List Event}
    (h : EventSystem.EachMeets (step supply) (FetchedLast supply t₀) (initial t₀) es) :
    EventSystem.StepsMeet (step supply) KeepsFresh (initial t₀) es := by
  rw [EventSystem.stepsMeet_iff_eachMeets]
  intro before e post mid hsplit hrun
  exact keepsFresh_of_fetchedLast hrun (h before e post mid hsplit hrun)

end Run

theorem fetchedLast_of_idle {supply : KeySupply Int} {t₀ : Table} {before : List Event} {s : Todo}
    {i : Nat} {task : Task} (hi : s.store.tasks[i]? = some task)
    (hstatement : ∀ op conn, task ≠ .awaitStatement op conn)
    (hfetched : ∀ n items, task ≠ .fetched n items) :
    FetchedLast supply t₀ before s (.resume i) := by
  refine ⟨?_, ?_⟩
  · intro op conn heq
    exact absurd (Option.some.inj (hi.symm.trans heq)) (hstatement op conn)
  · intro n items rest heq
    exact absurd (Option.some.inj (hi.symm.trans heq)) (hfetched n items)

/-- A TodoApp is covered and uncovered. Then a user is inserted before the fetch of the screen
that is pushed for it, while the first fetch has not closed yet. -/
def insertedBeforeFetch : List Event :=
  [.openTodoApp, .resume 0, .resume 0, .resume 0, .openAddUsers, .back, .openAddUsers,
    .insertValue "ann" "secret", .resume 1, .resume 2, .resume 1, .resume 1, .resume 1, .resume 0,
    .resume 0, .resume 0, .resume 0]

theorem insertedBeforeFetch_fetchedLast :
    EventSystem.EachMeets (step .largestPlusOne) (FetchedLast .largestPlusOne
      DatabaseHelper.onCreate) (initial DatabaseHelper.onCreate) insertedBeforeFetch := by
  refine EventSystem.eachMeets_cons trivial rfl ?_
  refine EventSystem.eachMeets_cons (fetchedLast_of_idle rfl nofun nofun) rfl ?_
  refine EventSystem.eachMeets_cons ⟨?_, nofun⟩ rfl ?_
  · intro op conn heq
    cases heq
    exact ⟨rfl, fun hchanges => absurd hchanges id⟩
  refine EventSystem.eachMeets_cons ⟨nofun, ?_⟩ rfl ?_
  · intro n items rest heq _
    cases heq
    exact Or.inl ⟨insertedBeforeFetch.take 2, .resume 0, [], _, _, rfl, rfl, rfl,
      ⟨rfl, 0, rfl, rfl⟩, trivial⟩
  refine EventSystem.eachMeets_cons trivial rfl ?_
  -- nothing has changed the table since the list was read
  refine EventSystem.eachMeets_cons ?_ rfl ?_
  · intro top n rest hstack
    cases hstack
    refine Or.inl ⟨_, _, rfl, rfl, insertedBeforeFetch.take 2, .resume 0,
      [.resume 0, .openAddUsers], _, _, rfl, rfl, rfl, ⟨rfl, 0, rfl, rfl⟩, ?_⟩
    refine EventSystem.stepsMeet_cons ?_ rfl (EventSystem.stepsMeet_cons id rfl trivial)
    intro hchanges
    obtain ⟨op, conn, htask, -⟩ := hchanges
    cases htask
  refine EventSystem.eachMeets_cons trivial rfl ?_
  refine EventSystem.eachMeets_cons trivial rfl ?_
  refine EventSystem.eachMeets_cons (fetchedLast_of_idle rfl nofun nofun) rfl ?_
  -- the insert: the fetch of the visible screen has not run yet
  refine EventSystem.eachMeets_cons ⟨?_, nofun⟩ rfl ?_
  · intro op conn heq
    cases heq
    refine ⟨rfl, ?_⟩
    intro _ n rest hstack
    cases hstack
    exact Or.inr ⟨_, List.mem_cons_of_mem _ List.mem_cons_self, rfl⟩
  refine EventSystem.eachMeets_cons (fetchedLast_of_idle rfl nofun nofun) rfl ?_
  refine EventSystem.eachMeets_cons ⟨?_, nofun⟩ rfl ?_
  · intro op conn heq
    cases heq
    exact ⟨rfl, fun hchanges => absurd hchanges id⟩
  refine EventSystem.eachMeets_cons ⟨nofun, ?_⟩ rfl ?_
  · intro n items rest heq _
    cases heq
    exact Or.inl ⟨insertedBeforeFetch.take 11, .resume 1, [], _, _, rfl, rfl, rfl,
      ⟨rfl, 0, rfl, rfl⟩, trivial⟩
  iterate 4 refine EventSystem.eachMeets_cons (fetchedLast_of_idle rfl nofun nofun) rfl ?_
  exact EventSystem.eachMeets_nil _ _ _

theorem shows_stored_one_insert :
    ∃ s, EventSystem.run (step .largestPlusOne) (initial DatabaseHelper.onCreate)
        insertedBeforeFetch = some s ∧
      s.stack = [.todoApp 1, .addUsers, .todoApp 0] ∧ s.store.tasks = [] ∧
      s.shown 1 = some [⟨1, some "ann", some "secret"⟩] ∧
      ShowsStored .largestPlusOne DatabaseHelper.onCreate s :=
  ⟨_, rfl, rfl, rfl, rfl, shows_stored_of_keepsFresh .largestPlusOne DatabaseHelper.onCreate
    insertedBeforeFetch _ rfl (keepsFresh_run insertedBeforeFetch_fetchedLast)⟩

/-- The fetch of the pushed screen runs before the insert that was started first. -/
def fetchedBeforeInsert : List Event :=
  [.openAddUsers, .insertValue "ann" "secret", .resume 1, .resume 1, .resume 1, .resume 1,
    .resume 1, .resume 0, .resume 0]

theorem inserted_user_not_shown :
    ∃ s, EventSystem.run (step .largestPlusOne) (initial DatabaseHelper.onCreate)
        fetchedBeforeInsert = some s ∧
      s.stack = [.todoApp 0, .addUsers] ∧ s.store.tasks = [] ∧ s.shown 0 = some [] ∧
      s.store.table.rows = [⟨1, some "ann", some "secret"⟩] ∧
      ¬ ShowsStored .largestPlusOne DatabaseHelper.onCreate s := by
  refine ⟨_, rfl, rfl, rfl, rfl, rfl, ?_⟩
  intro h
  have hshown := (h 0 [.addUsers] rfl rfl).1
  cases hshown

end Todo

end FlutterApp
