import FlutterApp.Todo.Screens

/-!
Which user a tapped icon deletes.

Every insertion is numbered, and an item of a list carries the number of the insertion
it was read from. The id of a deleted last row can be given out again, so an id alone
does not name an insertion; the latest insertion that was given the id does. A deletion
is right when it removes nobody or the very insertion whose row was tapped.
-/

namespace FlutterApp

theorem lastInsertion_get {log : List Int} {k : Int} {n : Nat}
    (h : lastInsertion log k = some n) : log.reverse[n]? = some k := by
  induction log with
  | nil => cases h
  | cons k' older ih =>
      simp only [lastInsertion] at h
      rw [List.reverse_cons]
      split at h
      · rename_i heq
        cases h
        simp [heq]
      · have hold := ih h
        rw [List.getElem?_append_left (List.getElem?_eq_some_iff.mp hold).1]
        exact hold

theorem lastInsertion_isSome {log : List Int} {k : Int} (h : k ∈ log) :
    ∃ n, lastInsertion log k = some n := by
  induction log with
  | nil => cases h
  | cons k' older ih =>
      simp only [lastInsertion]
      split
      · exact ⟨older.length, rfl⟩
      · rename_i hne
        exact ih ((List.mem_cons.mp h).resolve_left (Ne.symm hne))

/-- The item carries the number of an insertion that was given the id of its row. -/
def Known (log : List Int) (item : UserItem) : Prop :=
  ∃ n, item.insertion = some n ∧ log.reverse[n]? = some item.row.id

theorem known_append {log : List Int} {item : UserItem} (new : List Int) (h : Known log item) :
    Known (new ++ log) item := by
  obtain ⟨n, hn, hget⟩ := h
  refine ⟨n, hn, ?_⟩
  rw [List.reverse_append, List.getElem?_append_left (List.getElem?_eq_some_iff.mp hget).1]
  exact hget

def Deletion.Right (d : Deletion) : Prop := d.removed = none ∨ d.removed = d.tapped

/-- The row under the id, if any, is the insertion that was tapped exactly when the id is
the one of the tapped row and has not been given out again. -/
theorem removed_right_iff {log : List Int} {keys : List Int} (id : Int) {tapped : UserItem}
    (logged : ∀ k ∈ keys, k ∈ log) (known : Known log tapped) :
    Deletion.Right ⟨tapped.insertion, if id ∈ keys then lastInsertion log id else none⟩ ↔
      id ∉ keys ∨ (id = tapped.row.id ∧ lastInsertion log id = tapped.insertion) := by
  by_cases hid : id ∈ keys
  · obtain ⟨n, hn⟩ := lastInsertion_isSome (logged id hid)
    obtain ⟨m, hm, hget⟩ := known
    simp only [Deletion.Right, hid, if_true, hn, hm, reduceCtorEq, false_or, not_true_eq_false,
      Option.some.injEq]
    constructor
    · intro heq
      subst heq
      exact ⟨Option.some.inj ((lastInsertion_get hn).symm.trans hget), rfl⟩
    · exact fun h => h.2
  · simp [Deletion.Right, hid]

namespace Store

/-- The items a suspended task holds. -/
def taskItems : Task → List UserItem
  | .fetched _ rows => rows
  | .awaitDb (.deleteItem _ _ tapped) | .awaitStatement (.deleteItem _ _ tapped) _ => [tapped]
  | _ => []

structure Logged (s : Store) : Prop where
  keys : ∀ k ∈ s.table.keys, k ∈ s.insertions
  items : ∀ task ∈ s.tasks, ∀ item ∈ taskItems task, Known s.insertions item

theorem known_select {s : Store} (h : ∀ k ∈ s.table.keys, k ∈ s.insertions) :
    ∀ item ∈ s.select, Known s.insertions item := by
  intro item hitem
  obtain ⟨row, hrow, rfl⟩ := List.mem_map.mp hitem
  obtain ⟨n, hn⟩ := lastInsertion_isSome (h row.id (List.mem_map_of_mem hrow))
  exact ⟨n, hn, lastInsertion_get hn⟩

theorem execute_insertions (supply : KeySupply Int) (s : Store) (op : Operation) :
    ∃ new, (execute supply s op).1.insertions = new ++ s.insertions := by
  cases op with
  | fetchValue _ | deleteItem _ _ _ => exact ⟨[], rfl⟩
  | insertUser username password =>
      obtain ⟨next, hcall, -⟩ := insertUser_new supply username password s.table
      exact ⟨[supply.next s.table.keys], by simp only [execute, hcall, List.singleton_append]⟩

theorem execute_keys {supply : KeySupply Int} {s : Store} {op : Operation}
    (h : ∀ k ∈ s.table.keys, k ∈ s.insertions) :
    ∀ k ∈ (execute supply s op).1.table.keys, k ∈ (execute supply s op).1.insertions := by
  intro k hk
  cases op with
  | fetchValue _ => exact h k hk
  | deleteItem screen id tapped =>
      obtain ⟨row, hrow, hkey⟩ := List.mem_map.mp hk
      simp only [execute, effect, deleteUser_rows, List.mem_filter] at hrow
      exact h k (hkey ▸ List.mem_map_of_mem hrow.1)
  | insertUser username password =>
      obtain ⟨next, hcall, hrows⟩ := insertUser_new supply username password s.table
      simp only [execute, effect, hcall, KeyedTable.keys, hrows, List.map_append, List.mem_append,
        List.map_cons, List.map_nil, List.mem_singleton] at hk ⊢
      cases hk with
      | inl hold => exact List.mem_cons_of_mem _ (h k hold)
      | inr hnew => exact hnew ▸ List.mem_cons_self

theorem execute_items {supply : KeySupply Int} {s : Store} {op : Operation}
    (h : ∀ k ∈ s.table.keys, k ∈ s.insertions) :
    ∀ task ∈ (execute supply s op).2, ∀ item ∈ taskItems task, Known s.insertions item := by
  cases op with
  | fetchValue screen =>
      intro task htask
      obtain rfl : task = .fetched screen s.select := by simpa [execute] using htask
      exact known_select h
  | deleteItem screen id tapped => simp [execute, taskItems]
  | insertUser _ _ => simp only [execute]; split <;> simp

/-- What resuming a task leaves of the insertion log and puts in flight. -/
theorem logged_advance (supply : KeySupply Int) (mounted : Bool) {s : Store} {task : Task}
    (h : Logged s) (hmem : task ∈ s.tasks) :
    (∃ new, (advance supply mounted s task).1.insertions = new ++ s.insertions) ∧
      (∀ k ∈ (advance supply mounted s task).1.table.keys,
        k ∈ (advance supply mounted s task).1.insertions) ∧
      ∀ task' ∈ (advance supply mounted s task).2, ∀ item ∈ taskItems task',
        Known s.insertions item := by
  have hitems := h.items task hmem
  cases task with
  | awaitDb op =>
      refine ⟨⟨[], rfl⟩, h.keys, ?_⟩
      intro task' htask'
      obtain rfl : task' = .awaitStatement op s.conns.db.1 := by simpa [advance] using htask'
      cases op with
      | fetchValue _ | insertUser _ _ => simp [taskItems]
      | deleteItem _ _ _ => exact hitems
  | awaitStatement op conn =>
      simp only [advance]
      split
      · exact ⟨execute_insertions supply s op, execute_keys h.keys, execute_items h.keys⟩
      · exact ⟨⟨[], rfl⟩, h.keys, by simp⟩
  | fetched screen rows =>
      exact ⟨⟨[], rfl⟩, h.keys, by cases mounted <;> simp [advance, taskItems]⟩
  | deleted screen => exact ⟨⟨[], rfl⟩, h.keys, by simp [advance, taskItems]⟩
  | closeDb => exact ⟨⟨[], rfl⟩, h.keys, by simp [advance, taskItems]⟩
  | closeConn conn => exact ⟨⟨[], rfl⟩, h.keys, by simp [advance]⟩

theorem resumeTask_insertions {supply : KeySupply Int} {mounted : Bool} {s : Store} {i : Nat}
    {task : Task} (h : Logged s) (hi : s.tasks[i]? = some task) :
    ∃ new, (resumeTask supply mounted s i task).insertions = new ++ s.insertions :=
  (logged_advance supply mounted h (List.mem_of_getElem? hi)).1

theorem logged_resume {supply : KeySupply Int} {mounted : Bool} {s : Store} {i : Nat}
    {task : Task} (h : Logged s) (hi : s.tasks[i]? = some task) :
    Logged (resumeTask supply mounted s i task) := by
  obtain ⟨⟨new, hnew⟩, hkeys, hstarted⟩ :=
    logged_advance supply mounted h (List.mem_of_getElem? hi)
  refine ⟨hkeys, ?_⟩
  have hlog : (resumeTask supply mounted s i task).insertions = new ++ s.insertions := hnew
  rw [hlog]
  exact TaskPool.forall_mem_resume
    (fun task' htask' item hitem => known_append new (h.items task' htask' item hitem))
    (fun task' htask' item hitem => known_append new (hstarted task' htask' item hitem))

theorem logged_call {s : Store} {op : Operation} (h : Logged s)
    (hop : ∀ item ∈ taskItems (.awaitDb op), Known s.insertions item) : Logged (s.call op) := by
  refine ⟨h.keys, ?_⟩
  intro task htask
  cases List.mem_append.mp htask with
  | inl hold => exact h.items task hold
  | inr hnew =>
      rw [List.mem_singleton.mp hnew]
      exact hop

/-- Only a delete statement that runs on an open connection adds to the deletions. -/
theorem resumeTask_deletions {supply : KeySupply Int} {mounted : Bool} {s : Store} {i : Nat}
    {task : Task} (h : ∀ screen id tapped conn,
      task = .awaitStatement (.deleteItem screen id tapped) conn → ¬ s.conns.isOpen conn) :
    (resumeTask supply mounted s i task).deletions = s.deletions := by
  cases task with
  | awaitStatement op conn =>
      cases op with
      | fetchValue _ => simp only [resumeTask, advance]; split <;> rfl
      | insertUser _ _ =>
          simp only [resumeTask, advance, execute]
          split
          · split <;> rfl
          · rfl
      | deleteItem screen id tapped =>
          simp only [resumeTask, advance, h screen id tapped conn rfl, if_false]
  | awaitDb _ | fetched _ _ | deleted _ | closeDb | closeConn _ => rfl

end Store

namespace Todo

/-- Every item on a screen carries the insertion it was read from. -/
structure Traced (s : Todo) : Prop where
  store : s.store.Logged
  frames : ∀ w ∈ s.screens, ∀ item ∈ w.fields.frame, Known s.store.insertions item
  lists : ∀ w ∈ s.screens, ∀ item ∈ w.fields.databaseItems.getD [],
    Known s.store.insertions item

theorem traced_initial (t : Table) : Traced (initial t) :=
  ⟨⟨fun _ hk => List.mem_reverse.mpr hk, by simp [initial, Store.initial]⟩, by simp [initial],
    by simp [initial]⟩

theorem traced_pushTodoApp {s : Todo} (h : Traced s) : Traced s.pushTodoApp := by
  refine ⟨Store.logged_call h.store (by simp [Store.taskItems]), ?_, ?_⟩
  · intro w hw item hitem
    cases List.mem_append.mp hw with
    | inl hold => exact h.frames w hold item hitem
    | inr hnew =>
        rw [List.mem_singleton.mp hnew] at hitem
        simp [StateObject.initState] at hitem
  · intro w hw item hitem
    cases List.mem_append.mp hw with
    | inl hold => exact h.lists w hold item hitem
    | inr hnew =>
        rw [List.mem_singleton.mp hnew] at hitem
        simp [StateObject.initState] at hitem

theorem traced_screens {s : Todo} {store : Store} (hstore : store.Logged)
    (hlog : ∃ new, store.insertions = new ++ s.store.insertions)
    {screens : List (StateObject TodoFields)} (stack : List Route) (rangeErrors : Nat)
    (hscreens : ∀ w ∈ screens,
      (∀ item ∈ w.fields.frame, Known s.store.insertions item) ∧
      ∀ item ∈ w.fields.databaseItems.getD [], Known s.store.insertions item) :
    Traced ⟨store, screens, stack, rangeErrors⟩ := by
  obtain ⟨new, hnew⟩ := hlog
  refine ⟨hstore, ?_, ?_⟩
  · intro w hw item hitem
    rw [show Todo.store _ = store from rfl, hnew]
    exact known_append new ((hscreens w hw).1 item hitem)
  · intro w hw item hitem
    rw [show Todo.store _ = store from rfl, hnew]
    exact known_append new ((hscreens w hw).2 item hitem)

theorem traced_modify {s : Todo} (h : Traced s) {screen : Nat}
    {f : StateObject TodoFields → StateObject TodoFields}
    (hf : ∀ w ∈ s.screens, (∀ item ∈ (f w).fields.frame, Known s.store.insertions item) ∧
      ∀ item ∈ (f w).fields.databaseItems.getD [], Known s.store.insertions item) :
    ∀ w ∈ s.screens.modify screen f,
      (∀ item ∈ w.fields.frame, Known s.store.insertions item) ∧
      ∀ item ∈ w.fields.databaseItems.getD [], Known s.store.insertions item := by
  intro w hw
  cases mem_modify hw with
  | inl hold => exact ⟨h.frames w hold, h.lists w hold⟩
  | inr hnew =>
      obtain ⟨w', hw', rfl⟩ := hnew
      exact hf w' (List.mem_of_getElem? hw')

theorem traced_disposeTop {s : Todo} (h : Traced s) (top : Route) :
    ∀ w ∈ s.disposeTop top,
      (∀ item ∈ w.fields.frame, Known s.store.insertions item) ∧
      ∀ item ∈ w.fields.databaseItems.getD [], Known s.store.insertions item := by
  cases top with
  | todoApp screen => exact traced_modify h fun w hw => ⟨h.frames w hw, h.lists w hw⟩
  | addUsers => exact fun w hw => ⟨h.frames w hw, h.lists w hw⟩

theorem traced_showItems {s : Todo} (h : Traced s) {screen : Nat} {rows : List UserItem}
    (hrows : ∀ item ∈ rows, Known s.store.insertions item) :
    ∀ w ∈ s.showItems screen rows,
      (∀ item ∈ w.fields.frame, Known s.store.insertions item) ∧
      ∀ item ∈ w.fields.databaseItems.getD [], Known s.store.insertions item := by
  apply traced_modify h
  intro w hw
  by_cases hm : w.mounted = true
  · simp only [StateObject.setState, hm, if_true]
    exact ⟨h.frames w hw, hrows⟩
  · rw [StateObject.setState_of_disposed (by simpa using hm)]
    exact ⟨h.frames w hw, h.lists w hw⟩

theorem traced_step {supply : KeySupply Int} {s t : Todo} {e : Event} (h : Traced s)
    (hstep : step supply s e = some t) : Traced t := by
  have hsame : ∀ w ∈ s.screens, (∀ item ∈ w.fields.frame, Known s.store.insertions item) ∧
      ∀ item ∈ w.fields.databaseItems.getD [], Known s.store.insertions item :=
    fun w hw => ⟨h.frames w hw, h.lists w hw⟩
  cases stepped hstep with
  | openTodoApp hstack => exact traced_pushTodoApp h
  | openAddUsers hstack => exact ⟨h.store, h.frames, h.lists⟩
  | insertValue hstack =>
      exact traced_pushTodoApp
        ⟨Store.logged_call h.store (by simp [Store.taskItems]), h.frames, h.lists⟩
  | back hstack => exact traced_screens h.store ⟨[], rfl⟩ _ _ (traced_disposeTop h _)
  | build hmounted =>
      exact traced_screens h.store ⟨[], rfl⟩ _ _
        (traced_modify h fun w hw => ⟨h.lists w hw, h.lists w hw⟩)
  | tap hstack hw htapped =>
      have hknown := h.frames _ (List.mem_of_getElem? hw) _ (List.mem_of_getElem? htapped)
      simp only [onPointerDown]
      split
      · exact ⟨h.store, h.frames, h.lists⟩
      · exact ⟨Store.logged_call h.store (by simpa [Store.taskItems] using hknown), h.frames,
          h.lists⟩
  | resume htask =>
      rename_i i task
      have hitems := h.store.items task (List.mem_of_getElem? htask)
      cases task with
      | fetched screen rows =>
          exact traced_screens (Store.logged_resume h.store htask)
            (Store.resumeTask_insertions h.store htask) _ _ (traced_showItems h hitems)
      | awaitDb _ | awaitStatement _ _ | deleted _ | closeDb | closeConn _ =>
          exact traced_screens (Store.logged_resume h.store htask)
            (Store.resumeTask_insertions h.store htask) _ _ hsame

/-- Every deletion so far removed nobody or the very user whose row was tapped, and no tap
looked beyond the end of its list. -/
def DeletesOnlyTapped (s : Todo) : Prop :=
  s.rangeErrors = 0 ∧ ∀ d ∈ s.store.deletions, d.Right

/-- The tapped index lies inside the list of that moment; and a delete statement either finds
no row under the id that the tap read, or that id is the one of the row the frame showed and
has not been given to a later insertion. -/
def HitsTapped (s : Todo) : Event → Prop
  | .tap index => ∀ screen rest w, s.stack = .todoApp screen :: rest →
      s.screens[screen]? = some w → index < (w.fields.databaseItems.getD []).length
  | .resume i => ∀ screen id tapped conn,
      s.store.tasks[i]? = some (.awaitStatement (.deleteItem screen id tapped) conn) →
      s.store.conns.isOpen conn → id ∉ s.store.table.keys ∨
        (id = tapped.row.id ∧ lastInsertion s.store.insertions id = tapped.insertion)
  | _ => True

theorem deletes_resume {supply : KeySupply Int} {s : Todo} {i : Nat} {task : Task}
    (h : Traced s) (hi : s.store.tasks[i]? = some task) :
    DeletesOnlyTapped (s.resume supply i task) ↔
      DeletesOnlyTapped s ∧ HitsTapped s (.resume i) := by
  by_cases hdelete : ∃ screen id tapped conn,
      task = .awaitStatement (.deleteItem screen id tapped) conn ∧ s.store.conns.isOpen conn
  · obtain ⟨screen, id, tapped, conn, rfl, hopen⟩ := hdelete
    have hknown : Known s.store.insertions tapped :=
      h.store.items _ (List.mem_of_getElem? hi) tapped (List.mem_singleton_self tapped)
    have hright := removed_right_iff id h.store.keys hknown
    have hcond : HitsTapped s (.resume i) ↔ id ∉ s.store.table.keys ∨
        (id = tapped.row.id ∧ lastInsertion s.store.insertions id = tapped.insertion) := by
      simp only [HitsTapped, hi, Option.some.injEq, Task.awaitStatement.injEq,
        Operation.deleteItem.injEq]
      constructor
      · exact fun hall => hall screen id tapped conn ⟨⟨rfl, rfl, rfl⟩, rfl⟩ hopen
      · intro hor screen' id' tapped' conn' heq _
        obtain ⟨⟨-, rfl, rfl⟩, -⟩ := heq
        exact hor
    rw [hcond, ← hright]
    simp only [DeletesOnlyTapped, resume, Store.resumeTask, Store.advance, hopen, if_true,
      Store.execute, List.forall_mem_cons]
    tauto
  · have hne : ∀ screen id tapped conn,
        task = .awaitStatement (.deleteItem screen id tapped) conn →
        ¬ s.store.conns.isOpen conn := by
      intro screen id tapped conn htask hopen
      exact hdelete ⟨screen, id, tapped, conn, htask, hopen⟩
    have hcond : HitsTapped s (.resume i) := by
      intro screen id tapped conn htask hopen
      exact absurd hopen (hne screen id tapped conn (Option.some.inj (hi.symm.trans htask)))
    have hsame : (s.resume supply i task).store.deletions = s.store.deletions ∧
        (s.resume supply i task).rangeErrors = s.rangeErrors := by
      cases task with
      | fetched _ _ | awaitDb _ | deleted _ | closeDb | closeConn _ => exact ⟨rfl, rfl⟩
      | awaitStatement op conn => exact ⟨Store.resumeTask_deletions hne, rfl⟩
    simp only [DeletesOnlyTapped, hsame.1, hsame.2, hcond, and_true]

theorem deletes_step {supply : KeySupply Int} {s t : Todo} {e : Event} (h : Traced s)
    (hstep : step supply s e = some t) :
    DeletesOnlyTapped t ↔ DeletesOnlyTapped s ∧ HitsTapped s e := by
  cases stepped hstep with
  | openTodoApp hstack | openAddUsers hstack | insertValue hstack | back hstack
  | build hmounted => exact (and_iff_left trivial).symm
  | tap hstack hw htapped =>
      rename_i index screen rest w tapped
      have hcond : HitsTapped s (.tap index) ↔
          index < (w.fields.databaseItems.getD []).length := by
        constructor
        · exact fun hall => hall screen rest w hstack hw
        · intro hlt screen' rest' w' hstack' hw'
          obtain ⟨rfl, rfl⟩ : screen = screen' ∧ rest = rest' := by
            simpa using hstack.symm.trans hstack'
          obtain rfl : w = w' := Option.some.inj (hw.symm.trans hw')
          exact hlt
      rw [hcond]
      simp only [onPointerDown]
      split
      · rename_i hnone
        have hout := List.getElem?_eq_none_iff.mp hnone
        constructor
        · exact fun hbad => absurd hbad.1 (Nat.succ_ne_zero _)
        · exact fun hbad => absurd hbad.2 (Nat.not_lt.mpr hout)
      · rename_i item hitem
        have hin := (List.getElem?_eq_some_iff.mp hitem).1
        exact (and_iff_left hin).symm
  | resume htask => exact deletes_resume h htask

/-- In every run of the screens, the icons deleted only the users they were rendered for
exactly when every tap and every delete statement hit what was tapped. -/
theorem deletesOnlyTapped_iff {supply : KeySupply Int} {t₀ : Table} {es : List Event} {s : Todo}
    (h : EventSystem.run (step supply) (initial t₀) es = some s) :
    DeletesOnlyTapped s ↔ EventSystem.StepsMeet (step supply) HitsTapped (initial t₀) es :=
  EventSystem.run_fault_iff Traced DeletesOnlyTapped (traced_initial t₀)
    ⟨rfl, by simp [initial, Store.initial]⟩
    (fun _ _ _ ht hstep => traced_step ht hstep)
    (fun _ _ _ ht hstep => deletes_step ht hstep) h

end Todo

end FlutterApp
