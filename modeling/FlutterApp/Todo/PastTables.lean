import FlutterApp.Lifecycle
import FlutterApp.Todo.Freshness

/-!
Which states of the table the lists show. A fetch reads all rows in one statement, so that
under every interleaving a list is the table as some of the executed statements had left
it; and the screens pushed after a moment fetch after it, so that none of them shows an
older table than that of the moment.
-/

namespace FlutterApp

namespace Store

/-- The rows of the table at some moment between two logs of executed statements. -/
def PastRows (supply : KeySupply Int) (t₀ : Table) (since log : List Operation)
    (rows : List Row) : Prop :=
  ∃ past, since <:+ past ∧ past <:+ log ∧ rows = (replay supply t₀ past).rows

theorem pastRows_later {supply : KeySupply Int} {t₀ : Table} {since log log' : List Operation}
    {rows : List Row} (h : PastRows supply t₀ since log rows) (hlater : log <:+ log') :
    PastRows supply t₀ since log' rows := by
  obtain ⟨past, hsince, hpast, hrows⟩ := h
  exact ⟨past, hsince, hpast.trans hlater, hrows⟩

/-- What has been read for the screens from the first one on is not older than the log since
which they have been pushed. -/
structure Reads (supply : KeySupply Int) (t₀ : Table) (since : List Operation) (first : Nat)
    (s : Store) : Prop where
  replayed : s.table = replay supply t₀ s.executed
  grown : since <:+ s.executed
  fetched : ∀ screen items, .fetched screen items ∈ s.tasks → first ≤ screen →
    PastRows supply t₀ since s.executed (items.map UserItem.row)

section Step
variable {supply : KeySupply Int} {t₀ : Table} {since : List Operation} {first : Nat} {s : Store}

theorem reads_call {op : Operation} (h : Reads supply t₀ since first s) :
    Reads supply t₀ since first (s.call op) := by
  refine ⟨h.replayed, h.grown, ?_⟩
  intro screen items hmem
  cases List.mem_append.mp hmem with
  | inl hold => exact h.fetched screen items hold
  | inr hnew => simp at hnew

theorem executed_advance (supply : KeySupply Int) (mounted : Bool) (s : Store) (task : Task) :
    s.executed <:+ (advance supply mounted s task).1.executed := by
  cases task with
  | awaitStatement op conn =>
      simp only [advance]
      split
      · rw [execute_executed]
        exact List.suffix_cons _ _
      · exact List.suffix_rfl
  | awaitDb _ | fetched _ _ | deleted _ | closeDb | closeConn _ => exact List.suffix_rfl

/-- Only the select of a fetch brings rows, and it brings those of the table. -/
theorem fetched_advance {mounted : Bool} {task : Task} {screen : Nat} {items : List UserItem}
    (h : .fetched screen items ∈ (advance supply mounted s task).2) :
    items.map UserItem.row = s.table.rows := by
  cases task with
  | awaitStatement op conn =>
      simp only [advance] at h
      split at h
      · cases op with
        | fetchValue m =>
            cases List.mem_singleton.mp h
            exact select_rows s
        | deleteItem m id tapped => simp [execute] at h
        | insertUser username password =>
            simp only [execute] at h
            split at h <;> simp at h
      · simp at h
  | fetched m rows => cases mounted <;> simp [advance] at h
  | awaitDb _ | deleted _ | closeDb | closeConn _ => simp [advance] at h

theorem reads_resume {mounted : Bool} {i : Nat} {task : Task}
    (h : Reads supply t₀ since first s) :
    Reads supply t₀ since first (resumeTask supply mounted s i task) := by
  have hlater : s.executed <:+ (resumeTask supply mounted s i task).executed :=
    executed_advance supply mounted s task
  refine ⟨advance_replayed mounted task h.replayed, h.grown.trans hlater, ?_⟩
  intro screen items hmem hscreen
  cases TaskPool.mem_of_mem_resume hmem with
  | inl hold => exact pastRows_later (h.fetched screen items hold hscreen) hlater
  | inr hnew =>
      refine ⟨s.executed, h.grown, hlater, ?_⟩
      rw [fetched_advance hnew, h.replayed]

end Step

end Store

namespace Todo
open Store (PastRows)

/-- The list and the rendered rows are those of a past table. -/
def ShowsPast (supply : KeySupply Int) (t₀ : Table) (since log : List Operation)
    (fields : TodoFields) : Prop :=
  ListMeets (fun items => PastRows supply t₀ since log (items.map UserItem.row))
    fields.databaseItems fields.frame

structure Reads (supply : KeySupply Int) (t₀ : Table) (since : List Operation) (first : Nat)
    (s : Todo) : Prop where
  store : s.store.Reads supply t₀ since first
  screens : ∀ n w, first ≤ n → s.screens[n]? = some w →
    ShowsPast supply t₀ since s.store.executed w.fields

section Step
variable {supply : KeySupply Int} {t₀ : Table} {since : List Operation} {first : Nat}
  {s t : Todo}

theorem showsPast_later {log log' : List Operation} {fields : TodoFields}
    (h : ShowsPast supply t₀ since log fields) (hlater : log <:+ log') :
    ShowsPast supply t₀ since log' fields :=
  h.imp fun _ hrows => Store.pastRows_later hrows hlater

theorem screens_modify {P : TodoFields → Prop} {screens : List (StateObject TodoFields)}
    {m : Nat} {f : StateObject TodoFields → StateObject TodoFields}
    (h : ∀ n w, first ≤ n → screens[n]? = some w → P w.fields)
    (hf : ∀ w, first ≤ m → P w.fields → P (f w).fields) :
    ∀ n w, first ≤ n → (screens.modify m f)[n]? = some w → P w.fields := by
  intro n w hn hw
  rw [List.getElem?_modify] at hw
  obtain ⟨old, hold, rfl⟩ := Option.map_eq_some_iff.mp hw
  have hkept := h n old hn hold
  split
  · rename_i hmn
    exact hf old (hmn ▸ hn) hkept
  · exact hkept

theorem screens_snoc {P : TodoFields → Prop} {screens : List (StateObject TodoFields)}
    {new : StateObject TodoFields} (h : ∀ n w, first ≤ n → screens[n]? = some w → P w.fields)
    (hnew : P new.fields) :
    ∀ n w, first ≤ n → (screens ++ [new])[n]? = some w → P w.fields := by
  intro n w hn hw
  rw [List.getElem?_append] at hw
  split at hw
  · exact h n w hn hw
  · rw [List.mem_singleton.mp (List.mem_of_getElem? hw)]
    exact hnew

theorem reads_pushTodoApp (h : Reads supply t₀ since first s) :
    Reads supply t₀ since first s.pushTodoApp :=
  ⟨Store.reads_call h.store, screens_snoc h.screens ⟨nofun, Or.inl rfl⟩⟩

theorem reads_resume {i : Nat} {task : Task} (h : Reads supply t₀ since first s)
    (hi : s.store.tasks[i]? = some task) :
    Reads supply t₀ since first (s.resume supply i task) := by
  obtain ⟨mounted, hstore⟩ := resume_store supply s i task
  have hlater : s.store.executed <:+ (s.resume supply i task).store.executed := by
    rw [hstore]
    exact Store.executed_advance supply mounted s.store task
  refine ⟨hstore ▸ Store.reads_resume h.store, ?_⟩
  have hkept : ∀ n w, first ≤ n → s.screens[n]? = some w →
      ShowsPast supply t₀ since (s.resume supply i task).store.executed w.fields :=
    fun n w hn hw => showsPast_later (h.screens n w hn hw) hlater
  cases task with
  | fetched screen items =>
      refine screens_modify hkept ?_
      intro w hscreen hw
      refine StateObject.setState_keeps hw ?_
      intro fields hfields
      cases hfields
      exact hw.assign (Store.pastRows_later
        (h.store.fetched screen items (List.mem_of_getElem? hi) hscreen) hlater)
  | awaitDb _ | awaitStatement _ _ | deleted _ | closeDb | closeConn _ => exact hkept

theorem reads_step {e : Event} (h : Reads supply t₀ since first s)
    (hstep : step supply s e = some t) : Reads supply t₀ since first t := by
  cases stepped hstep with
  | openTodoApp _ => exact reads_pushTodoApp h
  | openAddUsers _ => exact ⟨h.store, h.screens⟩
  | @insertValue username password rest hstack =>
      have hcall : Reads supply t₀ since first (s.insertUser username password) :=
        ⟨Store.reads_call h.store, h.screens⟩
      exact reads_pushTodoApp hcall
  | @back top below rest hstack =>
      refine ⟨h.store, ?_⟩
      cases top with
      | addUsers => exact h.screens
      | todoApp m => exact screens_modify h.screens fun _ _ hw => hw
  | build _ => exact ⟨h.store, screens_modify h.screens fun _ _ hw => hw.build⟩
  | tap _ _ _ =>
      simp only [onPointerDown]
      split
      · exact ⟨h.store, h.screens⟩
      · exact ⟨Store.reads_call h.store, h.screens⟩
  | resume htask => exact reads_resume h htask

/-- Nothing has been read yet for the screens that are pushed from now on. -/
theorem reads_now {es : List Event} (h : EventSystem.run (step supply) (initial t₀) es = some s) :
    Reads supply t₀ s.store.executed s.screens.length s := by
  have haddressed : Addressed s :=
    EventSystem.run_invariant Addressed (addressed_initial t₀)
      (fun _ _ _ hmid hstep => addressed_step hmid hstep) h
  obtain ⟨fs, hfs⟩ := run_store h
  refine ⟨⟨(Store.booked_run hfs).replayed, List.suffix_rfl, ?_⟩, ?_⟩
  · intro screen items hmem hscreen
    exact absurd (haddressed.known _ hmem screen rfl) (Nat.not_lt.mpr hscreen)
  · intro n w hn hw
    rw [List.getElem?_eq_none hn] at hw
    cases hw

end Step

/-- In every run, and from every moment of it on: what a screen that is pushed after the
moment shows, and what it has rendered, are the rows of the table as some of the executed
statements had left it, among them all those that were executed before the moment. -/
theorem lists_are_past_tables {supply : KeySupply Int} {t₀ : Table} {mid s : Todo}
    {es fs : List Event} (hmid : EventSystem.run (step supply) (initial t₀) es = some mid)
    (hs : EventSystem.run (step supply) mid fs = some s) {n : Nat} {w : StateObject TodoFields}
    (hn : mid.screens.length ≤ n) (hw : s.screens[n]? = some w) :
    ShowsPast supply t₀ mid.store.executed s.store.executed w.fields := by
  have hreads : Reads supply t₀ mid.store.executed mid.screens.length s :=
    EventSystem.run_invariant _ (reads_now hmid) (fun _ _ _ h hstep => reads_step h hstep) hs
  exact hreads.screens n w hn hw

/-- Ann has been inserted. Then Bob is, and the fetch of the screen that is pushed for him
runs before his insertion. -/
def annInserted : List Event :=
  [.openAddUsers, .insertValue "ann" "secret", .resume 0, .resume 1]

def bobOvertaken : List Event :=
  [.back, .insertValue "bob" "hidden", .resume 2, .resume 2, .resume 2, .resume 1, .resume 2]

theorem lists_are_past_tables_overtaken :
    ∃ mid s w, EventSystem.run (step .largestPlusOne) (initial DatabaseHelper.onCreate)
        annInserted = some mid ∧
      EventSystem.run (step .largestPlusOne) mid bobOvertaken = some s ∧
      s.screens[1]? = some w ∧ s.shown 1 = some [⟨1, some "ann", some "secret"⟩] ∧
      s.store.table.rows =
        [⟨1, some "ann", some "secret"⟩, ⟨2, some "bob", some "hidden"⟩] ∧
      ShowsPast .largestPlusOne DatabaseHelper.onCreate mid.store.executed s.store.executed
        w.fields :=
  ⟨_, _, _, rfl, rfl, rfl, rfl, rfl,
    @lists_are_past_tables .largestPlusOne DatabaseHelper.onCreate _ _ annInserted bobOvertaken
      rfl rfl 1 _ (Nat.le_refl 1) rfl⟩

end Todo

end FlutterApp
