import FlutterApp.PersistantStorage.Connections
import Mathlib.Data.List.Count

/-!
When no statement is run on a closed connection.

Every close() closes the connection that all other calls share. Statements are
lost exactly when a close() runs between the moment a call has obtained the
connection and the moment its statement runs. The bookkeeping of requested,
executed and failed calls holds in every run; safety holds in every run that
never closes a connection a call still holds.
-/

namespace FlutterApp

namespace Connections

theorem db_uncached {c : Connections} (h : c.cached = none) : c.db = c.openDatabase := by
  simp only [db, h, initDB]

theorem openDatabase_shared (c : Connections) :
    c.openDatabase.2.shared = some c.openDatabase.1 := by
  simp only [openDatabase]
  split <;> simp_all

theorem openDatabase_cached (c : Connections) : c.openDatabase.2.cached = c.cached := by
  simp only [openDatabase]
  split <;> rfl

theorem openDatabase_opened (c : Connections) : c.opened ≤ c.openDatabase.2.opened := by
  simp only [openDatabase]
  split
  · exact Nat.le_refl _
  · exact Nat.le_succ _

theorem openDatabase_of_shared {c : Connections} {conn : Nat} (h : c.shared = some conn) :
    c.openDatabase = (conn, c) := by
  simp only [openDatabase, h]

/-- A connection that is open after opening was open before or is new. -/
theorem openDatabase_isOpen {c : Connections} {conn : Nat} (hlt : conn < c.opened) :
    c.openDatabase.2.isOpen conn ↔ c.isOpen conn := by
  cases hs : c.shared with
  | some conn' => rw [openDatabase_of_shared hs]
  | none =>
      simp only [isOpen, openDatabase, hs, Option.some.injEq, reduceCtorEq, iff_false]
      omega

theorem openDatabase_open_lt {c : Connections} (h : ∀ conn, c.isOpen conn → conn < c.opened)
    (conn : Nat) (hopen : c.openDatabase.2.isOpen conn) : conn < c.openDatabase.2.opened := by
  cases hs : c.shared with
  | some conn' =>
      rw [openDatabase_of_shared hs] at hopen ⊢
      exact h conn hopen
  | none =>
      simp only [isOpen, openDatabase, hs, Option.some.injEq] at hopen ⊢
      omega

theorem close_cached (c : Connections) (conn : Nat) : (c.close conn).cached = c.cached := by
  simp only [close]
  split <;> rfl

theorem close_opened (c : Connections) (conn : Nat) : (c.close conn).opened = c.opened := by
  simp only [close]
  split <;> rfl

theorem close_isOpen {c : Connections} {conn conn' : Nat} :
    (c.close conn).isOpen conn' ↔ c.isOpen conn' ∧ conn' ≠ conn := by
  simp only [close]
  split <;> rename_i h
  · simp only [isOpen] at h ⊢
    simp only [h, Option.some.injEq, reduceCtorEq, false_iff, not_and, not_not]
    exact fun heq => heq.symm
  · constructor
    · intro hopen
      refine ⟨hopen, ?_⟩
      intro heq
      exact h (heq ▸ hopen)
    · exact fun hopen => hopen.1

end Connections

namespace Store

theorem step_resume {supply : KeySupply Int} {s t : Store} {i : Nat} {mounted : Bool}
    (h : step supply s (.resume i mounted) = some t) :
    ∃ task, s.tasks[i]? = some task ∧ t = resumeTask supply mounted s i task := by
  obtain ⟨task, htask, ht⟩ := Option.map_eq_some_iff.mp h
  exact ⟨task, htask, ht.symm⟩

theorem execute_conns (supply : KeySupply Int) (s : Store) (op : Operation) :
    (execute supply s op).1.conns = s.conns := by
  cases op with
  | fetchValue _ | deleteItem _ _ _ => rfl
  | insertUser _ _ => simp only [execute]; split <;> rfl

theorem execute_failed (supply : KeySupply Int) (s : Store) (op : Operation) :
    (execute supply s op).1.failed = s.failed := by
  cases op with
  | fetchValue _ | deleteItem _ _ _ => rfl
  | insertUser _ _ => simp only [execute]; split <;> rfl

theorem execute_requested (supply : KeySupply Int) (s : Store) (op : Operation) :
    (execute supply s op).1.requested = s.requested := by
  cases op with
  | fetchValue _ | deleteItem _ _ _ => rfl
  | insertUser _ _ => simp only [execute]; split <;> rfl

theorem execute_executed (supply : KeySupply Int) (s : Store) (op : Operation) :
    (execute supply s op).1.executed = op :: s.executed := by
  cases op with
  | fetchValue _ | deleteItem _ _ _ => rfl
  | insertUser _ _ => simp only [execute]; split <;> rfl

theorem execute_table (supply : KeySupply Int) (s : Store) (op : Operation) :
    (execute supply s op).1.table = effect supply s.table op := by
  cases op with
  | fetchValue _ | deleteItem _ _ _ => rfl
  | insertUser _ _ => simp only [execute]; split <;> rfl

theorem execute_started (supply : KeySupply Int) (s : Store) (op : Operation) :
    ∀ task ∈ (execute supply s op).2, (∃ screen rows, task = .fetched screen rows) ∨
      ∃ screen, task = .deleted screen := by
  cases op with
  | fetchValue screen => simp [execute]
  | deleteItem screen _ _ => simp [execute]
  | insertUser _ _ => simp only [execute]; split <;> simp

/-- The call a task still has to run the statement of. -/
def pendingOp : Task → Option Operation
  | .awaitDb op | .awaitStatement op _ => some op
  | _ => none

def pending (s : Store) : List Operation := s.tasks.filterMap pendingOp

def replay (supply : KeySupply Int) (t₀ : Table) : List Operation → Table
  | [] => t₀
  | op :: ops => effect supply (replay supply t₀ ops) op

structure Booked (supply : KeySupply Int) (t₀ : Table) (s : Store) : Prop where
  counted : ∀ op, s.requested.count op =
    s.pending.count op + s.executed.count op + s.failed.count op
  replayed : s.table = replay supply t₀ s.executed

theorem pending_execute (supply : KeySupply Int) (s : Store) (op : Operation) :
    (execute supply s op).2.filterMap pendingOp = [] := by
  rw [List.filterMap_eq_nil_iff]
  intro task htask
  obtain ⟨screen, rows, rfl⟩ | ⟨screen, rfl⟩ := execute_started supply s op task htask <;> rfl

theorem pending_resume {s : Store} {i : Nat} {task : Task} (next : List Task)
    (hi : s.tasks[i]? = some task) (op : Operation) :
    ((TaskPool.resume s.tasks i next).filterMap pendingOp).count op +
        (pendingOp task).toList.count op =
      s.pending.count op + (next.filterMap pendingOp).count op := by
  have h := (TaskPool.filterMap_resume_perm pendingOp next hi).count_eq op
  rwa [List.count_append, List.count_append] at h

/-- What a task does to the books: a call it ceases to wait for is executed or failed, and
one it starts is requested and waited for. -/
theorem advance_booked (supply : KeySupply Int) (mounted : Bool) (s : Store) (task : Task)
    (op : Operation) :
    (advance supply mounted s task).1.requested.count op + (pendingOp task).toList.count op +
        s.executed.count op + s.failed.count op =
      s.requested.count op + ((advance supply mounted s task).2.filterMap pendingOp).count op +
        (advance supply mounted s task).1.executed.count op +
        (advance supply mounted s task).1.failed.count op := by
  cases task with
  | awaitDb op' => simp [advance, pendingOp]
  | awaitStatement op' conn =>
      by_cases hopen : s.conns.isOpen conn
      · simp only [advance, hopen, if_true, execute_requested, execute_executed, execute_failed,
          pending_execute, pendingOp, Option.toList_some, List.count_cons, List.count_nil]
        omega
      · simp only [advance, hopen, if_false, pendingOp, Option.toList_some, List.filterMap_nil,
          List.count_cons, List.count_nil]
        omega
  | fetched screen rows => cases mounted <;> simp [advance, pendingOp, List.filterMap_cons]
  | deleted screen =>
      simp only [advance, pendingOp, Option.toList_none, List.filterMap_cons, List.filterMap_nil,
        List.count_cons, List.count_nil]
      omega
  | closeDb | closeConn conn => simp [advance, pendingOp, List.filterMap_cons]

theorem advance_replayed {supply : KeySupply Int} {t₀ : Table} (mounted : Bool) {s : Store}
    (task : Task) (h : s.table = replay supply t₀ s.executed) :
    (advance supply mounted s task).1.table =
      replay supply t₀ (advance supply mounted s task).1.executed := by
  cases task with
  | awaitStatement op conn =>
      simp only [advance]
      split
      · rw [execute_table, execute_executed, h]
        rfl
      · exact h
  | awaitDb _ | fetched _ _ | deleted _ | closeDb | closeConn _ => exact h

theorem booked_resume {supply : KeySupply Int} {t₀ : Table} {mounted : Bool} {s : Store}
    {i : Nat} {task : Task} (hb : Booked supply t₀ s) (hi : s.tasks[i]? = some task) :
    Booked supply t₀ (resumeTask supply mounted s i task) := by
  refine ⟨?_, advance_replayed mounted task hb.replayed⟩
  intro op
  have hbefore := hb.counted op
  have htask := advance_booked supply mounted s task op
  have hpending := pending_resume (advance supply mounted s task).2 hi op
  simp only [resumeTask, pending] at hpending hbefore ⊢
  omega

theorem booked_step {supply : KeySupply Int} {t₀ : Table} {s t : Store} {e : Event}
    (hb : Booked supply t₀ s) (h : step supply s e = some t) : Booked supply t₀ t := by
  cases e with
  | call op =>
      obtain rfl : s.call op = t := Option.some.inj h
      refine ⟨fun op' => ?_, hb.replayed⟩
      have := hb.counted op'
      simp only [call, pending, List.filterMap_append, List.filterMap_cons, List.filterMap_nil,
        pendingOp, List.count_append, List.count_cons, List.count_nil] at this ⊢
      omega
  | resume i mounted =>
      obtain ⟨task, hi, rfl⟩ := step_resume h
      exact booked_resume hb hi

theorem booked_run {supply : KeySupply Int} {t₀ : Table} {s : Store} {es : List Event}
    (h : EventSystem.run (step supply) (initial t₀) es = some s) : Booked supply t₀ s :=
  EventSystem.run_invariant (Booked supply t₀) ⟨by simp [initial, pending], rfl⟩
    (fun _ _ _ hb hstep => booked_step hb hstep) h

/-- The resumed task is a close() of a connection on which no statement is to run. -/
def ClosesUnheld (s : Store) : Event → Prop
  | .call _ => True
  | .resume i _ => ∀ conn, s.tasks[i]? = some (.closeConn conn) →
      ∀ op, .awaitStatement op conn ∉ s.tasks

/-- No statement has met a closed connection, and none that is on its way will as
things stand. -/
def HeldOpen (s : Store) : Prop :=
  s.failed = [] ∧ ∀ op conn, .awaitStatement op conn ∈ s.tasks → s.conns.isOpen conn

/-- Connections are numbered in the order of opening and never kept in _db. -/
structure Numbered (s : Store) : Prop where
  uncached : s.conns.cached = none
  held : ∀ op conn, .awaitStatement op conn ∈ s.tasks → conn < s.conns.opened
  open_lt : ∀ conn, s.conns.isOpen conn → conn < s.conns.opened

theorem advance_not_held {supply : KeySupply Int} {mounted : Bool} {s : Store} {task : Task}
    (h : ∀ op, task ≠ .awaitDb op) (op : Operation) (conn : Nat) :
    Task.awaitStatement op conn ∉ (advance supply mounted s task).2 := by
  cases task with
  | awaitDb op' => exact absurd rfl (h op')
  | awaitStatement op' conn' =>
      simp only [advance]
      split
      · intro hmem
        obtain ⟨screen, rows, heq⟩ | ⟨screen, heq⟩ := execute_started supply s op' _ hmem <;>
          cases heq
      · simp
  | fetched screen rows => cases mounted <;> simp [advance]
  | deleted screen | closeDb | closeConn conn' => simp [advance]

/-- A call that holds a connection obtained it before, or holds the one it was just given. -/
theorem held_before {supply : KeySupply Int} {mounted : Bool} {s : Store} {i : Nat} {task : Task}
    (h : ∀ op, task ≠ .awaitDb op) {op : Operation} {conn : Nat}
    (hmem : .awaitStatement op conn ∈ (resumeTask supply mounted s i task).tasks) :
    .awaitStatement op conn ∈ s.tasks :=
  (TaskPool.mem_of_mem_resume hmem).resolve_right (advance_not_held h op conn)

theorem held_awaitDb {supply : KeySupply Int} {mounted : Bool} {s : Store} {i : Nat}
    {op op' : Operation} {conn : Nat}
    (hmem : .awaitStatement op' conn ∈ (resumeTask supply mounted s i (.awaitDb op)).tasks) :
    .awaitStatement op' conn ∈ s.tasks ∨ conn = s.conns.db.1 := by
  apply (TaskPool.mem_of_mem_resume hmem).imp_right
  intro hnew
  exact (Task.awaitStatement.inj (List.mem_singleton.mp hnew)).2

theorem held_after {supply : KeySupply Int} {mounted : Bool} {s : Store} {i : Nat} {task : Task}
    (hi : s.tasks[i]? = some task) {op : Operation} {conn : Nat}
    (hne : task ≠ .awaitStatement op conn) (hmem : .awaitStatement op conn ∈ s.tasks) :
    .awaitStatement op conn ∈ (resumeTask supply mounted s i task).tasks :=
  TaskPool.mem_resume_of_ne hmem hi (Ne.symm hne)

theorem resume_statement_conns (supply : KeySupply Int) (mounted : Bool) (s : Store) (i : Nat)
    (op : Operation) (conn : Nat) :
    (resumeTask supply mounted s i (.awaitStatement op conn)).conns = s.conns := by
  simp only [resumeTask, advance]
  split
  · exact execute_conns supply s op
  · rfl

theorem numbered_of_conns {s t : Store} (hn : Numbered s) (hconns : t.conns = s.conns)
    (hheld : ∀ op conn, .awaitStatement op conn ∈ t.tasks → .awaitStatement op conn ∈ s.tasks) :
    Numbered t := by
  refine ⟨?_, ?_, ?_⟩
  · rw [hconns]
    exact hn.uncached
  · rw [hconns]
    exact fun op conn hmem => hn.held op conn (hheld op conn hmem)
  · rw [hconns]
    exact hn.open_lt

/-- Obtaining the connection, for a statement or for a close(). -/
theorem numbered_of_db {s t : Store} (hn : Numbered s) (hconns : t.conns = s.conns.db.2)
    (hheld : ∀ op conn, .awaitStatement op conn ∈ t.tasks →
      .awaitStatement op conn ∈ s.tasks ∨ conn = s.conns.db.1) : Numbered t := by
  have hdb := Connections.db_uncached hn.uncached
  have hopen := Connections.openDatabase_open_lt hn.open_lt
  rw [hdb] at hconns hheld
  refine ⟨?_, ?_, ?_⟩
  · rw [hconns, Connections.openDatabase_cached]
    exact hn.uncached
  · intro op conn hmem
    rw [hconns]
    cases hheld op conn hmem with
    | inl hold =>
        exact Nat.lt_of_lt_of_le (hn.held op conn hold) (Connections.openDatabase_opened _)
    | inr hnew =>
        subst hnew
        exact hopen _ (Connections.openDatabase_shared s.conns)
  · rw [hconns]
    exact hopen

theorem numbered_resume {supply : KeySupply Int} {mounted : Bool} {s : Store} {i : Nat}
    {task : Task} (hn : Numbered s) : Numbered (resumeTask supply mounted s i task) := by
  cases task with
  | awaitDb op => exact numbered_of_db hn rfl fun op' conn hmem => held_awaitDb hmem
  | awaitStatement op conn =>
      exact numbered_of_conns hn (resume_statement_conns supply mounted s i op conn)
        fun op' conn' hmem => held_before (by simp) hmem
  | fetched screen rows | deleted screen =>
      exact numbered_of_conns hn rfl fun op conn hmem => held_before (by simp) hmem
  | closeDb => exact numbered_of_db hn rfl fun op conn hmem => Or.inl (held_before (by simp) hmem)
  | closeConn conn =>
      refine ⟨?_, ?_, ?_⟩
      · simpa only [resumeTask, advance, Connections.close_cached] using hn.uncached
      · intro op conn' hmem
        simp only [resumeTask, advance, Connections.close_opened]
        exact hn.held op conn' (held_before (by simp) hmem)
      · intro conn' hopen
        simp only [resumeTask, advance, Connections.close_opened] at hopen ⊢
        exact hn.open_lt conn' (Connections.close_isOpen.mp hopen).1

theorem numbered_step {supply : KeySupply Int} {s t : Store} {e : Event} (hn : Numbered s)
    (h : step supply s e = some t) : Numbered t := by
  cases e with
  | call op =>
      obtain rfl : s.call op = t := Option.some.inj h
      refine ⟨hn.uncached, ?_, hn.open_lt⟩
      intro op' conn hmem
      exact hn.held op' conn (by simpa [call] using hmem)
  | resume i mounted =>
      obtain ⟨task, hi, rfl⟩ := step_resume h
      exact numbered_resume hn

theorem closesUnheld_of_ne {s : Store} {i : Nat} {task : Task} (mounted : Bool)
    (hi : s.tasks[i]? = some task) (hne : ∀ conn, task ≠ .closeConn conn) :
    ClosesUnheld s (.resume i mounted) := by
  intro conn hclose
  exact absurd (Option.some.inj (hi.symm.trans hclose)) (hne conn)

theorem heldOpen_of_conns {s t : Store} (hfailed : t.failed = s.failed)
    (hconns : t.conns = s.conns)
    (hheld : ∀ op conn, .awaitStatement op conn ∈ t.tasks ↔ .awaitStatement op conn ∈ s.tasks) :
    HeldOpen t ↔ HeldOpen s := by
  simp only [HeldOpen, hfailed, hconns, hheld]

/-- Obtaining the connection opens none that was closed before. -/
theorem heldOpen_of_db {s t : Store} (hn : Numbered s) (hfailed : t.failed = s.failed)
    (hconns : t.conns = s.conns.db.2)
    (hafter : ∀ op conn, .awaitStatement op conn ∈ s.tasks → .awaitStatement op conn ∈ t.tasks)
    (hbefore : ∀ op conn, .awaitStatement op conn ∈ t.tasks →
      .awaitStatement op conn ∈ s.tasks ∨ conn = s.conns.db.1) : HeldOpen t ↔ HeldOpen s := by
  have hdb := Connections.db_uncached hn.uncached
  rw [hdb] at hconns hbefore
  simp only [HeldOpen, hfailed, hconns]
  refine and_congr_right fun _ => ⟨?_, ?_⟩
  · intro hall op conn hmem
    exact (Connections.openDatabase_isOpen (hn.held op conn hmem)).mp
      (hall op conn (hafter op conn hmem))
  · intro hall op conn hmem
    cases hbefore op conn hmem with
    | inl hold =>
        exact (Connections.openDatabase_isOpen (hn.held op conn hold)).mpr (hall op conn hold)
    | inr hnew =>
        subst hnew
        exact Connections.openDatabase_shared s.conns

/-- A statement is lost exactly when its connection has been closed. -/
theorem heldOpen_statement {supply : KeySupply Int} {mounted : Bool} {s : Store} {i : Nat}
    {op : Operation} {conn : Nat} (hi : s.tasks[i]? = some (.awaitStatement op conn)) :
    HeldOpen (resumeTask supply mounted s i (.awaitStatement op conn)) ↔ HeldOpen s := by
  have hconns := resume_statement_conns supply mounted s i op conn
  by_cases hopen : s.conns.isOpen conn
  · have hfailed : (resumeTask supply mounted s i (.awaitStatement op conn)).failed =
        s.failed := by
      simp only [resumeTask, advance, hopen, if_true, execute_failed]
    simp only [HeldOpen, hconns, hfailed]
    refine and_congr_right fun _ => ⟨?_, ?_⟩
    · intro hall op' conn' hmem
      by_cases heq : Task.awaitStatement op conn = .awaitStatement op' conn'
      · obtain ⟨-, rfl⟩ : op = op' ∧ conn = conn' := by simpa using heq
        exact hopen
      · exact hall op' conn' (held_after hi heq hmem)
    · exact fun hall op' conn' hmem => hall op' conn' (held_before (by simp) hmem)
  · refine iff_of_false ?_ ?_
    · intro hlost
      have hfailed := hlost.1
      simp only [resumeTask, advance, hopen, if_false] at hfailed
      cases hfailed
    · intro hsafe
      exact hopen (hsafe.2 op conn (List.mem_of_getElem? hi))

theorem heldOpen_close {supply : KeySupply Int} {mounted : Bool} {s : Store} {i conn : Nat}
    (hi : s.tasks[i]? = some (.closeConn conn)) :
    HeldOpen (resumeTask supply mounted s i (.closeConn conn)) ↔
      HeldOpen s ∧ ClosesUnheld s (.resume i mounted) := by
  have hheld : ∀ op conn', .awaitStatement op conn' ∈
      (resumeTask supply mounted s i (.closeConn conn)).tasks ↔
        .awaitStatement op conn' ∈ s.tasks := fun op conn' =>
    ⟨held_before (by simp), held_after hi (by simp)⟩
  have hconns : (resumeTask supply mounted s i (.closeConn conn)).conns = s.conns.close conn := rfl
  have hfailed : (resumeTask supply mounted s i (.closeConn conn)).failed = s.failed := rfl
  have hunheld : ClosesUnheld s (.resume i mounted) ↔
      ∀ op, .awaitStatement op conn ∉ s.tasks := by
    simp [ClosesUnheld, hi]
  rw [hunheld]
  simp only [HeldOpen, hheld, hconns, hfailed, Connections.close_isOpen, and_assoc]
  refine and_congr_right fun _ => ⟨?_, ?_⟩
  · intro hall
    exact ⟨fun op conn' hmem => (hall op conn' hmem).1,
      fun op hmem => (hall op conn hmem).2 rfl⟩
  · intro hsafe op conn' hmem
    refine ⟨hsafe.1 op conn' hmem, ?_⟩
    intro heq
    exact hsafe.2 op (heq ▸ hmem)

/-- A step keeps held connections open exactly when it closes none of them, and no
later step makes up for one that was closed. -/
theorem heldOpen_resume {supply : KeySupply Int} {mounted : Bool} {s : Store} {i : Nat}
    {task : Task} (hn : Numbered s) (hi : s.tasks[i]? = some task) :
    HeldOpen (resumeTask supply mounted s i task) ↔
      HeldOpen s ∧ ClosesUnheld s (.resume i mounted) := by
  have hafter : ∀ op conn, task ≠ .awaitStatement op conn → .awaitStatement op conn ∈ s.tasks →
      .awaitStatement op conn ∈ (resumeTask supply mounted s i task).tasks :=
    fun _ _ hne hmem => held_after hi hne hmem
  cases task with
  | awaitDb op =>
      rw [and_iff_left (closesUnheld_of_ne mounted hi (by simp))]
      exact heldOpen_of_db hn rfl rfl (fun op conn => hafter op conn (by simp))
        fun op conn => held_awaitDb
  | awaitStatement op conn =>
      rw [and_iff_left (closesUnheld_of_ne mounted hi (by simp))]
      exact heldOpen_statement hi
  | fetched screen rows | deleted screen =>
      rw [and_iff_left (closesUnheld_of_ne mounted hi (by simp))]
      exact heldOpen_of_conns rfl rfl fun op conn =>
        ⟨held_before (by simp), hafter op conn (by simp)⟩
  | closeDb =>
      rw [and_iff_left (closesUnheld_of_ne mounted hi (by simp))]
      exact heldOpen_of_db hn rfl rfl (fun op conn => hafter op conn (by simp))
        fun op conn hmem => Or.inl (held_before (by simp) hmem)
  | closeConn conn => exact heldOpen_close hi

theorem heldOpen_step {supply : KeySupply Int} {s t : Store} {e : Event} (hn : Numbered s)
    (h : step supply s e = some t) : HeldOpen t ↔ HeldOpen s ∧ ClosesUnheld s e := by
  cases e with
  | call op =>
      obtain rfl : s.call op = t := Option.some.inj h
      simp [HeldOpen, call, ClosesUnheld]
  | resume i mounted =>
      obtain ⟨task, hi, rfl⟩ := step_resume h
      exact heldOpen_resume hn hi

theorem heldOpen_run {supply : KeySupply Int} {t₀ : Table} {s : Store} {es : List Event}
    (h : EventSystem.run (step supply) (initial t₀) es = some s) :
    HeldOpen s ↔ EventSystem.StepsMeet (step supply) ClosesUnheld (initial t₀) es :=
  EventSystem.run_fault_iff Numbered HeldOpen
    ⟨rfl, by simp [initial], by simp [initial, Connections.initial, Connections.isOpen]⟩
    ⟨rfl, by simp [initial]⟩
    (fun _ _ _ hn hstep => numbered_step hn hstep)
    (fun _ _ _ hn hstep => heldOpen_step hn hstep) h

/-- No statement has been lost: every call that was requested has run its statement or
still waits to, and the table is what those statements made of the first one. -/
def AllTakeEffect (supply : KeySupply Int) (t₀ : Table) (s : Store) : Prop :=
  s.failed = [] ∧ s.requested.Perm (s.pending ++ s.executed) ∧
    s.table = replay supply t₀ s.executed

theorem allTakeEffect_of_booked {supply : KeySupply Int} {t₀ : Table} {s : Store}
    (hb : Booked supply t₀ s) : AllTakeEffect supply t₀ s ↔ s.failed = [] := by
  refine ⟨fun h => h.1, fun hfailed => ⟨hfailed, ?_, hb.replayed⟩⟩
  rw [List.perm_iff_count]
  intro op
  have := hb.counted op
  simp only [hfailed, List.count_nil, List.count_append] at this ⊢
  omega

/-- In every run: if no close() closes a connection on which another call has yet to run
its statement, no statement is lost; and once every obtained connection has been used,
none was lost only if no close() did so. -/
theorem statements_take_effect_iff (supply : KeySupply Int) (t₀ : Table) (es : List Event)
    (s : Store) (h : EventSystem.run (step supply) (initial t₀) es = some s) :
    (EventSystem.StepsMeet (step supply) ClosesUnheld (initial t₀) es →
        AllTakeEffect supply t₀ s) ∧
      ((∀ op conn, .awaitStatement op conn ∉ s.tasks) → AllTakeEffect supply t₀ s →
        EventSystem.StepsMeet (step supply) ClosesUnheld (initial t₀) es) := by
  rw [← heldOpen_run h]
  refine ⟨fun hopen => (allTakeEffect_of_booked (booked_run h)).mpr hopen.1, ?_⟩
  intro hdrained heffect
  exact ⟨heffect.1, fun op conn hmem => absurd hmem (hdrained op conn)⟩

/-- A fetch and an insert obtain the same connection; the close() that the fetch ends in runs
when both statements are done. -/
def fetchAroundInsert : List Event :=
  [.call (.fetchValue 0), .call (.insertUser "ann" "secret"), .resume 0 true, .resume 0 true,
    .resume 1 true, .resume 0 true, .resume 0 true, .resume 0 true, .resume 0 true]

theorem fetchAroundInsert_closesUnheld :
    EventSystem.StepsMeet (step .largestPlusOne) ClosesUnheld (initial DatabaseHelper.onCreate)
      fetchAroundInsert := by
  have hother : ∀ (s : Store) (i : Nat) (task : Task), s.tasks[i]? = some task →
      (∀ conn, task ≠ .closeConn conn) → ClosesUnheld s (.resume i true) :=
    fun _ _ _ hi hne => closesUnheld_of_ne true hi hne
  refine EventSystem.stepsMeet_cons trivial rfl (EventSystem.stepsMeet_cons trivial rfl ?_)
  refine EventSystem.stepsMeet_cons (hother _ 0 _ rfl (by simp)) rfl ?_
  refine EventSystem.stepsMeet_cons (hother _ 0 _ rfl (by simp)) rfl ?_
  refine EventSystem.stepsMeet_cons (hother _ 1 _ rfl (by simp)) rfl ?_
  refine EventSystem.stepsMeet_cons (hother _ 0 _ rfl (by simp)) rfl ?_
  refine EventSystem.stepsMeet_cons (hother _ 0 _ rfl (by simp)) rfl ?_
  refine EventSystem.stepsMeet_cons (hother _ 0 _ rfl (by simp)) rfl ?_
  -- the close(): the pool holds nothing else
  refine EventSystem.stepsMeet_cons ?_ rfl trivial
  intro conn _ op hmem
  cases List.mem_singleton.mp hmem

theorem statements_take_effect_around_insert :
    ∃ s, EventSystem.run (step .largestPlusOne) (initial DatabaseHelper.onCreate)
        fetchAroundInsert = some s ∧
      s.tasks = [] ∧ s.conns.shared = none ∧ s.table.rows = [⟨1, some "ann", some "secret"⟩] ∧
      AllTakeEffect .largestPlusOne DatabaseHelper.onCreate s :=
  ⟨_, rfl, rfl, rfl, rfl, (statements_take_effect_iff .largestPlusOne DatabaseHelper.onCreate
    fetchAroundInsert _ rfl).1 fetchAroundInsert_closesUnheld⟩

/-- An insert and the first fetch of the next screen obtain the same connection; the
fetch closes it before the insert runs its statement. -/
def insertBesideFetch : List Event :=
  [.call (.insertUser "ann" "secret"), .call (.fetchValue 1), .resume 0 true, .resume 0 true,
    .resume 1 true, .resume 1 true, .resume 1 true, .resume 1 true, .resume 0 true]

theorem insert_lost_beside_fetch :
    ∃ s, EventSystem.run (step .largestPlusOne) (initial DatabaseHelper.onCreate)
        insertBesideFetch = some s ∧
      s.tasks = [] ∧ s.failed = [.insertUser "ann" "secret"] ∧ s.table.rows = [] ∧
      ¬ AllTakeEffect .largestPlusOne DatabaseHelper.onCreate s := by
  refine ⟨_, rfl, rfl, rfl, rfl, ?_⟩
  intro h
  cases h.1

end Store

end FlutterApp
