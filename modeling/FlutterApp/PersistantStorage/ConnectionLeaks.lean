import FlutterApp.PersistantStorage.ConnectionSafety

/-!
Which connections stay open. Of the three callers insertUser never closes, and a fetch
whose screen has gone throws before it does. Every other call that obtains the connection
goes on to close it, so a connection that is open is still to be closed or has been left
open by one of these two.
-/

namespace FlutterApp
namespace Store

open EventSystem

/-- The event ends a call that has had the connection, without a close(). -/
def LeavesOpen (s : Store) : Event → Prop
  | .call _ => False
  | .resume i mounted => s.conns.shared ≠ none ∧
      ((∃ username password conn, s.conns.isOpen conn ∧
          s.tasks[i]? = some (.awaitStatement (.insertUser username password) conn)) ∨
        (mounted = false ∧ ∃ screen rows, s.tasks[i]? = some (.fetched screen rows)))

/-- The event is a close() of the open connection. -/
def Closes (s : Store) : Event → Prop
  | .call _ => False
  | .resume i _ => ∃ conn, s.conns.isOpen conn ∧ s.tasks[i]? = some (.closeConn conn)

/-- The task has a connection to run its statement on or goes on to a close(). -/
def Uses (conn : Nat) : Task → Prop
  | .awaitDb _ => False
  | .awaitStatement _ held => held = conn
  | .fetched _ _ | .deleted _ | .closeDb => True
  | .closeConn held => held = conn

/-- What keeps a connection open. -/
structure Accounted (leftOpen : Prop) (s : Store) : Prop where
  isOpen : leftOpen → s.conns.shared ≠ none
  used : ∀ conn, s.conns.shared = some conn → leftOpen ∨ ∃ task ∈ s.tasks, Uses conn task

section Resumed
variable {supply : KeySupply Int} {mounted : Bool} {s : Store} {i : Nat} {task : Task}
  {leftOpen leftOpen' : Prop}

/-- A task that is started uses the connection that is then open. -/
theorem accounted_of_started
    (hisOpen : leftOpen → (resumeTask supply mounted s i task).conns.shared ≠ none)
    (hstarted : ∀ conn, (resumeTask supply mounted s i task).conns.shared = some conn →
      ∃ started ∈ (advance supply mounted s task).2, Uses conn started) :
    Accounted leftOpen (resumeTask supply mounted s i task) where
  isOpen := hisOpen
  used := by
    intro conn hconn
    obtain ⟨started, hmem, huses⟩ := hstarted conn hconn
    exact Or.inr ⟨started, TaskPool.mem_resume_of_mem_next hmem, huses⟩

/-- A task that does not use the open connection leaves it to those that do. -/
theorem accounted_of_unused (h : Accounted leftOpen s) (hi : s.tasks[i]? = some task)
    (hleft : leftOpen' ↔ leftOpen)
    (hconns : (resumeTask supply mounted s i task).conns = s.conns)
    (hunused : ∀ conn, s.conns.shared = some conn → ¬ Uses conn task) :
    Accounted leftOpen' (resumeTask supply mounted s i task) where
  isOpen := by
    rw [hconns, hleft]
    exact h.isOpen
  used := by
    intro conn hconn
    rw [hconns] at hconn
    refine (h.used conn hconn).imp hleft.mpr ?_
    intro hused
    obtain ⟨other, hmem, huses⟩ := hused
    refine ⟨other, TaskPool.mem_resume_of_ne hmem hi ?_, huses⟩
    intro heq
    exact hunused conn hconn (heq ▸ huses)

theorem accounted_statement {op : Operation} {conn : Nat} (h : Accounted leftOpen s)
    (hi : s.tasks[i]? = some (.awaitStatement op conn)) :
    Accounted (LeavesOpen s (.resume i mounted) ∨ leftOpen)
      (resumeTask supply mounted s i (.awaitStatement op conn)) := by
  have hconns := resume_statement_conns supply mounted s i op conn
  by_cases hopen : s.conns.isOpen conn
  · have hshared : s.conns.shared = some conn := hopen
    refine ⟨fun _ => by simp [hconns, hshared], ?_⟩
    intro conn' _
    cases op with
    | insertUser username password =>
        exact Or.inl (Or.inl ⟨by simp [hshared], Or.inl ⟨username, password, conn, hopen, hi⟩⟩)
    | fetchValue screen =>
        have hmem : .fetched screen s.select ∈
            (advance supply mounted s (.awaitStatement (.fetchValue screen) conn)).2 := by
          simp [advance, hopen, execute]
        exact Or.inr ⟨_, TaskPool.mem_resume_of_mem_next hmem, trivial⟩
    | deleteItem screen id tapped =>
        have hmem : .deleted screen ∈
            (advance supply mounted s (.awaitStatement (.deleteItem screen id tapped) conn)).2 := by
          simp [advance, hopen, execute]
        exact Or.inr ⟨_, TaskPool.mem_resume_of_mem_next hmem, trivial⟩
  · refine accounted_of_unused h hi ?_ hconns ?_
    · simp only [LeavesOpen, hi]
      simp [hopen]
    · intro conn' hconn' heq
      exact hopen (heq ▸ hconn')

/-- A task that obtains the connection and starts one that holds it. -/
theorem accounted_of_obtained (hn : Numbered s) {started : Task}
    (hconns : (resumeTask supply mounted s i task).conns = s.conns.db.2)
    (hmem : started ∈ (advance supply mounted s task).2) (huses : Uses s.conns.db.1 started) :
    Accounted leftOpen (resumeTask supply mounted s i task) := by
  have hshared : (resumeTask supply mounted s i task).conns.shared = some s.conns.db.1 := by
    rw [hconns, Connections.db_uncached hn.uncached]
    exact Connections.openDatabase_shared s.conns
  refine accounted_of_started (fun _ => by simp [hshared]) ?_
  intro conn hconn
  obtain rfl : s.conns.db.1 = conn := Option.some.inj (hshared.symm.trans hconn)
  exact ⟨started, hmem, huses⟩

/-- A task that leaves the connection as it is and goes on to close it. -/
theorem accounted_of_closing (hopen : leftOpen → s.conns.shared ≠ none)
    (hconns : (resumeTask supply mounted s i task).conns = s.conns)
    (hmem : .closeDb ∈ (advance supply mounted s task).2) :
    Accounted leftOpen (resumeTask supply mounted s i task) := by
  refine accounted_of_started ?_ fun conn _ => ⟨.closeDb, hmem, trivial⟩
  rw [hconns]
  exact hopen

/-- A fetch that finds its screen gone ends without closing. -/
theorem accounted_late {screen : Nat} {items : List UserItem} (h : Accounted leftOpen s)
    (hi : s.tasks[i]? = some (.fetched screen items)) :
    Accounted (LeavesOpen s (.resume i false) ∨ leftOpen)
      (resumeTask supply false s i (.fetched screen items)) := by
  have hleft : LeavesOpen s (.resume i false) ↔ s.conns.shared ≠ none := by
    simp [LeavesOpen, hi]
  rw [hleft]
  refine ⟨fun hor => hor.elim id h.isOpen, ?_⟩
  intro conn hconn
  have hopen : s.conns.shared = some conn := hconn
  exact Or.inl (Or.inl (by simp [hopen]))

theorem accounted_closeConn {conn : Nat} (h : Accounted leftOpen s)
    (hi : s.tasks[i]? = some (.closeConn conn)) :
    Accounted (LeavesOpen s (.resume i mounted) ∨ leftOpen ∧ ¬ Closes s (.resume i mounted))
      (resumeTask supply mounted s i (.closeConn conn)) := by
  by_cases hopen : s.conns.isOpen conn
  · have hclosed : (resumeTask supply mounted s i (.closeConn conn)).conns.shared = none := by
      simp [resumeTask, advance, Connections.close, hopen]
    have hnever : ¬ (LeavesOpen s (.resume i mounted) ∨
        leftOpen ∧ ¬ Closes s (.resume i mounted)) := by
      simp [LeavesOpen, Closes, hi, hopen]
    exact ⟨fun hleft => absurd hleft hnever, fun conn' hconn' => by simp [hclosed] at hconn'⟩
  · refine accounted_of_unused h hi ?_ ?_ ?_
    · simp [LeavesOpen, Closes, hi, hopen]
    · simp [resumeTask, advance, Connections.close, hopen]
    · intro conn' hconn' heq
      exact hopen (heq ▸ hconn')

theorem accounted_resume (hn : Numbered s) (h : Accounted leftOpen s)
    (hi : s.tasks[i]? = some task) :
    Accounted (LeavesOpen s (.resume i mounted) ∨ leftOpen ∧ ¬ Closes s (.resume i mounted))
      (resumeTask supply mounted s i task) := by
  have hopen : LeavesOpen s (.resume i mounted) ∨ leftOpen ∧ ¬ Closes s (.resume i mounted) →
      s.conns.shared ≠ none :=
    fun hor => hor.elim And.left fun hkept => h.isOpen hkept.1
  cases task with
  | awaitDb op => exact accounted_of_obtained hn rfl (List.mem_singleton_self _) rfl
  | closeDb => exact accounted_of_obtained hn rfl (List.mem_singleton_self _) rfl
  | awaitStatement op conn =>
      have hnot : ¬ Closes s (.resume i mounted) := by simp [Closes, hi]
      simpa only [hnot, not_false_eq_true, and_true] using accounted_statement h hi
  | fetched screen items =>
      cases mounted with
      | true => exact accounted_of_closing hopen rfl (List.mem_singleton_self _)
      | false =>
          have hnot : ¬ Closes s (.resume i false) := by simp [Closes, hi]
          simpa only [hnot, not_false_eq_true, and_true] using accounted_late h hi
  | deleted screen => exact accounted_of_closing hopen rfl (by simp [advance])
  | closeConn conn => exact accounted_closeConn h hi

end Resumed

theorem numbered_run {supply : KeySupply Int} {t₀ : Table} {s : Store} {es : List Event}
    (h : run (step supply) (initial t₀) es = some s) : Numbered s :=
  run_invariant Numbered
    ⟨rfl, by simp [initial], by simp [initial, Connections.initial, Connections.isOpen]⟩
    (fun _ _ _ => numbered_step) h

theorem accounted_run {supply : KeySupply Int} {t₀ : Table} {s : Store} {es : List Event}
    (h : run (step supply) (initial t₀) es = some s) :
    Accounted (SomeSince (step supply) LeavesOpen Closes (initial t₀) es) s := by
  refine run_induction (motive := fun es s =>
    Accounted (SomeSince (step supply) LeavesOpen Closes (initial t₀) es) s) ?_ ?_ h
  · refine ⟨fun hnil => absurd hnil (not_someSince_nil _ _ _ _), ?_⟩
    intro conn hconn
    cases hconn
  · intro es mid e t hrun ih hstep
    rw [someSince_snoc LeavesOpen Closes hrun hstep]
    cases e with
    | call op =>
        obtain rfl : mid.call op = t := Option.some.inj hstep
        simp only [LeavesOpen, Closes, false_or, not_false_eq_true, and_true]
        refine ⟨ih.isOpen, fun conn hconn => (ih.used conn hconn).imp_right ?_⟩
        intro hused
        obtain ⟨task, hmem, huses⟩ := hused
        exact ⟨task, List.mem_append_left _ hmem, huses⟩
    | resume i mounted =>
        obtain ⟨task, hi, rfl⟩ := step_resume hstep
        exact accounted_resume (numbered_run hrun) ih hi

/-- In every run that has come to rest, the connection is still open exactly when, since it
was last closed, an insertUser has run its statement or a fetch has found its screen gone
while it was open. -/
theorem left_open_iff {supply : KeySupply Int} {t₀ : Table} {s : Store} {es : List Event}
    (h : run (step supply) (initial t₀) es = some s) (hidle : s.tasks = []) :
    s.conns.shared ≠ none ↔ SomeSince (step supply) LeavesOpen Closes (initial t₀) es := by
  have haccounted := accounted_run h
  refine ⟨?_, haccounted.isOpen⟩
  intro hopen
  obtain ⟨conn, hconn⟩ := Option.ne_none_iff_exists'.mp hopen
  refine (haccounted.used conn hconn).resolve_right ?_
  intro hused
  obtain ⟨task, hmem, -⟩ := hused
  rw [hidle] at hmem
  cases hmem

/-- A user is inserted after the first fetch has ended. -/
theorem left_open_after_insert :
    ∃ s, run (step .largestPlusOne) (initial DatabaseHelper.onCreate)
        [.call (.fetchValue 0), .resume 0 true, .resume 0 true, .resume 0 true, .resume 0 true,
          .resume 0 true, .call (.insertUser "ann" "secret"), .resume 0 true, .resume 0 true] =
          some s ∧ s.conns.shared = some 1 ∧
      (s.conns.shared ≠ none ↔ SomeSince (step .largestPlusOne) LeavesOpen Closes
        (initial DatabaseHelper.onCreate)
        [.call (.fetchValue 0), .resume 0 true, .resume 0 true, .resume 0 true, .resume 0 true,
          .resume 0 true, .call (.insertUser "ann" "secret"), .resume 0 true, .resume 0 true]) :=
  ⟨_, rfl, rfl, left_open_iff rfl rfl⟩

end Store

end FlutterApp
