import FlutterApp.Library.EventSystem
import Mathlib.Data.List.Basic
import Mathlib.Data.List.Perm.Basic

/-!
Pools of suspended tasks on a single-threaded event loop.

Any task of the pool may be resumed next. Resuming one takes it out of the pool
and puts in whatever it awaits or has started by the time it is suspended again.
-/

namespace TaskPool
universe u v
variable {τ : Type u}

def resume (pool : List τ) (i : Nat) (next : List τ) : List τ := pool.eraseIdx i ++ next

/-- A task in the pool after a step was there before or has just been put in. -/
theorem mem_of_mem_resume {pool next : List τ} {i : Nat} {task : τ}
    (h : task ∈ resume pool i next) : task ∈ pool ∨ task ∈ next := by
  cases List.mem_append.mp h with
  | inl hold => exact Or.inl (List.mem_of_mem_eraseIdx hold)
  | inr hnew => exact Or.inr hnew

theorem forall_mem_resume {pool next : List τ} {i : Nat} {P : τ → Prop}
    (hold : ∀ task ∈ pool, P task) (hnew : ∀ task ∈ next, P task) :
    ∀ task ∈ resume pool i next, P task := by
  intro task h
  exact (mem_of_mem_resume h).elim (hold task) (hnew task)

theorem mem_resume_of_mem_next {pool next : List τ} {i : Nat} {task : τ} (h : task ∈ next) :
    task ∈ resume pool i next :=
  List.mem_append_right _ h

/-- Only the resumed task leaves the pool. -/
theorem mem_resume_of_ne {pool next : List τ} {i : Nat} {task resumed : τ}
    (h : task ∈ pool) (hi : pool[i]? = some resumed) (hne : task ≠ resumed) :
    task ∈ resume pool i next := by
  apply List.mem_append_left
  rw [List.mem_eraseIdx_iff_getElem?]
  obtain ⟨j, hj⟩ := List.mem_iff_getElem?.mp h
  refine ⟨j, ?_, hj⟩
  intro hji
  subst hji
  exact hne (Option.some.inj (hj.symm.trans hi))

theorem perm_cons_eraseIdx {pool : List τ} {i : Nat} {resumed : τ}
    (hi : pool[i]? = some resumed) : pool.Perm (resumed :: pool.eraseIdx i) := by
  obtain ⟨hlt, hget⟩ := List.getElem?_eq_some_iff.mp hi
  subst hget
  exact (List.getElem_cons_eraseIdx_perm hlt).symm

/-- What the tasks of a pool stand for, before and after a step. -/
theorem filterMap_resume_perm {α : Type v} {pool : List τ} {i : Nat} {resumed : τ}
    (f : τ → Option α) (next : List τ) (hi : pool[i]? = some resumed) :
    (((resume pool i next).filterMap f) ++ (f resumed).toList).Perm
      (pool.filterMap f ++ next.filterMap f) := by
  have hpool := (perm_cons_eraseIdx hi).filterMap f
  have hcons : (resumed :: pool.eraseIdx i).filterMap f =
      (f resumed).toList ++ (pool.eraseIdx i).filterMap f := by
    cases h : f resumed <;> simp [h]
  rw [hcons] at hpool
  rw [resume, List.filterMap_append, List.append_assoc]
  refine (List.perm_append_comm_assoc _ _ _).trans ?_
  refine List.perm_append_comm.trans ?_
  refine (List.Perm.append_right _ (List.perm_append_comm.trans hpool.symm))

theorem count_resume {α : Type v} [BEq α] {pool : List τ} {i : Nat} {resumed : τ}
    (f : τ → Option α) (next : List τ) (hi : pool[i]? = some resumed) (a : α) :
    ((resume pool i next).filterMap f).count a + (f resumed).toList.count a =
      (pool.filterMap f).count a + (next.filterMap f).count a := by
  simpa only [List.count_append] using (filterMap_resume_perm f next hi).count_eq a

def load (weight : τ → Nat) : List τ → Nat
  | [] => 0
  | task :: pool => weight task + load weight pool

theorem load_append (weight : τ → Nat) (pool more : List τ) :
    load weight (pool ++ more) = load weight pool + load weight more := by
  induction pool with
  | nil => simp [load]
  | cons task pool ih => simp only [List.cons_append, load, ih, Nat.add_assoc]

theorem load_perm {weight : τ → Nat} {pool pool' : List τ} (h : pool.Perm pool') :
    load weight pool = load weight pool' := by
  induction h with
  | nil => rfl
  | cons _ _ ih => simp only [load, ih]
  | swap _ _ _ => simp only [load, Nat.add_left_comm]
  | trans _ _ ih ih' => exact ih.trans ih'

theorem load_le {weight weight' : τ → Nat} (h : ∀ task, weight task ≤ weight' task)
    (pool : List τ) : load weight pool ≤ load weight' pool := by
  induction pool with
  | nil => exact Nat.le_refl 0
  | cons task pool ih => exact Nat.add_le_add (h task) ih

theorem load_eraseIdx {pool : List τ} {i : Nat} {task : τ} (weight : τ → Nat)
    (hi : pool[i]? = some task) :
    load weight pool = weight task + load weight (pool.eraseIdx i) :=
  load_perm (perm_cons_eraseIdx hi)

theorem load_set {pool : List τ} {i : Nat} {task : τ} (weight : τ → Nat)
    (hi : pool[i]? = some task) (task' : τ) :
    load weight (pool.set i task') + weight task = load weight pool + weight task' := by
  induction pool generalizing i with
  | nil => cases hi
  | cons first rest ih =>
      cases i with
      | zero =>
          obtain rfl : first = task := by simpa using hi
          simp only [List.set_cons_zero, load]
          omega
      | succ i =>
          have hrest := ih (by simpa using hi)
          simp only [List.set_cons_succ, load]
          omega

/-- Resuming a task that starts lighter ones leaves less to do. -/
theorem load_resume_lt {weight : τ → Nat} {pool next : List τ} {i : Nat} {resumed : τ}
    (hi : pool[i]? = some resumed) (hnext : load weight next < weight resumed) :
    load weight (resume pool i next) < load weight pool := by
  rw [resume, load_append, load_eraseIdx weight hi]
  omega

/-- A system whose internal events resume tasks that start lighter ones ends with an empty
pool. -/
theorem comesToRest {S E : Type*} {step : S → E → Option S} {internal : E → Prop}
    (tasks : S → List τ) (weight : τ → Nat)
    (resumes : ∀ s e t, internal e → step s e = some t → ∃ i task next, (tasks s)[i]? = some task ∧
      tasks t = resume (tasks s) i next ∧ load weight next < weight task)
    (continues : ∀ s task, (tasks s)[0]? = some task → ∃ e t, internal e ∧ step s e = some t)
    (s : S) : EventSystem.ComesToRest step internal (fun s => tasks s = [])
      (load weight (tasks s)) s := by
  refine EventSystem.comesToRest_of_decreasing (fun s => load weight (tasks s)) ?_ ?_ s
  · intro s e t hinternal hstep
    obtain ⟨i, task, next, htask, htasks, hlighter⟩ := resumes s e t hinternal hstep
    rw [htasks]
    exact load_resume_lt htask hlighter
  · intro s hbusy
    obtain ⟨task, rest, hpool⟩ := List.exists_cons_of_ne_nil hbusy
    exact continues s task (by rw [hpool, List.getElem?_cons_zero])

end TaskPool
