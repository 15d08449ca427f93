import FlutterApp.Todo.Deletion

/-!
What may come between the frame, a tap on it and the delete statement.

A fetch that finishes in between replaces the list in which the tap looks its row up, and an
insertion in between may be given the id that the tap has read. As long as neither makes a
difference, the deletion is that of the rendered row.
-/

namespace FlutterApp

theorem le_lastInsertion {log : List Int} {k : Int} {m n : Nat}
    (h : lastInsertion log k = some n) (hm : log.reverse[m]? = some k) : m ≤ n := by
  induction log with
  | nil => cases h
  | cons k' older ih =>
      rw [List.reverse_cons] at hm
      have hlt := (List.getElem?_eq_some_iff.mp hm).1
      simp only [List.length_append, List.length_reverse, List.length_singleton] at hlt
      simp only [lastInsertion] at h
      split at h
      · cases h
        omega
      · rename_i hne
        by_cases hlast : m = older.length
        · subst hlast
          simp [hne] at hm
        · rw [List.getElem?_append_left (by simp; omega)] at hm
          exact ih h hm

/-- No insertion after the one of the row has been given its id. -/
def NotGivenAgain (log : List Int) (item : UserItem) : Prop :=
  ∀ n, item.insertion = some n → item.row.id ∉ log.reverse.drop (n + 1)

theorem lastInsertion_of_notGivenAgain {log : List Int} {item : UserItem} (known : Known log item)
    (h : NotGivenAgain log item) : lastInsertion log item.row.id = item.insertion := by
  obtain ⟨n, hn, hget⟩ := known
  obtain ⟨m, hm⟩ := lastInsertion_isSome (List.mem_reverse.mp (List.mem_of_getElem? hget))
  have hle : n ≤ m := le_lastInsertion hm hget
  rw [hm, hn, Option.some.injEq]
  apply Nat.le_antisymm _ hle
  apply Nat.le_of_not_lt
  intro hlt
  apply h n hn
  refine List.mem_of_getElem? (i := m - (n + 1)) ?_
  rw [List.getElem?_drop, Nat.add_sub_cancel' hlt]
  exact lastInsertion_get hm

namespace Todo

open EventSystem

def builds (n : Nat) : Event → Bool
  | .build m => decide (m = n)
  | _ => false

/-- The rows that a finished fetch brings to the mounted screen. -/
def brought (n : Nat) (s : Todo) : Event → List (List UserItem)
  | .resume i =>
      match s.store.tasks[i]? with
      | some (.fetched m rows) => if m = n ∧ s.isMounted n = true then [rows] else []
      | _ => []
  | _ => []

/-- What the fetches that have finished since the last build of the screen have brought. -/
def broughtSinceBuild (supply : KeySupply Int) (t₀ : Table) (n : Nat) (before : List Event) :
    List (List UserItem) :=
  traceSince (step supply) (builds n) (brought n) [] (initial t₀) before

/-- When a row of the frame is tapped, no fetch has finished since the frame was built, or the
last one to finish has brought at the tapped index a row with the same id. When a delete
statement finds a row, no insertion after that of the tapped row has been given its id. -/
def TapStands (supply : KeySupply Int) (t₀ : Table) (before : List Event) (s : Todo) :
    Event → Prop
  | .tap index => ∀ n rest w tapped, s.stack = .todoApp n :: rest → s.screens[n]? = some w →
      w.fields.frame[index]? = some tapped →
      ∀ rows, (broughtSinceBuild supply t₀ n before).getLast? = some rows →
        ∃ item, rows[index]? = some item ∧ item.row.id = tapped.row.id
  | .resume i => ∀ n id tapped conn,
      s.store.tasks[i]? = some (.awaitStatement (.deleteItem n id tapped) conn) →
      s.store.conns.isOpen conn → id ∈ s.store.table.keys →
      NotGivenAgain s.store.insertions tapped
  | _ => True

/-- The last of the lists is the one that the screen has, and the list is that of the frame
when there are none. -/
def SinceBuild (fields : TodoFields) (lists : List (List UserItem)) : Prop :=
  match lists.getLast? with
  | none => fields.databaseItems.getD [] = fields.frame
  | some rows => fields.databaseItems = some rows

/-- A mounted screen is as the lists brought since its last build say, and to a screen that has
not been pushed yet nothing was brought. -/
def Since : Option (StateObject TodoFields) → List (List UserItem) → Prop
  | none, lists => lists = []
  | some w, lists => w.mounted = true → SinceBuild w.fields lists

section Step
variable {supply : KeySupply Int} {s t : Todo} {e : Event} {lists : Nat → List (List UserItem)}

theorem since_pushTodoApp (h : ∀ n : Nat, Since s.screens[n]? (lists n)) :
    ∀ n : Nat, Since s.pushTodoApp.screens[n]? (lists n) := by
  intro n
  have hn := h n
  simp only [pushTodoApp, fetchValue]
  by_cases hlt : n < s.screens.length
  · rwa [List.getElem?_append_left hlt]
  · rw [List.getElem?_eq_none (Nat.le_of_not_lt hlt)] at hn
    rw [hn]
    by_cases heq : n = s.screens.length
    · subst heq
      rw [List.getElem?_concat_length]
      exact fun _ => rfl
    · rw [List.getElem?_eq_none (by simp; omega)]
      rfl

/-- A change to one screen, of which the others know nothing. -/
theorem since_modify {m : Nat} {f : StateObject TodoFields → StateObject TodoFields}
    {lists' : Nat → List (List UserItem)} (h : ∀ n : Nat, Since s.screens[n]? (lists n))
    (hothers : ∀ n, n ≠ m → lists' n = lists n)
    (hnone : s.screens[m]? = none → lists' m = lists m)
    (hchanged : ∀ w, s.screens[m]? = some w → Since (some (f w)) (lists' m)) :
    ∀ n : Nat, Since (s.screens.modify m f)[n]? (lists' n) := by
  intro n
  have hn := h n
  rw [List.getElem?_modify]
  by_cases hmn : m = n
  · subst hmn
    cases hw : s.screens[m]? with
    | none =>
        rw [hw] at hn
        exact (hnone hw).trans hn
    | some w => simpa using hchanged w hw
  · rw [hothers n (Ne.symm hmn)]
    simpa [hmn] using hn

theorem brought_of_not_fetched {i : Nat} {task : Task} (hi : s.store.tasks[i]? = some task)
    (htask : ∀ m rows, task ≠ .fetched m rows) (n : Nat) : brought n s (.resume i) = [] := by
  simp only [brought, hi]
  split
  · rename_i m rows heq
    exact absurd (Option.some.inj heq) (htask m rows)
  · rfl

theorem since_fetched {i m : Nat} {rows : List UserItem}
    (h : ∀ n : Nat, Since s.screens[n]? (lists n))
    (hi : s.store.tasks[i]? = some (.fetched m rows)) :
    ∀ n : Nat, Since (s.showItems m rows)[n]? (lists n ++ brought n s (.resume i)) := by
  refine since_modify h ?_ ?_ ?_
  · intro n hn
    simp [brought, hi, Ne.symm hn]
  · intro hnone
    simp [brought, hi, isMounted, hnone]
  · intro w hw hmounted
    rw [StateObject.setState_mounted] at hmounted
    simp [brought, hi, isMounted, hw, hmounted, StateObject.setState, SinceBuild]

theorem since_step (h : ∀ n : Nat, Since s.screens[n]? (lists n))
    (hstep : step supply s e = some t) :
    ∀ n : Nat, Since t.screens[n]? (if builds n e then [] else lists n ++ brought n s e) := by
  cases stepped hstep with
  | openTodoApp _ => simpa [builds, brought] using since_pushTodoApp h
  | insertValue hstack =>
      rename_i username password rest
      simpa [builds, brought] using since_pushTodoApp (s := s.insertUser username password) h
  | openAddUsers _ => simpa [builds, brought] using h
  | back hstack =>
      rename_i top below rest
      cases top with
      | addUsers => simpa [builds, brought, disposeTop] using h
      | todoApp m =>
          simp only [builds, brought, disposeTop]
          refine since_modify h (by simp) (by simp) ?_
          intro w _ hmounted
          simp at hmounted
  | build hmounted =>
      rename_i m
      refine since_modify h ?_ ?_ ?_
      · intro n hn
        simp [builds, brought, Ne.symm hn]
      · intro hnone
        have hm := h m
        rw [hnone] at hm
        simpa [builds] using hm.symm
      · intro w _ _
        simp [builds, SinceBuild]
  | tap _ _ _ =>
      simp only [onPointerDown]
      split <;> simpa [builds, brought] using h
  | resume htask =>
      rename_i i task
      cases task with
      | fetched m rows => exact since_fetched h htask
      | awaitDb _ | awaitStatement _ _ | deleted _ | closeDb | closeConn _ =>
          intro n
          rw [brought_of_not_fetched htask (by simp)]
          simpa [builds, resume] using h n

end Step

theorem since_run {supply : KeySupply Int} {t₀ : Table} {es : List Event} {s : Todo}
    (h : run (step supply) (initial t₀) es = some s) (n : Nat) :
    Since s.screens[n]? (broughtSinceBuild supply t₀ n es) := by
  refine run_induction (motive := fun es s =>
    ∀ n : Nat, Since s.screens[n]? (broughtSinceBuild supply t₀ n es)) ?_ ?_ h n
  · intro n
    rfl
  · intro es mid e t hrun ih hstep n
    rw [broughtSinceBuild, traceSince_snoc (builds n) (brought n) [] hrun hstep]
    exact since_step ih hstep n

/-- The call deletes under the id of the row that was tapped. -/
def ReadsTapped : Task → Prop
  | .awaitDb (.deleteItem _ id tapped) | .awaitStatement (.deleteItem _ id tapped) _ =>
      id = tapped.row.id
  | _ => True

theorem readsTapped_advance {supply : KeySupply Int} {mounted : Bool} {s : Store} {task : Task}
    (h : ReadsTapped task) : ∀ task' ∈ (Store.advance supply mounted s task).2,
      ReadsTapped task' := by
  cases task with
  | awaitDb op =>
      intro task' hmem
      cases List.mem_singleton.mp hmem
      cases op with
      | fetchValue _ | insertUser _ _ => trivial
      | deleteItem _ _ _ => exact h
  | awaitStatement op conn =>
      simp only [Store.advance]
      split
      · cases op with
        | fetchValue _ | deleteItem _ _ _ => simp [Store.execute, ReadsTapped]
        | insertUser _ _ => simp only [Store.execute]; split <;> simp
      · simp
  | fetched m rows => cases mounted <;> simp [Store.advance, ReadsTapped]
  | deleted m | closeDb | closeConn conn => simp [Store.advance, ReadsTapped]

theorem readsTapped_call {s : Store} {op : Operation} (h : ∀ task ∈ s.tasks, ReadsTapped task)
    (hop : ReadsTapped (.awaitDb op)) : ∀ task ∈ (s.call op).tasks, ReadsTapped task := by
  intro task hmem
  cases List.mem_append.mp hmem with
  | inl hold => exact h task hold
  | inr hnew => exact List.mem_singleton.mp hnew ▸ hop

section Run
variable {supply : KeySupply Int} {t₀ : Table} {before : List Event} {s t : Todo} {e : Event}

/-- The tap finds an item, and its id is that of the row in the frame. -/
theorem item_of_stands {index n : Nat} {rest : List Route} {w : StateObject TodoFields}
    {tapped : UserItem} (hrun : run (step supply) (initial t₀) before = some s)
    (hstands : TapStands supply t₀ before s (.tap index)) (hstack : s.stack = .todoApp n :: rest)
    (hw : s.screens[n]? = some w) (htapped : w.fields.frame[index]? = some tapped) :
    ∃ item, (w.fields.databaseItems.getD [])[index]? = some item ∧
      item.row.id = tapped.row.id := by
  have hstacked : Stacked s :=
    run_invariant Stacked (stacked_initial t₀) (fun _ _ _ => stacked_step) hrun
  have hmounted : w.mounted = true := by
    have htop := (hstacked.mounted n).mpr (hstack ▸ List.mem_cons_self)
    simpa [isMounted, hw] using htop
  have hsince := since_run hrun n
  rw [hw] at hsince
  have hlist := hsince hmounted
  simp only [SinceBuild] at hlist
  cases hlast : (broughtSinceBuild supply t₀ n before).getLast? with
  | none =>
      rw [hlast] at hlist
      exact ⟨tapped, by rw [hlist]; exact htapped, rfl⟩
  | some rows =>
      rw [hlast] at hlist
      rw [hlist]
      exact hstands n rest w tapped hstack hw htapped rows hlast

theorem readsTapped_step (hrun : run (step supply) (initial t₀) before = some s)
    (h : ∀ task ∈ s.store.tasks, ReadsTapped task) (hstands : TapStands supply t₀ before s e)
    (hstep : step supply s e = some t) : ∀ task ∈ t.store.tasks, ReadsTapped task := by
  cases stepped hstep with
  | openTodoApp _ => exact readsTapped_call h trivial
  | openAddUsers _ | back _ | build _ => exact h
  | insertValue _ => exact readsTapped_call (readsTapped_call h trivial) trivial
  | tap hstack hw htapped =>
      obtain ⟨item, hitem, hid⟩ := item_of_stands hrun hstands hstack hw htapped
      simp only [onPointerDown, hitem]
      exact readsTapped_call h hid
  | resume htask =>
      rename_i i task
      have hstarted := fun mounted => @readsTapped_advance supply mounted s.store task
        (h task (List.mem_of_getElem? htask))
      cases task with
      | fetched m rows => exact TaskPool.forall_mem_resume h (hstarted (s.isMounted m))
      | awaitDb _ | awaitStatement _ _ | deleted _ | closeDb | closeConn _ =>
          exact TaskPool.forall_mem_resume h (hstarted true)

/-- What stands hits the row that was tapped. -/
theorem hitsTapped_of_stands (hrun : run (step supply) (initial t₀) before = some s)
    (h : ∀ task ∈ s.store.tasks, ReadsTapped task) (hstands : TapStands supply t₀ before s e)
    (hstep : step supply s e = some t) : HitsTapped s e := by
  have htraced : Traced s :=
    run_invariant Traced (traced_initial t₀) (fun _ _ _ => traced_step) hrun
  cases stepped hstep with
  | openTodoApp _ | openAddUsers _ | back _ | build _ | insertValue _ => trivial
  | tap hstack hw htapped =>
      intro n rest w hstack' hw'
      rw [hstack, List.cons.injEq, Route.todoApp.injEq] at hstack'
      obtain ⟨rfl, rfl⟩ := hstack'
      cases Option.some.inj (hw.symm.trans hw')
      obtain ⟨item, hitem, -⟩ := item_of_stands hrun hstands hstack hw htapped
      exact (List.getElem?_eq_some_iff.mp hitem).1
  | resume htask =>
      intro n id tapped conn hi hopen
      have hmem := List.mem_of_getElem? hi
      by_cases hid : id ∈ s.store.table.keys
      · refine Or.inr ⟨h _ hmem, ?_⟩
        have hknown := htraced.store.items _ hmem tapped (List.mem_singleton_self tapped)
        rw [show id = tapped.row.id from h _ hmem]
        exact lastInsertion_of_notGivenAgain hknown (hstands n id tapped conn hi hopen hid)
      · exact Or.inl hid

theorem hitsTapped_run (hrun : run (step supply) (initial t₀) before = some s)
    (hstand : EachMeets (step supply) (TapStands supply t₀) (initial t₀) before) :
    (∀ task ∈ s.store.tasks, ReadsTapped task) ∧
      StepsMeet (step supply) HitsTapped (initial t₀) before := by
  refine run_induction (motive := fun before s =>
    EachMeets (step supply) (TapStands supply t₀) (initial t₀) before →
      (∀ task ∈ s.store.tasks, ReadsTapped task) ∧
        StepsMeet (step supply) HitsTapped (initial t₀) before) ?_ ?_ hrun hstand
  · intro _
    exact ⟨by simp [initial, Store.initial], trivial⟩
  · intro before mid e t hmid ih hstep hall
    obtain ⟨hbefore, hlast⟩ := (eachMeets_snoc e hmid).mp hall
    obtain ⟨hreads, hhits⟩ := ih hbefore
    exact ⟨readsTapped_step hmid hreads hlast hstep, (stepsMeet_snoc e hmid).mpr
      ⟨hhits, hitsTapped_of_stands hmid hreads hlast hstep⟩⟩

end Run

/-- In every run of the screens, no icon deletes a user other than the one whose row it was
rendered for, and none looks beyond the end of its list, as long as no tap comes after a fetch
that has put another row in the place of the tapped one, and no id is given out again before
the delete statement that carries it. -/
theorem deletes_only_tapped {supply : KeySupply Int} {t₀ : Table} {es : List Event} {s : Todo}
    (h : run (step supply) (initial t₀) es = some s)
    (hstand : EachMeets (step supply) (TapStands supply t₀) (initial t₀) es) :
    DeletesOnlyTapped s :=
  (deletesOnlyTapped_iff h).mpr (hitsTapped_run h hstand).2

def annAndBob : Table :=
  Store.effect .largestPlusOne
    (Store.effect .largestPlusOne DatabaseHelper.onCreate (.insertUser "ann" "secret"))
    (.insertUser "bob" "hidden")

/-- Bob's icon is tapped; then Ann's, when the list has been replaced and before the next
frame. Carl is given Bob's id before Ann is deleted. -/
def bothTapped : List Event :=
  [.openTodoApp, .resume 0, .resume 0, .resume 0, .build 0, .tap 1, .resume 1, .resume 1,
    .resume 1, .resume 1, .resume 2, .resume 2, .tap 0, .openAddUsers, .insertValue "carl" "third",
    .resume 4, .resume 5, .resume 3, .resume 4]

theorem deletes_only_tapped_both :
    ∃ s, run (step .largestPlusOne) (initial annAndBob) bothTapped = some s ∧
      s.store.deletions = [⟨some 0, some 0⟩, ⟨some 1, some 1⟩] ∧
      s.store.insertions = [2, 2, 1] ∧ DeletesOnlyTapped s := by
  refine ⟨_, rfl, rfl, rfl, ?_⟩
  refine @deletes_only_tapped .largestPlusOne annAndBob bothTapped _ rfl ?_
  refine eachMeets_cons trivial rfl ?_
  iterate 3 refine eachMeets_cons (fun _ _ _ _ hi => by cases hi) rfl ?_
  refine eachMeets_cons trivial rfl ?_
  -- nothing has been fetched since the frame was built
  refine eachMeets_cons ?_ rfl ?_
  · intro n rest w tapped hstack hw htapped rows hrows
    cases hstack
    cases hrows
  refine eachMeets_cons (fun _ _ _ _ hi => by cases hi) rfl ?_
  refine eachMeets_cons ?_ rfl ?_
  · intro n id tapped conn hi hopen hid m hm
    cases hi
    cases hm
    decide
  iterate 4 refine eachMeets_cons (fun _ _ _ _ hi => by cases hi) rfl ?_
  -- the list has lost Bob's row, but Ann's is still the first one
  refine eachMeets_cons ?_ rfl ?_
  · intro n rest w tapped hstack hw htapped rows hrows
    cases hstack
    cases hw
    cases htapped
    cases hrows
    exact ⟨_, rfl, rfl⟩
  refine eachMeets_cons trivial rfl ?_
  refine eachMeets_cons trivial rfl ?_
  iterate 3 refine eachMeets_cons (fun _ _ _ _ hi => by cases hi) rfl ?_
  refine eachMeets_cons ?_ rfl (eachMeets_nil _ _ _)
  intro n id tapped conn hi hopen hid m hm
  cases hi
  cases hm
  decide

/-- The icon of the first row is tapped twice. The first tap has deleted ann and its refresh
has replaced the list when the second one arrives, before the next frame. -/
def annTappedTwice : List Event :=
  [.openTodoApp, .resume 0, .resume 0, .resume 0, .build 0, .tap 0, .resume 1, .resume 1,
    .resume 1, .resume 1, .resume 2, .resume 2, .tap 0, .resume 3, .resume 3]

theorem bob_deleted_for_ann :
    ∃ s, run (step .largestPlusOne) (initial annAndBob) annTappedTwice = some s ∧
      s.screens.map (fun w => w.fields.frame.map fun item => item.row.username) =
        [[some "ann", some "bob"]] ∧
      s.store.deletions = [⟨some 0, some 1⟩, ⟨some 0, some 0⟩] ∧ s.store.table.rows = [] ∧
      ¬ DeletesOnlyTapped s := by
  refine ⟨_, rfl, rfl, rfl, rfl, ?_⟩
  intro h
  have hright : Deletion.Right ⟨some 0, some 1⟩ := h.2 _ (List.mem_cons_self)
  simp [Deletion.Right] at hright

end Todo

end FlutterApp
