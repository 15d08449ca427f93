import FlutterApp.PersistantStorage.FirestoreAgreement
import FlutterApp.Todo.Freshness

/-!
What the screens have started comes to an end.

A call that is resumed leaves less to do than before, whatever it starts, so in any order
the calls that are suspended need only so many resumptions, and nothing keeps them from
being resumed.
-/

namespace FlutterApp

open EventSystem

/-- How often a call is resumed from its statement on. A deletion fetches and closes. -/
def Operation.weight : Operation → Nat
  | .insertUser _ _ => 1
  | .fetchValue _ => 4
  | .deleteItem _ _ _ => 9

def Task.weight : Task → Nat
  | .closeConn _ => 1
  | .closeDb => 2
  | .fetched _ _ => 3
  | .deleted _ => 8
  | .awaitStatement op _ => op.weight
  | .awaitDb op => op.weight + 1

namespace Store

theorem execute_lighter (supply : KeySupply Int) (s : Store) (op : Operation) :
    TaskPool.load Task.weight (execute supply s op).2 < op.weight := by
  cases op with
  | fetchValue screen => exact Nat.lt_succ_self 3
  | deleteItem screen id tapped => exact Nat.lt_succ_self 8
  | insertUser username password =>
      simp only [execute]
      split <;> exact Nat.zero_lt_one

theorem advance_lighter (supply : KeySupply Int) (mounted : Bool) (s : Store) (task : Task) :
    TaskPool.load Task.weight (advance supply mounted s task).2 < task.weight := by
  cases task with
  | awaitDb op => exact Nat.lt_succ_self op.weight
  | awaitStatement op conn =>
      have hlighter := execute_lighter supply s op
      simp only [advance]
      split
      · exact hlighter
      · exact Nat.zero_lt_of_lt hlighter
  | fetched screen rows => cases mounted <;> simp [advance, TaskPool.load, Task.weight]
  | deleted screen | closeDb | closeConn conn =>
      simp [advance, TaskPool.load, Task.weight, Operation.weight]

end Store

namespace Todo

def IsResume : Event → Prop
  | .resume _ => True
  | _ => False

/-- However the fetches, deletions, insertions and closes that are under way are
interleaved, and whatever screens are left meanwhile, they end. -/
theorem calls_come_to_rest (supply : KeySupply Int) (s : Todo) :
    ComesToRest (step supply) IsResume (fun s => s.store.tasks = [])
      (TaskPool.load Task.weight s.store.tasks) s := by
  refine TaskPool.comesToRest (fun s : Todo => s.store.tasks) Task.weight ?_ ?_ s
  · intro s e t hresume hstep
    cases stepped hstep with
    | @resume i task htask =>
        obtain ⟨mounted, hstore⟩ := resume_store supply s i task
        refine ⟨i, task, _, htask, congrArg Store.tasks hstore, ?_⟩
        exact Store.advance_lighter supply mounted s.store task
    | openTodoApp _ | openAddUsers _ | insertValue _ | back _ | build _ | tap _ _ _ =>
        exact absurd hresume id
  · intro s task htask
    exact ⟨.resume 0, _, trivial, congrArg (Option.map (s.resume supply 0)) htask⟩

end Todo

namespace FirestoreDB
variable {ι : Type}

/-- A write that takes effect adds a snapshot to every subscription, of which there are at
most the given number; one that completes may open another subscription. -/
def writeWeight (subscriptions : Nat) (w : Write ι) : Nat :=
  if w.applied then 2 else subscriptions + 3

/-- What is left to be delivered and done when nobody else writes. -/
def remaining (s : FirestoreDB ι) : Nat :=
  s.collection.outstanding +
    TaskPool.load (writeWeight (s.collection.queues.length + s.writes.length)) s.writes

def IsInternal : Event ι → Prop
  | .applied _ | .failed _ | .completed _ | .snapshot _ => True
  | .build | .tap _ | .insertValue _ | .changed _ | .leave => False

theorem load_writeWeight_le {n m : Nat} (h : n ≤ m) (writes : List (Write ι)) :
    TaskPool.load (writeWeight n) writes ≤ TaskPool.load (writeWeight m) writes := by
  apply TaskPool.load_le
  intro w
  simp only [writeWeight]
  split <;> omega

/-- A write that has ended makes room for the subscription that it may open. -/
theorem remaining_ended {s t : FirestoreDB ι} {i : Nat} {w : Write ι}
    (hwrite : s.writes[i]? = some w) (hwrites : t.writes = s.writes.eraseIdx i)
    (hsubscriptions : t.collection.queues.length ≤ s.collection.queues.length + 1)
    (hsnapshots : t.collection.outstanding ≤ s.collection.outstanding + 1) :
    remaining t < remaining s := by
  have hlt : i < s.writes.length := (List.getElem?_eq_some_iff.mp hwrite).1
  have hlength : t.writes.length + 1 = s.writes.length := by
    rw [hwrites, List.length_eraseIdx_of_lt hlt]
    omega
  have hload := TaskPool.load_eraseIdx
    (writeWeight (s.collection.queues.length + s.writes.length)) hwrite
  have hle := load_writeWeight_le
    (show t.collection.queues.length + t.writes.length ≤
      s.collection.queues.length + s.writes.length by omega) t.writes
  have hweight : 2 ≤ writeWeight (s.collection.queues.length + s.writes.length) w := by
    simp only [writeWeight]
    split <;> omega
  rw [← hwrites] at hload
  simp only [remaining]
  omega

variable [DecidableEq ι]

/-- A write that takes effect adds at most one snapshot to each subscription. -/
theorem remaining_applied {s : FirestoreDB ι} {i : Nat} {w : Write ι} (value : Collection ι)
    (hwrite : s.writes[i]? = some w) (hpending : w.applied = false) :
    remaining { s with
      collection := s.collection.publish value
      writes := s.writes.set i { w with applied := true } } < remaining s := by
  have hsnapshots : (s.collection.publish value).outstanding ≤
      s.collection.outstanding + s.collection.queues.length := by
    rw [SnapshotFeed.outstanding_publish]
    split <;> omega
  have hset := TaskPool.load_set
    (writeWeight (s.collection.queues.length + s.writes.length)) hwrite { w with applied := true }
  simp only [writeWeight, hpending, if_true, Bool.false_eq_true, if_false] at hset
  simp only [remaining, SnapshotFeed.publish_length, List.length_set]
  omega

theorem remaining_step {supply : KeySupply ι} {s t : FirestoreDB ι} {e : Event ι}
    (hinternal : IsInternal e) (h : step supply s e = some t) : remaining t < remaining s := by
  cases stepped h with
  | applied hwrite hpending => exact remaining_applied _ hwrite hpending
  | failed hwrite _ =>
      exact remaining_ended hwrite rfl (Nat.le_succ _) (Nat.le_succ _)
  | @completed i w hwrite _ =>
      cases completed_widget_or { s with writes := s.writes.eraseIdx i } w with
      | inl hset =>
          obtain ⟨value, -, heq⟩ := hset
          rw [heq]
          refine remaining_ended hwrite rfl ?_ (Nat.le_of_eq (SnapshotFeed.outstanding_subscribe _))
          simp [fetchValues, SnapshotFeed.subscribe]
      | inr hdelete =>
          obtain ⟨position, tapped, -, heq⟩ := hdelete
          rw [heq]
          exact remaining_ended hwrite rfl (Nat.le_succ _) (Nat.le_succ _)
  | snapshot htake =>
      obtain ⟨hsnapshots, hsubscriptions⟩ := SnapshotFeed.outstanding_take htake
      simp only [remaining, hsubscriptions]
      omega
  | build _ | tap _ _ | insertValue _ | changed | leave _ => exact absurd hinternal id

/-- As long as no other client writes and no button is pressed, the writes that are under
way and the snapshots that they cause, which the subscriptions opened meanwhile multiply,
come to an end. -/
theorem writes_come_to_rest (supply : KeySupply ι) (s : FirestoreDB ι) :
    ComesToRest (step supply) IsInternal Settled (remaining s) s := by
  refine comesToRest_of_decreasing remaining (fun _ _ _ => remaining_step) ?_ s
  intro s hbusy
  by_cases hwrites : s.writes = []
  · obtain ⟨k, ⟨c, rest⟩, htake⟩ := SnapshotFeed.exists_take fun hsettled =>
      hbusy ⟨hwrites, hsettled⟩
    exact ⟨.snapshot k, _, trivial, congrArg (Option.map _) htake⟩
  · obtain ⟨⟨reference, kind, applied⟩, rest, hpool⟩ := List.exists_cons_of_ne_nil hwrites
    have hwrite : s.writes[0]? = some ⟨reference, kind, applied⟩ := by
      rw [hpool, List.getElem?_cons_zero]
    cases applied with
    | false =>
        exact ⟨.failed 0, { s with writes := s.writes.eraseIdx 0 }, trivial,
          by simp only [step, hwrite]⟩
    | true =>
        exact ⟨.completed 0, FirestoreDB.completed { s with writes := s.writes.eraseIdx 0 }
          ⟨reference, kind, true⟩, trivial, by simp only [step, hwrite]⟩

end FirestoreDB

end FlutterApp
