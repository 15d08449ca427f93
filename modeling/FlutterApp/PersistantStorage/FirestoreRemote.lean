import FlutterApp.Library.TaskPool
import FlutterApp.PersistantStorage.FirestoreAgreement

/-!
What the screen does to the remote collection.

document() without a path names a document that does not exist yet, for a deletion as for
an insertion. As long as no other client makes a document of such a name, a deletion finds
none, and the collection is what the insertions and the other clients have made of it.
-/

namespace FlutterApp

/-- A change of the collection that is not a deletion by the screen. -/
inductive RemoteChange (ι : Type) where
  | inserted (document : Document ι)
  | replaced (c : Collection ι)

namespace FirestoreDB
variable {ι : Type}

/-- The collection of which nothing is ever deleted by the screen. -/
def replayRows (rows : List (Document ι)) : List (RemoteChange ι) → List (Document ι)
  | [] => rows
  | .inserted document :: rest => replayRows (rows ++ [document]) rest
  | .replaced c :: rest => replayRows c.rows rest

theorem replayRows_append (rows : List (Document ι)) (earlier later : List (RemoteChange ι)) :
    replayRows rows (earlier ++ later) = replayRows (replayRows rows earlier) later := by
  induction earlier generalizing rows with
  | nil => rfl
  | cons change rest ih => cases change <;> exact ih _

def remoteChanges (s : FirestoreDB ι) : Event ι → List (RemoteChange ι)
  | .applied i =>
      match s.writes[i]? with
      | some ⟨reference, .setData value, false⟩ => [.inserted ⟨reference, textFields value⟩]
      | _ => []
  | .changed c => [.replaced c]
  | .build | .tap _ | .insertValue _ | .failed _ | .completed _ | .snapshot _ | .leave => []

/-- No other client makes a document of a name that the screen has been given. -/
def NamesApart (s : FirestoreDB ι) : Event ι → Prop
  | .changed c => ∀ id ∈ c.keys, id ∈ s.named → id ∈ s.collection.current.keys
  | _ => True

/-- Whether the document of a write has been made by it. -/
def made (w : Write ι) : Bool :=
  match w.kind with
  | .setData _ => w.applied
  | .delete _ _ => false

/-- Every write has a name of its own, under which there is no document before an
insertion has made it. -/
structure NamesFresh (s : FirestoreDB ι) : Prop where
  named : ∀ w ∈ s.writes, w.reference ∈ s.named
  distinct : (s.writes.map Write.reference).Nodup
  absent : ∀ w ∈ s.writes, made w = false → w.reference ∉ s.collection.current.keys

theorem namesFresh_of_erased {s t : FirestoreDB ι} {i : Nat} (h : NamesFresh s)
    (hnamed : t.named = s.named) (hwrites : t.writes = s.writes.eraseIdx i)
    (hkeys : t.collection.current = s.collection.current) : NamesFresh t where
  named := by
    rw [hwrites, hnamed]
    exact fun w hw => h.named w (List.mem_of_mem_eraseIdx hw)
  distinct := by
    rw [hwrites]
    exact ((List.eraseIdx_sublist _ _).map Write.reference).nodup h.distinct
  absent := by
    rw [hwrites, hkeys]
    exact fun w hw => h.absent w (List.mem_of_mem_eraseIdx hw)

theorem namesFresh_of_same {s t : FirestoreDB ι} (h : NamesFresh s) (hnamed : t.named = s.named)
    (hwrites : t.writes = s.writes)
    (hkeys : ∀ w ∈ s.writes, w.reference ∉ s.collection.current.keys →
      w.reference ∉ t.collection.current.keys) : NamesFresh t where
  named := by
    rw [hwrites, hnamed]
    exact h.named
  distinct := by
    rw [hwrites]
    exact h.distinct
  absent := by
    rw [hwrites]
    exact fun w hw hunmade => hkeys w hw (h.absent w hw hunmade)

/-- A write that takes effect keeps its name, which no other write has. -/
theorem namesFresh_of_applied {s t : FirestoreDB ι} {i : Nat} {w : Write ι} (h : NamesFresh s)
    (hwrite : s.writes[i]? = some w) (hnamed : t.named = s.named)
    (hwrites : t.writes = s.writes.set i { w with applied := true })
    (hkeys : ∀ id ∈ t.collection.current.keys, id ∈ s.collection.current.keys ∨
      (id = w.reference ∧ made { w with applied := true } = true)) : NamesFresh t := by
  have hlt : i < s.writes.length := (List.getElem?_eq_some_iff.mp hwrite).1
  have hset := List.set_perm_cons_eraseIdx hlt { w with applied := true }
  have hpool := TaskPool.perm_cons_eraseIdx hwrite
  have hdistinct : (w.reference :: (s.writes.eraseIdx i).map Write.reference).Nodup :=
    ((hpool.map Write.reference).nodup_iff).mp h.distinct
  rw [← hwrites] at hset
  refine ⟨?_, ((hset.map Write.reference).nodup_iff).mpr hdistinct, ?_⟩
  · intro other hother
    rw [hnamed]
    cases List.mem_cons.mp (hset.subset hother) with
    | inl heq =>
        rw [heq]
        exact h.named w (List.mem_of_getElem? hwrite)
    | inr hrest => exact h.named other (List.mem_of_mem_eraseIdx hrest)
  · intro other hother hunmade hkey
    cases List.mem_cons.mp (hset.subset hother) with
    | inl heq =>
        subst heq
        cases hkeys _ hkey with
        | inl hold =>
            refine h.absent w (List.mem_of_getElem? hwrite) ?_ hold
            simp only [made] at hunmade ⊢
            split at hunmade
            · cases hunmade
            · rfl
        | inr hnew => exact absurd hnew.2 (by simp [hunmade])
    | inr hrest =>
        cases hkeys _ hkey with
        | inl hold => exact h.absent other (List.mem_of_mem_eraseIdx hrest) hunmade hold
        | inr hnew =>
            refine (List.nodup_cons.mp hdistinct).1 ?_
            rw [← hnew.1]
            exact List.mem_map_of_mem hrest

theorem namesFresh_write {supply : KeySupply ι} {s : FirestoreDB ι} (h : NamesFresh s)
    (kind : WriteKind ι) : NamesFresh (s.write supply kind) := by
  have hfresh := supply.fresh (s.named ++ s.collection.current.keys)
  have hunnamed : supply.next (s.named ++ s.collection.current.keys) ∉ s.named :=
    fun hmem => hfresh (List.mem_append_left _ hmem)
  refine ⟨?_, ?_, ?_⟩
  · refine List.forall_mem_append.mpr ⟨fun w hw => List.mem_cons_of_mem _ (h.named w hw), ?_⟩
    exact List.forall_mem_singleton.mpr List.mem_cons_self
  · simp only [write, List.map_append, List.map_cons, List.map_nil]
    refine List.nodup_append.mpr ⟨h.distinct, List.nodup_singleton _, ?_⟩
    intro id hid new hnew heq
    obtain ⟨w, hw, rfl⟩ := List.mem_map.mp hid
    rw [List.mem_singleton.mp hnew] at heq
    exact hunnamed (heq ▸ h.named w hw)
  · refine List.forall_mem_append.mpr ⟨h.absent, List.forall_mem_singleton.mpr ?_⟩
    exact fun _ hmem => hfresh (List.mem_append_right _ hmem)

variable [DecidableEq ι]

/-- What a write does under a name of which there is no document. -/
theorem effect_of_absent {c : Collection ι} {w : Write ι} (h : w.reference ∉ c.keys) :
    (effect c w).rows = match w.kind with
      | .setData value => c.rows ++ [⟨w.reference, textFields value⟩]
      | .delete _ _ => c.rows := by
  cases hkind : w.kind with
  | setData value =>
      obtain ⟨next, hnext⟩ := KeyedTable.insertRow_of_fresh c ⟨w.reference, textFields value⟩ h
      simp only [effect, hkind, setData, hnext]
      exact KeyedTable.insertRow_rows hnext
  | delete position tapped =>
      simp only [effect, hkind, delete, KeyedTable.deleteWhere]
      apply List.filter_eq_self.mpr
      intro document hdocument
      rw [Bool.not_eq_true', ← Bool.not_eq_true, KeyedTable.hasKey_some]
      intro hid
      exact h (hid ▸ List.mem_map_of_mem hdocument)

/-- The collection is what the insertions and the other clients have made of the first one. -/
structure OnlyGrown (c : Collection ι) (changes : List (RemoteChange ι)) (s : FirestoreDB ι) :
    Prop where
  fresh : NamesFresh s
  rows : s.collection.current.rows = replayRows c.rows changes

section Step
variable {supply : KeySupply ι} {c : Collection ι} {changes : List (RemoteChange ι)}
  {s t : FirestoreDB ι}

theorem onlyGrown_applied {i : Nat} {w : Write ι} (h : OnlyGrown c changes s)
    (hwrite : s.writes[i]? = some w) (hpending : w.applied = false) :
    OnlyGrown c (changes ++ remoteChanges s (.applied i)) { s with
      collection := s.collection.publish (effect s.collection.current w)
      writes := s.writes.set i { w with applied := true } } := by
  have hunmade : made w = false := by
    simp only [made, hpending]
    split <;> rfl
  have heffect := effect_of_absent
    (h.fresh.absent w (List.mem_of_getElem? hwrite) hunmade)
  obtain ⟨reference, kind, applied⟩ := w
  cases hpending
  cases kind with
  | setData value =>
      have hchanges : remoteChanges s (.applied i) = [.inserted ⟨reference, textFields value⟩] := by
        simp only [remoteChanges, hwrite]
      refine ⟨namesFresh_of_applied h.fresh hwrite rfl rfl ?_, ?_⟩
      · intro id hid
        simp only [SnapshotFeed.publish_current, KeyedTable.keys, heffect, List.map_append,
          List.map_cons, List.map_nil, List.mem_append, List.mem_singleton] at hid
        exact hid.imp_right fun heq => ⟨heq, rfl⟩
      · rw [hchanges, replayRows_append, ← h.rows]
        simp only [SnapshotFeed.publish_current, heffect, replayRows]
  | delete position tapped =>
      have hchanges : remoteChanges s (.applied i) = [] := by
        simp only [remoteChanges, hwrite]
      refine ⟨namesFresh_of_applied h.fresh hwrite rfl rfl ?_, ?_⟩
      · intro id hid
        simp only [SnapshotFeed.publish_current, KeyedTable.keys, heffect] at hid
        exact Or.inl hid
      · rw [hchanges, List.append_nil, ← h.rows]
        simp only [SnapshotFeed.publish_current, heffect]

theorem onlyGrown_step {e : Event ι} (h : OnlyGrown c changes s) (hapart : NamesApart s e)
    (hstep : step supply s e = some t) : OnlyGrown c (changes ++ remoteChanges s e) t := by
  cases stepped hstep with
  | build _ | leave _ =>
      simp only [remoteChanges, List.append_nil]
      exact ⟨namesFresh_of_same h.fresh rfl rfl fun _ _ => id, h.rows⟩
  | tap _ _ | insertValue _ =>
      simp only [remoteChanges, List.append_nil]
      exact ⟨namesFresh_write h.fresh _, h.rows⟩
  | applied hwrite hpending => exact onlyGrown_applied h hwrite hpending
  | failed _ _ =>
      simp only [remoteChanges, List.append_nil]
      exact ⟨namesFresh_of_erased h.fresh rfl rfl rfl, h.rows⟩
  | @completed i w hwrite _ =>
      simp only [remoteChanges, List.append_nil]
      cases completed_widget_or { s with writes := s.writes.eraseIdx i } w with
      | inl hset =>
          obtain ⟨value, -, heq⟩ := hset
          rw [heq]
          exact ⟨namesFresh_of_erased h.fresh rfl rfl rfl, h.rows⟩
      | inr hdelete =>
          obtain ⟨position, tapped, -, heq⟩ := hdelete
          rw [heq]
          exact ⟨namesFresh_of_erased h.fresh rfl rfl rfl, h.rows⟩
  | @changed c' =>
      refine ⟨namesFresh_of_same h.fresh rfl rfl ?_, ?_⟩
      · intro w hw habsent hmem
        rw [SnapshotFeed.publish_current] at hmem
        exact habsent (hapart w.reference hmem (h.fresh.named w hw))
      · rw [SnapshotFeed.publish_current, replayRows_append]
        rfl
  | @snapshot k c' rest htake =>
      have hcurrent : rest.current = s.collection.current := by
        obtain ⟨_, -, heq⟩ := Option.map_eq_some_iff.mp htake
        cases heq
        rfl
      simp only [remoteChanges, List.append_nil]
      refine ⟨namesFresh_of_same h.fresh rfl rfl ?_, ?_⟩
      · rw [hcurrent]
        exact fun _ _ => id
      · rw [hcurrent]
        exact h.rows

end Step

/-- In every run in which no other client makes a document of a name that the screen has
been given, no deletion of the screen ever removes a document: the collection holds what it
held at first or what another client last made of it, and besides that one document for each
insertion that has taken effect since. -/
theorem never_deletes_remotely {supply : KeySupply ι} {c : Collection ι} {s : FirestoreDB ι}
    {es : List (Event ι)} (h : EventSystem.run (step supply) (initial c) es = some s)
    (hapart : EventSystem.StepsMeet (step supply) NamesApart (initial c) es) :
    s.collection.current.rows.Perm
      (replayRows c.rows (EventSystem.trace (step supply) remoteChanges (initial c) es)) := by
  have hgrown : OnlyGrown c (EventSystem.trace (step supply) remoteChanges (initial c) es) s := by
    refine EventSystem.run_induction (motive := fun es s =>
      EventSystem.StepsMeet (step supply) NamesApart (initial c) es →
        OnlyGrown c (EventSystem.trace (step supply) remoteChanges (initial c) es) s)
      ?_ ?_ h hapart
    · intro _
      exact ⟨⟨List.forall_mem_nil _, List.nodup_nil, List.forall_mem_nil _⟩, rfl⟩
    · intro es mid e t hrun ih hstep hmeets
      obtain ⟨hes, he⟩ := (EventSystem.stepsMeet_snoc e hrun).mp hmeets
      rw [EventSystem.trace_snoc remoteChanges e hrun]
      exact onlyGrown_step (ih hes) he hstep
  exact List.Perm.of_eq hgrown.rows

/-- A book is inserted, listed and tapped, and the deletion takes effect. -/
theorem never_deletes_remotely_book :
    ∃ s, EventSystem.run (step .largestPlusOne) (initial .empty) bookTapped = some s ∧
      s.collection.current.rows.Perm [⟨1, textFields book⟩] := by
  have hapart : EventSystem.StepsMeet (step .largestPlusOne) NamesApart (initial .empty)
      bookTapped := by
    simp only [bookTapped, bookInserted, List.cons_append, List.nil_append]
    iterate 10 refine EventSystem.stepsMeet_cons trivial rfl ?_
    trivial
  exact ⟨_, rfl, never_deletes_remotely rfl hapart⟩

/-- An insertion that completes, which fetches the values once more. -/
def completedInserts (s : FirestoreDB ι) : Event ι → List ι
  | .completed i =>
      match s.writes[i]? with
      | some ⟨reference, .setData _, true⟩ => [reference]
      | _ => []
  | .build | .tap _ | .insertValue _ | .applied _ | .failed _ | .changed _ | .snapshot _
  | .leave => []

theorem subscriptions_step {supply : KeySupply ι} {s t : FirestoreDB ι} {e : Event ι}
    (hstep : step supply s e = some t) :
    t.collection.queues.length = s.collection.queues.length + (completedInserts s e).length := by
  cases stepped hstep with
  | build _ | tap _ _ | insertValue _ | failed _ _ | leave _ => rfl
  | applied _ _ | changed => exact SnapshotFeed.publish_length _ _
  | snapshot htake => exact (SnapshotFeed.outstanding_take htake).2
  | @completed i w hwrite happlied =>
      obtain ⟨reference, kind, applied⟩ := w
      cases happlied
      cases kind with
      | setData value =>
          simp [completedInserts, hwrite, FirestoreDB.completed, fetchValues,
            SnapshotFeed.subscribe]
      | delete position tapped =>
          simp only [completedInserts, hwrite, FirestoreDB.completed, List.length_nil, Nat.add_zero]

theorem subscriptions_run {supply : KeySupply ι} {c : Collection ι} {s : FirestoreDB ι}
    {es : List (Event ι)} (h : EventSystem.run (step supply) (initial c) es = some s) :
    s.collection.queues.length =
      1 + (EventSystem.trace (step supply) completedInserts (initial c) es).length := by
  refine EventSystem.run_induction (motive := fun es s => s.collection.queues.length =
    1 + (EventSystem.trace (step supply) completedInserts (initial c) es).length) rfl ?_ h
  intro es mid e t hrun ih hstep
  rw [EventSystem.trace_snoc completedInserts e hrun, List.length_append,
    subscriptions_step hstep, ih, Nat.add_assoc]

/-- Every snapshot that arrives after the screen has been left is one late setState. -/
theorem late_snapshots {supply : KeySupply ι} {s t : FirestoreDB ι} {es : List (Event ι)}
    (h : EventSystem.run (step supply) s es = some t) (hgone : s.widget.mounted = false)
    (hes : ∀ e ∈ es, IsSnapshot e) :
    t.widget.lateSetState + t.collection.outstanding =
      s.widget.lateSetState + s.collection.outstanding := by
  have hrun := EventSystem.run_invariant_of_events
    (fun t : FirestoreDB ι => t.widget.mounted = false ∧
      t.widget.lateSetState + t.collection.outstanding =
        s.widget.lateSetState + s.collection.outstanding) IsSnapshot ⟨hgone, rfl⟩ ?_ h hes
  · exact hrun.2
  · intro mid e next hmid he hstep
    cases stepped hstep with
    | snapshot htake =>
        have htaken := (SnapshotFeed.outstanding_take htake).1
        rw [StateObject.setState_mounted, StateObject.setState_lateSetState, hmid.1]
        refine ⟨rfl, ?_⟩
        have hsum := hmid.2
        simp only [Bool.false_eq_true, if_false]
        omega
    | build _ | tap _ _ | insertValue _ | applied _ _ | failed _ _ | completed _ _ | changed
    | leave _ => exact absurd he id

/-- Once the screen has been left, a single change by another client calls setState on the
disposed State once for the first subscription and once more for every insertion that had
completed before. -/
theorem late_calls_of_one_change {supply : KeySupply ι} {c c' : Collection ι}
    {s t : FirestoreDB ι} {es later : List (Event ι)}
    (h : EventSystem.run (step supply) (initial c) es = some s)
    (hgone : s.widget.mounted = false) (hsettled : s.collection.Settled)
    (hchange : c' ≠ s.collection.current)
    (hlater : EventSystem.run (step supply) s (.changed c' :: later) = some t)
    (hsnapshots : ∀ e ∈ later, IsSnapshot e) (hdelivered : t.collection.Settled) :
    t.widget.lateSetState = s.widget.lateSetState + 1 +
      (EventSystem.trace (step supply) completedInserts (initial c) es).length := by
  obtain ⟨mid, hmid, hrest⟩ := Option.bind_eq_some_iff.mp hlater
  cases hmid
  have hcalls := late_snapshots hrest hgone hsnapshots
  rw [SnapshotFeed.outstanding_of_settled hdelivered, SnapshotFeed.outstanding_publish,
    SnapshotFeed.outstanding_of_settled hsettled, if_neg hchange, subscriptions_run h] at hcalls
  dsimp only at hcalls
  omega

/-- A book is inserted, the screen is left, and another client empties the collection. -/
theorem late_calls_of_one_change_book :
    ∃ s t, EventSystem.run (step .largestPlusOne) (initial .empty) (bookInserted ++ [.leave]) =
        some s ∧
      EventSystem.run (step .largestPlusOne) s [.changed .empty, .snapshot 0, .snapshot 1] =
        some t ∧ t.widget.lateSetState = 2 := by
  refine ⟨_, _, rfl, rfl, ?_⟩
  refine @late_calls_of_one_change Int _ .largestPlusOne .empty .empty _ _
    (bookInserted ++ [.leave]) [.snapshot 0, .snapshot 1] rfl rfl ?_ ?_ rfl ?_ ?_
  · exact SnapshotFeed.settled_of_replicate 2 rfl
  · intro hsame
    exact absurd (congrArg KeyedTable.rows hsame) (by decide)
  · simp [IsSnapshot]
  · exact SnapshotFeed.settled_of_replicate 2 rfl

end FirestoreDB

end FlutterApp
