import FlutterApp.PersistantStorage.FirestoreDB

/-!
When the list on the screen is the remote collection.

A snapshot that is the last one outstanding brings the current collection, while a
completed deletion removes a row of the list only. So once nothing is outstanding, the
list is the collection exactly when no row has been removed since the last snapshot.
-/

namespace FlutterApp

namespace FirestoreDB
variable {ι : Type}

theorem removeAt_out {position : Nat} {fields : FirestoreFields ι}
    (h : (fields.databaseItems.getD []).length ≤ position) :
    ∃ e, removeAt position fields = .error e := by
  cases hitems : fields.databaseItems with
  | none => exact ⟨.noSuchMethodError, by simp only [removeAt, hitems]⟩
  | some items =>
      rw [hitems, Option.getD_some] at h
      exact ⟨.rangeError, by simp only [removeAt, hitems, Nat.not_lt.mpr h, if_false]⟩

theorem removeAt_in {position : Nat} {fields : FirestoreFields ι}
    (h : position < (fields.databaseItems.getD []).length) :
    ∃ items, fields.databaseItems = some items ∧ position < items.length ∧
      removeAt position fields =
        .ok { fields with databaseItems := some (items.eraseIdx position) } := by
  cases hitems : fields.databaseItems with
  | none => simp [hitems] at h
  | some items =>
      rw [hitems, Option.getD_some] at h
      exact ⟨items, rfl, h, by simp only [removeAt, hitems, h, if_true]⟩

theorem completed_widget_or (s : FirestoreDB ι) (w : Write ι) :
    (∃ value, w.kind = .setData value ∧ s.completed w = s.fetchValues) ∨
      ∃ position tapped, w.kind = .delete position tapped ∧
        s.completed w = { s with widget := (s.widget.setState (removeAt position)).1 } := by
  cases hkind : w.kind with
  | setData value => exact Or.inl ⟨value, rfl, by simp only [completed, hkind]⟩
  | delete position tapped => exact Or.inr ⟨position, tapped, rfl, by simp only [completed, hkind]⟩

def IsSnapshot : Event ι → Prop
  | .snapshot _ => True
  | _ => False

/-- A deletion that completes has its position outside the list. -/
def RemovesNothing (s : FirestoreDB ι) : Event ι → Prop
  | .completed i => ∀ w position tapped, s.writes[i]? = some w → w.applied = true →
      w.kind = .delete position tapped →
      (s.widget.fields.databaseItems.getD []).length ≤ position
  | _ => True

theorem removesNothing_completed {s : FirestoreDB ι} {i position : Nat} {w : Write ι}
    {tapped : Document ι} (hwrite : s.writes[i]? = some w) (happlied : w.applied = true)
    (hkind : w.kind = .delete position tapped) :
    RemovesNothing s (.completed i) ↔
      (s.widget.fields.databaseItems.getD []).length ≤ position := by
  refine ⟨fun hall => hall w position tapped hwrite happlied hkind, ?_⟩
  intro hle w' position' tapped' hwrite' _ hkind'
  obtain rfl : w = w' := Option.some.inj (hwrite.symm.trans hwrite')
  obtain ⟨rfl, -⟩ : position = position' ∧ tapped = tapped' := by
    simpa using hkind.symm.trans hkind'
  exact hle

/-- What is known of the list when no snapshot is outstanding. -/
def Agrees (s : FirestoreDB ι) (kept : Prop) : Prop :=
  s.widget.mounted = true → s.collection.Settled →
    (kept ∧ s.widget.fields.databaseItems = some s.collection.current.rows) ∨
    (¬ kept ∧ ∃ items, s.widget.fields.databaseItems = some items ∧
      items.length < s.collection.current.rows.length)

theorem agrees_of_same {s t : FirestoreDB ι} {kept kept' : Prop} (h : Agrees s kept)
    (hkept : kept' ↔ kept) (hmounted : t.widget.mounted = true → s.widget.mounted = true)
    (hitems : t.widget.fields.databaseItems = s.widget.fields.databaseItems)
    (hcollection : t.collection.Settled → t.collection = s.collection) : Agrees t kept' := by
  intro hm hsettled
  have heq := hcollection hsettled
  rw [hitems, heq, hkept]
  exact h (hmounted hm) (heq ▸ hsettled)

theorem agrees_removeAt {s t : FirestoreDB ι} {kept : Prop} {position : Nat} (h : Agrees s kept)
    (hwidget : t.widget = (s.widget.setState (removeAt position)).1)
    (hcollection : t.collection = s.collection) :
    Agrees t (kept ∧ (s.widget.fields.databaseItems.getD []).length ≤ position) := by
  intro hm hsettled
  have hmounted : s.widget.mounted = true := by
    rw [hwidget, StateObject.setState_mounted] at hm
    exact hm
  have hbefore := h hmounted (hcollection ▸ hsettled)
  rw [hwidget, hcollection]
  by_cases hpos : position < (s.widget.fields.databaseItems.getD []).length
  · obtain ⟨items, hitems, hlt, hremove⟩ := removeAt_in hpos
    have hle : items.length ≤ s.collection.current.rows.length := by
      cases hbefore with
      | inl heither =>
          obtain ⟨-, hsame⟩ := heither
          exact Nat.le_of_eq (congrArg List.length (Option.some.inj (hitems.symm.trans hsame)))
      | inr heither =>
          obtain ⟨-, items', hsame, hshort⟩ := heither
          rw [Option.some.inj (hitems.symm.trans hsame)]
          exact Nat.le_of_lt hshort
    refine Or.inr ⟨fun hkept => absurd hpos (Nat.not_lt.mpr hkept.2), items.eraseIdx position,
      ?_, ?_⟩
    · rw [StateObject.setState_of_mounted hmounted hremove]
    · rw [List.length_eraseIdx_of_lt hlt]
      omega
  · have hout := Nat.le_of_not_lt hpos
    obtain ⟨e, herror⟩ := removeAt_out hout
    rw [StateObject.setState_fields_of_error herror]
    simpa only [hout, and_true] using hbefore

variable [DecidableEq ι]

theorem subscribed_step {supply : KeySupply ι} {s t : FirestoreDB ι} {e : Event ι}
    (h : s.collection.queues ≠ []) (hstep : step supply s e = some t) :
    t.collection.queues ≠ [] := by
  cases stepped hstep with
  | build _ | tap _ _ | insertValue _ | failed _ _ | leave _ => exact h
  | applied _ _ | changed => exact SnapshotFeed.publish_queues_ne_nil _ h
  | completed hwrite happlied =>
      rename_i i w
      cases completed_widget_or { s with writes := s.writes.eraseIdx i } w with
      | inl hset =>
          obtain ⟨value, -, heq⟩ := hset
          rw [heq]
          exact List.append_ne_nil_of_right_ne_nil _ (List.cons_ne_nil _ _)
      | inr hdelete =>
          obtain ⟨position, tapped, -, heq⟩ := hdelete
          rw [heq]
          exact h
  | snapshot htake => exact SnapshotFeed.take_queues_ne_nil htake

theorem subscribed_run {supply : KeySupply ι} {c : Collection ι} {s : FirestoreDB ι}
    {es : List (Event ι)} (h : EventSystem.run (step supply) (initial c) es = some s) :
    s.collection.queues ≠ [] :=
  EventSystem.run_invariant (fun s => s.collection.queues ≠ [])
    (List.cons_ne_nil _ _) (fun _ _ _ hmid hstep => subscribed_step hmid hstep) h

theorem agrees_step {supply : KeySupply ι} {s t : FirestoreDB ι} {e : Event ι} {kept kept' : Prop}
    (h : Agrees s kept) (hopen : s.collection.queues ≠ [])
    (hkept : kept' ↔ IsSnapshot e ∨ (kept ∧ RemovesNothing s e))
    (hstep : step supply s e = some t) : Agrees t kept' := by
  cases stepped hstep with
  | build _ | tap _ _ | insertValue _ | failed _ _ =>
      refine agrees_of_same h ?_ id rfl fun _ => rfl
      simpa [IsSnapshot, RemovesNothing] using hkept
  | leave _ =>
      intro hm
      cases hm
  | applied _ _ | changed =>
      refine agrees_of_same h ?_ id rfl (SnapshotFeed.publish_settled hopen)
      simpa [IsSnapshot, RemovesNothing] using hkept
  | completed hwrite happlied =>
      rename_i i w
      cases completed_widget_or { s with writes := s.writes.eraseIdx i } w with
      | inl hset =>
          obtain ⟨value, -, heq⟩ := hset
          rw [heq]
          intro _ hsettled
          exact absurd hsettled (SnapshotFeed.not_settled_subscribe _)
      | inr hdelete =>
          obtain ⟨position, tapped, hkind, heq⟩ := hdelete
          rw [heq, hkept, removesNothing_completed hwrite happlied hkind]
          simp only [IsSnapshot, false_or]
          exact agrees_removeAt h rfl rfl
  | snapshot htake =>
      rename_i k c rest
      intro hm hsettled
      have hmounted : s.widget.mounted = true := by
        rw [StateObject.setState_mounted] at hm
        exact hm
      refine Or.inl ⟨hkept.mpr (Or.inl trivial), ?_⟩
      have hshow : showSnapshot c s.widget.fields =
          .ok { s.widget.fields with databaseItems := some c.rows } := rfl
      rw [StateObject.setState_of_mounted hmounted hshow]
      rw [SnapshotFeed.take_settled htake hsettled]

theorem agrees_run {supply : KeySupply ι} {c : Collection ι} {s : FirestoreDB ι}
    {es : List (Event ι)} (h : EventSystem.run (step supply) (initial c) es = some s) :
    Agrees s (EventSystem.HoldsSince (step supply) IsSnapshot RemovesNothing (initial c) es) := by
  refine EventSystem.run_induction
    (motive := fun es s => Agrees s
      (EventSystem.HoldsSince (step supply) IsSnapshot RemovesNothing (initial c) es)) ?_ ?_ h
  · intro _ hsettled
    exact absurd hsettled (SnapshotFeed.not_settled_subscribe _)
  · intro es mid e t hrun ih hstep
    exact agrees_step ih (subscribed_run hrun)
      (EventSystem.holdsSince_snoc IsSnapshot RemovesNothing e hrun) hstep

/-- No write and no snapshot is outstanding. -/
def Settled (s : FirestoreDB ι) : Prop := s.writes = [] ∧ s.collection.Settled

/-- In every run that has come to rest with the screen on display, the list is the remote
collection exactly when no deletion has removed a row of it since the last snapshot. -/
theorem lists_collection_iff (supply : KeySupply ι) (c : Collection ι) (es : List (Event ι))
    (s : FirestoreDB ι) (h : EventSystem.run (step supply) (initial c) es = some s)
    (hmounted : s.widget.mounted = true) (hsettled : Settled s) :
    s.widget.fields.databaseItems = some s.collection.current.rows ↔
      EventSystem.HoldsSince (step supply) IsSnapshot RemovesNothing (initial c) es := by
  cases agrees_run h hmounted hsettled.2 with
  | inl hsince =>
      obtain ⟨hkept, heq⟩ := hsince
      exact iff_of_true heq hkept
  | inr hsince =>
      obtain ⟨hkept, items, heq, hshort⟩ := hsince
      refine iff_of_false ?_ hkept
      intro hsame
      rw [Option.some.inj (heq.symm.trans hsame)] at hshort
      exact Nat.lt_irrefl _ hshort

def book : List (String × String) := [("title", "title"), ("author", "author")]

/-- A book is inserted, and the screen has taken both snapshots of it. -/
def bookInserted : List (Event Int) :=
  [.snapshot 0, .insertValue book, .applied 0, .snapshot 0, .completed 0, .snapshot 1]

theorem lists_collection_inserted :
    ∃ s, EventSystem.run (step .largestPlusOne) (initial .empty) bookInserted = some s ∧
      (s.widget.fields.databaseItems = some s.collection.current.rows ↔
        EventSystem.HoldsSince (step .largestPlusOne) IsSnapshot RemovesNothing (initial .empty)
          bookInserted) :=
  ⟨_, rfl, lists_collection_iff .largestPlusOne .empty bookInserted _ rfl rfl
    ⟨rfl, SnapshotFeed.settled_of_replicate 2 rfl⟩⟩

/-- The icon of the book is tapped; the deletion of a document that never existed takes
effect and completes. -/
def bookTapped : List (Event Int) :=
  bookInserted ++ [.build, .tap 0, .applied 0, .completed 0]

theorem book_hidden_not_deleted :
    ∃ s, EventSystem.run (step .largestPlusOne) (initial .empty) bookTapped = some s ∧
      s.widget.mounted = true ∧ Settled s ∧ s.widget.fields.databaseItems = some [] ∧
      s.collection.current.rows = [⟨1, textFields book⟩] ∧
      ¬ s.widget.fields.databaseItems = some s.collection.current.rows := by
  refine ⟨_, rfl, rfl, ⟨rfl, SnapshotFeed.settled_of_replicate 2 rfl⟩, rfl, rfl, ?_⟩
  intro h
  cases h

end FirestoreDB

end FlutterApp
