import FlutterApp.PersistantStorage.FirestoreAgreement
import FlutterApp.Requests.RowTaps

/-!
What the rows of FireStoreDB show. Whatever the order of writes, completions and snapshots,
a document in the list was in the collection at first, or in one that another client made,
or holds what one insertion of the screen has written; the button writes the same two
texts every time.
-/

namespace FlutterApp

/-- The value of a field, as the program gets it. -/
def FieldValue.toDynamic : FieldValue → Dynamic
  | null => .null
  | bool value => .bool value
  | int value => .int value
  | double bits => .double bits
  | str value => .str value
  | other className _ => .object className

/-- The subscript of a DocumentSnapshot, null for a field that is missing. -/
def Document.subscript {ι : Type} (document : Document ι) (key : String) : Dynamic :=
  ((document.value.lookup key).map FieldValue.toDynamic).getD .null

namespace FirestoreDB
variable {ι : Type}

/-- The texts of a card, as _listviewBuilder passes them to Text. -/
def rowTexts (document : Document ι) : Except Thrown RowTexts := do
  let title ← Requests.newText (document.subscript "title")
  let subtitle ← Requests.newText (document.subscript "author")
  return ⟨title, subtitle⟩

/-- The row at an index. -/
def itemBuilder (fields : FirestoreFields ι) (index : Nat) : Except Thrown RowTexts :=
  match fields.databaseItems with
  | none => .error .noSuchMethodError
  | some items =>
      match items[index]? with
      | none => .error .rangeError
      | some document => rowTexts document

def itemCount (fields : FirestoreFields ι) : Nat :=
  match fields.databaseItems with
  | none => 0
  | some items => items.length

/-- The field of the document is a text. -/
def HasText (document : Document ι) (key text : String) : Prop :=
  document.value.lookup key = some (.str text)

/-- The row shows the two texts of the document, or its title or its author is no text and
the build throws. -/
def BuiltFrom (document : Document ι) (built : Except Thrown RowTexts) : Prop :=
  (∃ title author, HasText document "title" title ∧ HasText document "author" author ∧
      built = .ok ⟨title, author⟩) ∨
    ((∀ text, ¬ HasText document "title" text) ∨ ∀ text, ¬ HasText document "author" text) ∧
      ∃ e, built = .error e

theorem itemBuilder_eq {fields : FirestoreFields ι} {index : Nat} (h : index < itemCount fields) :
    ∃ document ∈ fields.databaseItems.getD [], itemBuilder fields index = rowTexts document := by
  cases hitems : fields.databaseItems with
  | none => simp [itemCount, hitems] at h
  | some items =>
      have hlt : index < items.length := by simpa [itemCount, hitems] using h
      exact ⟨items[index], List.getElem_mem hlt,
        by simp only [itemBuilder, hitems, List.getElem?_eq_getElem hlt]⟩

variable {Q : Document ι → Prop}

def Shows (Q : Document ι → Prop) (fields : FirestoreFields ι) : Prop :=
  ∀ document ∈ fields.databaseItems.getD [], Q document

/-- What the write stores has the property. -/
def Write.Stores (Q : Document ι → Prop) (w : Write ι) : Prop :=
  match w.kind with
  | .setData value => Q ⟨w.reference, textFields value⟩
  | .delete _ _ => True

/-- All documents that the screen shows or may come to show have the property. -/
structure Holds (Q : Document ι → Prop) (s : FirestoreDB ι) : Prop where
  collection : s.collection.Carries fun c => ∀ document ∈ c.rows, Q document
  writes : ∀ w ∈ s.writes, Write.Stores Q w
  items : Shows Q s.widget.fields

theorem holds_write {supply : KeySupply ι} {s : FirestoreDB ι} {kind : WriteKind ι}
    (h : Holds Q s)
    (hkind : ∀ reference, Write.Stores Q ⟨reference, kind, false⟩) :
    Holds Q (s.write supply kind) := by
  refine ⟨h.collection, ?_, h.items⟩
  exact List.forall_mem_append.mpr ⟨h.writes, List.forall_mem_singleton.mpr (hkind _)⟩

theorem shows_removeAt {position : Nat} {fields next : FirestoreFields ι} (hshows : Shows Q fields)
    (h : removeAt position fields = .ok next) : Shows Q next := by
  simp only [removeAt] at h
  cases hitems : fields.databaseItems with
  | none =>
      rw [hitems] at h
      cases h
  | some items =>
      rw [hitems] at h
      simp only at h
      split at h
      · cases h
        intro document hmem
        refine hshows document ?_
        rw [hitems]
        exact List.mem_of_mem_eraseIdx hmem
      · cases h

theorem holds_completed {s : FirestoreDB ι} {w : Write ι} (h : Holds Q s) :
    Holds Q (s.completed w) := by
  obtain ⟨reference, kind, applied⟩ := w
  cases kind with
  | setData value => exact ⟨SnapshotFeed.carries_subscribe h.collection, h.writes, h.items⟩
  | delete position tapped =>
      refine ⟨h.collection, h.writes, ?_⟩
      exact StateObject.setState_keeps (P := Shows Q) h.items fun _ => shows_removeAt h.items

theorem holds_snapshot {s : FirestoreDB ι} {c : Collection ι}
    {rest : SnapshotFeed (Collection ι)} (h : Holds Q s)
    (hc : ∀ document ∈ c.rows, Q document)
    (hrest : rest.Carries fun c => ∀ document ∈ c.rows, Q document) :
    Holds Q { s with collection := rest, widget := (s.widget.setState (showSnapshot c)).1 } := by
  refine ⟨hrest, h.writes, ?_⟩
  refine StateObject.setState_keeps (P := Shows Q) h.items ?_
  intro fields hfields
  cases hfields
  exact hc

variable [DecidableEq ι]

theorem setData_holds {c : Collection ι} {reference : ι} {value : List (String × String)}
    (h : ∀ document ∈ c.rows, Q document) (hnew : Q ⟨reference, textFields value⟩) :
    ∀ document ∈ (setData c reference value).rows, Q document := by
  simp only [setData]
  cases hinsert : c.insertRow ⟨reference, textFields value⟩ with
  | some next =>
      simp only [KeyedTable.insertRow_rows hinsert]
      exact List.forall_mem_append.mpr ⟨h, List.forall_mem_singleton.mpr hnew⟩
  | none =>
      obtain ⟨next, hupdate, hentry⟩ := KeyedTable.updateWhere_key c reference ()
        (f := fun _ => .ok ⟨reference, textFields value⟩)
        (g := fun _ => ⟨reference, textFields value⟩)
        (fun _ => rfl) (fun _ => rfl)
      simp only [hupdate]
      intro document hmem
      have hfound := (KeyedTable.entry_eq_some next document.id document).mpr ⟨hmem, rfl⟩
      rw [hentry] at hfound
      by_cases hid : document.id = reference
      · rw [hid, Function.update_self] at hfound
        obtain ⟨_, -, rfl⟩ := Option.map_eq_some_iff.mp hfound
        exact hnew
      · rw [Function.update_of_ne hid] at hfound
        exact h document ((KeyedTable.entry_eq_some c _ _).mp hfound).1

theorem effect_holds {c : Collection ι} {w : Write ι} (h : ∀ document ∈ c.rows, Q document)
    (hw : Write.Stores Q w) : ∀ document ∈ (effect c w).rows, Q document := by
  obtain ⟨reference, kind, applied⟩ := w
  cases kind with
  | setData value => exact setData_holds h hw
  | delete position tapped =>
      intro document hmem
      exact h document (List.mem_of_mem_filter hmem)

/-- The documents that an event brings from outside. -/
def Event.Brings (Q : Document ι → Prop) : Event ι → Prop
  | .insertValue value => ∀ reference, Q ⟨reference, textFields value⟩
  | .changed c => ∀ document ∈ c.rows, Q document
  | .build | .tap _ | .applied _ | .failed _ | .completed _ | .snapshot _ | .leave => True

theorem holds_step {supply : KeySupply ι} {s t : FirestoreDB ι} {e : Event ι} (h : Holds Q s)
    (he : e.Brings Q) (hstep : step supply s e = some t) : Holds Q t := by
  cases stepped hstep with
  | build _ | leave _ => exact ⟨h.collection, h.writes, h.items⟩
  | tap _ _ => exact holds_write h fun _ => trivial
  | insertValue _ => exact holds_write h he
  | applied hwrite _ =>
      have hstores := h.writes _ (List.mem_of_getElem? hwrite)
      refine ⟨SnapshotFeed.carries_publish h.collection ?_, ?_, h.items⟩
      · exact effect_holds h.collection.current hstores
      · intro w hw
        cases List.mem_or_eq_of_mem_set hw with
        | inl hold => exact h.writes w hold
        | inr heq =>
            subst heq
            exact hstores
  | failed _ _ =>
      exact ⟨h.collection, fun w hw => h.writes w (List.mem_of_mem_eraseIdx hw), h.items⟩
  | completed _ _ =>
      refine holds_completed ⟨h.collection, ?_, h.items⟩
      exact fun w hw => h.writes w (List.mem_of_mem_eraseIdx hw)
  | changed => exact ⟨SnapshotFeed.carries_publish h.collection he, h.writes, h.items⟩
  | snapshot htake =>
      obtain ⟨hc, hrest⟩ := SnapshotFeed.carries_take h.collection htake
      exact holds_snapshot h hc hrest

theorem holds_run {supply : KeySupply ι} {c : Collection ι} {s : FirestoreDB ι}
    {es : List (Event ι)} (h : EventSystem.run (step supply) (initial c) es = some s)
    (hc : ∀ document ∈ c.rows, Q document) (hes : ∀ e ∈ es, e.Brings Q) : Holds Q s := by
  refine EventSystem.run_invariant_of_events (Holds Q) (Event.Brings Q) ?_
    (fun _ _ _ hmid he hstep => holds_step hmid he hstep) h hes
  refine ⟨SnapshotFeed.carries_subscribe (SnapshotFeed.carries_initial hc), ?_, ?_⟩
  · exact List.forall_mem_nil _
  · exact List.forall_mem_nil _

end FirestoreDB

end FlutterApp
