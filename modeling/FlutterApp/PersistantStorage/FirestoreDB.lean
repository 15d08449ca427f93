import FlutterApp.Flutter
import FlutterApp.Library.EventSystem
import FlutterApp.Library.KeyedTable
import FlutterApp.Library.SnapshotFeed

/-!
The screen FireStoreDB over the collection "books".

A write names its document, takes effect remotely at some later moment and completes
after that; its continuation then runs on the screen. Snapshots replace the list as a
whole. Any other client may change the collection too. The type of document ids and the
rule for fresh ones are parameters.
-/

namespace FlutterApp

/-- The value of a field. Of an array, a map, a timestamp and the like only the class and the
content as a text are kept. -/
inductive FieldValue where
  | null
  | bool (value : Bool)
  | int (value : Int)
  | double (bits : UInt64)
  | str (value : String)
  | other (className content : String)
  deriving DecidableEq

structure Document (ι : Type) where
  id : ι
  value : List (String × FieldValue)
  deriving DecidableEq

abbrev Collection (ι : Type) := KeyedTable (Document.id : Document ι → ι)

structure FirestoreFields (ι : Type) where
  databaseItems : Option (List (Document ι))
  /-- The rows that the last build rendered. -/
  frame : List (Document ι)
  deriving DecidableEq

/-- A deletion remembers the document of the tapped row, which the program does not. -/
inductive WriteKind (ι : Type) where
  | setData (value : List (String × String))
  | delete (position : Nat) (tapped : Document ι)
  deriving DecidableEq

structure Write (ι : Type) where
  reference : ι
  kind : WriteKind ι
  applied : Bool
  deriving DecidableEq

structure FirestoreDB (ι : Type) where
  widget : StateObject (FirestoreFields ι)
  collection : SnapshotFeed (Collection ι)
  /-- The ids that document() has named. -/
  named : List ι
  writes : List (Write ι)

namespace FirestoreDB
variable {ι : Type} [DecidableEq ι]

/-- The fields that a map of texts is stored as. -/
def textFields (value : List (String × String)) : List (String × FieldValue) :=
  value.map fun entry => (entry.1, .str entry.2)

/-- DocumentReference.setData, which overwrites a document of the same id. -/
def setData (c : Collection ι) (reference : ι) (value : List (String × String)) : Collection ι :=
  match c.insertRow ⟨reference, textFields value⟩ with
  | some next => next
  | none =>
      match c.updateWhere (KeyedTable.hasKey Document.id (some reference))
        (fun _ => .ok ⟨reference, textFields value⟩) () with
      | .ok (_, next) => next
      | .error _ => c

/-- DocumentReference.delete. -/
def delete (c : Collection ι) (reference : ι) : Collection ι :=
  (c.deleteWhere (KeyedTable.hasKey Document.id (some reference))).2

def fetchValues (s : FirestoreDB ι) : FirestoreDB ι :=
  { s with collection := s.collection.subscribe }

def initial (c : Collection ι) : FirestoreDB ι :=
  FirestoreDB.fetchValues ⟨.initState ⟨none, []⟩, .initial c, [], []⟩

/-- collection.document() without a path, and the write that is started on it. -/
def write (supply : KeySupply ι) (s : FirestoreDB ι) (kind : WriteKind ι) : FirestoreDB ι :=
  let reference := supply.next (s.named ++ s.collection.current.keys)
  { s with
    named := reference :: s.named
    writes := s.writes ++ [⟨reference, kind, false⟩] }

def deleteValue (supply : KeySupply ι) (s : FirestoreDB ι) (position : Nat)
    (tapped : Document ι) : FirestoreDB ι :=
  s.write supply (.delete position tapped)

def insertValue (supply : KeySupply ι) (s : FirestoreDB ι)
    (value : List (String × String)) : FirestoreDB ι :=
  s.write supply (.setData value)

/-- The collection after a write. -/
def effect (c : Collection ι) (w : Write ι) : Collection ι :=
  match w.kind with
  | .setData value => setData c w.reference value
  | .delete _ _ => delete c w.reference

def showSnapshot (c : Collection ι) (fields : FirestoreFields ι) :
    Except Thrown (FirestoreFields ι) :=
  .ok { fields with databaseItems := some c.rows }

/-- databaseItems.removeAt(position). -/
def removeAt (position : Nat) (fields : FirestoreFields ι) :
    Except Thrown (FirestoreFields ι) :=
  match fields.databaseItems with
  | none => .error .noSuchMethodError
  | some items =>
      if position < items.length then
        .ok { fields with databaseItems := some (items.eraseIdx position) }
      else .error .rangeError

/-- The then callback of a write. -/
def completed (s : FirestoreDB ι) (w : Write ι) : FirestoreDB ι :=
  match w.kind with
  | .setData _ => s.fetchValues
  | .delete position _ => { s with widget := (s.widget.setState (removeAt position)).1 }

inductive Event (ι : Type) where
  | build
  | tap (index : Nat)
  | insertValue (value : List (String × String))
  /-- A write takes effect remotely, is refused, or completes. -/
  | applied (i : Nat)
  | failed (i : Nat)
  | completed (i : Nat)
  /-- Another client changes the collection. -/
  | changed (c : Collection ι)
  | snapshot (k : Nat)
  | leave

def step (supply : KeySupply ι) (s : FirestoreDB ι) : Event ι → Option (FirestoreDB ι)
  | .build =>
      if s.widget.mounted then
        some { s with widget := { s.widget with
          fields := { s.widget.fields with frame := s.widget.fields.databaseItems.getD [] } } }
      else none
  | .tap index =>
      if s.widget.mounted then
        s.widget.fields.frame[index]?.map (s.deleteValue supply index)
      else none
  | .insertValue value => if s.widget.mounted then some (s.insertValue supply value) else none
  | .applied i =>
      match s.writes[i]? with
      | some ⟨reference, kind, false⟩ =>
          some { s with
            collection := s.collection.publish
              (effect s.collection.current ⟨reference, kind, false⟩)
            writes := s.writes.set i ⟨reference, kind, true⟩ }
      | _ => none
  | .failed i =>
      match s.writes[i]? with
      | some ⟨_, _, false⟩ => some { s with writes := s.writes.eraseIdx i }
      | _ => none
  | .completed i =>
      match s.writes[i]? with
      | some ⟨reference, kind, true⟩ =>
          some (FirestoreDB.completed { s with writes := s.writes.eraseIdx i }
            ⟨reference, kind, true⟩)
      | _ => none
  | .changed c => some { s with collection := s.collection.publish c }
  | .snapshot k =>
      (s.collection.take k).map fun (c, rest) =>
        { s with collection := rest, widget := (s.widget.setState (showSnapshot c)).1 }
  | .leave => if s.widget.mounted then some { s with widget := s.widget.dispose } else none

inductive Stepped (supply : KeySupply ι) (s : FirestoreDB ι) :
    Event ι → FirestoreDB ι → Prop
  | build : s.widget.mounted = true →
      Stepped supply s .build { s with widget := { s.widget with
        fields := { s.widget.fields with frame := s.widget.fields.databaseItems.getD [] } } }
  | tap {index : Nat} {tapped : Document ι} : s.widget.mounted = true →
      s.widget.fields.frame[index]? = some tapped →
      Stepped supply s (.tap index) (s.deleteValue supply index tapped)
  | insertValue {value : List (String × String)} : s.widget.mounted = true →
      Stepped supply s (.insertValue value) (s.insertValue supply value)
  | applied {i : Nat} {w : Write ι} : s.writes[i]? = some w → w.applied = false →
      Stepped supply s (.applied i) { s with
        collection := s.collection.publish (effect s.collection.current w)
        writes := s.writes.set i { w with applied := true } }
  | failed {i : Nat} {w : Write ι} : s.writes[i]? = some w → w.applied = false →
      Stepped supply s (.failed i) { s with writes := s.writes.eraseIdx i }
  | completed {i : Nat} {w : Write ι} : s.writes[i]? = some w → w.applied = true →
      Stepped supply s (.completed i)
        (FirestoreDB.completed { s with writes := s.writes.eraseIdx i } w)
  | changed {c : Collection ι} :
      Stepped supply s (.changed c) { s with collection := s.collection.publish c }
  | snapshot {k : Nat} {c : Collection ι} {rest : SnapshotFeed (Collection ι)} :
      s.collection.take k = some (c, rest) → Stepped supply s (.snapshot k)
        { s with collection := rest, widget := (s.widget.setState (showSnapshot c)).1 }
  | leave : s.widget.mounted = true →
      Stepped supply s .leave { s with widget := s.widget.dispose }

theorem stepped {supply : KeySupply ι} {s t : FirestoreDB ι} {e : Event ι}
    (h : step supply s e = some t) : Stepped supply s e t := by
  cases e with
  | build =>
      simp only [step] at h
      split at h
      · rename_i hmounted
        cases h
        exact .build hmounted
      · cases h
  | tap index =>
      simp only [step] at h
      split at h
      · rename_i hmounted
        obtain ⟨tapped, htapped, rfl⟩ := Option.map_eq_some_iff.mp h
        exact .tap hmounted htapped
      · cases h
  | insertValue value =>
      simp only [step] at h
      split at h
      · rename_i hmounted
        cases h
        exact .insertValue hmounted
      · cases h
  | applied i =>
      simp only [step] at h
      split at h
      · rename_i hwrite
        cases h
        exact .applied hwrite rfl
      · cases h
  | failed i =>
      simp only [step] at h
      split at h
      · rename_i hwrite
        cases h
        exact .failed hwrite rfl
      · cases h
  | completed i =>
      simp only [step] at h
      split at h
      · rename_i hwrite
        cases h
        exact .completed hwrite rfl
      · cases h
  | changed c =>
      cases h
      exact .changed
  | snapshot k =>
      obtain ⟨⟨c, rest⟩, htake, rfl⟩ := Option.map_eq_some_iff.mp h
      exact .snapshot htake
  | leave =>
      simp only [step] at h
      split at h
      · rename_i hmounted
        cases h
        exact .leave hmounted
      · cases h

end FirestoreDB

end FlutterApp
