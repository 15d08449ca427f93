import FlutterApp.PersistantStorage.FirestoreAgreement

/-!
What a completed deletion removes from the list on the screen. The completion removes by
position: the position that the tapped row had when it was rendered, in the list as it is
when the deletion completes. Where the document of the row is by then follows from the
snapshots that have arrived and the deletions that have completed.
-/

namespace FlutterApp
namespace FirestoreDB
variable {ι : Type}

/-- The event completes the deletion that was started on the row of a document, while the
list is shown. -/
def Deletes (s : FirestoreDB ι) (e : Event ι) (position : Nat) (tapped : Document ι) : Prop :=
  ∃ i w, e = .completed i ∧ s.writes[i]? = some w ∧ w.applied = true ∧
    w.kind = .delete position tapped ∧ s.widget.mounted = true

/-- The list still has the document of the tapped row at the row's position. -/
def RowInPlace (s : FirestoreDB ι) (e : Event ι) : Prop :=
  ∀ position tapped, Deletes s e position tapped →
    ((s.widget.fields.databaseItems.getD [])[position]?.map Document.id) = some tapped.id

/-- The ids in a list are those of one snapshot. -/
def UniqueItems (fields : FirestoreFields ι) : Prop :=
  ∀ items, fields.databaseItems = some items → (items.map Document.id).Nodup

theorem uniqueItems_removeAt {position : Nat} {fields next : FirestoreFields ι}
    (h : UniqueItems fields) (hremove : removeAt position fields = .ok next) :
    UniqueItems next := by
  simp only [removeAt] at hremove
  split at hremove
  · cases hremove
  · rename_i before hbefore
    split at hremove
    · cases hremove
      intro items hitems
      cases hitems
      exact ((List.eraseIdx_sublist _ _).map Document.id).nodup (h before hbefore)
    · cases hremove

theorem uniqueItems_showSnapshot {c : Collection ι} {fields next : FirestoreFields ι}
    (hshow : showSnapshot c fields = .ok next) : UniqueItems next := by
  cases hshow
  intro items hitems
  cases hitems
  exact c.unique

theorem uniqueItems_initial (c : Collection ι) : UniqueItems (initial c).widget.fields := by
  intro items hitems
  cases hitems

variable [DecidableEq ι]

theorem uniqueItems_step {supply : KeySupply ι} {s t : FirestoreDB ι} {e : Event ι}
    (h : UniqueItems s.widget.fields) (hstep : step supply s e = some t) :
    UniqueItems t.widget.fields := by
  cases stepped hstep with
  | build _ | tap _ _ | insertValue _ | applied _ _ | failed _ _ | changed | leave _ => exact h
  | completed _ _ =>
      rename_i i w _ _
      cases completed_widget_or { s with writes := s.writes.eraseIdx i } w with
      | inl hset =>
          obtain ⟨value, -, heq⟩ := hset
          rw [heq]
          exact h
      | inr hdelete =>
          obtain ⟨position, tapped, -, heq⟩ := hdelete
          rw [heq]
          exact StateObject.setState_keeps h fun _ hremove => uniqueItems_removeAt h hremove
  | snapshot _ => exact StateObject.setState_keeps h fun _ hshow => uniqueItems_showSnapshot hshow

/-- The deletion calls removeAt inside the list, and leaves the list without the tapped
document and otherwise as it was. -/
def RemovesTapped (supply : KeySupply ι) (s : FirestoreDB ι) (e : Event ι) : Prop :=
  ∀ position tapped, Deletes s e position tapped →
    (∃ fields, removeAt position s.widget.fields = .ok fields) ∧
    ∀ t, step supply s e = some t →
      t.widget.fields.databaseItems = s.widget.fields.databaseItems.map fun items =>
        items.filter fun d => d.id ≠ tapped.id

theorem deletes_step (supply : KeySupply ι) {s : FirestoreDB ι} {e : Event ι} {position : Nat}
    {tapped : Document ι} (h : Deletes s e position tapped) :
    ∃ t, step supply s e = some t ∧ t.widget = (s.widget.setState (removeAt position)).1 := by
  obtain ⟨i, ⟨reference, kind, applied⟩, rfl, hwrite, rfl, rfl, -⟩ := h
  refine ⟨FirestoreDB.completed { s with writes := s.writes.eraseIdx i }
    ⟨reference, .delete position tapped, true⟩, ?_, rfl⟩
  simp only [step, hwrite]

theorem removesTapped_iff (supply : KeySupply ι) {s : FirestoreDB ι} (e : Event ι)
    (hs : UniqueItems s.widget.fields) : RemovesTapped supply s e ↔ RowInPlace s e := by
  refine forall₃_congr fun position tapped hdeletes => ?_
  obtain ⟨t, hstep, hwidget⟩ := deletes_step supply hdeletes
  have hmounted : s.widget.mounted = true := by
    obtain ⟨_, _, -, -, -, -, hmounted⟩ := hdeletes
    exact hmounted
  simp only [hstep, Option.some.injEq, forall_eq', hwidget]
  by_cases hpos : position < (s.widget.fields.databaseItems.getD []).length
  · obtain ⟨items, hitems, hlt, hremove⟩ := removeAt_in hpos
    rw [StateObject.setState_of_mounted hmounted hremove]
    simp only [hremove, hitems, Option.map_some, Option.some.injEq, Option.getD_some,
      List.getElem?_eq_getElem hlt]
    rw [KeyedTable.eraseIdx_eq_filter_iff (hs items hitems) hlt]
    simp
  · have hout := Nat.le_of_not_lt hpos
    obtain ⟨e, herror⟩ := removeAt_out hout
    simp [herror, List.getElem?_eq_none hout]

/-- What changes the list. -/
inductive ListChange (ι : Type) where
  | snapshot (rows : List (Document ι))
  | removedAt (position : Nat)

/-- The snapshot or the completed deletion that an event is. -/
def listChanges (s : FirestoreDB ι) : Event ι → List (ListChange ι)
  | .completed i =>
      match s.writes[i]? with
      | some ⟨_, .delete position _, true⟩ => [.removedAt position]
      | _ => []
  | .snapshot k => (s.collection.take k).toList.map fun taken => .snapshot taken.1.rows
  | .build | .tap _ | .insertValue _ | .applied _ | .failed _ | .changed _ | .leave => []

/-- Where a row goes when the row at another position is removed. -/
def shift (removed position : Nat) : Option Nat :=
  if position < removed then some position
  else if position = removed then none
  else some (position - 1)

/-- The place of the document after a change. -/
def placed (id : ι) (place : Option Nat) : ListChange ι → Option Nat
  | .snapshot rows => rows.findIdx? fun d => d.id = id
  | .removedAt removed => place.bind (shift removed)

/-- The place of a document in the list: where the last snapshot lists it, moved up by each
deletion that has completed since at a position before it, and lost by one at its own. -/
def place (id : ι) (changes : List (ListChange ι)) : Option Nat :=
  changes.foldl (placed id) none

theorem place_append (id : ι) (changes more : List (ListChange ι)) :
    place id (changes ++ more) = more.foldl (placed id) (place id changes) :=
  List.foldl_append

omit [DecidableEq ι] in
theorem getElem?_eraseIdx_shift (rows : List (Document ι)) (removed p : Nat) (d : Document ι) :
    (rows.eraseIdx removed)[p]? = some d ↔
      ∃ r, rows[r]? = some d ∧ shift removed r = some p := by
  rw [List.getElem?_eraseIdx]
  constructor
  · intro h
    split at h
    · rename_i hlt
      exact ⟨p, h, by simp only [shift, hlt, if_true]⟩
    · refine ⟨p + 1, h, ?_⟩
      rw [shift, if_neg (by omega), if_neg (by omega), Nat.add_sub_cancel]
  · intro h
    obtain ⟨r, hr, hshift⟩ := h
    simp only [shift] at hshift
    split at hshift
    · rename_i hlt
      cases hshift
      rw [if_pos hlt]
      exact hr
    · split at hshift
      · cases hshift
      · obtain rfl := Option.some.inj hshift
        rw [if_neg (by omega), show r - 1 + 1 = r by omega]
        exact hr

theorem findIdx?_id_eq_some {rows : List (Document ι)} (unique : (rows.map Document.id).Nodup)
    (id : ι) (p : Nat) :
    rows.findIdx? (fun d => d.id = id) = some p ↔ ∃ d, rows[p]? = some d ∧ d.id = id := by
  simp only [List.findIdx?_eq_some_iff_getElem, decide_eq_true_eq, List.getElem?_eq_some_iff]
  constructor
  · intro h
    obtain ⟨hlt, hid, -⟩ := h
    exact ⟨rows[p], ⟨hlt, rfl⟩, hid⟩
  · intro h
    obtain ⟨d, ⟨hlt, rfl⟩, hid⟩ := h
    refine ⟨hlt, hid, ?_⟩
    intro j hj heq
    have hdistinct := List.pairwise_iff_getElem.mp (List.pairwise_map.mp unique)
    exact hdistinct j p (Nat.lt_trans hj hlt) hlt hj (heq.trans hid.symm)

/-- The list has its documents where the changes have put them. -/
def Placed (changes : List (ListChange ι)) (fields : FirestoreFields ι) : Prop :=
  ∀ id p, place id changes = some p ↔
    ∃ d, (fields.databaseItems.getD [])[p]? = some d ∧ d.id = id

theorem placed_removeAt {changes : List (ListChange ι)} {w : StateObject (FirestoreFields ι)}
    (hmounted : w.mounted = true) (h : Placed changes w.fields) (removed : Nat) :
    Placed (changes ++ [.removedAt removed]) (w.setState (removeAt removed)).1.fields := by
  have hitems : (w.setState (removeAt removed)).1.fields.databaseItems.getD [] =
      (w.fields.databaseItems.getD []).eraseIdx removed := by
    by_cases hin : removed < (w.fields.databaseItems.getD []).length
    · obtain ⟨items, hitems, -, hremove⟩ := removeAt_in hin
      rw [StateObject.setState_of_mounted hmounted hremove, hitems]
      rfl
    · have hout := Nat.le_of_not_lt hin
      obtain ⟨e, herror⟩ := removeAt_out hout
      rw [StateObject.setState_fields_of_error herror, List.eraseIdx_of_length_le hout]
  intro id p
  simp only [place_append, List.foldl_cons, List.foldl_nil, placed, Option.bind_eq_some_iff, h id,
    hitems, getElem?_eraseIdx_shift]
  constructor
  · intro hplace
    obtain ⟨r, ⟨d, hd, hid⟩, hshift⟩ := hplace
    exact ⟨d, ⟨r, hd, hshift⟩, hid⟩
  · intro hlisted
    obtain ⟨d, ⟨r, hd, hshift⟩, hid⟩ := hlisted
    exact ⟨r, ⟨d, hd, hid⟩, hshift⟩

theorem placed_step {supply : KeySupply ι} {s t : FirestoreDB ι} {e : Event ι}
    {changes : List (ListChange ι)}
    (h : s.widget.mounted = true → Placed changes s.widget.fields)
    (hstep : step supply s e = some t) (hmounted : t.widget.mounted = true) :
    Placed (changes ++ listChanges s e) t.widget.fields := by
  cases stepped hstep with
  | build _ | tap _ _ | insertValue _ | applied _ _ | failed _ _ | changed =>
      simp only [listChanges, List.append_nil]
      exact h hmounted
  | leave _ => cases hmounted
  | @completed i w hwrite happlied =>
      obtain ⟨reference, kind, applied⟩ := w
      cases happlied
      cases kind with
      | setData value =>
          simp only [listChanges, hwrite, List.append_nil]
          exact h hmounted
      | delete position tapped =>
          simp only [FirestoreDB.completed, StateObject.setState_mounted] at hmounted
          simp only [listChanges, hwrite]
          exact placed_removeAt hmounted (h hmounted) position
  | @snapshot k c rest htake =>
      rw [StateObject.setState_mounted] at hmounted
      have hshow : showSnapshot c s.widget.fields =
          .ok { s.widget.fields with databaseItems := some c.rows } := rfl
      rw [StateObject.setState_of_mounted hmounted hshow]
      intro id p
      simp only [listChanges, htake, Option.toList_some, List.map_cons, List.map_nil,
        place_append, List.foldl_cons, List.foldl_nil, placed, Option.getD_some]
      exact findIdx?_id_eq_some c.unique id p

theorem placed_run {supply : KeySupply ι} {c : Collection ι} {s : FirestoreDB ι}
    {es : List (Event ι)} (h : EventSystem.run (step supply) (initial c) es = some s)
    (hmounted : s.widget.mounted = true) :
    Placed (EventSystem.trace (step supply) listChanges (initial c) es) s.widget.fields := by
  refine EventSystem.run_induction (motive := fun es s => s.widget.mounted = true →
    Placed (EventSystem.trace (step supply) listChanges (initial c) es) s.widget.fields)
    ?_ ?_ h hmounted
  · intro _ id p
    simp [EventSystem.trace, place, initial, fetchValues, StateObject.initState]
  · intro es mid e t hrun ih hstep
    rw [EventSystem.trace_snoc listChanges e hrun]
    exact placed_step ih hstep

/-- The snapshots that have arrived and the deletions that have completed before leave the
document of the tapped row at the position that the row had. -/
def RowStands (supply : KeySupply ι) (c : Collection ι) (before : List (Event ι))
    (s : FirestoreDB ι) (e : Event ι) : Prop :=
  ∀ position tapped, Deletes s e position tapped →
    place tapped.id (EventSystem.trace (step supply) listChanges (initial c) before) =
      some position

theorem rowInPlace_iff_rowStands {supply : KeySupply ι} {c : Collection ι} {s : FirestoreDB ι}
    {before : List (Event ι)} (h : EventSystem.run (step supply) (initial c) before = some s)
    (e : Event ι) : RowInPlace s e ↔ RowStands supply c before s e := by
  refine forall₃_congr fun position tapped hdeletes => ?_
  have hmounted : s.widget.mounted = true := by
    obtain ⟨_, _, -, -, -, -, hmounted⟩ := hdeletes
    exact hmounted
  rw [placed_run h hmounted, Option.map_eq_some_iff]

/-- In every run, each deletion that completes removes the document of the tapped row and
nothing else exactly when the last snapshot before it lists that document and the deletions
completed since have moved it to the position of the row. -/
theorem removes_tapped_iff (supply : KeySupply ι) (c : Collection ι) (es : List (Event ι)) :
    EventSystem.StepsMeet (step supply) (RemovesTapped supply) (initial c) es ↔
      EventSystem.EachMeets (step supply) (RowStands supply c) (initial c) es := by
  rw [EventSystem.stepsMeet_congr (fun s => UniqueItems s.widget.fields) (uniqueItems_initial c)
      (fun _ _ _ => uniqueItems_step) (fun _ e hs => removesTapped_iff supply e hs) es,
    EventSystem.stepsMeet_iff_eachMeets]
  exact EventSystem.eachMeets_congr (fun _ _ e h => rowInPlace_iff_rowStands h e) es

/-- Three books are listed, and the icons of the first two rows are tapped before the first
deletion completes. -/
def twoRowsTapped : List (Event Int) :=
  [.snapshot 0, .build, .tap 0, .tap 1, .applied 0, .completed 0, .applied 0, .completed 0]

def threeBooks : Collection Int :=
  ⟨[⟨1, textFields book⟩, ⟨2, textFields book⟩, ⟨3, textFields book⟩], by decide⟩

theorem third_removed_for_second :
    (∃ s, EventSystem.run (step .largestPlusOne) (initial threeBooks) twoRowsTapped = some s ∧
      s.widget.fields.databaseItems = some [⟨2, textFields book⟩]) ∧
    ¬ EventSystem.StepsMeet (step .largestPlusOne) (RemovesTapped .largestPlusOne)
      (initial threeBooks) twoRowsTapped := by
  refine ⟨⟨_, rfl, rfl⟩, ?_⟩
  intro hmeets
  have hrun : EventSystem.run (step .largestPlusOne) (initial threeBooks)
      twoRowsTapped.dropLast = some _ := rfl
  have hlast := ((EventSystem.stepsMeet_snoc (Event.completed 0) hrun).mp hmeets).2
  have hremoved := (hlast 1 ⟨2, textFields book⟩ ⟨0, _, rfl, rfl, rfl, rfl, rfl⟩).2 _ rfl
  exact absurd hremoved (by decide)

end FirestoreDB

end FlutterApp
