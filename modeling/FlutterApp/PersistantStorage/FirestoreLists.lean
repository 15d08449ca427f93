import FlutterApp.PersistantStorage.FirestoreRemoval

/-!
Which states of the collection FireStoreDB shows. However many subscriptions deliver their
snapshots, and in whatever order, the list is one state that the collection has had, in its
order, from which only completed deletions have taken rows.
-/

namespace FlutterApp
namespace FirestoreDB
variable {ι : Type}

/-- The rows of a past collection, without at most so many of them. -/
def PastRows (history : List (Collection ι)) (removed : Nat) (rows : List (Document ι)) : Prop :=
  ∃ past ∈ history, rows.Sublist past.rows ∧ past.rows.length ≤ rows.length + removed

theorem pastRows_mono {history later : List (Collection ι)} {removed more : Nat}
    {rows : List (Document ι)} (h : PastRows history removed rows) (hsubset : history ⊆ later)
    (hle : removed ≤ more) : PastRows later more rows := by
  obtain ⟨past, hpast, hsub, hlen⟩ := h
  exact ⟨past, hsubset hpast, hsub, by omega⟩

theorem pastRows_eraseIdx {history : List (Collection ι)} {removed : Nat}
    {rows : List (Document ι)} {position : Nat} (h : PastRows history removed rows)
    (hlt : position < rows.length) :
    PastRows history (removed + 1) (rows.eraseIdx position) := by
  obtain ⟨past, hpast, hsub, hlen⟩ := h
  refine ⟨past, hpast, (List.eraseIdx_sublist rows position).trans hsub, ?_⟩
  rw [List.length_eraseIdx_of_lt hlt]
  omega

/-- A document of which the collection has one is listed once. -/
theorem unique_of_pastRows {history : List (Collection ι)} {removed : Nat}
    {rows : List (Document ι)} (h : PastRows history removed rows) :
    (rows.map Document.id).Nodup := by
  obtain ⟨past, -, hsub, -⟩ := h
  exact (hsub.map Document.id).nodup past.unique

/-- The list and the rendered rows are those of a past collection. -/
def ShowsPast (history : List (Collection ι)) (removed : Nat) (fields : FirestoreFields ι) :
    Prop :=
  ListMeets (PastRows history removed) fields.databaseItems fields.frame

/-- What is on its way to the screen and what it shows has been in the collection. -/
structure Delivers (history : List (Collection ι)) (removed : Nat) (s : FirestoreDB ι) : Prop where
  feed : s.collection.Carries (· ∈ history)
  list : ShowsPast history removed s.widget.fields

theorem delivers_mono {history later : List (Collection ι)} {removed more : Nat}
    {s : FirestoreDB ι} (h : Delivers history removed s) (hsubset : history ⊆ later)
    (hle : removed ≤ more) : Delivers later more s :=
  ⟨SnapshotFeed.carries_mono h.feed fun _ hmem => hsubset hmem,
    h.list.imp fun _ hrows => pastRows_mono hrows hsubset hle⟩

theorem showsPast_removeAt {history : List (Collection ι)} {removed position : Nat}
    {w : StateObject (FirestoreFields ι)} (h : ShowsPast history removed w.fields) :
    ShowsPast history (removed + 1) (w.setState (removeAt position)).1.fields := by
  have hkept : ShowsPast history (removed + 1) w.fields :=
    h.imp fun _ hrows => pastRows_mono hrows (List.Subset.refl _) (Nat.le_succ _)
  refine StateObject.setState_keeps hkept ?_
  intro fields hfields
  simp only [removeAt] at hfields
  split at hfields
  · cases hfields
  · rename_i items hitems
    split at hfields
    · rename_i hlt
      cases hfields
      exact hkept.assign (pastRows_eraseIdx (h.list items hitems) hlt)
    · cases hfields

variable [DecidableEq ι]

/-- The collections that a step makes. -/
def collections (s : FirestoreDB ι) : Event ι → List (Collection ι)
  | .applied i => (s.writes[i]?.map (effect s.collection.current)).toList
  | .changed c => [c]
  | .build | .tap _ | .insertValue _ | .failed _ | .completed _ | .snapshot _ | .leave => []

/-- The position of a deletion that a step completes. -/
def deletions (s : FirestoreDB ι) : Event ι → List Nat
  | .completed i =>
      match s.writes[i]? with
      | some ⟨_, .delete position _, true⟩ => [position]
      | _ => []
  | .build | .tap _ | .insertValue _ | .applied _ | .failed _ | .changed _ | .snapshot _
  | .leave => []

theorem delivers_step {supply : KeySupply ι} {history : List (Collection ι)} {removed : Nat}
    {s t : FirestoreDB ι} {e : Event ι} (h : Delivers history removed s)
    (hstep : step supply s e = some t) :
    Delivers (history ++ collections s e) (removed + (deletions s e).length) t := by
  have hlater : Delivers (history ++ collections s e) (removed + (deletions s e).length) s :=
    delivers_mono h (List.subset_append_left _ _) (Nat.le_add_right _ _)
  cases stepped hstep with
  | build _ => exact ⟨hlater.feed, hlater.list.build⟩
  | tap _ _ | insertValue _ | failed _ _ | leave _ => exact ⟨hlater.feed, hlater.list⟩
  | @applied i w hwrite _ =>
      refine ⟨SnapshotFeed.carries_publish hlater.feed ?_, hlater.list⟩
      simp [collections, hwrite]
  | changed =>
      refine ⟨SnapshotFeed.carries_publish hlater.feed ?_, hlater.list⟩
      simp [collections]
  | @completed i w hwrite happlied =>
      obtain ⟨reference, kind, applied⟩ := w
      cases happlied
      cases kind with
      | setData value => exact ⟨SnapshotFeed.carries_subscribe hlater.feed, hlater.list⟩
      | delete position tapped =>
          refine ⟨hlater.feed, ?_⟩
          simp only [collections, deletions, hwrite, List.append_nil, List.length_singleton]
          exact showsPast_removeAt h.list
  | @snapshot k c rest htake =>
      obtain ⟨hc, hrest⟩ := SnapshotFeed.carries_take hlater.feed htake
      refine ⟨hrest, StateObject.setState_keeps hlater.list ?_⟩
      intro fields hfields
      cases hfields
      exact hlater.list.assign ⟨c, hc, List.Sublist.refl _, Nat.le_add_right _ _⟩

/-- In every run the list and the rendered rows are, in its order, the rows of one state that
the collection has had since the screen was opened, of which at most as many are missing as
deletions have completed; so no document is listed twice. -/
theorem lists_are_past_collections {supply : KeySupply ι} {c : Collection ι}
    {s : FirestoreDB ι} {es : List (Event ι)}
    (h : EventSystem.run (step supply) (initial c) es = some s) :
    ShowsPast (c :: EventSystem.trace (step supply) collections (initial c) es)
        (EventSystem.trace (step supply) deletions (initial c) es).length s.widget.fields ∧
      ∀ items, s.widget.fields.databaseItems = some items → (items.map Document.id).Nodup := by
  have hdelivers : Delivers (c :: EventSystem.trace (step supply) collections (initial c) es)
      (EventSystem.trace (step supply) deletions (initial c) es).length s := by
    refine EventSystem.run_induction (motive := fun es s =>
      Delivers (c :: EventSystem.trace (step supply) collections (initial c) es)
        (EventSystem.trace (step supply) deletions (initial c) es).length s) ?_ ?_ h
    · refine ⟨SnapshotFeed.carries_subscribe (SnapshotFeed.carries_initial ?_), nofun, Or.inl rfl⟩
      exact List.mem_cons_self
    · intro es mid e t hrun ih hstep
      rw [EventSystem.trace_snoc collections e hrun, EventSystem.trace_snoc deletions e hrun,
        List.length_append, ← List.cons_append]
      exact delivers_step ih hstep
  refine ⟨hdelivers.list, ?_⟩
  intro items hitems
  exact unique_of_pastRows (hdelivers.list.list items hitems)

theorem lists_are_past_collections_tapped :
    ∃ s, EventSystem.run (step .largestPlusOne) (initial threeBooks) twoRowsTapped = some s ∧
      s.widget.fields.databaseItems = some [⟨2, textFields book⟩] ∧
      (EventSystem.trace (step .largestPlusOne) deletions (initial threeBooks)
        twoRowsTapped).length = 2 ∧
      ShowsPast (threeBooks :: EventSystem.trace (step .largestPlusOne) collections
          (initial threeBooks) twoRowsTapped)
        (EventSystem.trace (step .largestPlusOne) deletions (initial threeBooks)
          twoRowsTapped).length s.widget.fields :=
  ⟨_, rfl, rfl, rfl, (@lists_are_past_collections Int _ .largestPlusOne threeBooks _
    twoRowsTapped rfl).1⟩

end FirestoreDB

end FlutterApp
