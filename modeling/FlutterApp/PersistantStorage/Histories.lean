import FlutterApp.Library.AtomicRegister
import FlutterApp.PersistantStorage.SharedPreferences
import FlutterApp.PersistantStorage.TextIntegrity

/-!
What the reads of the two text stores return, as histories of an atomic register.

The preferences are read and written in one step each, so every run is such a history.
A text file is truncated before it is written; in undisturbed runs its history has every
write where its bytes go into the file.
-/

namespace FlutterApp

open EventSystem AtomicRegister

/-- The text that a call is to save. -/
def PreferencesTask.saves : PreferencesTask → Option (Option String)
  | .loadSharedPreferencesData => none
  | .saveData _ inputValue => some (some inputValue)

namespace SharedPreferences
universe u
variable {σ ι : Type u}

/-- The access to the value under "data" that an event makes. A load reads what it shows,
and nothing when the screen has gone. -/
def accesses (plugin : PreferencesPlugin σ ι) (s : SharedPreferences σ) :
    Event ι → List (Access (Option String))
  | .resume i preferences =>
      match s.tasks[i]? with
      | some .loadSharedPreferencesData =>
          if s.widget.mounted then
            [.read (s.advance plugin preferences .loadSharedPreferencesData).widget.fields.data]
          else []
      | some (.saveData _ inputValue) => [.write (some inputValue)]
      | none => []
  | .loadSharedPreferencesData | .saveData _ | .failed _ | .leave => []

/-- The text whose save an event makes fail. -/
def failedSaves (s : SharedPreferences σ) : Event ι → List (Option String)
  | .failed i => (s.tasks[i]?.bind PreferencesTask.saves).toList
  | .loadSharedPreferencesData | .saveData _ | .resume _ _ | .leave => []

def requestedSaves (es : List (Event ι)) : List (Option String) :=
  es.filterMap fun
    | .saveData inputValue => some (some inputValue)
    | _ => none

/-- No other instance is given to a call. -/
def Event.Gets (preferences : ι) : Event ι → Prop
  | .resume _ given => given = preferences
  | .loadSharedPreferencesData | .saveData _ | .failed _ | .leave => True

/-- The history is one of a register, and the instance holds what it leaves. -/
structure Recorded (plugin : PreferencesPlugin σ ι) (stored : σ) (preferences : ι)
    (history : List (Access (Option String))) (s : SharedPreferences σ) : Prop where
  legal : Legal (plugin.getString stored preferences "data") history
  value : plugin.getString s.stored preferences "data" =
    after (plugin.getString stored preferences "data") history
  shown : s.widget.fields.data = ((reads history).getLast?).getD none
  others : ∀ key, key ≠ "data" →
    plugin.getString s.stored preferences key = plugin.getString stored preferences key
  keys : ∀ inputKey inputValue, .saveData inputKey inputValue ∈ s.tasks → inputKey = "data"

section Step
variable {plugin : PreferencesPlugin σ ι} {stored : σ} {preferences : ι}
  {history : List (Access (Option String))} {s t : SharedPreferences σ}

theorem recorded_of_kept (h : Recorded plugin stored preferences history s)
    (hstored : t.stored = s.stored)
    (hshown : t.widget.fields.data = s.widget.fields.data)
    (hkeys : ∀ inputKey inputValue, .saveData inputKey inputValue ∈ t.tasks →
      .saveData inputKey inputValue ∈ s.tasks ∨ inputKey = "data") :
    Recorded plugin stored preferences (history ++ []) t where
  legal := by simpa using h.legal
  value := by simpa [hstored] using h.value
  shown := by simpa [hshown] using h.shown
  others := by
    intro key hkey
    rw [hstored]
    exact h.others key hkey
  keys := fun inputKey inputValue hmem =>
    (hkeys inputKey inputValue hmem).elim (h.keys inputKey inputValue) id

theorem recorded_load {i : Nat} (h : Recorded plugin stored preferences history s)
    (htask : s.tasks[i]? = some .loadSharedPreferencesData) :
    Recorded plugin stored preferences (history ++ accesses plugin s (.resume i preferences))
      { s.advance plugin preferences .loadSharedPreferencesData with
        tasks := TaskPool.resume s.tasks i [] } := by
  have hkeys : ∀ inputKey inputValue, .saveData inputKey inputValue ∈
      TaskPool.resume s.tasks i [] → .saveData inputKey inputValue ∈ s.tasks ∨
        inputKey = "data" := fun _ _ hmem =>
    Or.inl ((TaskPool.mem_of_mem_resume hmem).resolve_right List.not_mem_nil)
  simp only [accesses, htask]
  split
  · rename_i hmounted
    have hread : (s.advance plugin preferences .loadSharedPreferencesData).widget.fields.data =
        plugin.getString s.stored preferences "data" := by
      have hshow : showData plugin s.stored preferences s.widget.fields =
          .ok ⟨plugin.getString s.stored preferences "data"⟩ := rfl
      simp only [advance]
      rw [StateObject.setState_of_mounted hmounted hshow]
    refine ⟨?_, ?_, ?_, h.others, ?_⟩
    · rw [legal_append]
      exact ⟨h.legal, hread.trans h.value, trivial⟩
    · rw [after_append]
      exact h.value
    · rw [reads_append]
      simp [reads, Access.returned]
    · exact fun inputKey inputValue hmem =>
        (hkeys inputKey inputValue hmem).elim (h.keys inputKey inputValue) id
  · rename_i hgone
    refine recorded_of_kept h rfl ?_ hkeys
    simp only [advance]
    rw [StateObject.setState_of_disposed (by simpa using hgone)]

theorem recorded_save (hlawful : plugin.Lawful) {i : Nat} {inputKey inputValue : String}
    (h : Recorded plugin stored preferences history s)
    (htask : s.tasks[i]? = some (.saveData inputKey inputValue)) :
    Recorded plugin stored preferences (history ++ accesses plugin s (.resume i preferences))
      { s.advance plugin preferences (.saveData inputKey inputValue) with
        tasks := TaskPool.resume s.tasks i [] } := by
  obtain rfl : inputKey = "data" := h.keys inputKey inputValue (List.mem_of_getElem? htask)
  simp only [accesses, htask]
  refine ⟨?_, ?_, ?_, ?_, ?_⟩
  · rw [legal_append]
    exact ⟨h.legal, trivial⟩
  · rw [after_append]
    simp only [advance, hlawful _ _ _ _ _, if_true, after]
  · rw [reads_append]
    simpa [reads, Access.returned, advance] using h.shown
  · intro key hkey
    simp only [advance, hlawful _ _ _ _ _, hkey, if_false]
    exact h.others key hkey
  · intro inputKey inputValue hmem
    exact h.keys inputKey inputValue
      ((TaskPool.mem_of_mem_resume hmem).resolve_right List.not_mem_nil)

theorem recorded_step (hlawful : plugin.Lawful) {e : Event ι}
    (h : Recorded plugin stored preferences history s) (hgets : e.Gets preferences)
    (hstep : step plugin s e = some t) :
    Recorded plugin stored preferences (history ++ accesses plugin s e) t := by
  cases stepped hstep with
  | loadSharedPreferencesData _ =>
      exact recorded_of_kept h rfl rfl fun _ _ hmem => Or.inl (by simpa using hmem)
  | saveData _ =>
      refine recorded_of_kept h rfl rfl fun _ _ hmem => ?_
      exact (List.mem_append.mp hmem).imp_right fun hnew => by
        simpa using (PreferencesTask.saveData.inj (List.mem_singleton.mp hnew)).1
  | @resume i given task htask =>
      obtain rfl : given = preferences := hgets
      cases task with
      | loadSharedPreferencesData => exact recorded_load h htask
      | saveData inputKey inputValue => exact recorded_save hlawful h htask
  | failed htask =>
      exact recorded_of_kept h rfl rfl fun _ _ hmem =>
        Or.inl ((TaskPool.mem_of_mem_resume hmem).resolve_right List.not_mem_nil)
  | leave _ => exact recorded_of_kept h rfl rfl fun _ _ hmem => Or.inl hmem

/-- A save that is requested has yet to be carried out, and leaves the pool when it takes
effect or fails. -/
theorem saves_step {e : Event ι} (hstep : step plugin s e = some t) (text : Option String) :
    (requestedSaves [e]).count text + (s.tasks.filterMap PreferencesTask.saves).count text =
      (writes (accesses plugin s e)).count text + (failedSaves s e).count text +
        (t.tasks.filterMap PreferencesTask.saves).count text := by
  cases stepped hstep with
  | loadSharedPreferencesData _ | leave _ =>
      simp [requestedSaves, accesses, failedSaves, writes, List.filterMap_cons,
        PreferencesTask.saves]
  | saveData _ =>
      simp [requestedSaves, accesses, failedSaves, writes, PreferencesTask.saves, Nat.add_comm]
  | @resume i given task htask =>
      have hpool := TaskPool.count_resume PreferencesTask.saves [] htask text
      have hwrites : (writes (accesses plugin s (.resume i given))).count text =
          task.saves.toList.count text := by
        cases task with
        | loadSharedPreferencesData =>
            simp only [accesses, htask]
            split <;> rfl
        | saveData inputKey inputValue => simp only [accesses, htask]; rfl
      simp only [requestedSaves, failedSaves, List.filterMap_nil, List.count_nil,
        List.filterMap_cons_none, hwrites] at hpool ⊢
      omega
  | @failed i task htask =>
      have hpool := TaskPool.count_resume PreferencesTask.saves [] htask text
      simp only [requestedSaves, accesses, failedSaves, htask, Option.bind_some, writes,
        List.filterMap_nil, List.count_nil, List.filterMap_cons_none] at hpool ⊢
      omega

end Step

section Run
variable {plugin : PreferencesPlugin σ ι} {stored : σ} {preferences : ι} {es : List (Event ι)}
  {s : SharedPreferences σ}

theorem recorded_run (hlawful : plugin.Lawful)
    (h : run (step plugin) (initial stored) es = some s) (hgets : ∀ e ∈ es, e.Gets preferences) :
    Recorded plugin stored preferences
      (trace (step plugin) (accesses plugin) (initial stored) es) s := by
  refine run_induction (motive := fun es s => (∀ e ∈ es, e.Gets preferences) →
    Recorded plugin stored preferences
      (trace (step plugin) (accesses plugin) (initial stored) es) s) ?_ ?_ h hgets
  · intro _
    exact ⟨trivial, rfl, rfl, fun _ _ => rfl, by simp [initial]⟩
  · intro es mid e t hrun ih hstep hall
    obtain ⟨hes, he⟩ := List.forall_mem_append.mp hall
    rw [trace_snoc (accesses plugin) e hrun]
    exact recorded_step hlawful (ih hes) (he e (List.mem_singleton_self e)) hstep

theorem saves_run (h : run (step plugin) (initial stored) es = some s) (text : Option String) :
    (requestedSaves es).count text =
      (writes (trace (step plugin) (accesses plugin) (initial stored) es)).count text +
        (trace (step plugin) failedSaves (initial stored) es).count text +
        (s.tasks.filterMap PreferencesTask.saves).count text := by
  refine run_induction (motive := fun es s => (requestedSaves es).count text =
    (writes (trace (step plugin) (accesses plugin) (initial stored) es)).count text +
      (trace (step plugin) failedSaves (initial stored) es).count text +
      (s.tasks.filterMap PreferencesTask.saves).count text) rfl ?_ h
  intro es mid e t hrun ih hstep
  have hsaves := saves_step hstep text
  rw [trace_snoc (accesses plugin) e hrun, trace_snoc failedSaves e hrun, writes_append]
  simp only [requestedSaves, List.filterMap_append, List.count_append] at ih hsaves ⊢
  omega

/-- In every run in which all calls are given one instance, and the instance gives back what
was set, the loads and saves of "data" form a history of an atomic register: each load that
finds the screen mounted shows what the saves before it have left, the last of them is on the
screen, every save takes effect once or fails, and no other key of the instance changes. -/
theorem loads_return_latest_save (hlawful : plugin.Lawful)
    (h : run (step plugin) (initial stored) es = some s) (hgets : ∀ e ∈ es, e.Gets preferences) :
    Legal (plugin.getString stored preferences "data")
        (trace (step plugin) (accesses plugin) (initial stored) es) ∧
      plugin.getString s.stored preferences "data" =
        after (plugin.getString stored preferences "data")
          (trace (step plugin) (accesses plugin) (initial stored) es) ∧
      s.widget.fields.data =
        ((reads (trace (step plugin) (accesses plugin) (initial stored) es)).getLast?).getD none ∧
      (∀ key, key ≠ "data" →
        plugin.getString s.stored preferences key = plugin.getString stored preferences key) ∧
      (requestedSaves es).Perm
        (writes (trace (step plugin) (accesses plugin) (initial stored) es) ++
          trace (step plugin) failedSaves (initial stored) es ++
          s.tasks.filterMap PreferencesTask.saves) := by
  have hrecorded := recorded_run hlawful h hgets
  refine ⟨hrecorded.legal, hrecorded.value, hrecorded.shown, hrecorded.others, ?_⟩
  rw [List.perm_iff_count]
  intro text
  simpa only [List.count_append] using saves_run h text

end Run

/-- Two saves overlap, the later one takes effect first, and the load of initState runs
between them. -/
def savesOverlap : List (Event Nat) :=
  [.saveData "a", .saveData "b", .resume 2 7, .resume 0 7, .resume 0 7]

theorem loads_return_latest_save_overlapping :
    ∃ s, run (step .maps) (initial fun _ key => [("data", "old"), ("theme", "dark")].lookup key)
        savesOverlap = some s ∧
      s.stored 7 "data" = some "a" ∧ s.widget.fields.data = some "b" ∧
      s.stored 7 "theme" = some "dark" := by
  have hgets : ∀ e ∈ savesOverlap, e.Gets 7 := by simp [savesOverlap, Event.Gets]
  have h := @loads_return_latest_save _ _ .maps
    (fun _ key => [("data", "old"), ("theme", "dark")].lookup key) 7 savesOverlap _
    PreferencesPlugin.maps_lawful rfl hgets
  exact ⟨_, rfl, h.2.1, h.2.2.1, h.2.2.2.1 "theme" (by decide)⟩

end SharedPreferences

/-- What the text that a call has yet to write will be read back as. -/
def FileTask.saves (task : FileTask) : Option (Option String) :=
  task.writes.map fun text => some (TextStorage.withoutMark text)

namespace TextStorage

/-- The text that a read hands to its then callback. -/
def handed : List FileTask → Option String
  | .readDone text :: _ => some text
  | _ => none

/-- The access to the text of the file that an event makes: a read takes effect when it takes
the bytes, and a write when it puts them into the file. -/
def accesses (s : TextStorage) : Event → List (Access (Option String))
  | .resume i =>
      match s.tasks[i]? with
      | some .readAsString => [.read (handed (s.advance .readAsString).2)]
      | some (.writeFrom text) => [.write (some (withoutMark text))]
      | _ => []
  | .readData | .writeData _ | .failed _ | .leave => []

def requestedSaves (es : List Event) : List (Option String) :=
  (writtenTexts es).map fun text => some (withoutMark text)

theorem handed_readAsString (s : TextStorage) :
    handed (s.advance .readAsString).2 = s.file.bind decode := by
  simp only [advance]
  cases s.file.bind decode <;> rfl

/-- The history is one of a register. What it leaves is in the file, unless a write has
truncated the file and has yet to write. -/
structure Recorded (file : Option ByteArray) (history : List (Access (Option String)))
    (s : TextStorage) : Prop where
  legal : Legal (file.bind decode) history
  value : s.file.bind decode = after (file.bind decode) history ∨
    s.file = some .empty ∧ ∃ text, .writeFrom text ∈ s.tasks
  done : ∀ text, .readDone text ∈ s.tasks → .read (some text) ∈ history
  shown : ∀ text, s.widget.fields.data = some text → .read (some text) ∈ history

section Step
variable {file : Option ByteArray} {written : List String}
  {history : List (Access (Option String))} {s t : TextStorage} {i : Nat}

theorem recorded_of_kept (h : Recorded file history s) (hfile : t.file = s.file)
    (hkept : ∀ text, .writeFrom text ∈ s.tasks → .writeFrom text ∈ t.tasks)
    (hdone : ∀ text, .readDone text ∈ t.tasks → .readDone text ∈ s.tasks)
    (hshown : ∀ text, t.widget.fields.data = some text →
      s.widget.fields.data = some text ∨ .readDone text ∈ s.tasks) :
    Recorded file (history ++ []) t := by
  rw [List.append_nil]
  refine ⟨h.legal, ?_, fun text hmem => h.done text (hdone text hmem), ?_⟩
  · rw [hfile]
    refine h.value.imp_right ?_
    intro htruncated
    obtain ⟨hempty, text, hmem⟩ := htruncated
    exact ⟨hempty, text, hkept text hmem⟩
  · intro text hdata
    exact (hshown text hdata).elim (h.shown text) (h.done text)

theorem recorded_readAsString (h : Recorded file history s)
    (htask : s.tasks[i]? = some .readAsString) (hundisturbed : Undisturbed s (.resume i)) :
    Recorded file (history ++ [.read (s.file.bind decode)])
      { s with
        tasks := TaskPool.resume s.tasks i ((s.file.bind decode).toList.map .readDone) } := by
  have hvalue : s.file.bind decode = after (file.bind decode) history := by
    refine h.value.resolve_right ?_
    intro htruncated
    obtain ⟨hempty, text, hmem⟩ := htruncated
    exact hundisturbed.1 htask hempty text hmem
  refine ⟨?_, Or.inl ?_, ?_, ?_⟩
  · rw [legal_append]
    exact ⟨h.legal, hvalue, trivial⟩
  · rw [after_append]
    exact hvalue
  · intro text hmem
    refine List.mem_append.mpr ((TaskPool.mem_of_mem_resume hmem).imp (h.done text) ?_)
    intro hnew
    have hread : s.file.bind decode = some text := by simpa using hnew
    rw [hread]
    exact List.mem_singleton_self _
  · exact fun text hdata => List.mem_append_left _ (h.shown text hdata)

theorem recorded_writeFrom {text : String} (h : Recorded file history s)
    (hholds : Holds file written s) (htask : s.tasks[i]? = some (.writeFrom text))
    (hundisturbed : Undisturbed s (.resume i)) :
    Recorded file (history ++ [.write (some (withoutMark text))])
      { s with
        file := s.file.map (overlay text.toUTF8)
        tasks := TaskPool.resume s.tasks i [.closeFile] } := by
  have hfile := file_of_writeFrom hholds (List.mem_of_getElem? htask)
    fun content => hundisturbed.2 text content htask
  refine ⟨?_, Or.inl ?_, ?_, ?_⟩
  · rw [legal_append]
    exact ⟨h.legal, trivial⟩
  · rw [after_append, hfile, Option.bind_some, decode_toUTF8]
    rfl
  · intro other hmem
    refine List.mem_append_left _ (h.done other ?_)
    exact (TaskPool.mem_of_mem_resume hmem).resolve_right (by simp)
  · exact fun other hdata => List.mem_append_left _ (h.shown other hdata)

/-- A step between two accesses: the pending bytes of other writes stay pending. -/
theorem recorded_between {task : FileTask} (h : Recorded file history s)
    (htask : s.tasks[i]? = some task) (hwrites : ∀ text, task ≠ .writeFrom text)
    {started : List FileTask} (hstarted : ∀ text, .readDone text ∉ started)
    (hfile : t.file = s.file) (htasks : t.tasks = TaskPool.resume s.tasks i started)
    (hshown : ∀ text, t.widget.fields.data = some text →
      s.widget.fields.data = some text ∨ .readDone text ∈ s.tasks) :
    Recorded file (history ++ []) t := by
  refine recorded_of_kept h hfile ?_ ?_ hshown
  · intro text hmem
    rw [htasks]
    exact TaskPool.mem_resume_of_ne hmem htask (hwrites text).symm
  · intro text hmem
    rw [htasks] at hmem
    exact (TaskPool.mem_of_mem_resume hmem).resolve_right (hstarted text)

theorem recorded_openTruncated (h : Recorded file history s) (i : Nat) (text : String) :
    Recorded file (history ++ [])
      { s with
        file := some .empty
        tasks := TaskPool.resume s.tasks i [.writeFrom text] } := by
  rw [List.append_nil]
  refine ⟨h.legal, Or.inr ⟨rfl, text, ?_⟩, ?_, h.shown⟩
  · exact TaskPool.mem_resume_of_mem_next (List.mem_singleton_self _)
  · intro other hmem
    exact h.done other ((TaskPool.mem_of_mem_resume hmem).resolve_right (by simp))

theorem shown_readDone {text shown : String}
    (hdata : (s.widget.setState (showText text)).1.fields.data = some shown) :
    s.widget.fields.data = some shown ∨ shown = text := by
  refine @StateObject.setState_keeps _ s.widget (showText text) (fun fields =>
    fields.data = some shown → s.widget.fields.data = some shown ∨ shown = text) Or.inl ?_ hdata
  intro fields hfields hshown
  cases hfields
  exact Or.inr (Option.some.inj hshown).symm

theorem recorded_resume {task : FileTask} (h : Recorded file history s)
    (hholds : Holds file written s) (htask : s.tasks[i]? = some task)
    (hundisturbed : Undisturbed s (.resume i)) :
    Recorded file (history ++ accesses s (.resume i)) { (s.advance task).1 with
      tasks := TaskPool.resume s.tasks i (s.advance task).2 } := by
  cases task with
  | readAsString =>
      simp only [accesses, htask, handed_readAsString]
      exact recorded_readAsString h htask hundisturbed
  | writeFrom text =>
      simp only [accesses, htask]
      exact recorded_writeFrom h hholds htask hundisturbed
  | openTruncated text =>
      simp only [accesses, htask]
      exact recorded_openTruncated h i text
  | readDone text =>
      simp only [accesses, htask]
      refine recorded_between h htask (by simp) (by simp [advance]) rfl rfl ?_
      intro shown hdata
      refine (shown_readDone hdata).imp_right fun heq => ?_
      rw [heq]
      exact List.mem_of_getElem? htask
  | readFetchFile | writeFetchFile _ | closeFile =>
      simp only [accesses, htask]
      exact recorded_between h htask (by simp) (by simp [advance]) rfl rfl fun _ => Or.inl

theorem recorded_step {e : Event} (h : Recorded file history s) (hholds : Holds file written s)
    (hundisturbed : Undisturbed s e) (hstep : step s e = some t) :
    Recorded file (history ++ accesses s e) t := by
  cases stepped hstep with
  | readData _ | writeData _ =>
      refine recorded_of_kept h rfl (fun _ => List.mem_append_left _) ?_ fun _ => Or.inl
      exact fun text hmem => (List.mem_append.mp hmem).resolve_right (by simp)
  | resume htask => exact recorded_resume h hholds htask hundisturbed
  | @failed i task htask =>
      refine recorded_between h htask ?_ (fun _ => List.not_mem_nil) rfl rfl fun _ => Or.inl
      intro text heq
      have hnone := hundisturbed task htask
      rw [heq] at hnone
      cases hnone
  | leave _ => exact recorded_of_kept h rfl (fun _ => id) (fun _ => id) fun _ => Or.inl

/-- An undisturbed write that is requested is pending until its bytes are in the file. -/
theorem saves_step {e : Event} (hundisturbed : Undisturbed s e) (hstep : step s e = some t)
    (text : Option String) :
    (requestedSaves [e]).count text + (s.tasks.filterMap FileTask.saves).count text =
      (writes (accesses s e)).count text + (t.tasks.filterMap FileTask.saves).count text := by
  cases stepped hstep with
  | readData _ | leave _ =>
      simp [requestedSaves, writtenTexts, accesses, writes, List.filterMap_cons, FileTask.saves,
        FileTask.writes]
  | writeData _ =>
      simp [requestedSaves, writtenTexts, accesses, writes, FileTask.saves, FileTask.writes,
        Nat.add_comm]
  | @resume i task htask =>
      have hpool := TaskPool.count_resume FileTask.saves (s.advance task).2 htask text
      have hmoved : (task.saves.toList.count text) =
          (writes (accesses s (.resume i))).count text +
            ((s.advance task).2.filterMap FileTask.saves).count text := by
        cases task with
        | readAsString =>
            simp only [accesses, htask, advance]
            cases s.file.bind decode <;> rfl
        | writeFrom _ =>
            simp only [accesses, htask]
            rfl
        | writeFetchFile _ | openTruncated _ =>
            simp [accesses, htask, advance, FileTask.saves, FileTask.writes, writes]
        | readFetchFile | readDone _ | closeFile =>
            simp only [accesses, htask]
            rfl
      change 0 + _ = _ + ((TaskPool.resume s.tasks i (s.advance task).2).filterMap
        FileTask.saves).count text
      omega
  | @failed i task htask =>
      have hpool := TaskPool.count_resume FileTask.saves [] htask text
      have hnone : task.saves = none := by
        simp only [FileTask.saves, hundisturbed task htask, Option.map_none]
      simpa [requestedSaves, writtenTexts, accesses, writes, hnone] using hpool.symm

end Step

theorem recorded_run {file : Option ByteArray} {es : List Event} {s : TextStorage}
    (h : run step (initial file) es = some s)
    (hundisturbed : StepsMeet step Undisturbed (initial file) es) :
    Recorded file (trace step accesses (initial file) es) s := by
  refine run_induction (motive := fun es s => StepsMeet step Undisturbed (initial file) es →
    Recorded file (trace step accesses (initial file) es) s) ?_ ?_ h hundisturbed
  · intro _
    exact ⟨trivial, Or.inl rfl, fun _ hmem => absurd hmem List.not_mem_nil, nofun⟩
  · intro es mid e t hrun ih hstep hmeets
    obtain ⟨hes, he⟩ := (stepsMeet_snoc e hrun).mp hmeets
    rw [trace_snoc accesses e hrun]
    exact recorded_step (ih hes) (intact_run hrun hes).holds he hstep

theorem saves_run {file : Option ByteArray} {es : List Event} {s : TextStorage}
    (h : run step (initial file) es = some s)
    (hundisturbed : StepsMeet step Undisturbed (initial file) es) (text : Option String) :
    (requestedSaves es).count text =
      (writes (trace step accesses (initial file) es)).count text +
        (s.tasks.filterMap FileTask.saves).count text := by
  refine run_induction (motive := fun es s => StepsMeet step Undisturbed (initial file) es →
    (requestedSaves es).count text = (writes (trace step accesses (initial file) es)).count text +
      (s.tasks.filterMap FileTask.saves).count text) (fun _ => rfl) ?_ h hundisturbed
  intro es mid e t hrun ih hstep hmeets
  obtain ⟨hes, he⟩ := (stepsMeet_snoc e hrun).mp hmeets
  have hsaves := saves_step he hstep text
  rw [trace_snoc accesses e hrun, writes_append]
  simp only [requestedSaves, writtenTexts_snoc, List.map_append, List.count_append] at ih hsaves ⊢
  have := ih hes
  omega

/-- In every undisturbed run the reads and writes of the file form a history of an atomic
register: each read returns what the write before it has put into the file, every shown text
was returned by a read, no write is lost, and once no bytes are pending the file holds what
the last write has left. -/
theorem reads_return_latest_write {file : Option ByteArray} {es : List Event} {s : TextStorage}
    (h : run step (initial file) es = some s)
    (hundisturbed : StepsMeet step Undisturbed (initial file) es) :
    Legal (file.bind decode) (trace step accesses (initial file) es) ∧
      (∀ text, s.widget.fields.data = some text →
        .read (some text) ∈ trace step accesses (initial file) es) ∧
      (requestedSaves es).Perm (writes (trace step accesses (initial file) es) ++
        s.tasks.filterMap FileTask.saves) ∧
      ((∀ text, .writeFrom text ∉ s.tasks) →
        s.file.bind decode = after (file.bind decode) (trace step accesses (initial file) es)) := by
  have hrecorded := recorded_run h hundisturbed
  refine ⟨hrecorded.legal, hrecorded.shown, ?_, ?_⟩
  · rw [List.perm_iff_count]
    intro text
    simpa only [List.count_append] using saves_run h hundisturbed text
  · intro hnone
    refine hrecorded.value.resolve_right ?_
    intro htruncated
    obtain ⟨-, text, hmem⟩ := htruncated
    exact hnone text hmem

/-- A text is written over the old one and read before the write has closed the file. -/
def writtenOver : List Event :=
  [.writeData "new", .resume 0, .resume 0, .resume 0, .readData, .resume 1, .resume 1, .resume 1]

theorem reads_return_latest_write_over :
    ∃ s, run step (initial (some "old".toUTF8)) writtenOver = some s ∧
      s.widget.fields.data = some "new" ∧ s.file.bind decode = some "new" := by
  have hundisturbed : StepsMeet step Undisturbed (initial (some "old".toUTF8)) writtenOver := by
    refine stepsMeet_cons trivial rfl (stepsMeet_cons ⟨nofun, nofun⟩ rfl ?_)
    refine stepsMeet_cons ⟨nofun, nofun⟩ rfl (stepsMeet_cons ⟨nofun, ?_⟩ rfl ?_)
    · intro text content _ hcontent
      cases hcontent
      exact Nat.zero_le _
    · refine stepsMeet_cons trivial rfl (stepsMeet_cons ⟨nofun, nofun⟩ rfl ?_)
      refine stepsMeet_cons ⟨?_, nofun⟩ rfl (stepsMeet_cons ⟨nofun, nofun⟩ rfl trivial)
      intro _ _ text hmem
      have hpending : .writeFrom text ∈ [FileTask.closeFile, .readAsString] := hmem
      simp at hpending
  refine ⟨_, rfl, rfl, (reads_return_latest_write rfl hundisturbed).2.2.2 ?_⟩
  intro text hmem
  have hpending : .writeFrom text ∈ [FileTask.closeFile] := hmem
  simp at hpending

end TextStorage

end FlutterApp
