import FlutterApp.PersistantStorage.AsText

/-!
Which texts readData shows. The calls do not wait for each other, so a read may find a
file that a write has just truncated, and the bytes of a write may end inside those of a
longer text. In runs where neither happens and no write fails, every text that is shown
was written or found as a whole.
-/

namespace FlutterApp

/-- The text that a task has yet to write. -/
def FileTask.writes : FileTask → Option String
  | .writeFetchFile text | .openTruncated text | .writeFrom text => some text
  | _ => none

namespace TextStorage

/-- What a text is read back as. -/
def withoutMark (text : String) : String :=
  match text.toList with
  | '\uFEFF' :: rest => String.ofList rest
  | _ => text

theorem decode_toUTF8 (text : String) : decode text.toUTF8 = some (withoutMark text) := by
  have hvalid : String.fromUTF8? text.toUTF8 = some text := by
    simp only [String.fromUTF8?, String.toUTF8_eq_toByteArray, dif_pos text.isValidUTF8]
    rfl
  rw [decode, hvalid]
  rfl

/-- The bytes of a text replace everything that is not longer. -/
theorem overlay_of_size_le {bytes content : ByteArray} (h : content.size ≤ bytes.size) :
    overlay bytes content = bytes := by
  have hrest : content.extract bytes.size content.size = .empty :=
    ByteArray.extract_eq_empty_iff.mpr (Nat.le_trans (Nat.min_le_right _ _) h)
  rw [overlay, hrest, ByteArray.append_empty]

def writtenTexts (es : List Event) : List String :=
  es.filterMap fun
    | .writeData inputData => some inputData
    | _ => none

/-- The initial content of the file, or a text of a writeData call. -/
def Complete (file : Option ByteArray) (written : List String) (text : String) : Prop :=
  file.bind decode = some text ∨ ∃ inputData ∈ written, text = withoutMark inputData

theorem complete_append {file : Option ByteArray} {written : List String} {text : String}
    (h : Complete file written text) (more : List String) :
    Complete file (written ++ more) text := by
  refine h.imp_right ?_
  intro hwritten
  obtain ⟨inputData, hmem, htext⟩ := hwritten
  exact ⟨inputData, List.mem_append_left _ hmem, htext⟩

/-- No read falls between the truncation of the file and the bytes, no write leaves the end
of a longer text in place, and no write fails. -/
def Undisturbed (s : TextStorage) : Event → Prop
  | .resume i =>
      (s.tasks[i]? = some .readAsString → s.file = some .empty →
        ∀ text, FileTask.writeFrom text ∉ s.tasks) ∧
      ∀ text content, s.tasks[i]? = some (.writeFrom text) → s.file = some content →
        content.size ≤ text.toUTF8.size
  | .failed i => ∀ task, s.tasks[i]? = some task → task.writes = none
  | _ => True

/-- What the file holds while every write is undisturbed. -/
inductive Holds (file : Option ByteArray) (written : List String) (s : TextStorage) : Prop
  | untouched : s.file = file →
      (∀ text ∈ written, .writeFetchFile text ∈ s.tasks ∨ .openTruncated text ∈ s.tasks) →
      (∀ text, .writeFrom text ∉ s.tasks) → Holds file written s
  | written {text : String} : text ∈ written → s.file = some text.toUTF8 → Holds file written s
  | truncated {text : String} : .writeFrom text ∈ s.tasks → s.file = some .empty →
      Holds file written s

structure Intact (file : Option ByteArray) (written : List String) (s : TextStorage) : Prop where
  holds : Holds file written s
  writes : ∀ task ∈ s.tasks, ∀ text, task.writes = some text → text ∈ written
  reads : ∀ text, .readDone text ∈ s.tasks → Complete file written text
  shows : ∀ text, s.widget.fields.data = some text → Complete file written text

theorem holds_of_kept {file : Option ByteArray} {written : List String} {s t : TextStorage}
    (h : Holds file written s) (hfile : t.file = s.file)
    (hkept : ∀ task ∈ s.tasks, ∀ text, task.writes = some text → task ∈ t.tasks)
    (hnew : ∀ text, .writeFrom text ∈ t.tasks → .writeFrom text ∈ s.tasks) :
    Holds file written t := by
  cases h with
  | untouched hsame hpending hnone =>
      refine .untouched (hfile.trans hsame) ?_ (fun text hmem => hnone text (hnew text hmem))
      intro text hwritten
      exact (hpending text hwritten).imp (fun hmem => hkept _ hmem text rfl)
        (fun hmem => hkept _ hmem text rfl)
  | written hwritten hbytes => exact .written hwritten (hfile.trans hbytes)
  | truncated hmem hempty => exact .truncated (hkept _ hmem _ rfl) (hfile.trans hempty)

section Resumed
variable {file : Option ByteArray} {written : List String} {s t : TextStorage} {i : Nat}
  {task : FileTask}

/-- A task that writes nothing leaves the writes and the file to the others. -/
theorem holds_resume (h : Holds file written s) (htask : s.tasks[i]? = some task)
    (hwrites : task.writes = none) {started : List FileTask}
    (hstarted : ∀ task ∈ started, task.writes = none) (hfile : t.file = s.file)
    (htasks : t.tasks = TaskPool.resume s.tasks i started) : Holds file written t := by
  refine holds_of_kept h hfile ?_ ?_
  · intro other hmem text hother
    rw [htasks]
    refine TaskPool.mem_resume_of_ne hmem htask fun heq => ?_
    rw [heq, hwrites] at hother
    cases hother
  · intro text hmem
    rw [htasks] at hmem
    refine (TaskPool.mem_of_mem_resume hmem).resolve_right fun hnew => ?_
    cases hstarted _ hnew

/-- What is read is complete. -/
theorem complete_of_read (h : Holds file written s)
    (hundisturbed : s.file = some .empty → ∀ text, .writeFrom text ∉ s.tasks) {text : String}
    (hread : s.file.bind decode = some text) : Complete file written text := by
  cases h with
  | untouched hsame _ _ => exact Or.inl (hsame ▸ hread)
  | @written inputData hwritten hbytes =>
      rw [hbytes, Option.bind_some, decode_toUTF8] at hread
      exact Or.inr ⟨inputData, hwritten, (Option.some.inj hread).symm⟩
  | truncated hmem hempty => exact absurd hmem (hundisturbed hempty _)

/-- The bytes of a write are the whole file. -/
theorem file_of_writeFrom {text : String} (h : Holds file written s)
    (hmem : .writeFrom text ∈ s.tasks)
    (hundisturbed : ∀ content, s.file = some content → content.size ≤ text.toUTF8.size) :
    s.file.map (overlay text.toUTF8) = some text.toUTF8 := by
  have hexists : ∃ content, s.file = some content := by
    cases h with
    | untouched _ _ hnone => exact absurd hmem (hnone text)
    | written _ hbytes => exact ⟨_, hbytes⟩
    | truncated _ hempty => exact ⟨_, hempty⟩
  obtain ⟨content, hcontent⟩ := hexists
  rw [hcontent, Option.map_some, overlay_of_size_le (hundisturbed content hcontent)]

theorem intact_of_started (h : Intact file written s) {started : List FileTask}
    (hholds : Holds file written t) (htasks : t.tasks = TaskPool.resume s.tasks i started)
    (hwrites : ∀ task ∈ started, ∀ text, task.writes = some text → text ∈ written)
    (hreads : ∀ text, .readDone text ∈ started → Complete file written text)
    (hshows : ∀ text, t.widget.fields.data = some text → Complete file written text) :
    Intact file written t where
  holds := hholds
  writes := by
    rw [htasks]
    exact TaskPool.forall_mem_resume h.writes hwrites
  reads := by
    intro text hmem
    rw [htasks] at hmem
    exact (TaskPool.mem_of_mem_resume hmem).elim (h.reads text) (hreads text)
  shows := hshows

/-- A truncated file belongs to the write that is now pending. -/
theorem holds_openTruncated {text : String} (hfile : t.file = some .empty)
    (htasks : t.tasks = TaskPool.resume s.tasks i [.writeFrom text]) : Holds file written t := by
  have hpending : .writeFrom text ∈ t.tasks := by
    rw [htasks]
    exact TaskPool.mem_resume_of_mem_next (List.mem_singleton_self _)
  exact .truncated hpending hfile

/-- A write that has found its file is still pending. -/
theorem holds_writeFetchFile {text : String} (h : Holds file written s)
    (htask : s.tasks[i]? = some (.writeFetchFile text)) (hfile : t.file = s.file)
    (htasks : t.tasks = TaskPool.resume s.tasks i [.openTruncated text]) :
    Holds file written t := by
  have hkept : ∀ other ∈ s.tasks, other ≠ .writeFetchFile text → other ∈ t.tasks := by
    intro other hmem hne
    rw [htasks]
    exact TaskPool.mem_resume_of_ne hmem htask hne
  have hopen : .openTruncated text ∈ t.tasks := by
    rw [htasks]
    exact TaskPool.mem_resume_of_mem_next (List.mem_singleton_self _)
  cases h with
  | untouched hsame hpending hnone =>
      refine .untouched (hfile.trans hsame) ?_ ?_
      · intro other hwritten
        by_cases heq : other = text
        · exact Or.inr (heq ▸ hopen)
        · refine (hpending other hwritten).imp (fun hmem => ?_) (fun hmem => ?_)
          · exact hkept _ hmem (by simp [heq])
          · exact hkept _ hmem nofun
      · intro other hmem
        rw [htasks] at hmem
        exact hnone other ((TaskPool.mem_of_mem_resume hmem).resolve_right (by simp))
  | written hwritten hbytes => exact .written hwritten (hfile.trans hbytes)
  | truncated hmem hempty => exact .truncated (hkept _ hmem nofun) (hfile.trans hempty)

theorem intact_resume (h : Intact file written s) (htask : s.tasks[i]? = some task)
    (hundisturbed : Undisturbed s (.resume i)) :
    Intact file written { (s.advance task).1 with
      tasks := TaskPool.resume s.tasks i (s.advance task).2 } := by
  have hmem := List.mem_of_getElem? htask
  have hwritten := h.writes task hmem
  cases task with
  | readFetchFile =>
      exact intact_of_started h (holds_resume h.holds htask rfl (by simp [advance, FileTask.writes])
        rfl rfl) rfl (by simp [advance, FileTask.writes]) (by simp [advance]) h.shows
  | readAsString =>
      refine intact_of_started h (holds_resume h.holds htask rfl ?_ rfl rfl) rfl ?_ ?_ h.shows
      · simp [advance, FileTask.writes]
      · simp [advance, FileTask.writes]
      · intro text hdone
        exact complete_of_read h.holds (hundisturbed.1 htask) (by simpa [advance] using hdone)
  | readDone text =>
      have hshown : ∀ shown, (s.widget.setState (showText text)).1.fields.data = some shown →
          Complete file written shown := by
        refine StateObject.setState_keeps (P := fun fields : TextFields => ∀ shown,
          fields.data = some shown → Complete file written shown) h.shows ?_
        intro fields hfields shown hdata
        cases hfields
        cases hdata
        exact h.reads text hmem
      exact intact_of_started h (holds_resume h.holds htask rfl (by simp [advance]) rfl rfl) rfl
        (by simp [advance]) (by simp [advance]) hshown
  | writeFetchFile text =>
      refine intact_of_started h (holds_writeFetchFile h.holds htask rfl rfl) rfl ?_ ?_ h.shows
      · simpa [advance, FileTask.writes] using hwritten
      · simp [advance]
  | openTruncated text =>
      refine intact_of_started h (holds_openTruncated rfl rfl) rfl ?_ ?_ h.shows
      · simpa [advance, FileTask.writes] using hwritten
      · simp [advance]
  | writeFrom text =>
      have hfile := file_of_writeFrom h.holds hmem
        fun content => hundisturbed.2 text content htask
      exact intact_of_started h (.written (hwritten text rfl) hfile) rfl
        (by simp [advance, FileTask.writes]) (by simp [advance]) h.shows
  | closeFile =>
      exact intact_of_started h (holds_resume h.holds htask rfl (by simp [advance]) rfl rfl) rfl
        (by simp [advance]) (by simp [advance]) h.shows

end Resumed

theorem writtenTexts_snoc (es : List Event) (e : Event) :
    writtenTexts (es ++ [e]) = writtenTexts es ++ writtenTexts [e] :=
  List.filterMap_append

section Step
variable {file : Option ByteArray} {written : List String} {s t : TextStorage}

theorem intact_readData (h : Intact file written s) :
    Intact file written { s with tasks := s.tasks ++ [.readFetchFile] } where
  holds := by
    refine holds_of_kept h.holds rfl (fun _ hmem _ _ => List.mem_append_left _ hmem) ?_
    exact fun text hmem => (List.mem_append.mp hmem).resolve_right (by simp)
  writes := List.forall_mem_append.mpr ⟨h.writes, by simp [FileTask.writes]⟩
  reads := fun text hmem => h.reads text ((List.mem_append.mp hmem).resolve_right (by simp))
  shows := h.shows

theorem intact_writeData (h : Intact file written s) (inputData : String) :
    Intact file (written ++ [inputData])
      { s with tasks := s.tasks ++ [.writeFetchFile inputData] } where
  holds := by
    cases h.holds with
    | untouched hsame hpending hnone =>
        refine .untouched hsame (List.forall_mem_append.mpr ⟨?_, by simp⟩) ?_
        · intro text hwritten
          exact (hpending text hwritten).imp (List.mem_append_left _) (List.mem_append_left _)
        · exact fun text hmem => hnone text ((List.mem_append.mp hmem).resolve_right (by simp))
    | written hwritten hbytes => exact .written (List.mem_append_left _ hwritten) hbytes
    | truncated hmem hempty => exact .truncated (List.mem_append_left _ hmem) hempty
  writes := by
    refine List.forall_mem_append.mpr ⟨?_, by simp [FileTask.writes]⟩
    exact fun task hmem text hwrites => List.mem_append_left _ (h.writes task hmem text hwrites)
  reads := fun text hmem =>
    complete_append (h.reads text ((List.mem_append.mp hmem).resolve_right (by simp))) _
  shows := fun text hshown => complete_append (h.shows text hshown) _

theorem intact_step {e : Event} (h : Intact file written s) (hundisturbed : Undisturbed s e)
    (hstep : step s e = some t) : Intact file (written ++ writtenTexts [e]) t := by
  cases stepped hstep with
  | readData _ => simpa [writtenTexts] using intact_readData h
  | writeData _ => exact intact_writeData h _
  | resume htask => simpa [writtenTexts] using intact_resume h htask hundisturbed
  | @failed i task htask =>
      have hholds : Holds file written { s with tasks := TaskPool.resume s.tasks i [] } :=
        holds_resume h.holds htask (hundisturbed task htask) (List.forall_mem_nil _) rfl rfl
      simpa [writtenTexts] using
        intact_of_started h hholds rfl (List.forall_mem_nil _) (by simp) h.shows
  | leave _ =>
      have hholds : Holds file written { s with widget := s.widget.dispose } :=
        holds_of_kept h.holds rfl (fun _ hmem _ _ => hmem) (fun _ hmem => hmem)
      simpa [writtenTexts] using (⟨hholds, h.writes, h.reads, h.shows⟩ : Intact file written _)

end Step

theorem intact_run {file : Option ByteArray} {es : List Event} {s : TextStorage}
    (h : EventSystem.run step (initial file) es = some s)
    (hundisturbed : EventSystem.StepsMeet step Undisturbed (initial file) es) :
    Intact file (writtenTexts es) s := by
  refine EventSystem.run_induction (motive := fun es s =>
    EventSystem.StepsMeet step Undisturbed (initial file) es → Intact file (writtenTexts es) s)
    ?_ ?_ h hundisturbed
  · intro _
    exact ⟨.untouched rfl (List.forall_mem_nil _) (fun _ => List.not_mem_nil),
      List.forall_mem_nil _, fun _ hmem => absurd hmem List.not_mem_nil, nofun⟩
  · intro es mid e t hrun ih hstep hmeets
    obtain ⟨hes, he⟩ := (EventSystem.stepsMeet_snoc e hrun).mp hmeets
    rw [writtenTexts_snoc]
    exact intact_step (ih hes) he hstep

/-- A read of a written text by itself shows the text. -/
theorem read_alone {s : TextStorage} {inputData : String} (hmounted : s.widget.mounted = true)
    (hidle : s.tasks = []) (hfile : s.file = some inputData.toUTF8) :
    ∃ t, EventSystem.run step s [.readData, .resume 0, .resume 0, .resume 0] = some t ∧
      t.widget.fields.data = some (withoutMark inputData) := by
  obtain ⟨⟨fields, mounted, lateSetState⟩, content, tasks⟩ := s
  subst hmounted hidle hfile
  have hread : step ⟨⟨fields, true, lateSetState⟩, some inputData.toUTF8, [.readAsString]⟩
      (.resume 0) = some ⟨⟨fields, true, lateSetState⟩, some inputData.toUTF8,
        [.readDone (withoutMark inputData)]⟩ := by
    simp only [step, advance, List.getElem?_cons_zero, Option.map_some, Option.bind_some,
      decode_toUTF8]
    rfl
  refine ⟨⟨⟨⟨some (withoutMark inputData)⟩, true, lateSetState⟩, some inputData.toUTF8, []⟩,
    ?_, rfl⟩
  change ((step ⟨⟨fields, true, lateSetState⟩, some inputData.toUTF8, [.readAsString]⟩
    (.resume 0)).bind fun next => EventSystem.run step next [.resume 0]) = _
  rw [hread]
  rfl

/-- In every run of undisturbed calls, each text that is shown is the initial content or a
text of a writeData call; and once all calls have finished, a further read shows a text of a
writeData call, if there was one. -/
theorem reads_complete_texts (file : Option ByteArray) (es : List Event) (s : TextStorage)
    (h : EventSystem.run step (initial file) es = some s)
    (hundisturbed : EventSystem.StepsMeet step Undisturbed (initial file) es) :
    (∀ text, s.widget.fields.data = some text → Complete file (writtenTexts es) text) ∧
      (s.tasks = [] → s.widget.mounted = true → writtenTexts es ≠ [] →
        ∃ inputData ∈ writtenTexts es, ∃ t,
          EventSystem.run step s [.readData, .resume 0, .resume 0, .resume 0] = some t ∧
          t.widget.fields.data = some (withoutMark inputData)) := by
  have hintact := intact_run h hundisturbed
  refine ⟨hintact.shows, ?_⟩
  intro hidle hmounted hwrites
  cases hintact.holds with
  | untouched _ hpending _ =>
      obtain ⟨inputData, hwritten⟩ := List.exists_mem_of_ne_nil _ hwrites
      have hnone := hpending inputData hwritten
      simp [hidle] at hnone
  | @written inputData hwritten hbytes =>
      exact ⟨inputData, hwritten, read_alone hmounted hidle hbytes⟩
  | truncated hmem _ =>
      rw [hidle] at hmem
      cases hmem

/-- Two writes overlap. A read takes the bytes of the first before the second truncates the
file, and shows them between the truncation and the bytes of the second. -/
def writtenTwice : List Event :=
  [.writeData "ann", .writeData "new", .resume 0, .resume 1, .resume 0, .resume 0, .readData,
    .resume 2, .resume 2, .resume 0, .resume 1, .resume 1, .resume 0, .resume 0]

theorem writtenTwice_undisturbed :
    EventSystem.StepsMeet step Undisturbed (initial (some "old".toUTF8)) writtenTwice := by
  refine EventSystem.stepsMeet_cons trivial rfl (EventSystem.stepsMeet_cons trivial rfl ?_)
  refine EventSystem.stepsMeet_cons ⟨nofun, nofun⟩ rfl ?_
  refine EventSystem.stepsMeet_cons ⟨nofun, nofun⟩ rfl ?_
  refine EventSystem.stepsMeet_cons ⟨nofun, nofun⟩ rfl ?_
  refine EventSystem.stepsMeet_cons ⟨nofun, ?_⟩ rfl ?_
  · intro text content _ hcontent
    cases hcontent
    exact Nat.zero_le _
  refine EventSystem.stepsMeet_cons trivial rfl ?_
  refine EventSystem.stepsMeet_cons ⟨nofun, nofun⟩ rfl ?_
  refine EventSystem.stepsMeet_cons ⟨?_, nofun⟩ rfl ?_
  · intro _ _ text hmem
    have hpending : .writeFrom text ∈
        [FileTask.openTruncated "new", .closeFile, .readAsString] := hmem
    simp at hpending
  refine EventSystem.stepsMeet_cons ⟨nofun, nofun⟩ rfl ?_
  refine EventSystem.stepsMeet_cons ⟨nofun, nofun⟩ rfl ?_
  refine EventSystem.stepsMeet_cons ⟨nofun, ?_⟩ rfl ?_
  · intro text content _ hcontent
    cases hcontent
    exact Nat.zero_le _
  refine EventSystem.stepsMeet_cons ⟨nofun, nofun⟩ rfl ?_
  exact EventSystem.stepsMeet_cons ⟨nofun, nofun⟩ rfl trivial

theorem reads_complete_texts_written_twice :
    ∃ s, EventSystem.run step (initial (some "old".toUTF8)) writtenTwice = some s ∧
      s.widget.fields.data = some "ann" ∧
      Complete (some "old".toUTF8) ["ann", "new"] "ann" ∧
      ∃ inputData ∈ ["ann", "new"], ∃ t,
        EventSystem.run step s [.readData, .resume 0, .resume 0, .resume 0] = some t ∧
        t.widget.fields.data = some (withoutMark inputData) := by
  have h := reads_complete_texts (some "old".toUTF8) writtenTwice _ rfl writtenTwice_undisturbed
  exact ⟨_, rfl, rfl, h.1 "ann" rfl, h.2 rfl rfl (List.cons_ne_nil _ _)⟩

/-- A text is read after the file has been truncated for it. -/
def readTruncated : List Event :=
  [.writeData "new", .readData, .resume 0, .resume 0, .resume 0, .resume 0, .resume 1]

/-- A longer text is written before a shorter one, into the file that both have truncated. -/
def overlaid : List Event :=
  [.writeData "longer", .writeData "new", .resume 0, .resume 0, .resume 0, .resume 0, .resume 0,
    .resume 0, .resume 0, .resume 0, .readData, .resume 0, .resume 0, .resume 0]

/-- The bytes of a write fail, and the file it has truncated is read. -/
def bytesFailed : List Event :=
  [.writeData "new", .resume 0, .resume 0, .failed 0, .readData, .resume 0, .resume 0, .resume 0]

/-- A text that begins with a byte order mark is written and read. -/
def markWritten : List Event :=
  [.writeData "\uFEFFnew", .resume 0, .resume 0, .resume 0, .resume 0, .readData, .resume 0,
    .resume 0, .resume 0]

/-- In three ways a text is shown that nobody has written; and a byte order mark is lost. -/
theorem truncated_and_mixed_texts_shown :
    (∃ s, EventSystem.run step (initial (some "old".toUTF8)) readTruncated = some s ∧
      s.widget.fields.data = some "" ∧
      ¬ Complete (some "old".toUTF8) (writtenTexts readTruncated) "") ∧
    (∃ s, EventSystem.run step (initial (some "old".toUTF8)) overlaid = some s ∧
      s.widget.fields.data = some "newger" ∧
      ¬ Complete (some "old".toUTF8) (writtenTexts overlaid) "newger") ∧
    (∃ s, EventSystem.run step (initial (some "old".toUTF8)) bytesFailed = some s ∧
      s.widget.fields.data = some "" ∧
      ¬ Complete (some "old".toUTF8) (writtenTexts bytesFailed) "") ∧
    ∃ s, EventSystem.run step (initial none) markWritten = some s ∧
      s.widget.fields.data = some "new" ∧ writtenTexts markWritten = ["\uFEFFnew"] ∧
      "new" ∉ writtenTexts markWritten := by
  have hdecode : (some "old".toUTF8).bind decode = some "old" := rfl
  refine ⟨⟨_, rfl, rfl, ?_⟩, ⟨_, rfl, rfl, ?_⟩, ⟨_, rfl, rfl, ?_⟩, ⟨_, rfl, rfl, rfl, ?_⟩⟩
  · simp only [Complete, hdecode, writtenTexts, readTruncated]
    decide
  · simp only [Complete, hdecode, writtenTexts, overlaid]
    decide
  · simp only [Complete, hdecode, writtenTexts, bytesFailed]
    decide
  · decide

end TextStorage

end FlutterApp
