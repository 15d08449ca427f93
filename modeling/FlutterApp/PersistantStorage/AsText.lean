import FlutterApp.Flutter
import FlutterApp.Library.EventSystem
import FlutterApp.Library.TaskPool

/-!
The screen TextStorageWidget over the file data.txt.

Writing a text opens and truncates the file, writes the bytes of the text from offset 0
and closes the file, each in a step of its own. Reading takes the bytes that are present
when it runs. Any step may fail instead, which ends its call.
-/

namespace FlutterApp

structure TextFields where
  data : Option String
  deriving DecidableEq

/-- Where a call is suspended. -/
inductive FileTask where
  | readFetchFile
  | readAsString
  /-- The text has been read; its then callback runs next. -/
  | readDone (text : String)
  | writeFetchFile (text : String)
  | openTruncated (text : String)
  | writeFrom (text : String)
  | closeFile
  deriving DecidableEq

structure TextStorage where
  widget : StateObject TextFields
  /-- The bytes of data.txt, if it exists. -/
  file : Option ByteArray
  tasks : List FileTask

namespace TextStorage

def initial (file : Option ByteArray) : TextStorage := ⟨.initState ⟨none⟩, file, []⟩

/-- Decoding of UTF-8, which drops a leading byte order mark. -/
def decode (bytes : ByteArray) : Option String :=
  (String.fromUTF8? bytes).map fun text =>
    match text.toList with
    | '\uFEFF' :: rest => String.ofList rest
    | _ => text

/-- The file after bytes have been written from offset 0. -/
def overlay (bytes content : ByteArray) : ByteArray :=
  bytes ++ content.extract bytes.size content.size

def showText (text : String) (_ : TextFields) : Except Thrown TextFields := .ok ⟨some text⟩

/-- One call up to its next await. -/
def advance (s : TextStorage) : FileTask → TextStorage × List FileTask
  | .readFetchFile => (s, [.readAsString])
  | .readAsString => (s, (s.file.bind decode).toList.map .readDone)
  | .readDone text => ({ s with widget := (s.widget.setState (showText text)).1 }, [])
  | .writeFetchFile text => (s, [.openTruncated text])
  | .openTruncated text => ({ s with file := some .empty }, [.writeFrom text])
  | .writeFrom text =>
      ({ s with file := s.file.map (overlay text.toUTF8) }, [.closeFile])
  | .closeFile => (s, [])

inductive Event where
  | readData
  | writeData (inputData : String)
  | resume (i : Nat)
  | failed (i : Nat)
  | leave
  deriving DecidableEq

def step (s : TextStorage) : Event → Option TextStorage
  | .readData =>
      if s.widget.mounted then some { s with tasks := s.tasks ++ [.readFetchFile] } else none
  | .writeData inputData =>
      if s.widget.mounted then some { s with tasks := s.tasks ++ [.writeFetchFile inputData] }
      else none
  | .resume i =>
      s.tasks[i]?.map fun task =>
        let (next, started) := s.advance task
        { next with tasks := TaskPool.resume s.tasks i started }
  | .failed i => s.tasks[i]?.map fun _ => { s with tasks := TaskPool.resume s.tasks i [] }
  | .leave => if s.widget.mounted then some { s with widget := s.widget.dispose } else none

inductive Stepped (s : TextStorage) : Event → TextStorage → Prop
  | readData : s.widget.mounted = true →
      Stepped s .readData { s with tasks := s.tasks ++ [.readFetchFile] }
  | writeData {inputData : String} : s.widget.mounted = true →
      Stepped s (.writeData inputData) { s with tasks := s.tasks ++ [.writeFetchFile inputData] }
  | resume {i : Nat} {task : FileTask} : s.tasks[i]? = some task →
      Stepped s (.resume i) { (s.advance task).1 with
        tasks := TaskPool.resume s.tasks i (s.advance task).2 }
  | failed {i : Nat} {task : FileTask} : s.tasks[i]? = some task →
      Stepped s (.failed i) { s with tasks := TaskPool.resume s.tasks i [] }
  | leave : s.widget.mounted = true → Stepped s .leave { s with widget := s.widget.dispose }

theorem stepped {s t : TextStorage} {e : Event} (h : step s e = some t) : Stepped s e t := by
  cases e with
  | readData =>
      simp only [step] at h
      split at h
      · rename_i hmounted
        cases h
        exact .readData hmounted
      · cases h
  | writeData inputData =>
      simp only [step] at h
      split at h
      · rename_i hmounted
        cases h
        exact .writeData hmounted
      · cases h
  | resume i =>
      obtain ⟨task, htask, rfl⟩ := Option.map_eq_some_iff.mp h
      exact .resume htask
  | failed i =>
      obtain ⟨task, htask, rfl⟩ := Option.map_eq_some_iff.mp h
      exact .failed htask
  | leave =>
      simp only [step] at h
      split at h
      · rename_i hmounted
        cases h
        exact .leave hmounted
      · cases h

end TextStorage

end FlutterApp
