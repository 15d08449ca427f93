import FlutterApp.Flutter
import FlutterApp.Library.EventSystem

/-!
The screen RequestsWidget: overlapping requests and the list they store.

Every answer that carries a list is stored as it arrives. The decoder of JSON texts is
a parameter; what it yields is assigned to a variable of type List, so a JSON null is
stored as well and any other value is refused.
-/

namespace FlutterApp

structure RequestsFields where
  data : Option (List Dynamic)
  /-- The rows that the last build rendered. -/
  frame : List Dynamic

/-- How the future of http.get completes. -/
inductive Answer where
  | failed (error : Thrown)
  | response (statusCode : Int) (body : String)
  deriving DecidableEq

/-- Requests are numbered in the order in which they were issued. -/
structure Requests where
  widget : StateObject RequestsFields
  issued : Nat
  outstanding : List Nat

namespace Requests

def initial : Requests := ⟨.initState ⟨none, []⟩, 0, []⟩

/-- The callback of setState: data = json.decode(body). -/
def storeData (decode : String → Except Thrown Dynamic) (body : String)
    (fields : RequestsFields) : Except Thrown RequestsFields := do
  let decoded ← decode body
  let data ← decoded.asList
  return { fields with data := data }

/-- The two then callbacks after http.get. -/
def getData (decode : String → Except Thrown Dynamic) (w : StateObject RequestsFields) :
    Answer → StateObject RequestsFields × Except Thrown Unit
  | .failed error => (w, .error error)
  | .response statusCode body =>
      if statusCode = 200 then w.setState (storeData decode body)
      else (w, .error (.str "Error when getting data"))

inductive Event where
  | listData
  | answer (request : Nat) (answer : Answer)
  | build
  | leave
  deriving DecidableEq

def step (decode : String → Except Thrown Dynamic) (s : Requests) : Event → Option Requests
  | .listData =>
      if s.widget.mounted then
        some { s with issued := s.issued + 1, outstanding := s.outstanding ++ [s.issued] }
      else none
  | .answer request answer =>
      if request ∈ s.outstanding then
        some { s with
          widget := (getData decode s.widget answer).1
          outstanding := s.outstanding.erase request }
      else none
  | .build =>
      if s.widget.mounted then
        some { s with widget := { s.widget with
          fields := { s.widget.fields with frame := s.widget.fields.data.getD [] } } }
      else none
  | .leave => if s.widget.mounted then some { s with widget := s.widget.dispose } else none

inductive Stepped (decode : String → Except Thrown Dynamic) (s : Requests) :
    Event → Requests → Prop
  | listData : s.widget.mounted = true → Stepped decode s .listData
      { s with issued := s.issued + 1, outstanding := s.outstanding ++ [s.issued] }
  | answer {request : Nat} {answer : Answer} : request ∈ s.outstanding →
      Stepped decode s (.answer request answer) { s with
        widget := (getData decode s.widget answer).1
        outstanding := s.outstanding.erase request }
  | build : s.widget.mounted = true → Stepped decode s .build { s with widget := { s.widget with
      fields := { s.widget.fields with frame := s.widget.fields.data.getD [] } } }
  | leave : s.widget.mounted = true →
      Stepped decode s .leave { s with widget := s.widget.dispose }

theorem stepped {decode : String → Except Thrown Dynamic} {s t : Requests} {e : Event}
    (h : step decode s e = some t) : Stepped decode s e t := by
  cases e with
  | listData =>
      simp only [step] at h
      split at h
      · rename_i hmounted
        cases h
        exact .listData hmounted
      · cases h
  | answer request answer =>
      simp only [step] at h
      split at h
      · rename_i houtstanding
        cases h
        exact .answer houtstanding
      · cases h
  | build =>
      simp only [step] at h
      split at h
      · rename_i hmounted
        cases h
        exact .build hmounted
      · cases h
  | leave =>
      simp only [step] at h
      split at h
      · rename_i hmounted
        cases h
        exact .leave hmounted
      · cases h

/-- A 200 response with a JSON list or a JSON null is stored; no other answer is. -/
def stored (decode : String → Except Thrown Dynamic) : Answer → Option (Option (List Dynamic))
  | .failed _ => none
  | .response statusCode body =>
      if statusCode = 200 then
        match decode body with
        | .ok (.list items) => some (some items)
        | .ok .null => some none
        | _ => none
      else none

theorem storeData_eq (decode : String → Except Thrown Dynamic) (body : String)
    (fields : RequestsFields) :
    (∃ data, stored decode (.response 200 body) = some data ∧
        storeData decode body fields = .ok { fields with data := data }) ∨
      stored decode (.response 200 body) = none ∧
        ∃ e, storeData decode body fields = .error e := by
  simp only [stored, storeData, if_true]
  cases decode body with
  | error e => exact Or.inr ⟨rfl, e, rfl⟩
  | ok decoded =>
      cases decoded with
      | list items => exact Or.inl ⟨some items, rfl, rfl⟩
      | null => exact Or.inl ⟨none, rfl, rfl⟩
      | bool _ | int _ | double _ | str _ | map _ | object _ | indexed _ _ =>
          exact Or.inr ⟨rfl, _, rfl⟩

theorem getData_mounted (decode : String → Except Thrown Dynamic) (w : StateObject RequestsFields)
    (answer : Answer) : (getData decode w answer).1.mounted = w.mounted := by
  cases answer with
  | failed _ => rfl
  | response statusCode body =>
      simp only [getData]
      split
      · exact StateObject.setState_mounted w _
      · rfl

/-- On a mounted screen an answer is stored or leaves data as it was. -/
theorem getData_data (decode : String → Except Thrown Dynamic) {w : StateObject RequestsFields}
    (hmounted : w.mounted = true) (answer : Answer) :
    (getData decode w answer).1.fields.data = (stored decode answer).getD w.fields.data := by
  cases answer with
  | failed _ => rfl
  | response statusCode body =>
      by_cases hstatus : statusCode = 200
      · subst hstatus
        simp only [getData, if_true]
        cases storeData_eq decode body w.fields with
        | inl hok =>
            obtain ⟨data, hstored, hstore⟩ := hok
            rw [StateObject.setState_of_mounted hmounted hstore, hstored, Option.getD_some]
        | inr hthrown =>
            obtain ⟨hstored, e, herror⟩ := hthrown
            rw [StateObject.setState_fields_of_error herror, hstored, Option.getD_none]
      · simp only [getData, stored, hstatus, if_false, Option.getD_none]

/-- The answers of a run that were stored, in the order of their arrival. -/
def storedAnswers (decode : String → Except Thrown Dynamic) (es : List Event) :
    List (Nat × Option (List Dynamic)) :=
  es.filterMap fun
    | .answer request answer => (stored decode answer).map fun data => (request, data)
    | _ => none

theorem storedAnswers_snoc (decode : String → Except Thrown Dynamic) (es : List Event)
    (e : Event) :
    storedAnswers decode (es ++ [e]) = storedAnswers decode es ++ storedAnswers decode [e] :=
  List.filterMap_append

theorem data_latest_answer {decode : String → Except Thrown Dynamic} {s : Requests}
    {es : List Event} (h : EventSystem.run (step decode) initial es = some s)
    (hmounted : s.widget.mounted = true) :
    s.widget.fields.data = ((storedAnswers decode es).getLast?.map Prod.snd).getD none := by
  refine EventSystem.run_induction (motive := fun es s => s.widget.mounted = true →
    s.widget.fields.data = ((storedAnswers decode es).getLast?.map Prod.snd).getD none)
    (fun _ => rfl) ?_ h hmounted
  intro es mid e t _ ih hstep hm
  rw [storedAnswers_snoc]
  cases stepped hstep with
  | listData _ | build _ => simpa [storedAnswers] using ih hm
  | leave _ => cases hm
  | answer houtstanding =>
      rename_i request answer
      rw [getData_mounted] at hm
      rw [getData_data decode hm, ih hm]
      cases hstored : stored decode answer with
      | none => simp [storedAnswers, hstored]
      | some data => simp [storedAnswers, hstored]

/-- The list is the one of the most recently issued request among those whose lists have
been stored, and null when there is none. -/
def ShowsNewest (answers : List (Nat × Option (List Dynamic)))
    (data : Option (List Dynamic)) : Prop :=
  (data = none ∧ ∀ request items, (request, some items) ∉ answers) ∨
    ∃ request items, data = some items ∧ (request, some items) ∈ answers ∧
      ∀ request' items', (request', some items') ∈ answers → request' ≤ request

theorem showsNewest_of_ordered {answers : List (Nat × Option (List Dynamic))}
    (hordered : answers.Pairwise fun earlier later => earlier.1 < later.1)
    (hlists : ∀ answer ∈ answers, answer.2 ≠ none) :
    ShowsNewest answers ((answers.getLast?.map Prod.snd).getD none) := by
  cases List.eq_nil_or_concat answers with
  | inl hnil =>
      subst hnil
      exact Or.inl ⟨rfl, fun _ _ => List.not_mem_nil⟩
  | inr hconcat =>
      obtain ⟨front, ⟨request, data⟩, hlast⟩ := hconcat
      rw [List.concat_eq_append] at hlast
      subst hlast
      obtain ⟨items, rfl⟩ := Option.ne_none_iff_exists'.mp
        (hlists (request, data) (List.mem_append_right _ (List.mem_singleton_self _)))
      refine Or.inr ⟨request, items, by simp, by simp, ?_⟩
      intro request' items' hmem
      cases List.mem_append.mp hmem with
      | inl hfront =>
          exact Nat.le_of_lt ((List.pairwise_append.mp hordered).2.2 _ hfront _
            (List.mem_singleton_self _))
      | inr hthis => exact Nat.le_of_eq (Prod.mk.inj (List.mem_singleton.mp hthis)).1

/-- In every run with the screen on display, data is the value of the last stored answer;
when answers arrive in the order of their requests and none is a JSON null, it is the
list of the most recently issued request among them. -/
theorem data_of_stored_answers (decode : String → Except Thrown Dynamic) (es : List Event)
    (s : Requests) (h : EventSystem.run (step decode) initial es = some s)
    (hmounted : s.widget.mounted = true) :
    s.widget.fields.data = ((storedAnswers decode es).getLast?.map Prod.snd).getD none ∧
      ((storedAnswers decode es).Pairwise (fun earlier later => earlier.1 < later.1) →
        (∀ answer ∈ storedAnswers decode es, answer.2 ≠ none) →
        ShowsNewest (storedAnswers decode es) s.widget.fields.data) := by
  have hdata := data_latest_answer h hmounted
  refine ⟨hdata, ?_⟩
  intro hordered hlists
  rw [hdata]
  exact showsNewest_of_ordered hordered hlists

/-- What json.decode yields for three texts; any other text is malformed here. -/
def decodeThree (body : String) : Except Thrown Dynamic :=
  if body = "null" then .ok .null
  else if body = "[1]" then .ok (.list [.int 1])
  else if body = "[2]" then .ok (.list [.int 2])
  else .error .formatException

/-- Two requests, answered in their order. -/
def inOrder : List Event :=
  [.listData, .listData, .answer 0 (.response 200 "[1]"), .answer 1 (.response 200 "[2]")]

theorem data_of_stored_answers_in_order :
    ∃ s, EventSystem.run (step decodeThree) initial inOrder = some s ∧
      s.widget.fields.data = some [.int 2] ∧
      ShowsNewest [(0, some [.int 1]), (1, some [.int 2])] s.widget.fields.data := by
  have h := data_of_stored_answers decodeThree inOrder _ rfl rfl
  have hstored : storedAnswers decodeThree inOrder = [(0, some [.int 1]), (1, some [.int 2])] :=
    rfl
  rw [hstored] at h
  exact ⟨_, rfl, h.1, h.2 (by simp) (by simp)⟩

/-- The answer to the first request arrives after the one to the second. -/
def overtaken : List Event :=
  [.listData, .listData, .answer 1 (.response 200 "[2]"), .answer 0 (.response 200 "[1]")]

/-- The answer to the second request is a JSON null. -/
def nulled : List Event :=
  [.listData, .listData, .answer 0 (.response 200 "[1]"), .answer 1 (.response 200 "null")]

theorem not_showsNewest_of_newer {answers : List (Nat × Option (List Dynamic))}
    (request : Nat) (items : List Dynamic) (hnewer : (request, some items) ∈ answers)
    {data : Option (List Dynamic)} (hdata : ∀ request' items', data = some items' →
      (request', some items') ∈ answers → request' < request) :
    ¬ ShowsNewest answers data := by
  intro h
  cases h with
  | inl hnone => exact hnone.2 request items hnewer
  | inr hshown =>
      obtain ⟨request', items', heq, hmem, hnewest⟩ := hshown
      have hlt := hdata request' items' heq hmem
      have hle := hnewest request items hnewer
      omega

/-- An older answer that arrives last replaces the newer list, and so does a JSON null. -/
theorem older_answer_overwrites :
    (∃ s, EventSystem.run (step decodeThree) initial overtaken = some s ∧
      s.widget.mounted = true ∧
      storedAnswers decodeThree overtaken = [(1, some [.int 2]), (0, some [.int 1])] ∧
      s.widget.fields.data = some [.int 1] ∧
      ¬ ShowsNewest (storedAnswers decodeThree overtaken) s.widget.fields.data) ∧
    ∃ s, EventSystem.run (step decodeThree) initial nulled = some s ∧
      s.widget.mounted = true ∧
      storedAnswers decodeThree nulled = [(0, some [.int 1]), (1, none)] ∧
      s.widget.fields.data = none ∧
      ¬ ShowsNewest (storedAnswers decodeThree nulled) s.widget.fields.data := by
  refine ⟨⟨_, rfl, rfl, rfl, rfl, ?_⟩, ⟨_, rfl, rfl, rfl, rfl, ?_⟩⟩
  · refine not_showsNewest_of_newer 1 [.int 2] List.mem_cons_self ?_
    intro request items heq hmem
    cases heq
    cases List.mem_cons.mp hmem with
    | inl hthis => cases hthis
    | inr hrest =>
        cases List.mem_singleton.mp hrest
        exact Nat.zero_lt_one
  · refine not_showsNewest_of_newer 0 [.int 1] List.mem_cons_self ?_
    intro request items heq
    cases heq

end Requests

end FlutterApp
