import FlutterApp.Requests.RequestsExample

/-!
The rows of the list and the dialog that a tap on a row opens. A row interpolates the
values of the list that was built; a tap looks its position up again in the list that is
stored by then, and passes the title on as it is.
-/

namespace FlutterApp
namespace Requests

/-- The texts of a row. -/
structure Row where
  title : String
  subtitle : String

/-- The element of data at a position. -/
def dataAt (data : Option (List Dynamic)) (position : Nat) : Except Thrown Dynamic :=
  match data with
  | none => .error .noSuchMethodError
  | some items =>
      match items[position]? with
      | none => .error .rangeError
      | some item => .ok item

def itemBuilder (doubleText : UInt64 → String) (data : Option (List Dynamic)) (position : Nat) :
    Except Thrown Row :=
  if data.isNone then .ok ⟨"", ""⟩
  else do
    let title ← (← dataAt data position).subscript "title"
    let body ← (← dataAt data position).subscript "body"
    return ⟨title.toText doubleText, body.toText doubleText⟩

/-- The constructor of Text, whose assertion refuses null. -/
def newText (data : Dynamic) : Except Thrown String := do
  match ← data.asString with
  | none => .error .assertionError
  | some text => .ok text

/-- The title of the dialog. -/
def handleListTap (data : Option (List Dynamic)) (position : Nat) : Except Thrown String := do
  let title ← (← dataAt data position).subscript "title"
  newText title

/-- What happens on the screen, and the taps on rows of the last frame. -/
inductive Action where
  | event (e : Event)
  | tap (position : Nat)
  deriving DecidableEq

def act (decode : String → Except Thrown Dynamic) (s : Requests) : Action → Option Requests
  | .event e => step decode s e
  | .tap position =>
      if s.widget.mounted = true ∧ position < s.widget.fields.frame.length then some s else none

theorem dataAt_eq_ok {data : Option (List Dynamic)} {position : Nat} {item : Dynamic} :
    dataAt data position = .ok item ↔
      ∃ items, data = some items ∧ items[position]? = some item := by
  cases data with
  | none => simp [dataAt]
  | some items =>
      cases hitem : items[position]? with
      | none => simp [dataAt, hitem]
      | some item' => simp [dataAt, hitem]

theorem newText_eq_ok {data : Dynamic} {text : String} :
    newText data = .ok text ↔ data = .str text := by
  cases data with
  | str value => simp [newText, Dynamic.asString, bind, Except.bind]
  | null | bool _ | int _ | double _ | list _ | map _ | object _ | indexed _ _ =>
      simp [newText, Dynamic.asString, bind, Except.bind]

theorem newText_ofString (text : Option String) :
    newText (.ofString text) = match text with
      | none => .error .assertionError
      | some text => .ok text := by
  cases text <;> rfl

theorem handleListTap_eq_ok {data : Option (List Dynamic)} {position : Nat} {text : String} :
    handleListTap data position = .ok text ↔
      ∃ item, dataAt data position = .ok item ∧ item.subscript "title" = .ok (.str text) := by
  simp only [handleListTap, bind_eq_ok, newText_eq_ok, exists_eq_right]

theorem itemBuilder_eq_ok {doubleText : UInt64 → String} {items : List Dynamic} {position : Nat}
    {row : Row} : itemBuilder doubleText (some items) position = .ok row ↔
      ∃ item title body, items[position]? = some item ∧ item.subscript "title" = .ok title ∧
        item.subscript "body" = .ok body ∧
        row = ⟨title.toText doubleText, body.toText doubleText⟩ := by
  simp only [itemBuilder, Option.isNone_some, Bool.false_eq_true, if_false, bind_eq_ok,
    dataAt_eq_ok, Option.some.injEq]
  constructor
  · intro h
    obtain ⟨item, ⟨_, rfl, hitem⟩, title, htitle, item', ⟨_, rfl, hitem'⟩, body, hbody, hrow⟩ := h
    obtain rfl : item = item' := Option.some.inj (hitem.symm.trans hitem')
    exact ⟨item, title, body, hitem, htitle, hbody, (Except.ok.inj hrow).symm⟩
  · intro h
    obtain ⟨item, title, body, hitem, htitle, hbody, rfl⟩ := h
    exact ⟨item, ⟨_, rfl, hitem⟩, title, htitle, item, ⟨_, rfl, hitem⟩, body, hbody, rfl⟩

section Taps
variable (doubleText : UInt64 → String)

/-- A tap on a row that was rendered opens a dialog with the title of the row. -/
def TapShowsRow (s : Requests) : Action → Prop
  | .event _ => True
  | .tap position => ∀ row, s.widget.mounted = true →
      itemBuilder doubleText (some s.widget.fields.frame) position = .ok row →
      handleListTap s.widget.fields.data position = .ok row.title

theorem tapShowsRow_tap_iff (s : Requests) (position : Nat) :
    TapShowsRow doubleText s (.tap position) ↔
      ∀ rendered title body, s.widget.mounted = true →
        s.widget.fields.frame[position]? = some rendered →
        rendered.subscript "title" = .ok title → rendered.subscript "body" = .ok body →
        ∃ items item, s.widget.fields.data = some items ∧ items[position]? = some item ∧
          item.subscript "title" = .ok (.str (title.toText doubleText)) := by
  simp only [TapShowsRow, itemBuilder_eq_ok, handleListTap_eq_ok, dataAt_eq_ok]
  constructor
  · intro h rendered title body hmounted hrendered htitle hbody
    obtain ⟨item, ⟨items, hdata, hitem⟩, hstr⟩ := h _ hmounted
      ⟨rendered, title, body, hrendered, htitle, hbody, rfl⟩
    exact ⟨items, item, hdata, hitem, hstr⟩
  · intro h row hmounted hrow
    obtain ⟨rendered, title, body, hrendered, htitle, hbody, rfl⟩ := hrow
    obtain ⟨items, item, hdata, hitem, hstr⟩ := h rendered title body hmounted hrendered htitle
      hbody
    exact ⟨item, ⟨items, hdata, hitem⟩, hstr⟩

/-- What the answers since the last build of a run have stored, in the order of their arrival. -/
def storedSinceBuild (decode : String → Except Thrown Dynamic) (acts : List Action) :
    List (Option (List Dynamic)) :=
  acts.foldl (fun lists a => match a with
    | .event .build => []
    | .event (.answer _ answer) => lists ++ (stored decode answer).toList
    | _ => lists) []

/-- The row that is tapped has a title that is a string; or, when an answer has stored a list
since the row was built, the last such list has at the row's position a title that is a
string, and the text of the row. -/
def TitleStands (decode : String → Except Thrown Dynamic) (before : List Action) (s : Requests) :
    Action → Prop
  | .event _ => True
  | .tap position => ∀ rendered title body, s.widget.mounted = true →
      s.widget.fields.frame[position]? = some rendered →
      rendered.subscript "title" = .ok title → rendered.subscript "body" = .ok body →
      match (storedSinceBuild decode before).getLast? with
      | none => ∃ text, title = .str text
      | some data => ∃ items item, data = some items ∧ items[position]? = some item ∧
          item.subscript "title" = .ok (.str (title.toText doubleText))

/-- A screen on display whose last build is followed by these stored values: the last of them
is the list, and the list is the one of the frame when there are none. -/
def SinceBuild (s : Requests) (lists : List (Option (List Dynamic))) : Prop :=
  match lists.getLast? with
  | none => s.widget.fields.frame = s.widget.fields.data.getD []
  | some data => s.widget.fields.data = data

theorem sinceBuild_stored {decode : String → Except Thrown Dynamic} {s t : Requests}
    {lists : List (Option (List Dynamic))} (hs : SinceBuild s lists) (answer : Answer)
    (hdata : t.widget.fields.data = (stored decode answer).getD s.widget.fields.data)
    (hframe : t.widget.fields.frame = s.widget.fields.frame) :
    SinceBuild t (lists ++ (stored decode answer).toList) := by
  cases hstored : stored decode answer with
  | none =>
      rw [hstored, Option.getD_none] at hdata
      rw [Option.toList_none, List.append_nil, SinceBuild, hdata, hframe]
      exact hs
  | some data =>
      rw [hstored, Option.getD_some] at hdata
      simpa [SinceBuild] using hdata

theorem getData_frame (decode : String → Except Thrown Dynamic) (w : StateObject RequestsFields)
    (answer : Answer) : (getData decode w answer).1.fields.frame = w.fields.frame := by
  cases answer with
  | failed _ => rfl
  | response statusCode body =>
      simp only [getData]
      split
      · refine StateObject.setState_keeps
          (P := fun fields : RequestsFields => fields.frame = w.fields.frame) rfl ?_
        intro fields hfields
        cases storeData_eq decode body w.fields with
        | inl hok =>
            obtain ⟨data, -, hstore⟩ := hok
            rw [hstore] at hfields
            cases hfields
            rfl
        | inr hthrown =>
            obtain ⟨-, e, herror⟩ := hthrown
            rw [herror] at hfields
            cases hfields
      · rfl

theorem sinceBuild_act {decode : String → Except Thrown Dynamic} {s t : Requests} {a : Action}
    {before : List Action}
    (hs : s.widget.mounted = true → SinceBuild s (storedSinceBuild decode before))
    (h : act decode s a = some t) (hmounted : t.widget.mounted = true) :
    SinceBuild t (storedSinceBuild decode (before ++ [a])) := by
  rw [storedSinceBuild, List.foldl_append]
  cases a with
  | tap position =>
      simp only [act] at h
      split at h
      · cases h
        exact hs hmounted
      · cases h
  | event e =>
      cases stepped h with
      | build _ => rfl
      | listData _ => exact hs hmounted
      | leave _ => cases hmounted
      | answer _ =>
          rename_i request answer _
          rw [getData_mounted] at hmounted
          exact sinceBuild_stored (hs hmounted) answer (getData_data decode hmounted answer)
            (getData_frame decode _ answer)

theorem sinceBuild_run {decode : String → Except Thrown Dynamic} {s : Requests}
    {acts : List Action} (h : EventSystem.run (act decode) initial acts = some s)
    (hmounted : s.widget.mounted = true) : SinceBuild s (storedSinceBuild decode acts) := by
  refine EventSystem.run_induction (motive := fun acts s => s.widget.mounted = true →
    SinceBuild s (storedSinceBuild decode acts)) ?_ ?_ h hmounted
  · intro _
    rfl
  · intro before mid a t _ ih hact
    exact sinceBuild_act ih hact

/-- As long as no list has been stored since the frame was built, a tap shows its row exactly
when the row's own title is a string. -/
theorem tap_after_build_iff {decode : String → Except Thrown Dynamic} {s : Requests}
    {acts : List Action} (h : EventSystem.run (act decode) initial acts = some s)
    (hnone : storedSinceBuild decode acts = []) (position : Nat) :
    TapShowsRow doubleText s (.tap position) ↔
      ∀ rendered title body, s.widget.mounted = true →
        s.widget.fields.frame[position]? = some rendered →
        rendered.subscript "title" = .ok title → rendered.subscript "body" = .ok body →
        ∃ text, title = .str text := by
  rw [tapShowsRow_tap_iff]
  refine forall₃_congr fun rendered title body =>
    forall₄_congr fun hmounted hrendered htitle _ => ?_
  have hcurrent := sinceBuild_run h hmounted
  rw [hnone] at hcurrent
  rw [show s.widget.fields.frame = s.widget.fields.data.getD [] from hcurrent] at hrendered
  constructor
  · intro h
    obtain ⟨items, item, hdata, hitem, hstr⟩ := h
    rw [hdata, Option.getD_some] at hrendered
    obtain rfl : item = rendered := Option.some.inj (hitem.symm.trans hrendered)
    exact ⟨_, Except.ok.inj (htitle.symm.trans hstr)⟩
  · intro h
    obtain ⟨text, rfl⟩ := h
    cases hdata : s.widget.fields.data with
    | none => simp [hdata] at hrendered
    | some items =>
        rw [hdata, Option.getD_some] at hrendered
        exact ⟨items, rendered, rfl, hrendered, htitle⟩

theorem tapShowsRow_iff {decode : String → Except Thrown Dynamic} {s : Requests}
    {before : List Action} (h : EventSystem.run (act decode) initial before = some s)
    (a : Action) : TapShowsRow doubleText s a ↔ TitleStands doubleText decode before s a := by
  cases a with
  | event _ => exact Iff.rfl
  | tap position =>
      simp only [TitleStands]
      cases hlast : (storedSinceBuild decode before).getLast? with
      | none => exact tap_after_build_iff doubleText h (List.getLast?_eq_none_iff.mp hlast) position
      | some data =>
          rw [tapShowsRow_tap_iff]
          refine forall₃_congr fun rendered title body => forall₄_congr fun hmounted _ _ _ => ?_
          have hdata := sinceBuild_run h hmounted
          simp only [SinceBuild, hlast] at hdata
          rw [hdata]

/-- In every run, each tap on a row shows the title of the row exactly when the row's title is
a string and no list has been stored since it was built, or the last list that has been stored
has the text of the row as the title at its position. -/
theorem taps_show_rows_iff (decode : String → Except Thrown Dynamic) (acts : List Action) :
    EventSystem.StepsMeet (act decode) (TapShowsRow doubleText) initial acts ↔
      EventSystem.EachMeets (act decode) (TitleStands doubleText decode) initial acts := by
  rw [EventSystem.stepsMeet_iff_eachMeets]
  exact EventSystem.eachMeets_congr (fun _ _ e h => tapShowsRow_iff doubleText h e) acts

end Taps

/-- What json.decode yields for three texts; any other text is malformed here. -/
def decodeTitles (body : String) : Except Thrown Dynamic :=
  if body = "[\x7b\"title\": 7\x7d]" then .ok (.list [.map [(.str "title", .int 7)]])
  else if body = "[\x7b\"title\": \"old\"\x7d]" then
    .ok (.list [.map [(.str "title", .str "old")]])
  else if body = "[\x7b\"title\": \"new\"\x7d]" then
    .ok (.list [.map [(.str "title", .str "new")]])
  else .error .formatException

/-- The row shows a number. -/
def numberTapped : List Action :=
  [.event .listData, .event (.answer 0 (.response 200 "[\x7b\"title\": 7\x7d]")), .event .build,
    .tap 0]

/-- The list is replaced between the frame and the tap. -/
def replacedTapped : List Action :=
  [.event .listData, .event .listData,
    .event (.answer 0 (.response 200 "[\x7b\"title\": \"old\"\x7d]")), .event .build,
    .event (.answer 1 (.response 200 "[\x7b\"title\": \"new\"\x7d]")), .tap 0]

theorem taps_miss_rows :
    ¬ EventSystem.StepsMeet (act decodeTitles) (TapShowsRow fun _ => "") initial numberTapped ∧
    ¬ EventSystem.StepsMeet (act decodeTitles) (TapShowsRow fun _ => "") initial
      replacedTapped := by
  refine ⟨?_, ?_⟩
  · intro h
    have hrun : EventSystem.run (act decodeTitles) initial numberTapped.dropLast = some _ := rfl
    have htap := ((EventSystem.stepsMeet_snoc (Action.tap 0) hrun).mp h).2 _ rfl rfl
    cases htap
  · intro h
    have hrun : EventSystem.run (act decodeTitles) initial replacedTapped.dropLast = some _ := rfl
    have htap : Except.ok "new" = Except.ok "old" :=
      ((EventSystem.stepsMeet_snoc (Action.tap 0) hrun).mp h).2 _ rfl rfl
    exact absurd (Except.ok.inj htap) (by decide)

end Requests

end FlutterApp
