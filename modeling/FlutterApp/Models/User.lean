import FlutterApp.Dart

/-!
The user record of models/user.dart with its encoder and its two decoders. The
encoder writes the id under "_id", which is the name of the table's column. Both
decoders read it under "id".
-/

namespace FlutterApp

structure User where
  username : Option String
  password : Option String
  id : Option Int
  deriving DecidableEq, Repr

namespace User

/-- The constructor User(username, password). -/
def new (username password : Option String) : User := ⟨username, password, none⟩

/-- The three assignments of both decoders, one after the other. An assignment that
throws leaves the fields assigned before it. -/
def assign (subscript : String → Except Thrown Dynamic) : User × Option Thrown :=
  match subscript "username" >>= Dynamic.asString with
  | .error e => (⟨none, none, none⟩, some e)
  | .ok username =>
      match subscript "password" >>= Dynamic.asString with
      | .error e => (⟨username, none, none⟩, some e)
      | .ok password =>
          match subscript "id" >>= Dynamic.asInt with
          | .error e => (⟨username, password, none⟩, some e)
          | .ok id => (⟨username, password, id⟩, none)

/-- A constructor body inside try and catch, whose handler prints what it caught. -/
def guarded : User × Option Thrown → Except Thrown User
  | (user, none) => .ok user
  | (user, some e) => (debugPrint e).map fun _ => user

/-- The constructor User.map. -/
def map (obj : Dynamic) : Except Thrown User :=
  guarded (assign fun key => obj.subscript key)

/-- The constructor User.fromMap. -/
def fromMap (m : StringMap) : Except Thrown User :=
  guarded (assign fun key => .ok (StringMap.get m key))

def toMap (user : User) : StringMap :=
  let map : StringMap := []
  let map := StringMap.put map "username" (.ofString user.username)
  let map := StringMap.put map "password" (.ofString user.password)
  StringMap.put map "_id" (.ofInt user.id)

theorem toMap_eq (user : User) :
    user.toMap = [("username", .ofString user.username), ("password", .ofString user.password),
      ("_id", .ofInt user.id)] := by
  rfl

/-- What User.fromMap makes of a map whose three entries have the right types. -/
theorem fromMap_of_typed {m : StringMap} {username password : Option String} (id : Option Int)
    (husername : StringMap.get m "username" = .ofString username)
    (hpassword : StringMap.get m "password" = .ofString password)
    (hid : StringMap.get m "id" = .ofInt id) :
    fromMap m = .ok ⟨username, password, id⟩ := by
  simp [fromMap, assign, husername, hpassword, hid, guarded, bind, Except.bind]

/-- The read of a key throws a string, which is all that the handler can print. -/
def ThrowsString (read : Except Thrown Dynamic) : Prop :=
  ∃ message, read = .error (.str message)

/-- In the order of the assignments, each key gives null or a value of its type, up to the
first whose read throws a string. -/
def ReadsTyped (subscript : String → Except Thrown Dynamic) : Prop :=
  ThrowsString (subscript "username") ∨ (∃ s, subscript "username" = .ok (.ofString s)) ∧
    (ThrowsString (subscript "password") ∨ (∃ s, subscript "password" = .ok (.ofString s)) ∧
      (ThrowsString (subscript "id") ∨ ∃ n, subscript "id" = .ok (.ofInt n)))

/-- A user is returned, each of whose fields is null or the value found under its key. -/
def ReturnsTyped (subscript : String → Except Thrown Dynamic) (result : Except Thrown User) :
    Prop :=
  ∃ user, result = .ok user ∧
    (user.username = none ∨ subscript "username" = .ok (.ofString user.username)) ∧
    (user.password = none ∨ subscript "password" = .ok (.ofString user.password)) ∧
    (user.id = none ∨ subscript "id" = .ok (.ofInt user.id))

/-- What the assignment of a value read under a key comes to. -/
inductive Assigned {α : Type} (as : Dynamic → Except Thrown α) (of : α → Dynamic)
    (read : Except Thrown Dynamic) : Prop
  | typed (a : α) : read = .ok (of a) → read >>= as = .ok a → Assigned as of read
  | printed (message : String) : read = .error (.str message) →
      read >>= as = .error (.str message) → Assigned as of read
  | refused (e : Thrown) : (∀ message, e ≠ .str message) → read >>= as = .error e →
      ¬ ThrowsString read → (¬ ∃ a, read = .ok (of a)) → Assigned as of read

theorem assigned {α : Type} {as : Dynamic → Except Thrown α} {of : α → Dynamic}
    (has : ∀ d a, as d = .ok a ↔ d = of a) (herror : ∀ d e, as d = .error e → e = .typeError)
    (read : Except Thrown Dynamic) : Assigned as of read := by
  cases read with
  | error e =>
      cases e with
      | str message => exact .printed message rfl rfl
      | typeError | noSuchMethodError | stateError | rangeError | formatException
      | assertionError | flutterError =>
          refine .refused _ ?_ rfl ?_ ?_ <;> simp [ThrowsString]
  | ok d =>
      cases h : as d with
      | ok a => exact .typed a (congrArg _ ((has d a).mp h)) h
      | error e =>
          obtain rfl := herror d e h
          refine .refused _ (by simp) h (by simp [ThrowsString]) ?_
          intro htyped
          obtain ⟨a, ha⟩ := htyped
          rw [(has d a).mpr (Except.ok.inj ha)] at h
          cases h

theorem assigned_string (read : Except Thrown Dynamic) :
    Assigned Dynamic.asString .ofString read :=
  assigned (fun _ _ => Dynamic.asString_eq_ok) (fun _ _ => Dynamic.asString_error) read

theorem assigned_int (read : Except Thrown Dynamic) : Assigned Dynamic.asInt .ofInt read :=
  assigned (fun _ _ => Dynamic.asInt_eq_ok) (fun _ _ => Dynamic.asInt_error) read

/-- The handler prints only strings, so anything else it catches ends in its own error. -/
theorem not_returnsTyped_of_caught {subscript : String → Except Thrown Dynamic} {user : User}
    {e : Thrown} (h : ∀ message, e ≠ .str message) :
    ¬ ReturnsTyped subscript (guarded (user, some e)) := by
  intro hreturns
  obtain ⟨returned, hok, -⟩ := hreturns
  cases e with
  | str message => exact h message rfl
  | typeError | noSuchMethodError | stateError | rangeError | formatException | assertionError
  | flutterError => cases hok

theorem reads_on_iff {α : Type} {of : α → Dynamic} {read : Except Thrown Dynamic} {a : α}
    (h : read = .ok (of a)) (rest : Prop) :
    (ThrowsString read ∨ (∃ a, read = .ok (of a)) ∧ rest) ↔ rest := by
  have hread : ¬ ThrowsString read := by simp [ThrowsString, h]
  constructor
  · intro hreads
    exact (hreads.resolve_left hread).2
  · intro hrest
    exact Or.inr ⟨⟨a, h⟩, hrest⟩

/-- One case for each assignment that can be the first to throw, and one for none. -/
theorem returnsTyped_iff (subscript : String → Except Thrown Dynamic) :
    ReturnsTyped subscript (guarded (assign subscript)) ↔ ReadsTyped subscript := by
  simp only [assign, ReadsTyped]
  cases assigned_string (subscript "username") with
  | printed message hread hassign =>
      rw [hassign]
      exact iff_of_true ⟨_, rfl, Or.inl rfl, Or.inl rfl, Or.inl rfl⟩ (Or.inl ⟨message, hread⟩)
  | refused e hstring hassign hnone huntyped =>
      rw [hassign]
      exact iff_of_false (not_returnsTyped_of_caught hstring)
        fun h => h.elim hnone fun h => huntyped h.1
  | typed username husername hassign =>
      rw [hassign, reads_on_iff husername]
      cases assigned_string (subscript "password") with
      | printed message hread hassign =>
          rw [hassign]
          exact iff_of_true ⟨_, rfl, Or.inr husername, Or.inl rfl, Or.inl rfl⟩
            (Or.inl ⟨message, hread⟩)
      | refused e hstring hassign hnone huntyped =>
          rw [hassign]
          exact iff_of_false (not_returnsTyped_of_caught hstring)
            fun h => h.elim hnone fun h => huntyped h.1
      | typed password hpassword hassign =>
          rw [hassign, reads_on_iff hpassword]
          cases assigned_int (subscript "id") with
          | printed message hread hassign =>
              rw [hassign]
              exact iff_of_true ⟨_, rfl, Or.inr husername, Or.inr hpassword, Or.inl rfl⟩
                (Or.inl ⟨message, hread⟩)
          | refused e hstring hassign hnone huntyped =>
              rw [hassign]
              exact iff_of_false (not_returnsTyped_of_caught hstring)
                fun h => h.elim hnone huntyped
          | typed id hid hassign =>
              rw [hassign]
              exact iff_of_true ⟨_, rfl, Or.inr husername, Or.inr hpassword, Or.inr hid⟩
                (Or.inr ⟨id, hid⟩)

/-- The decoders return a user for exactly the arguments whose keys give null or values of
their types, up to the first that throws a string. For any other the handler throws in its
turn. -/
theorem decoders_return_typed_iff (obj : Dynamic) (m : StringMap) :
    (ReturnsTyped (fun key => obj.subscript key) (User.map obj) ↔
        ReadsTyped fun key => obj.subscript key) ∧
      (ReturnsTyped (fun key => .ok (StringMap.get m key)) (User.fromMap m) ↔
        ReadsTyped fun key => .ok (StringMap.get m key)) :=
  ⟨returnsTyped_iff _, returnsTyped_iff _⟩

theorem null_and_typed_id_thrown :
    ¬ ReturnsTyped (fun key => Dynamic.null.subscript key) (User.map .null) ∧
      ¬ ReturnsTyped (fun key => .ok (StringMap.get [("id", .str "7")] key))
        (User.fromMap [("id", .str "7")]) := by
  refine ⟨?_, ?_⟩
  · intro h
    obtain ⟨user, hok, -⟩ := h
    cases hok
  · intro h
    obtain ⟨user, hok, -⟩ := h
    cases hok

end User

end FlutterApp
