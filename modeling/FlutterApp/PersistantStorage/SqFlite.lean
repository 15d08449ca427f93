import FlutterApp.Models.User
import FlutterApp.Library.KeyedTable

/-!
The user table of persistantStorage/sqFlite.dart and the statements of
DatabaseHelper, each as it acts on the table when it runs.

A statement takes and returns maps keyed by column name, so an encoder and a
decoder that disagree on a name show up here as they do in the program. The rule
by which SQLite replaces a NULL integer primary key is a parameter: any rule that
gives an id outside the table.
-/

namespace FlutterApp

/-- A row of "create table dbTable(_id integer primary key, username text, password text)". -/
structure Row where
  id : Int
  username : Option String
  password : Option String
  deriving DecidableEq, Repr

abbrev Table := KeyedTable Row.id

inductive SqlError where
  | noSuchColumn (name : String)
  | datatypeMismatch
  | uniqueConstraint
  deriving DecidableEq, Repr

namespace DatabaseHelper

def columnId : String := "_id"
def user : String := "username"
def password : String := "password"

def columns : List String := [columnId, user, password]

/-- The table that the _onCreate handler makes. -/
def onCreate : Table := .empty

end DatabaseHelper

open DatabaseHelper (columnId columns)

namespace Sql

/-- A query returns each row keyed by column name. -/
def queryRow (row : Row) : StringMap :=
  [(columnId, .int row.id), (DatabaseHelper.user, .ofString row.username),
    (DatabaseHelper.password, .ofString row.password)]

def checkColumns (values : StringMap) : Except SqlError Unit :=
  match values.find? fun entry => entry.1 ∉ columns with
  | some entry => .error (.noSuchColumn entry.1)
  | none => .ok ()

/-- What a text column stores for a bound value. -/
def textValue : Dynamic → Except SqlError (Option String)
  | .null => .ok none
  | .str s => .ok (some s)
  | .int n => .ok (some (toString n))
  | _ => .error .datatypeMismatch

/-- What the integer primary key stores for a bound value, if not a fresh id. -/
def rowIdValue : Dynamic → Except SqlError (Option Int)
  | .null => .ok none
  | .int n => .ok (some n)
  | _ => .error .datatypeMismatch

def insert (supply : KeySupply Int) (values : StringMap) (t : Table) :
    Except SqlError (Int × Table) := do
  checkColumns values
  let id ← rowIdValue (StringMap.get values columnId)
  let username ← textValue (StringMap.get values DatabaseHelper.user)
  let password ← textValue (StringMap.get values DatabaseHelper.password)
  let rowId := id.getD (supply.next t.keys)
  match t.insertRow ⟨rowId, username, password⟩ with
  | some next => .ok (rowId, next)
  | none => .error .uniqueConstraint

/-- The set clause of an update, applied to one selected row: every column named in
the values is overwritten, the primary key included. -/
def assign (values : StringMap) (row : Row) : Except SqlError Row := do
  let id ← match values.lookup columnId with
    | none => .ok (some row.id)
    | some value => rowIdValue value
  let username ← match values.lookup DatabaseHelper.user with
    | none => .ok row.username
    | some value => textValue value
  let password ← match values.lookup DatabaseHelper.password with
    | none => .ok row.password
    | some value => textValue value
  match id with
  | none => .error .datatypeMismatch
  | some id => .ok ⟨id, username, password⟩

/-- An update whose condition is "_id=?" returns the number of rows it selected. -/
def update (values : StringMap) (whereArg : Option Int) (t : Table) :
    Except SqlError (Nat × Table) := do
  checkColumns values
  t.updateWhere (KeyedTable.hasKey Row.id whereArg) (assign values) .uniqueConstraint

def delete (whereArg : Option Int) (t : Table) : Nat × Table :=
  t.deleteWhere (KeyedTable.hasKey Row.id whereArg)

end Sql

namespace DatabaseHelper

def insertUser (supply : KeySupply Int) (user : User) (t : Table) :
    Except SqlError (Int × Table) :=
  Sql.insert supply user.toMap t

def updateUser (user : User) (t : Table) : Except SqlError (Nat × Table) :=
  Sql.update user.toMap user.id t

def deleteUser (id : Option Int) (t : Table) : Nat × Table :=
  Sql.delete id t

def getAllUsers (t : Table) : List StringMap :=
  t.rows.map Sql.queryRow

/-- The first row of "select * from dbTable where _id=id", decoded. -/
def getUser (id : Option Int) (t : Table) : Except Thrown User :=
  match (t.rows.filter (KeyedTable.hasKey Row.id id)).map Sql.queryRow with
  | [] => .error .stateError
  | first :: _ => User.fromMap first

end DatabaseHelper

@[simp] theorem textValue_ofString (s : Option String) :
    Sql.textValue (.ofString s) = .ok s := by
  cases s <;> rfl

@[simp] theorem rowIdValue_ofInt (id : Option Int) : Sql.rowIdValue (.ofInt id) = .ok id := by
  cases id <;> rfl

theorem checkColumns_toMap (u : User) : Sql.checkColumns u.toMap = .ok () := by
  simp [Sql.checkColumns, User.toMap_eq, columns, columnId, DatabaseHelper.user,
    DatabaseHelper.password]

theorem get_toMap_id (u : User) : StringMap.get u.toMap columnId = .ofInt u.id := rfl

theorem insertUser_eq (supply : KeySupply Int) (u : User) (t : Table) :
    DatabaseHelper.insertUser supply u t =
      match t.insertRow ⟨u.id.getD (supply.next t.keys), u.username, u.password⟩ with
      | some next => .ok (u.id.getD (supply.next t.keys), next)
      | none => .error .uniqueConstraint := by
  have husername : StringMap.get u.toMap DatabaseHelper.user = .ofString u.username := rfl
  have hpassword : StringMap.get u.toMap DatabaseHelper.password = .ofString u.password := rfl
  simp only [DatabaseHelper.insertUser, Sql.insert, checkColumns_toMap, get_toMap_id, husername,
    hpassword, textValue_ofString, rowIdValue_ofInt, bind, Except.bind]

theorem assign_toMap (u : User) (row : Row) :
    Sql.assign u.toMap row = match u.id with
      | none => .error .datatypeMismatch
      | some id => .ok ⟨id, u.username, u.password⟩ := by
  have hid : u.toMap.lookup columnId = some (.ofInt u.id) := rfl
  have husername : u.toMap.lookup DatabaseHelper.user = some (.ofString u.username) := rfl
  have hpassword : u.toMap.lookup DatabaseHelper.password = some (.ofString u.password) := rfl
  simp only [Sql.assign, hid, husername, hpassword, textValue_ofString, rowIdValue_ofInt, bind,
    Except.bind]

theorem insertUser_null (supply : KeySupply Int) (u : User) (t : Table) (h : u.id = none) :
    ∃ next, DatabaseHelper.insertUser supply u t = .ok (supply.next t.keys, next) ∧
      t.insertRow ⟨supply.next t.keys, u.username, u.password⟩ = some next := by
  obtain ⟨next, hnext⟩ := KeyedTable.insertRow_of_fresh t
    ⟨supply.next t.keys, u.username, u.password⟩ (supply.fresh t.keys)
  refine ⟨next, ?_, hnext⟩
  simp only [insertUser_eq, h, Option.getD_none, hnext]

/-- The users that a form builds have no id, so inserting one never fails. -/
theorem insertUser_new (supply : KeySupply Int) (username password : Option String) (t : Table) :
    ∃ next, DatabaseHelper.insertUser supply (.new username password) t =
        .ok (supply.next t.keys, next) ∧
      next.rows = t.rows ++ [⟨supply.next t.keys, username, password⟩] := by
  obtain ⟨next, hcall, hrow⟩ := insertUser_null supply (.new username password) t rfl
  exact ⟨next, hcall, KeyedTable.insertRow_rows hrow⟩

theorem insertUser_present (supply : KeySupply Int) (u : User) (t : Table) (k : Int)
    (h : u.id = some k) (hk : k ∈ t.keys) :
    DatabaseHelper.insertUser supply u t = .error .uniqueConstraint := by
  have hnone := (KeyedTable.insertRow_eq_none t ⟨k, u.username, u.password⟩).mpr hk
  simp only [insertUser_eq, h, Option.getD_some, hnone]

theorem insertUser_absent (supply : KeySupply Int) (u : User) (t : Table) (k : Int)
    (h : u.id = some k) (hk : k ∉ t.keys) :
    ∃ next, DatabaseHelper.insertUser supply u t = .ok (k, next) ∧
      t.insertRow ⟨k, u.username, u.password⟩ = some next := by
  obtain ⟨next, hnext⟩ := KeyedTable.insertRow_of_fresh t ⟨k, u.username, u.password⟩ hk
  refine ⟨next, ?_, hnext⟩
  simp only [insertUser_eq, h, Option.getD_some, hnext]

/-- A user without an id updates no row: "_id = NULL" is never true. -/
theorem updateUser_null (u : User) (t : Table) (h : u.id = none) :
    DatabaseHelper.updateUser u t = .ok (0, t) := by
  simp only [DatabaseHelper.updateUser, Sql.update, checkColumns_toMap, h, bind, Except.bind,
    KeyedTable.updateWhere_null]

theorem updateUser_some (u : User) (t : Table) (k : Int) (h : u.id = some k) :
    ∃ next, DatabaseHelper.updateUser u t = .ok (if (t.entry k).isSome then 1 else 0, next) ∧
      next.entry =
        Function.update t.entry k ((t.entry k).map fun _ => ⟨k, u.username, u.password⟩) := by
  obtain ⟨next, hnext, hentry⟩ := KeyedTable.updateWhere_key t k SqlError.uniqueConstraint
    (f := Sql.assign u.toMap) (g := fun _ => ⟨k, u.username, u.password⟩)
    (by intro row; rw [assign_toMap, h]) (fun _ => rfl)
  refine ⟨next, ?_, hentry⟩
  simpa only [DatabaseHelper.updateUser, Sql.update, checkColumns_toMap, h, bind, Except.bind]
    using hnext

theorem deleteUser_null (t : Table) : DatabaseHelper.deleteUser none t = (0, t) :=
  KeyedTable.deleteWhere_null t

theorem deleteUser_count (t : Table) (k : Int) :
    (DatabaseHelper.deleteUser (some k) t).1 = if (t.entry k).isSome then 1 else 0 :=
  KeyedTable.countP_hasKey_some t k

theorem deleteUser_entry (t : Table) (k : Int) :
    (DatabaseHelper.deleteUser (some k) t).2.entry = Function.update t.entry k none :=
  KeyedTable.entry_deleteWhere t k

theorem deleteUser_rows (t : Table) (k : Int) :
    (DatabaseHelper.deleteUser (some k) t).2.rows = t.rows.filter fun row => row.id ≠ k := by
  simp only [DatabaseHelper.deleteUser, Sql.delete, KeyedTable.deleteWhere]
  apply List.filter_congr
  intro row _
  simp [KeyedTable.hasKey, eq_comm]

theorem getUser_of_entry (t : Table) (k : Int) (row : Row) (h : t.entry k = some row) :
    DatabaseHelper.getUser (some k) t = User.fromMap (Sql.queryRow row) := by
  obtain ⟨hmem, hkey⟩ := (KeyedTable.entry_eq_some t k row).mp h
  have hfirst : row ∈ t.rows.filter (KeyedTable.hasKey Row.id (some k)) :=
    List.mem_filter.mpr ⟨hmem, (KeyedTable.hasKey_some k row).mpr hkey⟩
  have hcount := KeyedTable.countP_hasKey_some t k
  rw [h, List.countP_eq_length_filter] at hcount
  obtain ⟨only, honly⟩ := List.length_eq_one_iff.mp hcount
  rw [honly, List.mem_singleton] at hfirst
  simp only [DatabaseHelper.getUser, honly, hfirst, List.map_cons]

end FlutterApp
