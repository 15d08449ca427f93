import FlutterApp.PersistantStorage.SqFlite
import Mathlib.Data.Set.Finite.List

/-!
Histories of calls on the user table, and the finite map they refine.

The abstract side is a partial map from ids to credentials together with a
relation that says how each call may answer and change it. The only freedom it
leaves is which unused id an insert without an id receives. The last section
is about reading a user back, where the decoders do not find the id.
-/

namespace FlutterApp

open DatabaseHelper

structure Credentials where
  username : Option String
  password : Option String
  deriving DecidableEq

def Row.credentials (row : Row) : Credentials := ⟨row.username, row.password⟩

def User.credentials (user : User) : Credentials := ⟨user.username, user.password⟩

/-- The abstract table. -/
abbrev Entries := Int → Option Credentials

def entries (t : Table) : Entries := fun k => (t.entry k).map Row.credentials

inductive Call where
  | insertUser (user : User)
  | updateUser (user : User)
  | deleteUser (id : Option Int)

inductive Reply where
  | returned (value : Int)
  | failed (error : SqlError)
  deriving DecidableEq

/-- One call against the table. A statement that fails has no effect. -/
def perform (supply : KeySupply Int) (t : Table) : Call → Reply × Table
  | .insertUser user =>
      match insertUser supply user t with
      | .ok (id, next) => (.returned id, next)
      | .error e => (.failed e, t)
  | .updateUser user =>
      match updateUser user t with
      | .ok (count, next) => (.returned count, next)
      | .error e => (.failed e, t)
  | .deleteUser id =>
      let (count, next) := deleteUser id t
      (.returned count, next)

def performAll (supply : KeySupply Int) : Table → List Call → List Reply × Table
  | t, [] => ([], t)
  | t, call :: calls =>
      let (reply, next) := perform supply t call
      let (replies, last) := performAll supply next calls
      (reply :: replies, last)

/-- What the map answers to a call and how it changes. -/
def Answers (m : Entries) : Call → Reply → Entries → Prop
  | .insertUser user, reply, m' =>
      match user.id with
      | none => ∃ k, m k = none ∧ reply = .returned k ∧
          m' = Function.update m k (some user.credentials)
      | some k =>
          if (m k).isSome then reply = .failed .uniqueConstraint ∧ m' = m
          else reply = .returned k ∧ m' = Function.update m k (some user.credentials)
  | .updateUser user, reply, m' =>
      match user.id with
      | none => reply = .returned 0 ∧ m' = m
      | some k =>
          if (m k).isSome then
            reply = .returned 1 ∧ m' = Function.update m k (some user.credentials)
          else reply = .returned 0 ∧ m' = m
  | .deleteUser id, reply, m' =>
      match id with
      | none => reply = .returned 0 ∧ m' = m
      | some k =>
          if (m k).isSome then reply = .returned 1 ∧ m' = Function.update m k none
          else reply = .returned 0 ∧ m' = m

/-- A history of calls and answers that takes one map to another. -/
inductive History : Entries → List Call → List Reply → Entries → Prop
  | nil (m : Entries) : History m [] [] m
  | cons {m m' m'' : Entries} {call : Call} {reply : Reply} {calls : List Call}
      {replies : List Reply} : Answers m call reply m' → History m' calls replies m'' →
      History m (call :: calls) (reply :: replies) m''

theorem entries_isSome (t : Table) (k : Int) : (entries t k).isSome = (t.entry k).isSome := by
  simp [entries]

theorem entries_eq_none (t : Table) (k : Int) : entries t k = none ↔ k ∉ t.keys := by
  simp only [entries, Option.map_eq_none_iff, KeyedTable.entry_eq_none]

theorem entries_update {t t' : Table} {k : Int} {row : Option Row}
    (h : t'.entry = Function.update t.entry k row) :
    entries t' = Function.update (entries t) k (row.map Row.credentials) := by
  funext k'
  by_cases hk : k' = k
  · subst hk
    simp [entries, h]
  · simp [entries, h, Function.update_of_ne hk]

theorem entries_insertRow {t t' : Table} {k : Int} {user : User}
    (h : t.insertRow ⟨k, user.username, user.password⟩ = some t') :
    entries t' = Function.update (entries t) k (some user.credentials) :=
  entries_update (KeyedTable.entry_insertRow h)

theorem insertUser_answers (supply : KeySupply Int) (t : Table) (user : User) :
    Answers (entries t) (.insertUser user) (perform supply t (.insertUser user)).1
      (entries (perform supply t (.insertUser user)).2) := by
  cases hid : user.id with
  | none =>
      obtain ⟨next, hcall, hrow⟩ := insertUser_null supply user t hid
      simp only [Answers, hid, perform, hcall]
      exact ⟨supply.next t.keys, (entries_eq_none t _).mpr (supply.fresh t.keys), rfl,
        entries_insertRow hrow⟩
  | some k =>
      by_cases hk : k ∈ t.keys
      · have hsome : (entries t k).isSome := by
          rw [entries_isSome]
          exact (KeyedTable.entry_isSome t k).mpr hk
        simp only [Answers, hid, perform, insertUser_present supply user t k hid hk, hsome, if_true,
          and_self]
      · obtain ⟨next, hcall, hrow⟩ := insertUser_absent supply user t k hid hk
        have hnone := (entries_eq_none t k).mpr hk
        simp only [Answers, hid, perform, hcall, hnone, Option.isSome_none, Bool.false_eq_true,
          if_false, true_and]
        exact entries_insertRow hrow

theorem updateUser_answers (supply : KeySupply Int) (t : Table) (user : User) :
    Answers (entries t) (.updateUser user) (perform supply t (.updateUser user)).1
      (entries (perform supply t (.updateUser user)).2) := by
  cases hid : user.id with
  | none => simp [Answers, hid, perform, updateUser_null user t hid]
  | some k =>
      obtain ⟨next, hcall, hentry⟩ := updateUser_some user t k hid
      have hnext := entries_update hentry
      simp only [Answers, hid, perform, hcall, entries_isSome]
      cases hk : t.entry k with
      | none =>
          have hunchanged : Function.update (entries t) k none = entries t := by
            rw [Function.update_eq_self_iff]
            simp [entries, hk]
          simpa [hk, hunchanged] using hnext
      | some row => simpa [hk, Row.credentials, User.credentials] using hnext

theorem deleteUser_answers (supply : KeySupply Int) (t : Table) (id : Option Int) :
    Answers (entries t) (.deleteUser id) (perform supply t (.deleteUser id)).1
      (entries (perform supply t (.deleteUser id)).2) := by
  cases id with
  | none => simp [Answers, perform, deleteUser_null]
  | some k =>
      have hnext := entries_update (deleteUser_entry t k)
      have hcount := deleteUser_count t k
      simp only [Answers, perform, entries_isSome, hcount, hnext]
      cases hk : t.entry k with
      | none =>
          have hunchanged : Function.update (entries t) k none = entries t := by
            rw [Function.update_eq_self_iff]
            simp [entries, hk]
          simp [hunchanged]
      | some row => simp

theorem perform_answers (supply : KeySupply Int) (t : Table) (call : Call) :
    Answers (entries t) call (perform supply t call).1 (entries (perform supply t call).2) := by
  cases call with
  | insertUser user => exact insertUser_answers supply t user
  | updateUser user => exact updateUser_answers supply t user
  | deleteUser id => exact deleteUser_answers supply t id

theorem performAll_history (supply : KeySupply Int) (t : Table) (calls : List Call) :
    History (entries t) calls (performAll supply t calls).1
      (entries (performAll supply t calls).2) := by
  induction calls generalizing t with
  | nil => exact .nil _
  | cons call calls ih => exact .cons (perform_answers supply t call) (ih _)

theorem queryRow_injective : Function.Injective Sql.queryRow := by
  intro row row' h
  simp only [Sql.queryRow, List.cons.injEq, Prod.mk.injEq, Dynamic.int.injEq, true_and,
    and_true] at h
  obtain ⟨hid, husername, hpassword⟩ := h
  cases row
  cases row'
  simp only [Row.mk.injEq]
  exact ⟨hid, Dynamic.ofString_injective husername, Dynamic.ofString_injective hpassword⟩

theorem mem_getAllUsers (t : Table) (m : StringMap) :
    m ∈ getAllUsers t ↔
      ∃ k c, entries t k = some c ∧ m = [("_id", .int k), ("username", .ofString c.username),
        ("password", .ofString c.password)] := by
  simp only [getAllUsers, List.mem_map, entries, Option.map_eq_some_iff,
    KeyedTable.entry_eq_some]
  constructor
  · intro h
    obtain ⟨row, hmem, hm⟩ := h
    exact ⟨row.id, row.credentials, ⟨row, ⟨hmem, rfl⟩, rfl⟩, hm.symm⟩
  · intro h
    obtain ⟨k, c, ⟨row, ⟨hmem, hk⟩, hc⟩, hm⟩ := h
    subst hk hc
    exact ⟨row, hmem, hm.symm⟩

theorem getAllUsers_nodup (t : Table) : (getAllUsers t).Nodup :=
  List.Nodup.map queryRow_injective (List.Nodup.of_map Row.id t.unique)

theorem entries_finite (t : Table) : {k | (entries t k).isSome}.Finite := by
  apply Set.Finite.subset (List.finite_toSet t.keys)
  intro k hk
  have hsome : (entries t k).isSome := hk
  rw [entries_isSome] at hsome
  exact (KeyedTable.entry_isSome t k).mp hsome

/-- Every history of calls on the table that _onCreate makes is a history of a finite
map, and selecting all users lists exactly the entries of that map. -/
theorem userTable_refines_finiteMap (supply : KeySupply Int) (calls : List Call) :
    History (fun _ => none) calls (performAll supply onCreate calls).1
        (entries (performAll supply onCreate calls).2) ∧
      {k | (entries (performAll supply onCreate calls).2 k).isSome}.Finite ∧
      (getAllUsers (performAll supply onCreate calls).2).Nodup ∧
      ∀ m, m ∈ getAllUsers (performAll supply onCreate calls).2 ↔
        ∃ k c, entries (performAll supply onCreate calls).2 k = some c ∧
          m = [("_id", .int k), ("username", .ofString c.username),
            ("password", .ofString c.password)] :=
  ⟨performAll_history supply onCreate calls, entries_finite _, getAllUsers_nodup _,
    mem_getAllUsers _⟩

/-- getUser gives the stored user, its id included. -/
def ReadsBack (t : Table) (k : Int) : Prop :=
  ∃ user, getUser (some k) t = .ok user ∧ user.id = some k ∧
    entries t k = some user.credentials

/-- Writing back what getUser gave touches one row and changes nothing. -/
def RewritesSame (t : Table) (k : Int) : Prop :=
  ∃ user, getUser (some k) t = .ok user ∧ updateUser user t = .ok (1, t)

/-- Writing back a row whose credentials were replaced changes that row only. -/
def ModifiesOne (t : Table) (k : Int) (n p : Option String) : Prop :=
  ∃ row user next, t.entry k = some row ∧
    User.fromMap (StringMap.put (StringMap.put (Sql.queryRow row) "username" (.ofString n))
      "password" (.ofString p)) = .ok user ∧
    updateUser user t = .ok (1, next) ∧
    entries next = Function.update (entries t) k (some ⟨n, p⟩)

theorem fromMap_queryRow (row : Row) :
    User.fromMap (Sql.queryRow row) = .ok ⟨row.username, row.password, none⟩ :=
  User.fromMap_of_typed none rfl rfl rfl

theorem fromMap_modified (row : Row) (n p : Option String) :
    User.fromMap (StringMap.put (StringMap.put (Sql.queryRow row) "username" (.ofString n))
      "password" (.ofString p)) = .ok ⟨n, p, none⟩ :=
  User.fromMap_of_typed none rfl rfl rfl

/-- The decoder looks for the id under a name no row has, so every user read from the
table has no id. -/
theorem getUser_stored (t : Table) (k : Int) (h : k ∈ t.keys) :
    ∃ c, entries t k = some c ∧ getUser (some k) t = .ok ⟨c.username, c.password, none⟩ := by
  obtain ⟨row, hrow⟩ := Option.isSome_iff_exists.mp ((KeyedTable.entry_isSome t k).mpr h)
  refine ⟨row.credentials, by simp [entries, hrow], ?_⟩
  rw [getUser_of_entry t k row hrow, fromMap_queryRow]
  rfl

theorem updateUser_getUser (t : Table) (k : Int) (h : k ∈ t.keys) (user : User)
    (hread : getUser (some k) t = .ok user) : updateUser user t = .ok (0, t) := by
  obtain ⟨c, -, hget⟩ := getUser_stored t k h
  obtain rfl : _ = user := Except.ok.inj (hget.symm.trans hread)
  exact updateUser_null _ t rfl

/-- No stored user survives the round trip, whatever was called before. -/
theorem readModifyWrite_never (supply : KeySupply Int) (calls : List Call) (k : Int)
    (n p : Option String) (h : k ∈ (performAll supply onCreate calls).2.keys) :
    ¬ ReadsBack (performAll supply onCreate calls).2 k ∧
      ¬ RewritesSame (performAll supply onCreate calls).2 k ∧
      ¬ ModifiesOne (performAll supply onCreate calls).2 k n p := by
  refine ⟨?_, ?_, ?_⟩
  · intro hreads
    obtain ⟨user, hread, hid, -⟩ := hreads
    obtain ⟨c, -, hget⟩ := getUser_stored _ k h
    obtain rfl : _ = user := Except.ok.inj (hget.symm.trans hread)
    cases hid
  · intro hrewrites
    obtain ⟨user, hread, hupdate⟩ := hrewrites
    rw [updateUser_getUser _ k h user hread] at hupdate
    cases hupdate
  · intro hmodifies
    obtain ⟨row, user, next, -, hdecode, hupdate, -⟩ := hmodifies
    rw [fromMap_modified] at hdecode
    obtain rfl : _ = user := Except.ok.inj hdecode
    rw [updateUser_null _ _ rfl] at hupdate
    cases hupdate

/-- The calls that store one user under the id 1. -/
def storeAnn : List Call := [.insertUser (User.new (some "ann") (some "secret"))]

theorem readModifyWrite_never_ann :
    ¬ ReadsBack (performAll .largestPlusOne onCreate storeAnn).2 1 ∧
      ¬ RewritesSame (performAll .largestPlusOne onCreate storeAnn).2 1 ∧
      ¬ ModifiesOne (performAll .largestPlusOne onCreate storeAnn).2 1 (some "bob") (some "new") :=
  readModifyWrite_never .largestPlusOne storeAnn 1 (some "bob") (some "new") (by decide)

theorem ann_not_read_back :
    1 ∈ (performAll .largestPlusOne onCreate storeAnn).2.keys ∧
      ¬ (ReadsBack (performAll .largestPlusOne onCreate storeAnn).2 1 ∧
        RewritesSame (performAll .largestPlusOne onCreate storeAnn).2 1 ∧
        ModifiesOne (performAll .largestPlusOne onCreate storeAnn).2 1 (some "bob")
          (some "new")) := by
  have hread : getUser (some 1) (performAll .largestPlusOne onCreate storeAnn).2 =
      .ok ⟨some "ann", some "secret", none⟩ := by rfl
  refine ⟨by decide, ?_⟩
  intro h
  obtain ⟨user, huser, hid, -⟩ := h.1
  obtain rfl : _ = user := Except.ok.inj (hread.symm.trans huser)
  cases hid

end FlutterApp
