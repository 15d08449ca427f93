import FlutterApp.Library.EventSystem
import FlutterApp.Library.TaskPool
import FlutterApp.PersistantStorage.SqFlite

/-!
The calls of the Todo screens on the one database, as overlapping tasks.

A call obtains the connection through DatabaseHelper.db, runs its statement and
returns to its caller, which for two of the three callers ends in a close() that
nobody awaits. sqflite has one open connection per path, and closing it closes it
for every holder. Each await is a place where any other task may run.
-/

namespace FlutterApp

/-- The connections to main.db, numbered in the order in which they were opened. -/
structure Connections where
  /-- The static field _db. -/
  cached : Option Nat
  shared : Option Nat
  opened : Nat
  deriving DecidableEq

namespace Connections

def initial : Connections := ⟨none, none, 0⟩

def openDatabase (c : Connections) : Nat × Connections :=
  match c.shared with
  | some conn => (conn, c)
  | none => (c.opened, ⟨c.cached, some c.opened, c.opened + 1⟩)

def initDB (c : Connections) : Nat × Connections := c.openDatabase

/-- The getter DatabaseHelper.db. It never assigns the field it reads. -/
def db (c : Connections) : Nat × Connections :=
  match c.cached with
  | none => c.initDB
  | some conn => (conn, c)

def isOpen (c : Connections) (conn : Nat) : Prop := c.shared = some conn

instance (c : Connections) (conn : Nat) : Decidable (c.isOpen conn) :=
  inferInstanceAs (Decidable (c.shared = some conn))

def close (c : Connections) (conn : Nat) : Connections :=
  if c.isOpen conn then { c with shared := none } else c

end Connections

/-- An item of a databaseItems list. The number of the insertUser call that stored the
row is kept for the proofs; the program sees only the row. -/
structure UserItem where
  row : Row
  insertion : Option Nat
  deriving DecidableEq

/-- The three callers. A deletion remembers the item whose icon was tapped, which the
program does not pass on. -/
inductive Operation where
  | fetchValue (screen : Nat)
  | deleteItem (screen : Nat) (id : Int) (tapped : UserItem)
  | insertUser (username password : String)
  deriving DecidableEq

/-- Where a call is suspended. -/
inductive Task where
  | awaitDb (op : Operation)
  | awaitStatement (op : Operation) (conn : Nat)
  /-- The select has returned; its then callback runs next. -/
  | fetched (screen : Nat) (rows : List UserItem)
  /-- The delete has returned; its then callback runs next. -/
  | deleted (screen : Nat)
  | closeDb
  | closeConn (conn : Nat)
  deriving DecidableEq

/-- What a delete statement removed, next to the insertion whose row was tapped. -/
structure Deletion where
  tapped : Option Nat
  removed : Option Nat
  deriving DecidableEq

structure Store where
  table : Table
  conns : Connections
  tasks : List Task
  /-- The ids given out, latest first. -/
  insertions : List Int
  requested : List Operation
  executed : List Operation
  failed : List Operation
  deletions : List Deletion

/-- The number of the latest insertion that was given an id. -/
def lastInsertion : List Int → Int → Option Nat
  | [], _ => none
  | k' :: older, k => if k' = k then some older.length else lastInsertion older k

namespace Store

def initial (t : Table) : Store := ⟨t, .initial, [], t.keys.reverse, [], [], [], []⟩

def select (s : Store) : List UserItem :=
  s.table.rows.map fun row => ⟨row, lastInsertion s.insertions row.id⟩

/-- Starting a call runs it up to its first await. -/
def call (s : Store) (op : Operation) : Store :=
  { s with tasks := s.tasks ++ [.awaitDb op], requested := op :: s.requested }

/-- The table after a statement. -/
def effect (supply : KeySupply Int) (t : Table) : Operation → Table
  | .fetchValue _ => t
  | .deleteItem _ id _ => (DatabaseHelper.deleteUser (some id) t).2
  | .insertUser username password =>
      match DatabaseHelper.insertUser supply (.new username password) t with
      | .ok (_, next) => next
      | .error _ => t

/-- A statement on an open connection, and what its caller awaits next. -/
def execute (supply : KeySupply Int) (s : Store) (op : Operation) : Store × List Task :=
  let done := { s with table := effect supply s.table op, executed := op :: s.executed }
  match op with
  | .fetchValue screen => (done, [.fetched screen s.select])
  | .deleteItem screen id tapped =>
      let removed := if id ∈ s.table.keys then lastInsertion s.insertions id else none
      ({ done with deletions := ⟨tapped.insertion, removed⟩ :: s.deletions }, [.deleted screen])
  | .insertUser username password =>
      match DatabaseHelper.insertUser supply (.new username password) s.table with
      | .ok (id, _) => ({ done with insertions := id :: s.insertions }, [])
      | .error _ => (done, [])

/-- One task up to its next await. A statement on a closed connection throws, and so does
the setState of a disposed screen; either ends the caller before its close(). -/
def advance (supply : KeySupply Int) (mounted : Bool) (s : Store) : Task → Store × List Task
  | .awaitDb op =>
      let (conn, conns) := s.conns.db
      ({ s with conns := conns }, [.awaitStatement op conn])
  | .awaitStatement op conn =>
      if s.conns.isOpen conn then execute supply s op
      else ({ s with failed := op :: s.failed }, [])
  | .fetched _ _ => (s, if mounted then [.closeDb] else [])
  | .deleted screen =>
      ({ s with requested := .fetchValue screen :: s.requested },
        [.awaitDb (.fetchValue screen), .closeDb])
  | .closeDb =>
      let (conn, conns) := s.conns.db
      ({ s with conns := conns }, [.closeConn conn])
  | .closeConn conn => ({ s with conns := s.conns.close conn }, [])

def resumeTask (supply : KeySupply Int) (mounted : Bool) (s : Store) (i : Nat) (task : Task) :
    Store :=
  let (next, started) := advance supply mounted s task
  { next with tasks := TaskPool.resume s.tasks i started }

inductive Event where
  | call (op : Operation)
  | resume (i : Nat) (mounted : Bool)
  deriving DecidableEq

def step (supply : KeySupply Int) (s : Store) : Event → Option Store
  | .call op => some (s.call op)
  | .resume i mounted => s.tasks[i]?.map (resumeTask supply mounted s i)

end Store

end FlutterApp
