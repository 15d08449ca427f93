import Mathlib.Data.List.Basic

/-!
The part of Dart the program's own code depends on: dynamic values, what an
operation can throw, typed assignment of a dynamic value, and string-keyed maps.
Every typed variable also admits null.
-/

namespace FlutterApp

inductive Thrown where
  /-- A thrown string, such as 'Error when getting data'. -/
  | str (message : String)
  | typeError
  | noSuchMethodError
  | stateError
  | rangeError
  | formatException
  | assertionError
  | flutterError
  deriving DecidableEq, Repr

inductive Dynamic where
  | null
  | bool (value : Bool)
  | int (value : Int)
  | double (bits : UInt64)
  | str (value : String)
  | list (items : List Dynamic)
  | map (entries : List (Dynamic × Dynamic))
  /-- An instance of a class without an operator []. -/
  | object (className : String)
  /-- An instance of any other class, with what its operator [] makes of a string. -/
  | indexed (className : String) (index : String → Except Thrown Dynamic)

theorem bind_eq_ok {α β : Type} {x : Except Thrown α} {f : α → Except Thrown β} {b : β} :
    x >>= f = .ok b ↔ ∃ a, x = .ok a ∧ f a = .ok b := by
  cases x with
  | error e => simp [bind, Except.bind]
  | ok a => simp [bind, Except.bind]

namespace Dynamic

def ofString : Option String → Dynamic
  | none => null
  | some s => str s

def ofInt : Option Int → Dynamic
  | none => null
  | some n => int n

/-- Assignment to a variable of type String. -/
def asString : Dynamic → Except Thrown (Option String)
  | null => .ok none
  | str s => .ok (some s)
  | _ => .error .typeError

/-- Assignment to a variable of type int. -/
def asInt : Dynamic → Except Thrown (Option Int)
  | null => .ok none
  | int n => .ok (some n)
  | _ => .error .typeError

/-- Assignment to a variable of type List. -/
def asList : Dynamic → Except Thrown (Option (List Dynamic))
  | null => .ok none
  | list items => .ok (some items)
  | _ => .error .typeError

/-- Assignment to a variable of type Map. -/
def asMap : Dynamic → Except Thrown (Option (List (Dynamic × Dynamic)))
  | null => .ok none
  | map entries => .ok (some entries)
  | _ => .error .typeError

@[simp] theorem asString_ofString (s : Option String) : asString (ofString s) = .ok s := by
  cases s <;> rfl

@[simp] theorem asInt_ofInt (n : Option Int) : asInt (ofInt n) = .ok n := by
  cases n <;> rfl

theorem asString_eq_ok {d : Dynamic} {s : Option String} :
    asString d = .ok s ↔ d = ofString s := by
  refine ⟨?_, fun h => h ▸ asString_ofString s⟩
  intro h
  cases d with
  | null | str _ =>
      cases h
      rfl
  | bool _ | int _ | double _ | list _ | map _ | object _ | indexed _ _ => cases h

theorem asInt_eq_ok {d : Dynamic} {n : Option Int} : asInt d = .ok n ↔ d = ofInt n := by
  refine ⟨?_, fun h => h ▸ asInt_ofInt n⟩
  intro h
  cases d with
  | null | int _ =>
      cases h
      rfl
  | bool _ | double _ | str _ | list _ | map _ | object _ | indexed _ _ => cases h

theorem asString_error {d : Dynamic} {e : Thrown} (h : asString d = .error e) :
    e = .typeError := by
  cases d with
  | null | str _ => cases h
  | bool _ | int _ | double _ | list _ | map _ | object _ | indexed _ _ =>
      cases h
      rfl

theorem asInt_error {d : Dynamic} {e : Thrown} (h : asInt d = .error e) : e = .typeError := by
  cases d with
  | null | int _ => cases h
  | bool _ | double _ | str _ | list _ | map _ | object _ | indexed _ _ =>
      cases h
      rfl

theorem ofString_injective : Function.Injective ofString := by
  intro s s' h
  cases s <;> cases s' <;> simp_all [ofString]

/-- Whether a dynamic value is the given string, as a map compares its keys. -/
def isKey (key : String) : Dynamic → Bool
  | str s => s = key
  | _ => false

/-- The subscript of a dynamic value by a string. Lists and strings are indexed
by integers only. -/
def subscript (key : String) : Dynamic → Except Thrown Dynamic
  | map entries => .ok (((entries.find? fun entry => isKey key entry.1).map Prod.snd).getD null)
  | indexed _ index => index key
  | list _ | str _ => .error .typeError
  | _ => .error .noSuchMethodError

mutual

/-- toString, which string interpolation calls too. How a double prints is a parameter. -/
def toText (doubleText : UInt64 → String) : Dynamic → String
  | null => "null"
  | bool value => if value then "true" else "false"
  | int value => toString value
  | double bits => doubleText bits
  | str value => value
  | list items => "[" ++ ", ".intercalate (itemTexts doubleText items) ++ "]"
  | map entries => "\x7b" ++ ", ".intercalate (entryTexts doubleText entries) ++ "\x7d"
  | object className | indexed className _ => "Instance of '" ++ className ++ "'"

def itemTexts (doubleText : UInt64 → String) : List Dynamic → List String
  | [] => []
  | item :: items => item.toText doubleText :: itemTexts doubleText items

def entryTexts (doubleText : UInt64 → String) : List (Dynamic × Dynamic) → List String
  | [] => []
  | (key, value) :: entries =>
      (key.toText doubleText ++ ": " ++ value.toText doubleText) :: entryTexts doubleText entries

end

end Dynamic

/-- A Map<String, dynamic>. -/
abbrev StringMap := List (String × Dynamic)

namespace StringMap

/-- The value under a key; null when the key is missing. -/
def get (m : StringMap) (key : String) : Dynamic := (m.lookup key).getD .null

/-- The assignment map[key] = value. -/
def put (m : StringMap) (key : String) (value : Dynamic) : StringMap :=
  if (m.lookup key).isSome then m.map fun entry => if entry.1 = key then (key, value) else entry
  else m ++ [(key, value)]

end StringMap

/-- The handlers of the program print what they catch; only a string can be printed. -/
def debugPrint : Thrown → Except Thrown Unit
  | .str _ => .ok ()
  | _ => .error .typeError

end FlutterApp
