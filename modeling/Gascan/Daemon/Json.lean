import Mathlib.Data.List.Basic

/-!
# `Gascan.Daemon.Json`: JSON values

The values the daemon stores in resolution and event details, with the accessors it reads them by.
An object is the list of its members in the order they are written.
-/

namespace Gascan

/-- A JSON value. -/
inductive Json where
  | null
  | bool (b : Bool)
  | num (n : Int)
  | str (s : String)
  | arr (items : List Json)
  | obj (members : List (String × Json))

namespace Json

/-- `Value::as_str`. -/
def asStr : Json → Option String
  | .str s => some s
  | _ => none

/-- `Value::as_bool`. -/
def asBool : Json → Option Bool
  | .bool b => some b
  | _ => none

/-- `Value::as_u64`. -/
def asNat : Json → Option Nat
  | .num n => if 0 ≤ n then some n.toNat else none
  | _ => none

/-- `Value::as_object`. -/
def asObject : Json → Option (List (String × Json))
  | .obj members => some members
  | _ => none

/-- `Value::as_array`. -/
def asArray : Json → Option (List Json)
  | .arr items => some items
  | _ => none

/-- `Value::get` with a key. -/
def get (value : Json) (key : String) : Option Json :=
  value.asObject.bind fun members => members.lookup key

/-- The text member of an object. -/
def getStr (value : Json) (key : String) : Option String := (value.get key).bind asStr

/-- The natural number member of an object. -/
def getNat (value : Json) (key : String) : Option Nat := (value.get key).bind asNat

/-- An optional text: `null` when it is absent. -/
def optStr : Option String → Json
  | some s => .str s
  | none => .null

@[simp] theorem get_obj (members : List (String × Json)) (key : String) :
    (Json.obj members).get key = members.lookup key := rfl

end Json

end Gascan
