import Mathlib

/-! # A value that another process sends -/

inductive Json where
  | null
  | bool (b : Bool)
  | number (n : ℚ)
  | string (s : String)
  | array (items : List Json)
  | object (fields : List (String × Json))

namespace Json

/-- `value.name`. `none` is `undefined`. -/
def field (name : String) : Json → Option Json
  | object fields => (fields.find? fun f => f.1 = name).map (·.2)
  | _ => none

def asString : Json → Option String
  | string s => some s
  | _ => none

def asNumber : Json → Option ℚ
  | number n => some n
  | _ => none

def asArray : Json → Option (List Json)
  | array items => some items
  | _ => none

/-- An object whose values are strings. -/
def asStrings : Json → Option (List (String × String))
  | object fields => fields.mapM fun f => f.2.asString.map fun s => (f.1, s)
  | _ => none

def stringField (name : String) (value : Json) : Option String := (value.field name).bind asString

def numberField (name : String) (value : Json) : Option ℚ := (value.field name).bind asNumber

def arrayField (name : String) (value : Json) : Option (List Json) := (value.field name).bind asArray

end Json
