import ClassCompiler.Json.Basic

/-! Records in JSON. A record is an object with its fields as members, in any order and with
unknown members among them, or an array of its fields in order of declaration, where the last may
be left out. -/

namespace ClassCompiler.Json

/-- The fields that a value gives to a record with these field names. A field is given at most
once. -/
def fields? (names : List String) : Json → Option (List (String × Json))
  | object members =>
    let known := members.filter (names.contains ·.1)
    if (known.map (·.1)).Nodup then some known else none
  | array items => if items.length ≤ names.length then some (names.zip items) else none
  | _ => none

def required? (read : Json → Option α) (name : String) (fields : List (String × Json)) : Option α :=
  (fields.lookup name).bind read

def default? (absent : α) (read : Json → Option α) (name : String)
    (fields : List (String × Json)) : Option α :=
  match fields.lookup name with
  | none => some absent
  | some json => read json

def optionalMember (name : String) (write : α → Json) : Option α → List (String × Json)
  | none => []
  | some value => [(name, write value)]

/-- A member of an object for a list; no member stands for the empty list. -/
def listMember (name : String) (write : α → Json) : List α → List (String × Json)
  | [] => []
  | values => [(name, array (values.map write))]

end ClassCompiler.Json
