/-! JSON values. Objects keep their members in order, repeated keys included, and numbers keep
their spelling. -/

namespace ClassCompiler

/-- A JSON value. `unpaired` is a string or an object that is well formed as JSON but has, in its
text or in a key, half of a surrogate pair, so that no text corresponds to it. -/
inductive Json
  | null
  | bool (value : Bool)
  | number (spelling : String)
  | string (text : String)
  | unpaired
  | array (items : List Json)
  | object (members : List (String × Json))

namespace Json

def text? : Json → Option String
  | string text => some text
  | _ => none

def bool? : Json → Option Bool
  | bool value => some value
  | _ => none

def list? (read : Json → Option α) : Json → Option (List α)
  | array items => items.mapM read
  | _ => none

def optional? (read : Json → Option α) : Json → Option (Option α)
  | null => some none
  | json => some <$> read json

def isObject : Json → Bool
  | object _ => true
  | _ => false

end Json

end ClassCompiler
