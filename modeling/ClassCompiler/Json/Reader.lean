import ClassCompiler.Json.Basic

/-! Reading JSON from text. Nothing but blanks may follow the value. -/

namespace ClassCompiler.Json

def isBlank (c : Char) : Bool := c == ' ' || c == '\n' || c == '\t' || c == '\r'

def skipBlanks (text : List Char) : List Char := text.dropWhile isBlank

/-! ### Numbers -/

def digits? (text : List Char) : Option (List Char × List Char) :=
  match text.span Char.isDigit with
  | ([], _) => none
  | parts => some parts

/-- The integer part of a number has no leading zero. -/
def integer? : List Char → Option (List Char × List Char)
  | '0' :: rest => some (['0'], rest)
  | text => digits? text

def fraction? : List Char → Option (List Char × List Char)
  | '.' :: rest => (fun (digits, rest) => ('.' :: digits, rest)) <$> digits? rest
  | text => some ([], text)

def sign : List Char → List Char × List Char
  | '+' :: rest => (['+'], rest)
  | '-' :: rest => (['-'], rest)
  | text => ([], text)

def exponent? : List Char → Option (List Char × List Char)
  | c :: rest =>
    if c = 'e' || c = 'E' then do
      let (mark, rest) := sign rest
      let (digits, rest) ← digits? rest
      return (c :: (mark ++ digits), rest)
    else some ([], c :: rest)
  | [] => some ([], [])

def minus : List Char → List Char × List Char
  | '-' :: rest => (['-'], rest)
  | text => ([], text)

def number? (text : List Char) : Option (List Char × List Char) := do
  let (mark, rest) := minus text
  let (whole, rest) ← integer? rest
  let (part, rest) ← fraction? rest
  let (power, rest) ← exponent? rest
  return (mark ++ whole ++ part ++ power, rest)

/-! ### Strings -/

/-- What a string is written with: characters, and escapes that name a UTF-16 unit. -/
inductive Letter
  | char (c : Char)
  | unit (code : Nat)

def hexValue? (c : Char) : Option Nat :=
  if c.isDigit then some (c.toNat - '0'.toNat)
  else if 'a' ≤ c && c ≤ 'f' then some (c.toNat - 'a'.toNat + 10)
  else if 'A' ≤ c && c ≤ 'F' then some (c.toNat - 'A'.toNat + 10)
  else none

def hexCode? (a b c d : Char) : Option Nat := do
  return ((16 * (← hexValue? a) + (← hexValue? b)) * 16 + (← hexValue? c)) * 16 + (← hexValue? d)

def unescape? : Char → Option Char
  | '"' => some '"'
  | '\\' => some '\\'
  | '/' => some '/'
  | 'b' => some '\x08'
  | 'f' => some '\x0c'
  | 'n' => some '\n'
  | 'r' => some '\r'
  | 't' => some '\t'
  | _ => none

def letters? : List Char → Option (List Letter × List Char)
  | [] => none
  | '"' :: rest => some ([], rest)
  | '\\' :: 'u' :: a :: b :: c :: d :: rest => do
    let code ← hexCode? a b c d
    let (letters, rest) ← letters? rest
    return (.unit code :: letters, rest)
  | '\\' :: letter :: rest => do
    let c ← unescape? letter
    let (letters, rest) ← letters? rest
    return (.char c :: letters, rest)
  | c :: rest =>
    if c.toNat < 0x20 then none
    else do
      let (letters, rest) ← letters? rest
      return (.char c :: letters, rest)

def isHighSurrogate (code : Nat) : Bool := 0xD800 ≤ code && code ≤ 0xDBFF

def isLowSurrogate (code : Nat) : Bool := 0xDC00 ≤ code && code ≤ 0xDFFF

/-- The text of letters; two units that are a surrogate pair spell one character. -/
def spell? : List Letter → Option (List Char)
  | [] => some []
  | .char c :: rest => (c :: ·) <$> spell? rest
  | .unit code :: rest =>
    if isHighSurrogate code then
      match rest with
      | .unit low :: rest =>
        if isLowSurrogate low then
          (Char.ofNat (0x10000 + (code - 0xD800) * 0x400 + (low - 0xDC00)) :: ·) <$> spell? rest
        else none
      | _ => none
    else if isLowSurrogate code then none
    else (Char.ofNat code :: ·) <$> spell? rest

def string? (text : List Char) : Option (Option String × List Char) := do
  let (letters, rest) ← letters? text
  return (String.ofList <$> spell? letters, rest)

def ofText : Option String → Json
  | some text => string text
  | none => unpaired

def ofMembers (members : List (Option String × Json)) : Json :=
  match members.mapM fun (key, value) => (·, value) <$> key with
  | some members => object members
  | none => unpaired

/-! ### Values -/

mutual

def value? : Nat → List Char → Option (Json × List Char)
  | 0, _ => none
  | fuel + 1, text =>
    match skipBlanks text with
    | 'n' :: 'u' :: 'l' :: 'l' :: rest => some (null, rest)
    | 't' :: 'r' :: 'u' :: 'e' :: rest => some (bool true, rest)
    | 'f' :: 'a' :: 'l' :: 's' :: 'e' :: rest => some (bool false, rest)
    | '"' :: rest => do
      let (text, rest) ← string? rest
      return (ofText text, rest)
    | '[' :: rest =>
      match skipBlanks rest with
      | ']' :: rest => some (array [], rest)
      | rest => do
        let (items, rest) ← items? fuel rest
        return (array items, rest)
    | '\x7b' :: rest =>
      match skipBlanks rest with
      | '\x7d' :: rest => some (object [], rest)
      | rest => do
        let (members, rest) ← members? fuel rest
        return (ofMembers members, rest)
    | text => do
      let (spelling, rest) ← number? text
      return (number (String.ofList spelling), rest)

def items? : Nat → List Char → Option (List Json × List Char)
  | 0, _ => none
  | fuel + 1, text => do
    let (item, rest) ← value? fuel text
    match skipBlanks rest with
    | ']' :: rest => some ([item], rest)
    | ',' :: rest => do
      let (items, rest) ← items? fuel rest
      return (item :: items, rest)
    | _ => none

def members? : Nat → List Char → Option (List (Option String × Json) × List Char)
  | 0, _ => none
  | fuel + 1, text =>
    match skipBlanks text with
    | '"' :: rest => do
      let (key, rest) ← string? rest
      match skipBlanks rest with
      | ':' :: rest => do
        let (value, rest) ← value? fuel rest
        match skipBlanks rest with
        | '\x7d' :: rest => some ([(key, value)], rest)
        | ',' :: rest => do
          let (members, rest) ← members? fuel rest
          return ((key, value) :: members, rest)
        | _ => none
      | _ => none
    | _ => none

end

/-- Two units of fuel for each character: one for the value that it starts, and one for the list
of items or members that it starts. -/
def readChars? (text : List Char) : Option Json :=
  match value? (2 * text.length + 1) text with
  | some (json, rest) => if (skipBlanks rest).isEmpty then some json else none
  | none => none

def read? (text : String) : Option Json := readChars? text.toList

end ClassCompiler.Json
