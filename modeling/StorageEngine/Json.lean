import StorageEngine.Text.Hex

/-!
# Reading JSON

A reader for JSON texts that keeps what a document of limits needs: the shape of the value, the
value of a plain natural numeral, and the text of a string.  A string whose escapes name half of a
surrogate pair is well formed but has no text; a numeral with a sign, a fraction or an exponent is
well formed but is no plain natural number.  Every reader answers what it found and the characters
after it.
-/

namespace StorageEngine

/-- A JSON value, as far as it is kept. -/
inductive Json
  | null
  | bool (b : Bool)
  | number (natural : Option Nat)
  | string (text : Option String)
  | array (items : List Json)
  | object (fields : List (Option String × Json))
  deriving Inhabited

namespace Json

/-- JSON's four blank characters. -/
def isBlank (c : Char) : Bool :=
  c = ' ' || c = '\n' || c = '\t' || c = '\r'

/-- The characters after any blanks. -/
def skipBlanks (cs : List Char) : List Char :=
  cs.dropWhile isBlank

/-- What one backslash escape other than `\u` stands for. -/
def simpleEscape? : Char → Option Char
  | '"' => some '"'
  | '\\' => some '\\'
  | '/' => some '/'
  | 'b' => some '\x08'
  | 'f' => some '\x0c'
  | 'n' => some '\n'
  | 'r' => some '\r'
  | 't' => some '\t'
  | _ => none

/-- The code units of a string up to its closing quote.  A character that is written out counts as
one unit, whatever its size; a control character is refused. -/
def readUnits : List Char → Option ((List Nat) × List Char)
  | '"' :: rest => some ([], rest)
  | '\\' :: 'u' :: a :: b :: c :: d :: rest => do
    let a ← Text.hexValue? a
    let b ← Text.hexValue? b
    let c ← Text.hexValue? c
    let d ← Text.hexValue? d
    let (units, rest) ← readUnits rest
    return ((((a * 16 + b) * 16 + c) * 16 + d) :: units, rest)
  | '\\' :: e :: rest => do
    let c ← simpleEscape? e
    let (units, rest) ← readUnits rest
    return (c.toNat :: units, rest)
  | c :: rest =>
    if c.toNat < 32 || c = '\\' then none
    else do
      let (units, rest) ← readUnits rest
      return (c.toNat :: units, rest)
  | [] => none

/-- Joins surrogate pairs; there is no text if half a pair is left alone. -/
def textOfUnits : List Nat → Option (List Char)
  | [] => some []
  | [u] => if 0xd800 ≤ u ∧ u ≤ 0xdfff then none else some [Char.ofNat u]
  | u :: v :: rest =>
    if 0xd800 ≤ u ∧ u ≤ 0xdbff then
      if 0xdc00 ≤ v ∧ v ≤ 0xdfff then
        (textOfUnits rest).map (Char.ofNat (0x10000 + (u - 0xd800) * 0x400 + (v - 0xdc00)) :: ·)
      else none
    else if 0xdc00 ≤ u ∧ u ≤ 0xdfff then none
    else (textOfUnits (v :: rest)).map (Char.ofNat u :: ·)

/-- A string after its opening quote. -/
def readString (cs : List Char) : Option ((Option String) × List Char) := do
  let (units, rest) ← readUnits cs
  return ((textOfUnits units).map String.ofList, rest)

/-- The leading digits and what follows them. -/
def spanDigits (cs : List Char) : List Char × List Char :=
  (cs.takeWhile Char.isDigit, cs.dropWhile Char.isDigit)

/-- The number that a run of digits writes. -/
def valueOfDigits (ds : List Char) : Nat :=
  ds.foldl (fun n d => n * 10 + (d.toNat - 48)) 0

/-- At least one digit; of several, the first is not zero. -/
def readWhole (cs : List Char) : Option (Nat × List Char) :=
  match cs with
  | '0' :: rest => some (0, rest)
  | _ =>
    match spanDigits cs with
    | ([], _) => none
    | (ds, rest) => some (valueOfDigits ds, rest)

/-- An optional part of a numeral: present and well formed, or absent. -/
def readFraction : List Char → Option (Bool × List Char)
  | '.' :: rest =>
    match spanDigits rest with
    | ([], _) => none
    | (_, rest) => some (true, rest)
  | cs => some (false, cs)

/-- The exponent of a numeral, if there is one. -/
def readExponent (cs : List Char) : Option (Bool × List Char) :=
  match cs with
  | e :: rest =>
    if e = 'e' ∨ e = 'E' then
      let rest := match rest with
        | '+' :: r => r
        | '-' :: r => r
        | r => r
      match spanDigits rest with
      | ([], _) => none
      | (_, rest) => some (true, rest)
    else some (false, cs)
  | [] => some (false, [])

/-- A numeral. -/
def readNumber (cs : List Char) : Option ((Option Nat) × List Char) := do
  let (negative, cs) := match cs with
    | '-' :: rest => (true, rest)
    | _ => (false, cs)
  let (whole, cs) ← readWhole cs
  let (fraction, cs) ← readFraction cs
  let (exponent, cs) ← readExponent cs
  return (if negative || fraction || exponent then none else some whole, cs)

/-- The rest of the text after a fixed word. -/
def expect (word : String) (cs : List Char) : Option (List Char) :=
  if word.toList.isPrefixOf cs then some (cs.drop word.length) else none

mutual

/-- One value, after any blanks.  `fuel` bounds the steps; the length of the text is enough. -/
def readValue (fuel : Nat) (cs : List Char) : Option (Json × List Char) :=
  match fuel with
  | 0 => none
  | fuel + 1 =>
    match skipBlanks cs with
    | '"' :: rest => (readString rest).map fun (text, rest) => (.string text, rest)
    | '[' :: rest =>
      match skipBlanks rest with
      | ']' :: rest => some (.array [], rest)
      | rest => (readItems fuel rest).map fun (items, rest) => (.array items, rest)
    | '\x7b' :: rest =>
      match skipBlanks rest with
      | '\x7d' :: rest => some (.object [], rest)
      | rest => (readFields fuel rest).map fun (fields, rest) => (.object fields, rest)
    | 'n' :: rest => (expect "ull" rest).map fun rest => (.null, rest)
    | 't' :: rest => (expect "rue" rest).map fun rest => (.bool true, rest)
    | 'f' :: rest => (expect "alse" rest).map fun rest => (.bool false, rest)
    | cs => (readNumber cs).map fun (n, rest) => (.number n, rest)

/-- The items of an array up to its closing bracket; there is at least one. -/
def readItems (fuel : Nat) (cs : List Char) : Option ((List Json) × List Char) :=
  match fuel with
  | 0 => none
  | fuel + 1 => do
    let (item, rest) ← readValue fuel cs
    match skipBlanks rest with
    | ']' :: rest => return ([item], rest)
    | ',' :: rest =>
      let (items, rest) ← readItems fuel rest
      return (item :: items, rest)
    | _ => none

/-- The fields of an object up to its closing brace; there is at least one. -/
def readFields (fuel : Nat) (cs : List Char) : Option ((List (Option String × Json)) × List Char) :=
  match fuel with
  | 0 => none
  | fuel + 1 =>
    match skipBlanks cs with
    | '"' :: rest => do
      let (key, rest) ← readString rest
      match skipBlanks rest with
      | ':' :: rest =>
        let (value, rest) ← readValue fuel rest
        match skipBlanks rest with
        | '\x7d' :: rest => return ([(key, value)], rest)
        | ',' :: rest =>
          let (fields, rest) ← readFields fuel rest
          return ((key, value) :: fields, rest)
        | _ => none
      | _ => none
    | _ => none

end

/-- A text that holds one value and nothing else but blanks. -/
def read? (text : String) : Option Json :=
  match readValue (2 * text.length + 2) text.toList with
  | some (value, rest) => if (skipBlanks rest).isEmpty then some value else none
  | none => none

end Json

end StorageEngine
