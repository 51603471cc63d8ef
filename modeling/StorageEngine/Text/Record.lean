/-!
# Diagnostic texts of structured values

A structured value is shown by its name and its parts: a record lists named fields between
braces, a wrapper puts its one part in parentheses, a list separates its items by commas.  A
record that does not show all it holds ends in two dots.
-/

namespace StorageEngine.Text

/-- Parts separated by commas. -/
def commaList (parts : List String) : String :=
  String.intercalate ", " parts

/-- A record with named fields; `partly` says that it holds more than it shows. -/
def record (name : String) (fields : List (String × String)) (partly : Bool := false) : String :=
  let shown := fields.map (fun (field, value) => field ++ ": " ++ value)
  name ++ " \x7b " ++ commaList (if partly then shown ++ [".."] else shown) ++ " \x7d"

/-- A name with one part in parentheses. -/
def wrapped (name part : String) : String :=
  name ++ "(" ++ part ++ ")"

/-- A list between square brackets. -/
def listing (items : List String) : String :=
  "[" ++ commaList items ++ "]"

/-- A part that may be absent. -/
def optional : Option String → String
  | none => "None"
  | some part => wrapped "Some" part

/-- A yes-or-no part. -/
def flag (b : Bool) : String :=
  if b then "true" else "false"

end StorageEngine.Text
