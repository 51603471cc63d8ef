import StorageEngine.Text.Hex
import StorageEngine.Text.Printable

/-!
# Quoted text

A text inside a diagnostic stands between double quotes.  Tab, line ends, the quote, the
backslash and NUL have two-character escapes; every other hidden character is written by its
hexadecimal code point; all the rest stand for themselves.
-/

namespace StorageEngine.Text

/-- How one character is written between the quotes. -/
def escape (c : Char) : String :=
  match c with
  | '\x00' => "\\0"
  | '\t' => "\\t"
  | '\r' => "\\r"
  | '\n' => "\\n"
  | '"' => "\\\""
  | '\\' => "\\\\"
  | c => if isShown c then String.singleton c else "\\u\x7b" ++ hexDigits c.toNat ++ "\x7d"

/-- The text between double quotes, escaped. -/
def quoted (s : String) : String :=
  "\"" ++ String.join (s.toList.map escape) ++ "\""

end StorageEngine.Text
