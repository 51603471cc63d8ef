import StorageEngine.Text.Hex

/-!
# Byte strings

What a request carries is a list of bytes.  Byte strings are written with two hexadecimal digits a
byte; long ones are reported by their length and their 32-bit FNV-1a fingerprint.
-/

namespace StorageEngine

/-- A byte string. -/
abbrev Bytes := List UInt8

namespace Bytes

/-- `n` zero bytes. -/
def zeros (n : Nat) : Bytes :=
  List.replicate n 0

/-- The byte string `unit` repeated and cut to `n` bytes; an empty `unit` gives nothing. -/
def tile (unit : Bytes) (n : Nat) : Bytes :=
  if unit.isEmpty then []
  else (List.replicate (n / unit.length + 1) unit).flatten.take n

theorem length_zeros (n : Nat) : (zeros n).length = n :=
  List.length_replicate

/-- The two hexadecimal digits of one byte. -/
def hexOf (x : UInt8) : List Char :=
  [Text.hexDigit (x.toNat / 16), Text.hexDigit (x.toNat % 16)]

/-- Two lower-case hexadecimal digits a byte. -/
def hex (b : Bytes) : String :=
  String.ofList (b.flatMap hexOf)

/-- The same, with a blank between the bytes. -/
def spacedHex (b : Bytes) : String :=
  String.intercalate " " (b.map fun x => String.ofList (hexOf x))

/-- Reads two hexadecimal digits a byte. -/
def ofHexDigits? : List Char → Option Bytes
  | [] => some []
  | [_] => none
  | hi :: lo :: rest => do
    let h ← Text.hexValue? hi
    let l ← Text.hexValue? lo
    let tail ← ofHexDigits? rest
    return UInt8.ofNat (16 * h + l) :: tail

/-- Reads a text of two hexadecimal digits a byte. -/
def ofHex? (s : String) : Option Bytes :=
  ofHexDigits? s.toList

/-- The 32-bit FNV-1a hash. -/
def fingerprint (b : Bytes) : UInt32 :=
  b.foldl (fun h x => (h ^^^ x.toUInt32) * 16777619) 2166136261

/-- The text whose code points are the bytes; plain for ASCII. -/
def asciiText (b : Bytes) : String :=
  String.ofList (b.map fun x => Char.ofNat x.toNat)

/-- The bytes of an ASCII text. -/
def ofAscii (s : String) : Bytes :=
  s.toList.map fun c => UInt8.ofNat c.toNat

end Bytes

end StorageEngine
