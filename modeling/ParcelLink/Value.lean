import ParcelLink.Octets
import ParcelLink.Reading
import ParcelLink.Text.Utf16

/-!
# Values on the wire

The fields of a parcel are numbers, strings and lists of these. All numbers are written least
significant byte first, but for the size in front of a parcel. A string is the count of its UTF-16
units, the units, and a delimiter of zero units that fills the field up to a multiple of four bytes:
one after an odd count, two after an even one. A count that could not be a length marks a string
that is absent.

## Main definitions

* `Value`, `Value.encode`: a value of any kind and its bytes.
* `Kind`, `Kind.decoder`: the kinds of value and how each is read.
* `Header`: the leading fields of an incoming parcel.
-/

namespace ParcelLink

/-! ### Limits of the format -/

/-- The length that is written for an absent string. -/
def absentLength : UInt32 := 0xffffffff

/-- The least length that is read as an absent string. -/
def absentThreshold : UInt32 := 0x7fffffff

/-- The response type of an answer to a request. -/
def solicitedType : UInt32 := 0

/-- The response type of a notification. -/
def unsolicitedType : UInt32 := 1

/-! ### Writing -/

/-- A byte. -/
def encodeU8 (n : UInt8) : Octets := [n]

/-- A 16-bit number. -/
def encodeU16 (n : UInt16) : Octets := Octets.little 2 n.toNat

/-- A 32-bit number. -/
def encodeU32 (n : UInt32) : Octets := Octets.little 4 n.toNat

/-- A truth value, as one or zero. -/
def encodeBool (b : Bool) : Octets := encodeU32 (if b then 1 else 0)

/-- The delimiter behind a string of `length` units. -/
def delimiter (length : Nat) : Octets :=
  if length % 2 = 0 then encodeU16 0 ++ encodeU16 0 else encodeU16 0

/-- A string, or its absence. -/
def encodeString : Option String → Octets
  | none => encodeU32 absentLength
  | some s =>
    let units := Utf16.units s
    encodeU32 (UInt32.ofNat units.length) ++ units.flatMap encodeU16 ++ delimiter units.length

/-- A count and the items. -/
def encodeList {α : Type} (item : α → Octets) (items : List α) : Octets :=
  encodeU32 (UInt32.ofNat items.length) ++ items.flatMap item

/-- A count and 32-bit numbers. -/
def encodeWords : List UInt32 → Octets := encodeList encodeU32

/-- A count and strings. -/
def encodeStrings : List (Option String) → Octets := encodeList encodeString

/-! ### Reading -/

namespace Decoder

/-- A byte. -/
def u8 : Decoder UInt8 := UInt8.ofNat <$> number 1

/-- A 16-bit number. -/
def u16 : Decoder UInt16 := UInt16.ofNat <$> number 2

/-- A 32-bit number. -/
def u32 : Decoder UInt32 := UInt32.ofNat <$> number 4

/-- A truth value: any number but zero is true. -/
def bool : Decoder Bool := (· != 0) <$> u32

/-- The size in front of a parcel, most significant byte first. -/
def size : Decoder UInt32 := do
  let bytes ← many u8 4
  return UInt32.ofNat (Octets.ofBig bytes)

/-- The bits of the zero units that end a string of `length` units, or-ed together. -/
def delimiterBits (length : UInt32) : Decoder UInt32 := do
  let first ← u16
  if length % 2 = 0 then
    let second ← u16
    return first.toUInt32 ||| second.toUInt32
  return first.toUInt32

/-- A string, or its absence. -/
def string : Decoder (Option String) := do
  let length ← u32
  if absentThreshold ≤ length then return none
  let units ← many u16 length.toNat
  let bits ← delimiterBits length
  if bits ≠ 0 then fail (.malformedString bits)
  return some (Utf16.text units)

/-- A count and that many items. -/
def list {α : Type} (item : Decoder α) : Decoder (List α) := do
  let count ← u32
  many item count.toNat

/-- A count and 32-bit numbers. -/
def words : Decoder (List UInt32) := list u32

/-- A count and strings. -/
def strings : Decoder (List (Option String)) := list string

end Decoder

/-! ### The header of a parcel -/

/-- What the leading fields of an incoming parcel say. -/
inductive Header where
  /-- An answer to the request with this token. -/
  | solicited (token : UInt32)
  /-- A notification of this type. -/
  | unsolicited (type : UInt32)
  deriving DecidableEq, Repr

/-- The leading fields of a parcel. -/
def Header.encode : Header → Octets
  | solicited token => encodeU32 solicitedType ++ encodeU32 token
  | unsolicited type => encodeU32 unsolicitedType ++ encodeU32 type

/-- Reads the response type, and behind it the token or the type of the notification. -/
def Header.decoder : Decoder Header := do
  let response ← Decoder.u32
  if response = solicitedType then return .solicited (← Decoder.u32)
  else if response = unsolicitedType then return .unsolicited (← Decoder.u32)
  else Decoder.fail (.unknownResponseType response)

/-! ### Values of every kind -/

/-- The kinds of value that can be read. -/
inductive Kind where
  | u8
  | u16
  | u32
  | bool
  | size
  | string
  | words
  | strings
  | header
  deriving DecidableEq, Repr

/-- A value of some kind. -/
inductive Value where
  | u8 (n : UInt8)
  | u16 (n : UInt16)
  | u32 (n : UInt32)
  | bool (b : Bool)
  | size (n : UInt32)
  | string (s : Option String)
  | words (ns : List UInt32)
  | strings (ss : List (Option String))
  | header (h : Header)
  deriving DecidableEq, Repr

/-- The kind of a value. -/
def Value.kind : Value → Kind
  | u8 _ => .u8
  | u16 _ => .u16
  | u32 _ => .u32
  | bool _ => .bool
  | size _ => .size
  | string _ => .string
  | words _ => .words
  | strings _ => .strings
  | header _ => .header

/-- The bytes of a value. -/
def Value.encode : Value → Octets
  | u8 n => encodeU8 n
  | u16 n => encodeU16 n
  | u32 n => encodeU32 n
  | bool b => encodeBool b
  | size n => Octets.big 4 n.toNat
  | string s => encodeString s
  | words ns => encodeWords ns
  | strings ss => encodeStrings ss
  | header h => h.encode

/-- How a value of a kind is read. -/
def Kind.decoder : Kind → Decoder Value
  | u8 => .u8 <$> Decoder.u8
  | u16 => .u16 <$> Decoder.u16
  | u32 => .u32 <$> Decoder.u32
  | bool => .bool <$> Decoder.bool
  | size => .size <$> Decoder.size
  | string => .string <$> Decoder.string
  | words => .words <$> Decoder.words
  | strings => .strings <$> Decoder.strings
  | header => .header <$> Header.decoder

end ParcelLink
