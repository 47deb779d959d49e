/-!
# Strings as UTF-16 units

Strings cross the link as 16-bit units. `Utf16.units` writes a character as one unit, or as a high
and a low surrogate if it lies beyond the basic plane. `Utf16.text` reads any units back: a high
surrogate in front of a low one is a pair, and every other surrogate stands alone and is read as the
replacement character.
-/

namespace ParcelLink.Utf16

/-- The character that stands for a surrogate without its partner. -/
def replacement : Char := Char.ofNat 0xfffd

/-- A unit that opens a pair. -/
def isHigh (unit : UInt16) : Bool := 0xd800 ≤ unit && unit < 0xdc00

/-- A unit that closes a pair. -/
def isLow (unit : UInt16) : Bool := 0xdc00 ≤ unit && unit < 0xe000

/-- The units of one character. -/
def unitsOf (c : Char) : List UInt16 :=
  let n := c.toNat
  if n < 0x10000 then [UInt16.ofNat n]
  else
    [UInt16.ofNat (0xd800 + (n - 0x10000) / 0x400), UInt16.ofNat (0xdc00 + (n - 0x10000) % 0x400)]

/-- The units of a string. -/
def units (s : String) : List UInt16 := s.toList.flatMap unitsOf

/-- The character of a unit that is not part of a pair. -/
def single (unit : UInt16) : Char :=
  if isHigh unit || isLow unit then replacement else Char.ofNat unit.toNat

/-- The character of a pair of surrogates. -/
def pair (high low : UInt16) : Char :=
  Char.ofNat (0x10000 + (high.toNat - 0xd800) * 0x400 + (low.toNat - 0xdc00))

/-- The characters of some units behind those read so far, which come in reverse. -/
def charsOnto : List UInt16 → List Char → List Char
  | [], read => read.reverse
  | [unit], read => (single unit :: read).reverse
  | first :: second :: rest, read =>
    if isHigh first && isLow second then charsOnto rest (pair first second :: read)
    else charsOnto (second :: rest) (single first :: read)

/-- The string that some units spell. -/
def text (units : List UInt16) : String := String.ofList (charsOnto units [])

end ParcelLink.Utf16
