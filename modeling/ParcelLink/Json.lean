/-!
# JSON texts

A `Json` value is a tree of objects, lists, strings and natural numbers, and `Json.render` is its
text without blanks. Object fields keep their order. In a string the quote and the backslash are
escaped by a backslash, the five controls that have a letter by that letter, and the other
characters below the blank by four hexadecimal digits; everything else stands as it is.
-/

namespace ParcelLink

/-- A JSON value. -/
inductive Json where
  | null
  | bool (b : Bool)
  | number (n : Nat)
  | string (s : String)
  | list (items : List Json)
  | object (fields : List (String × Json))

namespace Json

/-! ### Strings -/

/-- A hexadecimal digit, lowercase. -/
def hexDigit (n : Nat) : Char := Nat.digitChar (n % 16)

/-- A character as it stands in a JSON string. -/
def escape (c : Char) : List Char :=
  if c = '"' then ['\\', '"']
  else if c = '\\' then ['\\', '\\']
  else if c = '\x08' then ['\\', 'b']
  else if c = '\t' then ['\\', 't']
  else if c = '\n' then ['\\', 'n']
  else if c = '\x0c' then ['\\', 'f']
  else if c = '\r' then ['\\', 'r']
  else if c.toNat < 0x20 then
    ['\\', 'u', '0', '0', hexDigit (c.toNat / 16), hexDigit c.toNat]
  else [c]

/-- The characters of a JSON string, quotes included. -/
def stringChars (s : String) : List Char := '"' :: (s.toList.flatMap escape ++ ['"'])

/-! ### Values -/

mutual

/-- The characters of a JSON value. -/
def chars : Json → List Char
  | null => "null".toList
  | bool b => (if b then "true" else "false").toList
  | number n => Nat.toDigits 10 n
  | string s => stringChars s
  | list items => '[' :: (charsOfItems items ++ [']'])
  | object fields => '\x7b' :: (charsOfFields fields ++ ['\x7d'])

/-- The characters of list items, set apart by commas. -/
def charsOfItems : List Json → List Char
  | [] => []
  | [item] => item.chars
  | item :: next :: rest => item.chars ++ ',' :: charsOfItems (next :: rest)

/-- The characters of object fields, set apart by commas. -/
def charsOfFields : List (String × Json) → List Char
  | [] => []
  | [(name, value)] => stringChars name ++ ':' :: value.chars
  | (name, value) :: next :: rest =>
    stringChars name ++ ':' :: (value.chars ++ ',' :: charsOfFields (next :: rest))

end

mutual

/-- The characters of a JSON value behind those before it. Both come last character first. -/
def charsOnto : Json → List Char → List Char
  | list items, before => ']' :: charsOfItemsOnto items ('[' :: before)
  | object fields, before => '\x7d' :: charsOfFieldsOnto fields ('\x7b' :: before)
  | value, before => value.chars.reverseAux before

/-- The characters of list items behind those before them. -/
def charsOfItemsOnto : List Json → List Char → List Char
  | [], before => before
  | [item], before => item.charsOnto before
  | item :: next :: rest, before => charsOfItemsOnto (next :: rest) (',' :: item.charsOnto before)

/-- The characters of object fields behind those before them. -/
def charsOfFieldsOnto : List (String × Json) → List Char → List Char
  | [], before => before
  | [(name, value)], before => value.charsOnto (':' :: (stringChars name).reverseAux before)
  | (name, value) :: next :: rest, before =>
    charsOfFieldsOnto (next :: rest)
      (',' :: value.charsOnto (':' :: (stringChars name).reverseAux before))

end

/-- The text of a JSON value. It is put together from its end, so that a long list takes no more
room than a short one. -/
def render (value : Json) : String := String.ofList (value.charsOnto []).reverse

mutual

theorem charsOnto_eq (value : Json) (before : List Char) :
    value.charsOnto before = value.chars.reverse ++ before := by
  match value with
  | .null | .bool _ | .number _ | .string _ => simp [charsOnto, List.reverseAux_eq]
  | .list items => simp [charsOnto, chars, charsOfItemsOnto_eq items]
  | .object fields => simp [charsOnto, chars, charsOfFieldsOnto_eq fields]

theorem charsOfItemsOnto_eq (items : List Json) (before : List Char) :
    charsOfItemsOnto items before = (charsOfItems items).reverse ++ before := by
  match items with
  | [] => rfl
  | [item] => exact charsOnto_eq item before
  | item :: next :: rest =>
    simp [charsOfItemsOnto, charsOfItems, charsOnto_eq item, charsOfItemsOnto_eq (next :: rest)]

theorem charsOfFieldsOnto_eq (fields : List (String × Json)) (before : List Char) :
    charsOfFieldsOnto fields before = (charsOfFields fields).reverse ++ before := by
  match fields with
  | [] => rfl
  | [(name, value)] =>
    simp [charsOfFieldsOnto, charsOfFields, charsOnto_eq value, List.reverseAux_eq]
  | (name, value) :: next :: rest =>
    simp [charsOfFieldsOnto, charsOfFields, charsOnto_eq value, List.reverseAux_eq,
      charsOfFieldsOnto_eq (next :: rest)]

end

/-- **The text of a JSON value is made of its characters.** -/
theorem toList_render (value : Json) : value.render.toList = value.chars := by
  simp [render, charsOnto_eq]

/-! ### Shorthands -/

/-- A 32-bit number. -/
def word (n : UInt32) : Json := number n.toNat

/-- A string, or null. -/
def string? : Option String → Json
  | none => null
  | some s => string s

end Json

end ParcelLink
