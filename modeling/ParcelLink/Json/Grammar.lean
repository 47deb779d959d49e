import Mathlib.Data.Rat.Defs
import ParcelLink.Json
import ParcelLink.Text.Utf16

/-!
# The grammar of JSON texts

A JSON text says a tree (`Json.Tree`), and there are many texts that say the same: blanks may stand
around every value and every name, a number may have a sign, a fraction and an exponent, and a
character of a string may be escaped by a letter or by the hexadecimal digits of its UTF-16 units.
The grammar has a rule for each of these, whether or not the link writes texts of that form.

A rule relates what is said, a text that begins with it, and what stands behind it in the text. So
`Json.Grammar.Value tree text rest` says that `text` is a value, which says `tree`, and then `rest`.

## Main definitions

* `Json.Tree`: what a JSON text says.
* `Json.Grammar.Number`, `Json.Grammar.Quoted`, `Json.Grammar.Value`: the rules for numbers, strings
  and values.
* `Json.Says`: that a text as a whole says a tree.
* `Json.tree`: what is to be said of a value of the link.
-/

namespace ParcelLink.Json

/-- What a JSON text says. Its numbers may be any decimal fractions, while those of the link are
natural. -/
inductive Tree where
  | null
  | bool (b : Bool)
  | number (q : ℚ)
  | string (s : String)
  | list (items : List Tree)
  | object (fields : List (String × Tree))

namespace Grammar

/-! ### Blanks -/

/-- The characters that may stand around values and names. -/
def blanks : List Char := [' ', '\t', '\n', '\r']

/-- A text of blanks. -/
def Blank (text : List Char) : Prop := ∀ c ∈ text, c ∈ blanks

/-! ### Numbers -/

/-- A text of digits, one at least. -/
def Digits (text : List Char) : Prop := text ≠ [] ∧ ∀ c ∈ text, c.isDigit = true

/-- The number that digits spell. -/
def numberOf (digits : List Char) : Nat := Nat.ofDigitChars 10 digits 0

/-- The signs of an exponent, with their factors. -/
def exponentSigns : List (List Char × ℤ) := [([], 1), (['+'], 1), (['-'], -1)]

/-- The signs of a number, with their factors. -/
def numberSigns : List (List Char × ℤ) := [([], 1), (['-'], -1)]

/-- A natural number, without leading zeros. -/
inductive Whole : Nat → List Char → List Char → Prop
  | zero {rest : List Char} : Whole 0 ('0' :: rest) rest
  | digits {digits rest : List Char} (spelled : Digits digits)
    (first_ne : digits.head? ≠ some '0') : Whole (numberOf digits) (digits ++ rest) rest

/-- A fraction behind a point, or none. -/
inductive Fraction : ℚ → List Char → List Char → Prop
  | none {rest : List Char} : Fraction 0 rest rest
  | digits {digits rest : List Char} (spelled : Digits digits) :
    Fraction (numberOf digits / 10 ^ digits.length) ('.' :: (digits ++ rest)) rest

/-- An exponent of ten behind its mark, or none. -/
inductive Exponent : ℤ → List Char → List Char → Prop
  | none {rest : List Char} : Exponent 0 rest rest
  | digits {mark : Char} {sign digits rest : List Char} {factor : ℤ} (marked : mark ∈ ['e', 'E'])
    (signed : (sign, factor) ∈ exponentSigns) (spelled : Digits digits) :
    Exponent (factor * numberOf digits) (mark :: (sign ++ (digits ++ rest))) rest

/-- A decimal number. -/
inductive Number : ℚ → List Char → List Char → Prop
  | mk {sign text behindWhole behindFraction rest : List Char} {factor exponent : ℤ} {whole : Nat}
    {fraction : ℚ} (signed : (sign, factor) ∈ numberSigns)
    (whole_text : Whole whole text behindWhole)
    (fraction_text : Fraction fraction behindWhole behindFraction)
    (exponent_text : Exponent exponent behindFraction rest) :
    Number (factor * ((whole + fraction) * 10 ^ exponent)) (sign ++ text) rest

/-! ### Strings -/

/-- The letters that stand for a character behind a backslash. -/
def letters : List (Char × Char) :=
  [('"', '"'), ('\\', '\\'), ('/', '/'), ('b', '\x08'), ('f', '\x0c'), ('n', '\n'), ('r', '\r'),
    ('t', '\t')]

/-- The number of a hexadecimal digit, in either case. -/
def hexValue? (c : Char) : Option Nat :=
  if '0' ≤ c ∧ c ≤ '9' then some (c.toNat - '0'.toNat)
  else if 'a' ≤ c ∧ c ≤ 'f' then some (c.toNat - 'a'.toNat + 10)
  else if 'A' ≤ c ∧ c ≤ 'F' then some (c.toNat - 'A'.toNat + 10)
  else none

/-- The UTF-16 unit that four hexadecimal digits spell. -/
def hexUnit? (c₁ c₂ c₃ c₄ : Char) : Option UInt16 := do
  let digits ← [c₁, c₂, c₃, c₄].mapM hexValue?
  return UInt16.ofNat (digits.foldl (fun n digit ↦ 16 * n + digit) 0)

/-- A character of a string. -/
inductive Character : Char → List Char → List Char → Prop
  /-- A character that is no control stands for itself, but for the quote and the backslash. -/
  | plain {c : Char} {rest : List Char} (visible : 0x20 ≤ c.toNat) (ne_quote : c ≠ '"')
    (ne_backslash : c ≠ '\\') : Character c (c :: rest) rest
  /-- A letter stands for a character. -/
  | letter {letter c : Char} {rest : List Char} (stands : (letter, c) ∈ letters) :
    Character c ('\\' :: letter :: rest) rest
  /-- The digits of a unit that is no surrogate. -/
  | unit {c₁ c₂ c₃ c₄ : Char} {unit : UInt16} {rest : List Char}
    (spelled : hexUnit? c₁ c₂ c₃ c₄ = some unit) (not_high : Utf16.isHigh unit = false)
    (not_low : Utf16.isLow unit = false) :
    Character (Utf16.single unit) ('\\' :: 'u' :: c₁ :: c₂ :: c₃ :: c₄ :: rest) rest
  /-- The digits of a high surrogate and those of a low one. -/
  | pair {c₁ c₂ c₃ c₄ d₁ d₂ d₃ d₄ : Char} {high low : UInt16} {rest : List Char}
    (spelled : hexUnit? c₁ c₂ c₃ c₄ = some high) (spelled' : hexUnit? d₁ d₂ d₃ d₄ = some low)
    (is_high : Utf16.isHigh high = true) (is_low : Utf16.isLow low = true) :
    Character (Utf16.pair high low)
      ('\\' :: 'u' :: c₁ :: c₂ :: c₃ :: c₄ :: '\\' :: 'u' :: d₁ :: d₂ :: d₃ :: d₄ :: rest) rest

/-- Characters up to the closing quote. -/
inductive Characters : List Char → List Char → List Char → Prop
  | done {rest : List Char} : Characters [] ('"' :: rest) rest
  | more {c : Char} {cs text next rest : List Char} (first : Character c text next)
    (others : Characters cs next rest) : Characters (c :: cs) text rest

/-- A string in quotes. -/
inductive Quoted : String → List Char → List Char → Prop
  | mk {cs text rest : List Char} (characters : Characters cs text rest) :
    Quoted (String.ofList cs) ('"' :: text) rest

/-! ### Values -/

mutual

/-- A value. -/
inductive Value : Tree → List Char → List Char → Prop
  | null {rest : List Char} : Value .null ('n' :: 'u' :: 'l' :: 'l' :: rest) rest
  | yes {rest : List Char} : Value (.bool true) ('t' :: 'r' :: 'u' :: 'e' :: rest) rest
  | no {rest : List Char} : Value (.bool false) ('f' :: 'a' :: 'l' :: 's' :: 'e' :: rest) rest
  | number {q : ℚ} {text rest : List Char} (number : Number q text rest) :
    Value (.number q) text rest
  | string {s : String} {text rest : List Char} (quoted : Quoted s ('"' :: text) rest) :
    Value (.string s) ('"' :: text) rest
  | noItems {between rest : List Char} (blank : Blank between) :
    Value (.list []) ('[' :: (between ++ ']' :: rest)) rest
  | list {items : List Tree} {text rest : List Char} (items_text : Items items text (']' :: rest)) :
    Value (.list items) ('[' :: text) rest
  | noFields {between rest : List Char} (blank : Blank between) :
    Value (.object []) ('\x7b' :: (between ++ '\x7d' :: rest)) rest
  | object {fields : List (String × Tree)} {text rest : List Char}
    (fields_text : Fields fields text ('\x7d' :: rest)) :
    Value (.object fields) ('\x7b' :: text) rest

/-- A value between blanks. -/
inductive Element : Tree → List Char → List Char → Prop
  | mk {tree : Tree} {before text after rest : List Char} (blank_before : Blank before)
    (value : Value tree text (after ++ rest)) (blank_after : Blank after) :
    Element tree (before ++ text) rest

/-- Values set apart by commas, one at least. -/
inductive Items : List Tree → List Char → List Char → Prop
  | last {item : Tree} {text rest : List Char} (element : Element item text rest) :
    Items [item] text rest
  | more {item : Tree} {items : List Tree} {text next rest : List Char}
    (element : Element item text (',' :: next)) (others : Items items next rest) :
    Items (item :: items) text rest

/-- A name between blanks, a colon, and a value between blanks. -/
inductive Field : String × Tree → List Char → List Char → Prop
  | mk {name : String} {value : Tree} {before text after next rest : List Char}
    (blank_before : Blank before) (quoted : Quoted name text (after ++ ':' :: next))
    (blank_after : Blank after) (element : Element value next rest) :
    Field (name, value) (before ++ text) rest

/-- Fields set apart by commas, one at least. -/
inductive Fields : List (String × Tree) → List Char → List Char → Prop
  | last {field : String × Tree} {text rest : List Char} (field_text : Field field text rest) :
    Fields [field] text rest
  | more {field : String × Tree} {fields : List (String × Tree)} {text next rest : List Char}
    (field_text : Field field text (',' :: next)) (others : Fields fields next rest) :
    Fields (field :: fields) text rest

end

end Grammar

/-- A text as a whole says a tree. -/
def Says (text : String) (tree : Tree) : Prop := Grammar.Element tree text.toList []

/-! ### Values of the link -/

mutual

/-- What is to be said of a value of the link. -/
def tree : Json → Tree
  | null => .null
  | bool b => .bool b
  | number n => .number n
  | string s => .string s
  | list items => .list (treesOfItems items)
  | object fields => .object (treesOfFields fields)

/-- What is to be said of list items. -/
def treesOfItems : List Json → List Tree
  | [] => []
  | item :: rest => item.tree :: treesOfItems rest

/-- What is to be said of object fields. -/
def treesOfFields : List (String × Json) → List (String × Tree)
  | [] => []
  | (name, value) :: rest => (name, value.tree) :: treesOfFields rest

end

end ParcelLink.Json
