import ParcelLink.Text.Hidden

/-!
# Quoted text

Where a string or a character is shown inside a larger text it stands in quotes, and what could be
mistaken there is escaped: the quote itself, the backslash, the tab and the line ends by a letter,
the null character as `\0`, and every hidden character by its code point.
-/

namespace ParcelLink.Text

/-- A character by its code point, in lowercase hexadecimal digits between braces. -/
def codePoint (c : Char) : String :=
  "\\u\x7b" ++ String.ofList (Nat.toDigits 16 c.toNat) ++ "\x7d"

/-- A character as it stands between quotes of a kind. -/
def escape (quote c : Char) : String :=
  if c = quote || c = '\\' then String.ofList ['\\', c]
  else if c = '\t' then "\\t"
  else if c = '\r' then "\\r"
  else if c = '\n' then "\\n"
  else if c.toNat = 0 then "\\0"
  else if isHidden c then codePoint c
  else c.toString

/-- A string in double quotes. -/
def quoted (s : String) : String := "\"" ++ String.join (s.toList.map (escape '"')) ++ "\""

/-- A character in single quotes. -/
def quotedChar (c : Char) : String := "'" ++ escape '\'' c ++ "'"

/-- Items in square brackets, set apart by commas. -/
def listed (items : List String) : String := "[" ++ ", ".intercalate items ++ "]"

/-- Named fields of something, in braces behind its name. -/
def fielded (name : String) (fields : List (String × String)) : String :=
  name ++ " \x7b " ++ ", ".intercalate (fields.map fun f ↦ f.1 ++ ": " ++ f.2) ++ " \x7d"

end ParcelLink.Text
