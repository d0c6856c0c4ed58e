import SessionPool.Text.Hidden
import SessionPool.Text.Numeral

/-!
# Quoted text

How a text or a row of bytes is shown between double quotes: quotes and backslashes take a
backslash, the common controls have letters of their own, and whatever has no glyph is written by
its number.
-/

set_option autoImplicit false

namespace SessionPool.Text

/-- How one character stands in quoted text. -/
def quotedChar (c : Char) : String :=
  if c = '\x00' then "\\0"
  else if c = '\t' then "\\t"
  else if c = '\n' then "\\n"
  else if c = '\r' then "\\r"
  else if c = '"' then "\\\""
  else if c = '\\' then "\\\\"
  else if c.toNat < 32 || c.toNat = 127 || (127 < c.toNat && isHidden c) then
    "\\u\x7b" ++ hex 1 c.toNat ++ "\x7d"
  else String.singleton c

def quoted (s : String) : String :=
  "\"" ++ String.join (s.toList.map quotedChar) ++ "\""

/-- How one byte stands in a quoted row of bytes. -/
def quotedByte (b : UInt8) : String :=
  if b = 10 then "\\n"
  else if b = 13 then "\\r"
  else if b = 9 then "\\t"
  else if b = 92 then "\\\\"
  else if b = 34 then "\\\""
  else if b = 0 then "\\0"
  else if 32 ≤ b ∧ b < 127 then String.singleton (Char.ofNat b.toNat)
  else "\\x" ++ hex 2 b.toNat

/-- A row of bytes between double quotes, after the letter `b`. -/
def quotedBytes (bytes : List UInt8) : String :=
  "b\"" ++ String.join (bytes.map quotedByte) ++ "\""

/-- An optional value: `None`, or `Some` with the text of the value. -/
def shownOption : Option String → String
  | none => "None"
  | some s => "Some(" ++ s ++ ")"

/-- A record: its name, and its fields with their texts. -/
def shownRecord (name : String) (fields : List (String × String)) : String :=
  name ++ " \x7b " ++ ", ".intercalate (fields.map fun f => f.1 ++ ": " ++ f.2) ++ " \x7d"

/-- A list: the texts of its members between square brackets. -/
def shownList (items : List String) : String := "[" ++ ", ".intercalate items ++ "]"

/-- A map: its keys and values between braces. -/
def shownMap (entries : List (String × String)) : String :=
  "\x7b" ++ ", ".intercalate (entries.map fun e => e.1 ++ ": " ++ e.2) ++ "\x7d"

end SessionPool.Text
