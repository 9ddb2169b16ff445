import ChipEight.Text.Hex
import ChipEight.Text.Shown

/-!
# Quoted Text

Texts and characters in messages stand between quotes, with everything that
would be mistaken for something else, or not be seen, written as an escape.

## Main definitions

* `Text.escaped`: One character between quotes of a given kind.
* `Text.quoted`: A text between double quotes.
* `Text.quotedChar`: A character between single quotes.
-/

namespace ChipEight

namespace Text

/-- A character as it is written between quotes of the given kind. The other
    kind of quote needs no escape there. -/
def escaped (quote c : Char) : String :=
  if c = '\x00' then "\\0"
  else if c = '\t' then "\\t"
  else if c = '\n' then "\\n"
  else if c = '\r' then "\\r"
  else if c = '\\' || c = quote then "\\".push c
  else if showsItself c then "".push c
  else "\\u\x7b" ++ Hex.lower 1 c.toNat ++ "\x7d"

/-- A text between double quotes. -/
def quoted (text : String) : String :=
  "\"" ++ String.join (text.toList.map (escaped '"')) ++ "\""

/-- A character between single quotes. -/
def quotedChar (c : Char) : String :=
  "'" ++ escaped '\'' c ++ "'"

end Text

end ChipEight
