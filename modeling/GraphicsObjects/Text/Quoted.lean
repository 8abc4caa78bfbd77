import GraphicsObjects.Text.Escaped

/-! Texts in double quotes, as logs show them. -/

namespace GraphicsObjects.Text

/-- A character inside quotes: a backslash before a quote or a backslash, a letter for the common
controls, the number for what does not show. -/
def quoteChar (c : Char) : String :=
  if c = '\x00' then "\\0"
  else if c = '\t' then "\\t"
  else if c = '\r' then "\\r"
  else if c = '\n' then "\\n"
  else if c = '\\' then "\\\\"
  else if c = '"' then "\\\""
  else if isEscaped c then
    "\\u\x7b" ++ String.ofList (Nat.toDigits 16 c.toNat) ++ "\x7d"
  else String.singleton c

def quote (s : String) : String := "\"" ++ String.join (s.toList.map quoteChar) ++ "\""

end GraphicsObjects.Text
