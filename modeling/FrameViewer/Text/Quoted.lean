import FrameViewer.Text.Invisible

/-! The quoted form of a text in a diagnostic: quotes and backslashes are escaped, so are the
characters that leave no mark of their own. -/

namespace FrameViewer.Text

/-- Hexadecimal digits of a number without leading zeros. -/
def shortHex (n : Nat) : String :=
  String.ofList (Nat.toDigits 16 n)

def escaped (c : Char) : String :=
  if c = '"' then "\\\""
  else if c = '\\' then "\\\\"
  else if c = '\n' then "\\n"
  else if c = '\r' then "\\r"
  else if c = '\t' then "\\t"
  else if c.toNat = 0 then "\\0"
  else if isInvisible c then "\\u\x7b" ++ shortHex c.toNat ++ "\x7d"
  else c.toString

/-- The text between double quotes with every special character escaped. -/
def quoted (text : String) : String :=
  "\"" ++ String.join (text.toList.map escaped) ++ "\""

end FrameViewer.Text
