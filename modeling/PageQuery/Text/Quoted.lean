import PageQuery.Text.Basic
import PageQuery.Text.Visible

/-!
Texts between double quotes, for records: every character that is not visible is written by its
number, so the quoted form shows exactly which text it is.
-/
namespace PageQuery.Text

def quotedChar (c : Char) : Text :=
  if c = '\x00' then "\\0"
  else if c = '\t' then "\\t"
  else if c = '\r' then "\\r"
  else if c = '\n' then "\\n"
  else if c = '\\' then "\\\\"
  else if c = '"' then "\\\""
  else if isVisible c then [c]
  else "\\u\x7b" ++ ofNatHex c.toNat ++ "\x7d"

def quoted (t : Text) : Text := '"' :: t.flatMap quotedChar ++ ['"']

end PageQuery.Text
