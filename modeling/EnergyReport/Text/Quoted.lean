import EnergyReport.Text.Basic
import EnergyReport.Text.Printable

namespace EnergyReport.Text

/-! A text between quotation marks, as messages show the value they complain about. -/

/-- The form of one character inside quotation marks: quotation marks, backslashes
and the common controls have a short escape, other characters without a visible form
are written by their code point. -/
def quotedChar (c : Char) : Text :=
  if c = '"' then ['\\', '"']
  else if c = '\\' then ['\\', '\\']
  else if c = '\t' then ['\\', 't']
  else if c = '\r' then ['\\', 'r']
  else if c = '\n' then ['\\', 'n']
  else if c = '\x00' then ['\\', '0']
  else if isPrintable c then [c]
  else ['\\', 'u', '\x7b'] ++ Nat.toDigits 16 c.toNat ++ ['\x7d']

def quoted (text : Text) : Text :=
  '"' :: text.flatMap quotedChar ++ ['"']

end EnergyReport.Text
