import EnergyReport.Text.Basic

namespace EnergyReport.Text

/-! Words in any letter case. -/

/-- The small form of a letter, as far as the French words looked for in reports
need it; the long s is a form of s. -/
def foldCase (c : Char) : Char :=
  if c = 'É' then 'é'
  else if c = 'Û' then 'û'
  else if c = '\u017F' then 's'
  else c.toLower

/-- The rest of a text that begins with `word` in any letter case; `word` itself
is written in small letters. -/
def stripWord? : Text → Text → Option Text
  | [], text => some text
  | _ :: _, [] => none
  | letter :: more, c :: text => if foldCase c = letter then stripWord? more text else none

/-- Letters of French and its neighbours: the unaccented ones and those of the
Latin-1 range, in either case. Capitals outside that range whose small form lies in
it count too: Ÿ, the Kelvin sign and the Ångström sign. -/
def isWordLetter (c : Char) : Bool :=
  let n := c.toNat
  ('a' ≤ c && c ≤ 'z') || ('A' ≤ c && c ≤ 'Z') ||
    (0xC0 ≤ n && n ≤ 0xDE && n != 0xD7) || (0xE0 ≤ n && n ≤ 0xFF && n != 0xF7) ||
    n == 0x178 || n == 0x212A || n == 0x212B

end EnergyReport.Text
