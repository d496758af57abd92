/-
Names in TOML text: those of plain letters, digits, underscores and hyphens can stand without quotes.
-/
import SampleTypes.Text.Reading

namespace SampleTypes.Toml

/-- A character of a name without quotes. -/
def isBare (c : Char) : Bool :=
  ('a' ≤ c && c ≤ 'z') || ('A' ≤ c && c ≤ 'Z') || Text.isDecimal c || c == '_' || c == '-'

/-- A name that can stand without quotes; a line feed at its end is let pass. -/
def isBareKey (k : String) : Bool :=
  let cs := k.toList
  let cs := if cs.getLast? = some '\n' then cs.dropLast else cs
  !cs.isEmpty && cs.all isBare

end SampleTypes.Toml
