/-
Decimal digits of every script, and the wider class of digits that also holds superscript and
circled ones, by Unicode 14. Only a decimal digit can stand in a number.
-/
namespace SampleTypes.Text

/-- The zeros of the scripts: each is followed by the nine other decimal digits of its script. -/
def decimalZeros : List Nat :=
  [
    48, 1632, 1776, 1984, 2406, 2534, 2662, 2790, 2918, 3046, 3174, 3302,
    3430, 3558, 3664, 3792, 3872, 4160, 4240, 6112, 6160, 6470, 6608, 6784,
    6800, 6992, 7088, 7232, 7248, 42528, 43216, 43264, 43472, 43504, 43600, 44016,
    65296, 66720, 68912, 69734, 69872, 69942, 70096, 70384, 70736, 70864, 71248, 71360,
    71472, 71904, 72016, 72784, 73040, 73120, 92768, 92864, 93008, 120782, 120792, 120802,
    120812, 120822, 123200, 123632, 125264, 130032
  ]

/-- Runs of digits that are not decimal digits, such as superscripts. -/
def otherDigits : List (Nat × Nat) :=
  [
    (178, 179), (185, 185), (4969, 4977), (6618, 6618), (8304, 8304), (8308, 8313),
    (8320, 8329), (9312, 9320), (9332, 9340), (9352, 9360), (9450, 9450), (9461, 9469),
    (9471, 9471), (10102, 10110), (10112, 10120), (10122, 10130), (68160, 68163), (69216, 69224),
    (69714, 69722), (127232, 127242)
  ]

/-- The value of a decimal digit. -/
def decimalValue? (c : Char) : Option Nat :=
  (decimalZeros.find? (fun first => first ≤ c.toNat && c.toNat ≤ first + 9)).map (c.toNat - ·)

/-- A digit in the wide sense: decimal, superscript or circled. -/
def isDigit (c : Char) : Bool :=
  (decimalValue? c).isSome || otherDigits.any (fun (first, last) => first ≤ c.toNat && c.toNat ≤ last)

/-- The number that a text of decimal digits writes; none if any other character occurs. -/
def decimalNumber? (s : String) : Option Nat :=
  s.toList.foldlM (fun total c => (decimalValue? c).map (total * 10 + ·)) 0

/-- The greatest number of digits with which a whole number is read. -/
def maxDigits : Nat := 4300

/-- The words for a whole number with too many digits. -/
def tooManyDigits (count : Nat) : String :=
  "Exceeds the limit (" ++ toString maxDigits ++ " digits) for integer string conversion: value has "
    ++ toString count ++ " digits; use sys.set_int_max_str_digits() to increase the limit"

end SampleTypes.Text
