/-! Upper-case hexadecimal text of natural numbers. -/
namespace Chip8.Text

/-- The digit for a value below sixteen. -/
def hexDigit (value : Nat) : Char :=
  if value < 10 then Char.ofNat (48 + value) else Char.ofNat (55 + value)

/-- The last `width` digits, leading zeros included. -/
def hexDigits : Nat → Nat → List Char
  | 0, _ => []
  | width + 1, value => hexDigits width (value / 16) ++ [hexDigit (value % 16)]

/-- The fewest digits that show the whole value; zero has one. -/
def hexLength (value : Nat) : Nat := value.log2 / 4 + 1

/-- All digits of a value, padded with zeros to at least `width` of them. -/
def hex (width value : Nat) : String :=
  String.ofList (hexDigits (max width (hexLength value)) value)

end Chip8.Text
