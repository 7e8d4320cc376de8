/-!
# Numerals in messages

Addresses are written in lowercase hexadecimal after `0x`, with as few digits as the value needs
or padded with zeros to a fixed count. Table columns are padded with blanks on the left.
-/
namespace GpuSched.Numeral

/-- The hexadecimal digits of a number, lowercase, without leading zeros. -/
def hexDigits (value : Nat) : String := String.ofList (Nat.toDigits 16 value)

/-- The text padded on the left to at least `width` characters. -/
def padLeft (fill : Char) (width : Nat) (text : String) : String :=
  "".pushn fill (width - text.length) ++ text

/-- A number in hexadecimal after `0x`. -/
def hex (value : Nat) : String := "0x" ++ hexDigits value

/-- A number in hexadecimal after `0x`, with at least eight digits. -/
def hexWord (value : Nat) : String := "0x" ++ padLeft '0' 8 (hexDigits value)

/-- A column of at least `width` characters, aligned to the right. -/
def column (width : Nat) (text : String) : String := padLeft ' ' width text

end GpuSched.Numeral
