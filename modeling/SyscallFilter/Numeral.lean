import SyscallFilter.Bytes

/-! Written numbers: decimal and hexadecimal numerals, padded to a width where an output asks for
    it, and the reading of a signed decimal numeral. -/

namespace SyscallFilter.Numeral

open SyscallFilter

/-- The decimal numeral of a natural number, without leading zeros. -/
def decimal (n : Nat) : Bytes := (Nat.toDigits 10 n).map Char.toUInt8

/-- The decimal numeral of an integer; only a negative one has a sign. -/
def signed : Int → Bytes
  | .ofNat n => decimal n
  | .negSucc n => Bytes.ascii '-' :: decimal (n + 1)

/-- The hexadecimal numeral of a natural number, in lower case and without leading zeros. -/
def hex (n : Nat) : Bytes := (Nat.toDigits 16 n).map Char.toUInt8

/-- A numeral filled up with zeros on the left to at least `width` digits. -/
def padded (width : Nat) (digits : Bytes) : Bytes :=
  List.replicate (width - digits.length) (Bytes.ascii '0') ++ digits

/-- The hexadecimal numeral with its mark `0x` in front. -/
def markedHex (n : Nat) : Bytes := utf8 "0x" ++ hex n

/-- A word as eight hexadecimal digits behind `0x`. -/
def wordHex (w : UInt32) : Bytes := utf8 "0x" ++ padded 8 (hex w.toNat)

/-- The value of a decimal digit. -/
def digit? (b : UInt8) : Option Nat :=
  if 48 ≤ b.toNat ∧ b.toNat ≤ 57 then some (b.toNat - 48) else none

/-- The value of a string of decimal digits read on from `acc`, if all of it is digits. -/
def readDigits (acc : Nat) : Bytes → Option Nat
  | [] => some acc
  | b :: rest =>
    match digit? b with
    | some d => readDigits (10 * acc + d) rest
    | none => none

/-- The value of a non-empty string of decimal digits. -/
def readNat? : Bytes → Option Nat
  | [] => none
  | digits => readDigits 0 digits

/-- The value of a numeral with an optional sign, whatever its size. -/
def readSigned? : Bytes → Option Int
  | [] => none
  | b :: rest =>
    if b = Bytes.ascii '-' then (readNat? rest).map fun n => -(n : Int)
    else if b = Bytes.ascii '+' then (readNat? rest).map fun n => (n : Int)
    else (readNat? (b :: rest)).map fun n => (n : Int)

/-- Whether an integer fits into a signed machine word of 64 bits. -/
def fitsWord (n : Int) : Bool := -0x8000000000000000 ≤ n && n < 0x8000000000000000

/-- The value of a numeral with an optional sign that fits into a signed word of 64 bits. -/
def readInt? (text : Bytes) : Option Int :=
  match readSigned? text with
  | some n => if fitsWord n then some n else none
  | none => none

end SyscallFilter.Numeral
