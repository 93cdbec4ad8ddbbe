/-!
# Numerals

Numbers in arguments and addresses are written with ASCII digits: no blanks, no separators. What
surrounds the digits, such as a sign, is up to the reader of the number.
-/

namespace StreamRtp.CommandLine

/-- The value of a digit in a base up to sixteen. Letters count in either case. -/
def digit? (base : Nat) (c : Char) : Option Nat :=
  let value :=
    if '0' ≤ c ∧ c ≤ '9' then c.toNat - 48
    else if 'a' ≤ c ∧ c ≤ 'f' then c.toNat - 87
    else if 'A' ≤ c ∧ c ≤ 'F' then c.toNat - 55
    else base
  if value < base then some value else none

/-- The number that one or more digits stand for. -/
def numeral? (base : Nat) : List Char → Option Nat
  | [] => none
  | digits => digits.foldlM (fun n c ↦ (digit? base c).map (base * n + ·)) 0

/-- A decimal number that may have a plus sign. -/
def unsigned? : List Char → Option Nat
  | '+' :: digits => numeral? 10 digits
  | digits => numeral? 10 digits

/-- A decimal number that may have a sign. -/
def signed? : List Char → Option Int
  | '-' :: digits => (numeral? 10 digits).map fun n ↦ -(n : Int)
  | digits => (unsigned? digits).map Int.ofNat

end StreamRtp.CommandLine
