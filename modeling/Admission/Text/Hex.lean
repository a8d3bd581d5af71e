/-!
# Hexadecimal digits

Digits are written in lower case and read in either case.
-/

namespace Admission.Hex

/-- The digit of a number below sixteen. -/
def digit (number : Nat) : Char :=
  if number < 10 then Char.ofNat (48 + number) else Char.ofNat (87 + number)

/-- The number of a digit of either case. -/
def value? (character : Char) : Option Nat :=
  let code := character.toNat
  if 48 ≤ code ∧ code ≤ 57 then some (code - 48)
  else if 97 ≤ code ∧ code ≤ 102 then some (code - 87)
  else if 65 ≤ code ∧ code ≤ 70 then some (code - 55)
  else none

theorem value?_digit (number : Nat) (small : number < 16) :
    value? (digit number) = some number := by
  have every : ∀ n : Fin 16, value? (digit n.val) = some n.val := by decide
  exact every ⟨number, small⟩

end Admission.Hex
