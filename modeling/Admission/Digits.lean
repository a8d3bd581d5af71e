/-!
# Digits of a fixed number of places

Identifiers and octets are written with a fixed number of digits, most significant first.
Main statement: reading the lowest digits of a number back gives the number modulo the
base to the power of the number of places (`ofDigits_lowDigits`).
-/

namespace Admission.Digits

/-- The lowest `count` digits of `number` in `base`, most significant first. -/
def lowDigits (base : Nat) : Nat → Nat → List Nat
  | 0, _ => []
  | count + 1, number => lowDigits base count (number / base) ++ [number % base]

/-- The number that `digits` write in `base`. -/
def ofDigits (base : Nat) (digits : List Nat) : Nat :=
  digits.foldl (fun number digit => number * base + digit) 0

@[simp] theorem length_lowDigits (base count number : Nat) :
    (lowDigits base count number).length = count := by
  induction count generalizing number with
  | zero => rfl
  | succ count hypothesis => simp [lowDigits, hypothesis]

theorem lt_of_mem_lowDigits {base count number digit : Nat} (positive : 0 < base)
    (member : digit ∈ lowDigits base count number) : digit < base := by
  induction count generalizing number with
  | zero => simp [lowDigits] at member
  | succ count hypothesis =>
      simp only [lowDigits, List.mem_append, List.mem_singleton] at member
      rcases member with earlier | last
      · exact hypothesis earlier
      · exact last ▸ Nat.mod_lt _ positive

theorem ofDigits_lowDigits (base count number : Nat) :
    ofDigits base (lowDigits base count number) = number % Nat.pow base count := by
  induction count generalizing number with
  | zero => simp [lowDigits, ofDigits, Nat.mod_one]
  | succ count hypothesis =>
      have earlier := hypothesis (number / base)
      simp only [ofDigits, lowDigits, List.foldl_append, List.foldl_cons, List.foldl_nil]
        at earlier ⊢
      rw [earlier]
      have split := @Nat.mod_mul base (Nat.pow base count) number
      rw [show Nat.pow base (count + 1) = base * Nat.pow base count from Nat.pow_succ' .. ]
      rw [split, Nat.mul_comm, Nat.add_comm]

end Admission.Digits
