import ScreenBridge.Session

/-!
# Identifiers by counting

A supply of identifiers that counts from one, in decimal digits with zeros in front. The zeros do
not change the number that the digits spell, so no two are the same.
-/

namespace ScreenBridge

/-- How many digits an identifier has at least. -/
def idDigits : Nat := 26

def countedId (number : Nat) : String :=
  let digits := Nat.toDigits 10 (number + 1)
  String.ofList (List.replicate (idDigits - digits.length) '0' ++ digits)

/-- The number behind an identifier: its digits read as a decimal, minus the one the count starts
from. -/
def countOfDigits (digits : List Char) : Nat :=
  Nat.ofDigitChars 10 digits 0 - 1

theorem countOfDigits_padded (k n : Nat) :
    countOfDigits (List.replicate k '0' ++ Nat.toDigits 10 (n + 1)) = n := by
  rw [countOfDigits, Nat.ofDigitChars_append, Nat.ofDigitChars_replicate_zero,
    Nat.mul_zero, Nat.ofDigitChars_toDigits (by decide) (by decide)]
  rfl

theorem countedId_inj {m n : Nat} (h : countedId m = countedId n) : m = n := by
  have hdigits := String.ofList_injective h
  have hm := countOfDigits_padded (idDigits - (Nat.toDigits 10 (m + 1)).length) m
  rw [hdigits, countOfDigits_padded] at hm
  exact hm.symm

instance : IdSupply := ⟨countedId, countedId_inj⟩

end ScreenBridge
