/-!
# Arithmetic to a modulus

Residues are natural numbers below the modulus.
-/

namespace CertScope.Modular

def minus (modulus left right : Nat) : Nat :=
  (left + modulus - right % modulus) % modulus

def power (base exponent modulus : Nat) : Nat :=
  if exponent = 0 then 1 % modulus
  else
    let half := power (base * base % modulus) (exponent / 2) modulus
    if exponent % 2 = 1 then base * half % modulus else half
termination_by exponent

/-- The inverse of a nonzero residue of a prime, by Fermat's little theorem. -/
def inverse (prime number : Nat) : Nat := power number (prime - 2) prime

end CertScope.Modular
