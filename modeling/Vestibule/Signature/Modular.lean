/-! Arithmetic modulo a number. -/

namespace Vestibule.Modular

/-- `base ^ exponent` modulo `n`, by repeated squaring. -/
def pow (n base exponent : Nat) : Nat :=
  if h : exponent = 0 then 1 % n
  else
    let half := pow n (base * base % n) (exponent / 2)
    if exponent % 2 = 1 then base * half % n else half
termination_by exponent
decreasing_by omega

def sub (n a b : Nat) : Nat := (a + (n - b % n)) % n

/-- The inverse modulo a prime. -/
def inverse (p a : Nat) : Nat := pow p (a % p) (p - 2)

end Vestibule.Modular
