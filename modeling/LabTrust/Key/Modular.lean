/-
Arithmetic with remainders.

* `Modular.pow`: powers, by squaring.
* `Modular.inverse`: the number whose product with another leaves one, if the two share no divisor.
-/

namespace LabTrust

namespace Modular

/-- The remainder of a power. -/
def pow (m base exponent : Nat) : Nat :=
  if exponent = 0 then 1 % m
  else
    let rest := pow m (base * base % m) (exponent / 2)
    if exponent % 2 = 1 then base * rest % m else rest
termination_by exponent
decreasing_by omega

/-- The remainder of a difference. -/
def sub (m a b : Nat) : Nat := (a + (m - b % m)) % m

/-- Divides `a` by `b` until nothing is left, and keeps what the remainders are multiples of: `a`
leaves the remainder `x` times the number to invert, and `b` leaves `y` times it. -/
def inverseFrom (m : Nat) (a b x y : Nat) : Nat :=
  if b = 0 then x
  else inverseFrom m b (a % b) y (sub m x (a / b * y))
termination_by b
decreasing_by exact Nat.mod_lt _ (Nat.pos_of_ne_zero ‹_›)

/-- The number whose product with `a` leaves the remainder one. -/
def inverse (m a : Nat) : Nat := inverseFrom m m (a % m) 0 (1 % m)

end Modular

end LabTrust
