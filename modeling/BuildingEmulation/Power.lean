/-!
# Powers

Powers of two and of ten, which bound words, scale doubles and place decimal points.

Results:
* `pow2_pos`: powers are positive.
-/
namespace BuildingEmulation

def pow2 (n : Nat) : Nat := Nat.pow 2 n

def pow10 (n : Nat) : Nat := Nat.pow 10 n

theorem pow2_pos (n : Nat) : 0 < pow2 n := Nat.pow_pos (by decide)

end BuildingEmulation
