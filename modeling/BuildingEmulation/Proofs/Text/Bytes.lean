import Mathlib.Algebra.Group.Nat.Defs
import Mathlib.Tactic.SplitIfs

/-!
# The order of texts is that of their bytes

Texts are ordered by their characters. In UTF-8 a character takes one to four bytes: the first one
says how many follow and holds the highest bits, and each of the others holds six more. So of two
characters the greater one has the greater first byte, or the same one and the greater bits behind
it, and the bytes of two texts are ordered as the texts are.

Results:
* `encode_lt`: the bytes of two characters, whatever follows them.
* `bytes_lt`: the bytes of two texts.
-/
namespace BuildingEmulation.Text

/-- The bytes of a text in UTF-8. -/
def bytes (s : String) : List UInt8 := s.toUTF8.data.toList

theorem bytes_eq (s : String) : bytes s = s.toList.flatMap String.utf8EncodeChar := by
  rw [bytes, String.toUTF8_eq_toByteArray, ← String.utf8Encode_toList, List.utf8Encode,
    List.data_toByteArray]

/-! ## The bytes of a character -/

/-- How many bytes follow the first one of a code point. -/
def following (v : Nat) : Nat :=
  if v ≤ 127 then 0 else if v ≤ 2047 then 1 else if v ≤ 65535 then 2 else 3

/-- The first byte of a code point: its highest bits behind a mark for the number of bytes. -/
def leading (v : Nat) : Nat :=
  v / 64 ^ following v +
    if v ≤ 127 then 0 else if v ≤ 2047 then 192 else if v ≤ 65535 then 224 else 240

/-- The last bytes of a code point, six bits each. -/
def trailing : Nat → Nat → List UInt8
  | 0, _ => []
  | k + 1, v => trailing k (v / 64) ++ [UInt8.ofNat (v % 64 + 128)]

theorem toNat_lt (c : Char) : c.val.toNat < 0x110000 := by
  rcases c.valid with h | h
  · exact Nat.lt_trans h (by decide)
  · exact h.2

theorem encode_eq (c : Char) : String.utf8EncodeChar c =
    UInt8.ofNat (leading c.val.toNat) :: trailing (following c.val.toNat) c.val.toNat := by
  have hc := toNat_lt c
  simp only [String.utf8EncodeChar, leading, following]
  generalize c.val.toNat = v at hc
  -- the encoding masks the highest bits, of which there are no more than fit
  split_ifs
  · simp [trailing]
  · have hv : v / 64 % 32 = v / 64 := by omega
    simp [trailing, hv]
  · have hv : v / 4096 % 16 = v / 4096 := by omega
    simp [trailing, hv]
  · have hv : v / 262144 % 8 = v / 262144 := by omega
    simp [trailing, hv, Nat.div_div_eq_div_mul]

theorem ofNat_lt {i j : Nat} (hj : j < 256) (h : i < j) : UInt8.ofNat i < UInt8.ofNat j := by
  rw [UInt8.lt_iff_toNat_lt, UInt8.toNat_ofNat', UInt8.toNat_ofNat']
  omega

/-- The first bytes of two code points tell them apart, unless their highest bits are the same. -/
theorem leading_lt {m n : Nat} (h : m < n) (hn : n < 0x110000) :
    leading m < leading n ∨ leading m = leading n ∧ following m = following n ∧
      m / 64 ^ following m = n / 64 ^ following n := by
  simp only [leading, following]
  split_ifs <;> simp <;> omega

theorem leading_byte {v : Nat} (hv : v < 0x110000) : leading v < 256 := by
  simp only [leading, following]
  split_ifs <;> simp <;> omega

/-- Code points with the same highest bits are told apart by the bytes behind them. -/
theorem trailing_lt (k : Nat) {m n : Nat} (h : m < n) (hk : m / 64 ^ k = n / 64 ^ k)
    (t t' : List UInt8) : trailing k m ++ t < trailing k n ++ t' := by
  induction k generalizing m n t t' with
  | zero => simp only [Nat.pow_zero, Nat.div_one] at hk; omega
  | succ k ih =>
    rw [Nat.pow_succ', ← Nat.div_div_eq_div_mul, ← Nat.div_div_eq_div_mul] at hk
    simp only [trailing, List.append_assoc, List.singleton_append]
    by_cases hd : m / 64 = n / 64
    · rw [hd]
      have hb : UInt8.ofNat (m % 64 + 128) < UInt8.ofNat (n % 64 + 128) :=
        ofNat_lt (by omega) (by omega)
      exact List.append_left_lt (List.cons_lt_cons_iff.2 (.inl hb))
    · exact ih (by omega) hk _ _

theorem encode_lt {c d : Char} (h : c < d) (t t' : List UInt8) :
    String.utf8EncodeChar c ++ t < String.utf8EncodeChar d ++ t' := by
  have h : c.val.toNat < d.val.toNat := h
  rw [encode_eq, encode_eq, List.cons_append, List.cons_append, List.cons_lt_cons_iff]
  rcases leading_lt h (toNat_lt d) with hl | ⟨hl, hf, hq⟩
  · exact .inl (ofNat_lt (leading_byte (toNat_lt d)) hl)
  · rw [← hf] at hq ⊢
    exact .inr ⟨by rw [hl], trailing_lt _ h hq t t'⟩

/-! ## The bytes of a text -/

theorem flatMap_encode_lt {l l' : List Char} (h : List.Lex (· < ·) l l') :
    l.flatMap String.utf8EncodeChar < l'.flatMap String.utf8EncodeChar := by
  induction h with
  | nil =>
    rw [List.flatMap_nil, List.flatMap_cons, encode_eq, List.cons_append]
    exact List.nil_lt_cons _ _
  | rel h =>
    rw [List.flatMap_cons, List.flatMap_cons]
    exact encode_lt h _ _
  | cons _ ih =>
    rw [List.flatMap_cons, List.flatMap_cons]
    exact List.append_left_lt ih

theorem bytes_lt {a b : String} (h : a < b) : bytes a < bytes b := by
  rw [bytes_eq, bytes_eq]
  exact flatMap_encode_lt h

end BuildingEmulation.Text
