import Mathlib.Data.Nat.Digits
import N64Emu.Frontend.Main

namespace N64Emu.Frontend

-- `format_size`

-- `n / d` rounded to the nearest natural number, ties to the even one.
def roundHalfEven (n d : Nat) : Nat :=
  if 2 * (n % d) < d then n / d
  else if d < 2 * (n % d) then n / d + 1
  else if n / d % 2 = 0 then n / d else n / d + 1

-- `(double)n` for `0 ≤ n`: exact below 2^53, else rounded to the 53 bits of a double's
-- significand, ties to even.
def toDouble (n : Nat) : Nat :=
  if n < 9007199254740992 then n
  else
    let dropped := Nat.log2 n + 1 - 53
    roundHalfEven n (2 ^ dropped) * 2 ^ dropped

-- `x / 2^k` in hundredths, as `%.2f` rounds the exact binary value: to nearest, ties to even.
def hundredths (x k : Nat) : Nat := roundHalfEven (x * 100) (2 ^ k)

-- The text `%.2f` prints for `h` hundredths.
def fixed2 (h : Nat) : List UInt8 :=
  bytes (toString (h / 100)) ++ bytes (".") ++ bytes (toString (h % 100 / 10)) ++
    bytes (toString (h % 10))

-- The text `format_size` formats for a `long` size: bytes below 1 KiB, else the size over
-- 1024.0, 1024.0 * 1024.0 or 1024.0 * 1024.0 * 1024.0 with two decimals.
def sizeText (size : Int) : List UInt8 :=
  if size < 1024 then bytes (toString size) ++ bytes (" B")
  else if size < 1024 * 1024 then fixed2 (hundredths (toDouble size.toNat) 10) ++ bytes (" KB")
  else if size < 1024 * 1024 * 1024 then
    fixed2 (hundredths (toDouble size.toNat) 20) ++ bytes (" MB")
  else fixed2 (hundredths (toDouble size.toNat) 30) ++ bytes (" GB")

-- `format_size(size, buffer, buf_size)`: what `snprintf` leaves in the buffer.
def formatSize (size : Int) (bufSize : Nat) : List UInt8 :=
  (sizeText size).take (bufSize - 1)

-- Rounding

theorem roundHalfEven_le (n d : Nat) : roundHalfEven n d ≤ n / d + 1 := by
  unfold roundHalfEven; split_ifs <;> omega

-- A `long` converts to a double at most 1024 above it.
theorem toDouble_le {n : Nat} (h : n < 9223372036854775808) : toDouble n ≤ n + 1024 := by
  unfold toDouble
  split_ifs with hsmall
  · omega
  · have hlog : Nat.log2 n < 63 := (Nat.log2_lt (by omega)).2 h
    have hd : 2 ^ (Nat.log2 n + 1 - 53) ≤ 1024 :=
      (Nat.pow_le_pow_right (by omega) (by omega : Nat.log2 n + 1 - 53 ≤ 10)).trans_eq rfl
    have hq := roundHalfEven_le n (2 ^ (Nat.log2 n + 1 - 53))
    have hdiv := Nat.div_mul_le_self n (2 ^ (Nat.log2 n + 1 - 53))
    calc roundHalfEven n (2 ^ (Nat.log2 n + 1 - 53)) * 2 ^ (Nat.log2 n + 1 - 53)
        ≤ (n / 2 ^ (Nat.log2 n + 1 - 53) + 1) * 2 ^ (Nat.log2 n + 1 - 53) :=
          Nat.mul_le_mul_right _ hq
      _ ≤ n + 1024 := by rw [Nat.add_mul, Nat.one_mul]; omega

-- What `format_size` prints

@[simp] theorem length_bytes (s : String) : (bytes s).length = s.length := by
  rw [bytes, List.length_map]; rfl

theorem length_toString_nat {m e : Nat} (he : 0 < e) (h : m < 10 ^ e) :
    (toString m).length ≤ e :=
  Nat.repr_length m e he h

theorem length_fixed2 {h e : Nat} (he : 0 < e) (hh : h / 100 < 10 ^ e) :
    (fixed2 h).length ≤ e + 3 := by
  have h1 := length_toString_nat he hh
  have h2 := length_toString_nat (m := h % 100 / 10) (e := 1) (by omega) (by omega)
  have h3 := length_toString_nat (m := h % 10) (e := 1) (by omega) (by omega)
  simp only [fixed2, List.length_append, length_bytes] at h1 h2 h3 ⊢
  have : ".".length = 1 := rfl
  omega

-- Every `long` size prints in at most 22 bytes: the 32-byte `size_str` of the file list never
-- cuts it.
theorem sizeText_length (size : Int) (hlo : -9223372036854775808 ≤ size)
    (hhi : size < 9223372036854775808) :
    (sizeText size).length ≤ 22 ∧ formatSize size 32 = sizeText size := by
  suffices h : (sizeText size).length ≤ 22 from
    ⟨h, List.take_of_length_le (by omega)⟩
  unfold sizeText
  split_ifs with hb hk hm
  · -- "%ld B"
    simp only [List.length_append, length_bytes]
    cases size with
    | ofNat m =>
      rw [Int.ofNat_eq_coe] at hb
      have := length_toString_nat (m := m) (e := 4) (by omega) (by omega)
      change (toString m).length + 2 ≤ 22
      omega
    | negSucc m =>
      rw [Int.negSucc_eq] at hlo
      have := length_toString_nat (m := m + 1) (e := 19) (by omega) (by omega)
      change ("-" ++ toString (m + 1)).length + 2 ≤ 22
      rw [String.length_append]
      have : "-".length = 1 := rfl
      omega
  -- "%.2f KB", "%.2f MB", "%.2f GB": at most ten digits before the point
  all_goals
    have hx := toDouble_le (n := size.toNat) (by omega)
    have hh := roundHalfEven_le (toDouble size.toNat * 100)
    simp only [List.length_append, length_bytes, hundredths] at hh ⊢
    refine (Nat.add_le_add_right (length_fixed2 (e := 10) (by omega) ?_) _).trans (by decide)
    exact (Nat.div_le_div_right (hh _)).trans_lt (by omega)

theorem sizeText_length_min :
    (-9223372036854775808 ≤ (-9223372036854775808 : Int) ∧
      (-9223372036854775808 : Int) < 9223372036854775808) ∧
    (sizeText (-9223372036854775808)).length ≤ 22 ∧
      formatSize (-9223372036854775808) 32 = sizeText (-9223372036854775808) :=
  ⟨by decide, sizeText_length _ (by decide) (by decide)⟩

example : formatSize 1048575 32 = bytes ("1024.00 KB") := by decide

end N64Emu.Frontend
