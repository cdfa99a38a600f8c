import Mathlib.Data.List.Basic

namespace N64Emu.Frontend

-- A C string is the list of bytes of its buffer up to the terminating NUL. The functions read
-- it as the C library does, so a NUL inside the list also ends the string.

def PATH_SEPARATOR : UInt8 := '/'.toUInt8
def MAX_PATH_LENGTH : Nat := 1024
def MAX_FILES : Nat := 512

def DOT : List UInt8 := ['.'.toUInt8]
def DOTDOT : List UInt8 := ['.'.toUInt8, '.'.toUInt8]

-- The bytes `%s` prints and `strlen` counts: those before the first NUL.
def cstr (s : List UInt8) : List UInt8 :=
  s.takeWhile (·.toNat ≠ 0)

-- `strcmp`: the difference of the first differing bytes, as `unsigned char` promoted to `int`.
def strcmp : List UInt8 → List UInt8 → Int
  | x :: xs, y :: ys =>
    if x.toNat ≠ 0 ∧ x.toNat = y.toNat then strcmp xs ys else (x.toNat : Int) - y.toNat
  | x :: _, [] => x.toNat
  | [], y :: _ => -(y.toNat : Int)
  | [], [] => 0

-- `strchr(s, c)` for a byte `c ≠ '\0'`: the offset of the first `c` before the end of the string.
def strchr (c : UInt8) : List UInt8 → Option Nat
  | [] => none
  | x :: xs => if x = c then some 0 else if x.toNat = 0 then none else (strchr c xs).map (· + 1)

-- `strrchr(s, c)` for a byte `c ≠ '\0'`: the offset of the last `c` before the end of the string.
def strrchr (c : UInt8) : List UInt8 → Option Nat
  | [] => none
  | x :: xs =>
    if x.toNat = 0 then none
    else match strrchr c xs with
      | some k => some (k + 1)
      | none => if x = c then some 0 else none

-- `isspace` in the C locale: space, `\t`, `\n`, `\v`, `\f` and `\r`.
def isspace (x : UInt8) : Bool :=
  x.toNat = 32 || (9 ≤ x.toNat && x.toNat ≤ 13)

-- `strcmp` is a comparison

theorem strcmp_nil_left_nonpos (b : List UInt8) : strcmp [] b ≤ 0 := by
  cases b <;> simp only [strcmp] <;> omega

theorem strcmp_cons_nil_pos {x : UInt8} {xs : List UInt8} (h : x.toNat ≠ 0) :
    0 < strcmp (x :: xs) [] := by
  simp only [strcmp]; omega

-- `strcmp` orders strings: a positive result is transitive.
theorem strcmp_pos_trans : ∀ {a b c : List UInt8}, 0 < strcmp a b → 0 < strcmp b c →
    0 < strcmp a c
  | [], b, _, h, _ => absurd h (Int.not_lt.2 (strcmp_nil_left_nonpos b))
  | _ :: _, [], c, _, h => absurd h (Int.not_lt.2 (strcmp_nil_left_nonpos c))
  | x :: xs, y :: ys, [], h, _ => by
    apply strcmp_cons_nil_pos
    simp only [strcmp] at h
    split at h <;> omega
  | x :: xs, y :: ys, z :: zs, h₁, h₂ => by
    simp only [strcmp] at h₁ h₂ ⊢
    split at h₁ <;> split at h₂
    · rw [if_pos (by omega)]
      exact strcmp_pos_trans h₁ h₂
    all_goals rw [if_neg (by omega)]; omega

-- C strings and `strchr`

theorem cstr_cons (x : UInt8) (xs : List UInt8) :
    cstr (x :: xs) = if x.toNat = 0 then [] else x :: cstr xs := by
  by_cases h : x.toNat = 0 <;> simp [cstr, List.takeWhile_cons, h]

theorem cstr_nul_free (s : List UInt8) : ∀ x ∈ cstr s, x.toNat ≠ 0 := fun _ hx => by
  simpa using List.mem_takeWhile_imp hx

theorem cstr_eq_self {s : List UInt8} (h : ∀ x ∈ s, x.toNat ≠ 0) : cstr s = s :=
  List.takeWhile_eq_self_iff.2 fun x hx => by simpa using h x hx

-- Within the C string, `take` reads only the C string.
theorem take_of_le_cstr_length {s : List UInt8} {k : Nat} (h : k ≤ (cstr s).length) :
    s.take k = (cstr s).take k := by
  conv_lhs => rw [← List.takeWhile_append_dropWhile (fun x : UInt8 => decide (x.toNat ≠ 0)) s]
  exact List.take_append_of_le_length h

-- `strcmp` reads its right operand only up to the NUL.
theorem strcmp_cstr_right : ∀ a b : List UInt8, strcmp a (cstr b) = strcmp a b
  | _, [] => rfl
  | [], y :: ys => by
    rw [cstr_cons]; split_ifs with hy
    · simp only [strcmp, hy]; omega
    · rfl
  | x :: xs, y :: ys => by
    rw [cstr_cons]; split_ifs with hy
    · simp only [strcmp, hy]; split_ifs <;> omega
    · simp only [strcmp, strcmp_cstr_right xs ys]

theorem strchr_eq_none {c : UInt8} {s : List UInt8} (h : c ∉ s) : strchr c s = none := by
  induction s with
  | nil => rfl
  | cons x xs ih =>
    simp only [List.mem_cons, not_or] at h
    simp [strchr, Ne.symm h.1, ih h.2]

-- Past a prefix without `c` or a NUL, `strchr` finds `c` where it finds it in the rest.
theorem strchr_append {c : UInt8} {pre : List UInt8} (hc : c ∉ pre) (h0 : ∀ x ∈ pre, x.toNat ≠ 0)
    (rest : List UInt8) : strchr c (pre ++ rest) = (strchr c rest).map (· + pre.length) := by
  induction pre with
  | nil => simp
  | cons x xs ih =>
    simp only [List.mem_cons, not_or, forall_eq_or_imp] at hc h0
    rw [List.cons_append, strchr, if_neg (Ne.symm hc.1), if_neg h0.1, ih hc.2 h0.2, Option.map_map]
    rfl

-- Past a prefix without `c` or a NUL, `strchr` finds the `c` that follows it.
theorem strchr_first {c : UInt8} {pre : List UInt8} (hc : c ∉ pre) (h0 : ∀ x ∈ pre, x.toNat ≠ 0)
    (post : List UInt8) : strchr c (pre ++ c :: post) = some pre.length := by
  rw [strchr_append hc h0]; simp [strchr]

-- A list that holds `c` splits at its first `c`.
theorem exists_split_first {c : UInt8} {v : List UInt8} (h : c ∈ v) :
    ∃ pre post, v = pre ++ c :: post ∧ c ∉ pre ∧ v.takeWhile (· ≠ c) = pre := by
  induction v with
  | nil => cases h
  | cons x xs ih =>
    by_cases hx : x = c
    · exact ⟨[], xs, by simp [hx], List.not_mem_nil c, by simp [hx]⟩
    · obtain ⟨pre, post, rfl, hpre, htake⟩ := ih ((List.mem_cons.1 h).resolve_left (Ne.symm hx))
      exact ⟨x :: pre, post, rfl, by simp [Ne.symm hx, hpre],
        by rw [List.takeWhile_cons, if_pos (by simpa using hx), htake]⟩

theorem strchr_cstr_of_mem {c : UInt8} {s : List UInt8} (hc : c ∈ cstr s) :
    ∃ k, strchr c (cstr s) = some k := by
  obtain ⟨pre, post, hsplit, hpre, -⟩ := exists_split_first hc
  have h0 := cstr_nul_free s
  rw [hsplit] at h0 ⊢
  exact ⟨_, strchr_first hpre (fun x hx => h0 x (by simp [hx])) post⟩

-- `strrchr`

theorem strrchr_cstr (c : UInt8) : ∀ s : List UInt8, strrchr c (cstr s) = strrchr c s
  | [] => rfl
  | x :: xs => by
    rw [cstr_cons]; split_ifs with hx
    · simp [strrchr, hx]
    · simp [strrchr, hx, strrchr_cstr c xs]

theorem strrchr_eq_none {c : UInt8} {s : List UInt8} (h : c ∉ s) : strrchr c s = none := by
  induction s with
  | nil => rfl
  | cons x xs ih =>
    simp only [List.mem_cons, not_or] at h
    simp [strrchr, ih h.2, Ne.symm h.1]

-- Past a prefix without a NUL, `strrchr` finds a `c` that no later `c` follows.
theorem strrchr_append_cons {c : UInt8} {pre post : List UInt8} (hc : c.toNat ≠ 0)
    (h0 : ∀ x ∈ pre, x.toNat ≠ 0) (hpost : c ∉ post) :
    strrchr c (pre ++ c :: post) = some pre.length := by
  induction pre with
  | nil => simp [strrchr, hc, strrchr_eq_none hpost]
  | cons x xs ih =>
    simp only [List.mem_cons, forall_eq_or_imp] at h0
    simp [strrchr, h0.1, ih h0.2]

-- A list that holds `c` splits at its last `c`.
theorem exists_split_last {c : UInt8} {s : List UInt8} (h : c ∈ s) :
    ∃ pre post, s = pre ++ c :: post ∧ c ∉ post := by
  induction s with
  | nil => cases h
  | cons x xs ih =>
    by_cases hc : c ∈ xs
    · obtain ⟨pre, post, rfl, hpost⟩ := ih hc
      exact ⟨x :: pre, post, rfl, hpost⟩
    · exact ⟨[], xs, by rw [(List.mem_cons.1 h).resolve_right hc]; rfl, hc⟩

end N64Emu.Frontend
