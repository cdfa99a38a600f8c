import N64Emu.Frontend.FileManager

namespace N64Emu.Frontend

-- The paths `change_directory` leaves

theorem changedPath_dotdot (path : List UInt8) :
    changedPath path DOTDOT =
      match strrchr PATH_SEPARATOR path with
      | some k => if k ≠ 0 then path.take k else path
      | none => path :=
  if_pos (by decide)

-- Where the C string is `pre ++ "/" ++ post` with no separator in `post`, ".." leaves `pre`, or
-- the path as it was when `pre` is empty.
theorem changedPath_dotdot_of_split {path pre post : List UInt8}
    (hpath : cstr path = pre ++ PATH_SEPARATOR :: post) (hpost : PATH_SEPARATOR ∉ post) :
    changedPath path DOTDOT = if pre = [] then path else pre := by
  have h0 := cstr_nul_free path
  rw [hpath] at h0
  have hk : strrchr PATH_SEPARATOR path = some pre.length := by
    rw [← strrchr_cstr, hpath]
    exact strrchr_append_cons (by decide) (fun x hx => h0 x (by simp [hx])) hpost
  rw [changedPath_dotdot, hk]
  dsimp only
  by_cases hpre : pre = []
  · simp [hpre]
  · rw [if_neg hpre, if_pos (by simpa using hpre), take_of_le_cstr_length (by simp [hpath]), hpath,
      List.take_left]

-- Entering a directory and leaving it with ".." gives back the path (as a C string) with the
-- cursor at the top, when `snprintf` has room for the path, the separator and the name.
theorem changeDirectory_enter_leave (fm : FileManager) (d : List UInt8)
    (fs₁ fs₂ : List UInt8 → Option (List Dirent)) (hp : cstr fm.currentPath ≠ [])
    (hsep : PATH_SEPARATOR ∉ cstr d) (hdotdot : strcmp d DOTDOT ≠ 0)
    (hlen : (cstr fm.currentPath).length + 1 + (cstr d).length ≤ MAX_PATH_LENGTH - 1) :
    let fm' := changeDirectory (changeDirectory fm d fs₁) DOTDOT fs₂
    fm'.currentPath = cstr fm.currentPath ∧ fm'.selectedIndex = 0 ∧ fm'.scrollOffset = 0 := by
  have henter : changedPath fm.currentPath d = cstr fm.currentPath ++ PATH_SEPARATOR :: cstr d := by
    rw [changedPath, if_neg hdotdot]
    exact List.take_of_length_le (by simp; omega)
  have h0 : ∀ x ∈ cstr fm.currentPath ++ PATH_SEPARATOR :: cstr d, x.toNat ≠ 0 := by
    simp only [List.mem_append, List.mem_cons]
    rintro x (hx | rfl | hx)
    exacts [cstr_nul_free _ x hx, by decide, cstr_nul_free _ x hx]
  refine ⟨?_, rfl, rfl⟩
  simp only [changeDirectory_currentPath, henter]
  rw [changedPath_dotdot_of_split (cstr_eq_self h0) hsep, if_neg hp]

-- At the root the separator is doubled on the way in ("//roms") and cut off on the way out.
theorem changeDirectory_enter_leave_root :
    let fm : FileManager := ⟨[PATH_SEPARATOR], fun _ => ⟨[], false, 0⟩, 0, 0, 0, 15⟩
    let d := ['r'.toUInt8, 'o'.toUInt8, 'm'.toUInt8, 's'.toUInt8]
    (cstr fm.currentPath ≠ [] ∧ PATH_SEPARATOR ∉ cstr d ∧ strcmp d DOTDOT ≠ 0 ∧
      (cstr fm.currentPath).length + 1 + (cstr d).length ≤ MAX_PATH_LENGTH - 1) ∧
    let fm' := changeDirectory (changeDirectory fm d fun _ => none) DOTDOT fun _ => none
    fm'.currentPath = cstr fm.currentPath ∧ fm'.selectedIndex = 0 ∧ fm'.scrollOffset = 0 :=
  ⟨by decide, changeDirectory_enter_leave _ _ _ _ (by decide) (by decide) (by decide) (by decide)⟩

-- Pressing ".." again and again

-- A path that ".." leaves as it is stays through any number of presses.
theorem foldl_dotdot_currentPath_of_fixed {fm : FileManager}
    (h : changedPath fm.currentPath DOTDOT = fm.currentPath)
    (fss : List (List UInt8 → Option (List Dirent))) :
    (fss.foldl (fun fm fs => changeDirectory fm DOTDOT fs) fm).currentPath = fm.currentPath := by
  induction fss generalizing fm with
  | nil => rfl
  | cons fs fss ih =>
    rw [List.foldl_cons, ih (by rw [changeDirectory_currentPath, h]; exact h),
      changeDirectory_currentPath, h]

-- A directory just under the root, "/name": its only separator is its first byte, so ".." leaves
-- the path as it is, and no number of presses reaches the root.
theorem changeDirectory_dotdot_top_level (fm : FileManager) (x : List UInt8)
    (fss : List (List UInt8 → Option (List Dirent)))
    (hp : cstr fm.currentPath = PATH_SEPARATOR :: x) (hx : x ≠ []) (hsep : PATH_SEPARATOR ∉ x) :
    (fss.foldl (fun fm fs => changeDirectory fm DOTDOT fs) fm).currentPath = fm.currentPath ∧
      cstr (fss.foldl (fun fm fs => changeDirectory fm DOTDOT fs) fm).currentPath ≠
        [PATH_SEPARATOR] := by
  have hfix : changedPath fm.currentPath DOTDOT = fm.currentPath := by
    rw [changedPath_dotdot_of_split (hp.trans (List.nil_append _).symm) hsep, if_pos rfl]
  rw [foldl_dotdot_currentPath_of_fixed hfix, hp]
  exact ⟨rfl, by simpa using hx⟩

theorem changeDirectory_dotdot_top_level_home :
    let fm : FileManager :=
      ⟨[PATH_SEPARATOR, 'h'.toUInt8, 'o'.toUInt8, 'm'.toUInt8, 'e'.toUInt8],
        fun _ => ⟨[], false, 0⟩, 0, 0, 0, 15⟩
    let x := ['h'.toUInt8, 'o'.toUInt8, 'm'.toUInt8, 'e'.toUInt8]
    let fss : List (List UInt8 → Option (List Dirent)) := [fun _ => none, fun _ => none]
    (cstr fm.currentPath = PATH_SEPARATOR :: x ∧ x ≠ [] ∧ PATH_SEPARATOR ∉ x) ∧
      (fss.foldl (fun fm fs => changeDirectory fm DOTDOT fs) fm).currentPath = fm.currentPath ∧
      cstr (fss.foldl (fun fm fs => changeDirectory fm DOTDOT fs) fm).currentPath ≠
        [PATH_SEPARATOR] := by
  intro fm x fss
  exact ⟨by decide, changeDirectory_dotdot_top_level fm x fss (by decide) (by decide) (by decide)⟩

theorem takeWhile_ne_append_cons (c : UInt8) :
    ∀ l r : List UInt8, (l ++ c :: r).takeWhile (· ≠ c) = l.takeWhile (· ≠ c)
  | [], r => by simp
  | x :: l, r => by simp only [List.cons_append, List.takeWhile_cons, takeWhile_ne_append_cons c l r]

-- One ".." from an absolute path leaves an absolute path under the same directory just under the
-- root, with one separator fewer after the first (none fewer once only the first is left).
theorem cstr_changedPath_dotdot {path rest : List UInt8}
    (hp : cstr path = PATH_SEPARATOR :: rest) :
    ∃ rest', cstr (changedPath path DOTDOT) = PATH_SEPARATOR :: rest' ∧
      rest'.takeWhile (· ≠ PATH_SEPARATOR) = rest.takeWhile (· ≠ PATH_SEPARATOR) ∧
      rest'.count PATH_SEPARATOR = rest.count PATH_SEPARATOR - 1 := by
  by_cases hsep : PATH_SEPARATOR ∈ rest
  · -- ".." cuts the path at the last separator of `rest`
    obtain ⟨r₁, r₂, rfl, hr₂⟩ := exists_split_last hsep
    have h0 := cstr_nul_free path
    rw [hp] at h0
    refine ⟨r₁, ?_, (takeWhile_ne_append_cons ..).symm,
      by simp [List.count_append, List.count_eq_zero.2 hr₂]⟩
    rw [changedPath_dotdot_of_split (hp.trans (List.cons_append _ _ _).symm) hr₂,
      if_neg (List.cons_ne_nil _ _)]
    exact cstr_eq_self fun x hx => h0 x (List.cons_subset_cons _ (List.subset_append_left _ _) hx)
  · -- a directory just under the root: ".." leaves it
    refine ⟨rest, ?_, rfl, by simp [List.count_eq_zero.2 hsep]⟩
    rw [changedPath_dotdot_of_split (hp.trans (List.nil_append _).symm) hsep, if_pos rfl, hp]

-- Once ".." has been pressed as often as an absolute path has separators after its first byte,
-- the path is the directory just under the root that holds it, and the root itself only when
-- the path starts with two separators.
theorem changeDirectory_dotdot_reaches_top_level (fm : FileManager) (rest : List UInt8)
    (fss : List (List UInt8 → Option (List Dirent)))
    (hp : cstr fm.currentPath = PATH_SEPARATOR :: rest)
    (hn : rest.count PATH_SEPARATOR ≤ fss.length) :
    cstr (fss.foldl (fun fm fs => changeDirectory fm DOTDOT fs) fm).currentPath =
      PATH_SEPARATOR :: rest.takeWhile (· ≠ PATH_SEPARATOR) := by
  induction fss generalizing fm rest with
  | nil =>
    have hsep : PATH_SEPARATOR ∉ rest := List.count_eq_zero.1 (by simpa using hn)
    rw [List.foldl_nil, hp, List.takeWhile_eq_self_iff.2 fun x hx => by
      simpa using ne_of_mem_of_not_mem hx hsep]
  | cons fs fss ih =>
    obtain ⟨rest', hp', htop, hcount⟩ := cstr_changedPath_dotdot hp
    rw [List.foldl_cons, ← htop]
    exact ih _ rest' (by rwa [changeDirectory_currentPath])
      (by rw [hcount]; simp only [List.length_cons] at hn; omega)

theorem changeDirectory_dotdot_reaches_top_level_roms :
    let fm : FileManager :=
      ⟨[PATH_SEPARATOR, 'h'.toUInt8, 'o'.toUInt8, 'm'.toUInt8, 'e'.toUInt8, PATH_SEPARATOR,
        'r'.toUInt8, 'o'.toUInt8, 'm'.toUInt8, 's'.toUInt8], fun _ => ⟨[], false, 0⟩, 0, 0, 0, 15⟩
    let rest := ['h'.toUInt8, 'o'.toUInt8, 'm'.toUInt8, 'e'.toUInt8, PATH_SEPARATOR,
      'r'.toUInt8, 'o'.toUInt8, 'm'.toUInt8, 's'.toUInt8]
    let fss : List (List UInt8 → Option (List Dirent)) := [fun _ => none]
    (cstr fm.currentPath = PATH_SEPARATOR :: rest ∧ rest.count PATH_SEPARATOR ≤ fss.length) ∧
      cstr (fss.foldl (fun fm fs => changeDirectory fm DOTDOT fs) fm).currentPath =
        PATH_SEPARATOR :: rest.takeWhile (· ≠ PATH_SEPARATOR) :=
  ⟨by decide, changeDirectory_dotdot_reaches_top_level _ _ _ (by decide) (by decide)⟩

end N64Emu.Frontend
