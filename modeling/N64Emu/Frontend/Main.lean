import N64Emu.Frontend.Session

namespace N64Emu.Frontend

-- `main` up to `core_load_game`

-- The bytes of a string literal of the source.
def bytes (s : String) : List UInt8 := s.toList.map Char.toUInt8

-- Where `main` goes before the core runs: it returns `EXIT_SUCCESS` ("No ROM selected,
-- exiting."), it `die`s with the message `vsnprintf` leaves in its 4096-byte buffer, or it hands
-- `rom_path` to `core_load_game`.
inductive Launch where
  | exit
  | die (msg : List UInt8)
  | load (romPath : List UInt8)
  deriving DecidableEq, Repr

-- `main`: `args` is `argv`, `argc` its length; `runFileManager size` is what `run_file_manager`
-- leaves in a `selected_rom` buffer of `size` bytes; `sdlInit` is whether `SDL_Init` succeeds.
-- Without an argument the file manager chooses `rom_path`; with one, `strncpy` copies `argv[1]`
-- into it and `is_rom_file` must accept it.
def launch (args : List (List UInt8)) (runFileManager : Nat → List UInt8) (sdlInit : Bool) :
    Launch :=
  -- the code after the argument handling, up to `core_load_game(rom_path)`
  let start (romPath : List UInt8) : Launch :=
    if sdlInit then .load romPath else .die (bytes ("Failed to initialize SDL"))
  match args with
  | _ :: arg :: _ =>
    let romPath := (cstr arg).take (MAX_PATH_LENGTH - 1)
    if isRomFile romPath then start romPath
    else .die ((bytes ("File must be a .z64 or .n64 ROM: ") ++ romPath).take 4095)
  | _ =>
    let romPath := cstr (runFileManager MAX_PATH_LENGTH)
    if romPath = [] then .exit else start romPath

-- `is_rom_file` reads the last four bytes of the C string, so a ROM file's name keeps its
-- extension behind any NUL-free directory part.
theorem isRomFile_append {pre name : List UInt8} (h0 : ∀ x ∈ pre, x.toNat ≠ 0)
    (h : isRomFile name = true) : isRomFile (pre ++ cstr name) = true := by
  have hpath : cstr (pre ++ cstr name) = pre ++ cstr name := by
    refine cstr_eq_self fun x hx => ?_
    rcases List.mem_append.1 hx with hx | hx
    exacts [h0 x hx, cstr_nul_free _ x hx]
  unfold isRomFile at h ⊢
  simp only [hpath, Bool.and_eq_true, decide_eq_true_eq] at h ⊢
  obtain ⟨hlen, hext⟩ := h
  refine ⟨by simp only [List.length_append]; omega, ?_⟩
  rwa [List.length_append, show pre.length + (cstr name).length - 4 =
    pre.length + ((cstr name).length - 4) by omega, List.drop_append]

-- How `main` can reach `core_load_game`: `SDL_Init` succeeded, and the path is `argv[1]` cut to
-- `MAX_PATH_LENGTH - 1` bytes that `is_rom_file` accepts, or, without an argument, the non-empty
-- C string the file manager left.
theorem launch_eq_load {args : List (List UInt8)} {runFileManager : Nat → List UInt8}
    {sdlInit : Bool} {romPath : List UInt8} (h : launch args runFileManager sdlInit = .load romPath) :
    sdlInit = true ∧
      (isRomFile romPath = true ∧ romPath.length ≤ MAX_PATH_LENGTH - 1 ∨
        args.length < 2 ∧ romPath = cstr (runFileManager MAX_PATH_LENGTH) ∧ romPath ≠ []) := by
  unfold launch at h
  rcases args with _ | ⟨prog, _ | ⟨arg, rest⟩⟩ <;> dsimp only at h <;> split_ifs at h with h1 h2 <;>
    cases h
  -- no argument (`argc` 0 or 1): the file manager's path; one: `argv[1]`
  all_goals first
    | exact ⟨h2, .inr ⟨by simp, rfl, h1⟩⟩
    | exact ⟨h2, .inl ⟨h1, List.length_take_le _ _⟩⟩

-- `main` hands `core_load_game` a path of at most `MAX_PATH_LENGTH - 1` bytes that `is_rom_file`
-- accepts, with one exception: a path the file manager built from a directory and a ROM file's
-- name, cut by `snprintf` at exactly `MAX_PATH_LENGTH - 1` bytes.
theorem launch_load_rom_file (args : List (List UInt8)) (cwd : List UInt8)
    (fs : List UInt8 → Option (List Dirent)) (opened sdlInit : Bool) (ticks : List Tick)
    (romPath : List UInt8)
    (h : launch args (fun size => (runLoop size (initSession cwd fs opened) ticks).selectedRom)
      sdlInit = .load romPath) :
    romPath ≠ [] ∧ romPath.length ≤ MAX_PATH_LENGTH - 1 ∧
      (isRomFile romPath = true ∨ args.length < 2 ∧ romPath.length = MAX_PATH_LENGTH - 1) := by
  obtain ⟨-, ⟨hrom, hlen⟩ | ⟨hargs, rfl, hne⟩⟩ := launch_eq_load h
  · exact ⟨fun h0 => absurd (h0 ▸ hrom) (by decide), hlen, .inl hrom⟩
  -- the file manager's `selected_rom`: "dir/name" for a ROM file's name, cut by `snprintf`
  rcases SelectedRom.runLoop MAX_PATH_LENGTH cwd fs opened ticks with hsel | ⟨-, dir, name, hrom, hsel⟩
  · simp [hsel, cstr] at hne
  have h0 : ∀ x ∈ cstr dir ++ [PATH_SEPARATOR], x.toNat ≠ 0 := by
    simp only [List.mem_append, List.mem_singleton]
    rintro x (hx | rfl)
    exacts [cstr_nul_free _ x hx, by decide]
  have hfull := isRomFile_append h0 hrom
  rw [List.append_assoc, List.singleton_append] at hfull
  have hc : cstr (cstr dir ++ PATH_SEPARATOR :: cstr name) = cstr dir ++ PATH_SEPARATOR :: cstr name := by
    rw [← List.singleton_append, ← List.append_assoc]
    exact cstr_eq_self fun x hx => (List.mem_append.1 hx).elim (h0 x) (cstr_nul_free _ x)
  rw [hsel, cstr_take, hc] at hne ⊢
  refine ⟨hne, List.length_take_le _ _, ?_⟩
  by_cases hfit : (cstr dir ++ PATH_SEPARATOR :: cstr name).length ≤ MAX_PATH_LENGTH - 1
  · exact .inl (by rwa [List.take_of_length_le hfit])
  · exact .inr ⟨hargs, by simp only [List.length_take]; omega⟩

-- No argument, a directory holding one ROM file, and A pressed: `main` loads "//game.z64".
theorem launch_load_rom_file_pick :
    let romDir : List UInt8 → Option (List Dirent) := fun _ => some [⟨bytes ("game.z64"), some (false, 8)⟩]
    let ticks : List Tick := [⟨[], fun b => b == .A, 0, romDir⟩]
    let romPath := [PATH_SEPARATOR, PATH_SEPARATOR] ++ bytes ("game.z64")
    launch [bytes ("n64")] (fun size => (runLoop size (initSession [PATH_SEPARATOR] romDir true)
        ticks).selectedRom) true = .load romPath ∧
      romPath ≠ [] ∧ romPath.length ≤ MAX_PATH_LENGTH - 1 ∧
        (isRomFile romPath = true ∨ [bytes ("n64")].length < 2 ∧
          romPath.length = MAX_PATH_LENGTH - 1) := by
  intro romDir ticks romPath
  have h : launch [bytes ("n64")] (fun size => (runLoop size (initSession [PATH_SEPARATOR] romDir true)
      ticks).selectedRom) true = .load romPath := by decide
  exact ⟨h, launch_load_rom_file _ _ _ _ _ _ _ h⟩

end N64Emu.Frontend
