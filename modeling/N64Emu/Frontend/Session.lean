import N64Emu.Frontend.ChangeDirectory

namespace N64Emu.Frontend

-- `current_path` over a run

@[simp] theorem moveUp_currentPath (fm : FileManager) : (moveUp fm).currentPath = fm.currentPath := by
  unfold moveUp; split_ifs <;> rfl

@[simp] theorem moveDown_currentPath (fm : FileManager) :
    (moveDown fm).currentPath = fm.currentPath := by
  unfold moveDown; split_ifs <;> rfl

-- A path as `run_file_manager` keeps it: a C string that starts with `first` and leaves room for
-- its NUL in the `MAX_PATH_LENGTH` bytes of `current_path`.
def PathOk (first : UInt8) (path : List UInt8) : Prop :=
  ∃ rest, cstr path = first :: rest ∧ rest.length < MAX_PATH_LENGTH - 1

theorem cstr_take (s : List UInt8) (k : Nat) : cstr (s.take k) = (cstr s).take k :=
  (List.take_takeWhile _ _).symm

-- `change_directory` keeps the first byte (".." never cuts at offset 0, and `snprintf` starts
-- with the old path) and the NUL in the buffer (`strncpy` copies at most `MAX_PATH_LENGTH - 1`).
theorem PathOk.changedPath {first : UInt8} {path : List UInt8} (h : PathOk first path)
    (dir : List UInt8) : PathOk first (changedPath path dir) := by
  obtain ⟨rest, hp, hlen⟩ := h
  unfold N64Emu.Frontend.changedPath
  split_ifs
  · split
    · split_ifs with hk
      · -- ".." cuts at a separator past the first byte
        obtain ⟨k, rfl⟩ := Nat.exists_eq_succ_of_ne_zero hk
        refine ⟨rest.take k, ?_, (List.length_take_le' _ _).trans_lt hlen⟩
        rw [cstr_take, hp, List.take_succ_cons]
      · exact ⟨rest, hp, hlen⟩
    · exact ⟨rest, hp, hlen⟩
  · -- entering a directory: the old path, a separator and the name, cut by `strncpy`
    have h0 : ∀ x ∈ cstr path ++ PATH_SEPARATOR :: cstr dir, x.toNat ≠ 0 := by
      simp only [List.mem_append, List.mem_cons]
      rintro x (hx | rfl | hx)
      exacts [cstr_nul_free _ x hx, by decide, cstr_nul_free _ x hx]
    refine ⟨(rest ++ PATH_SEPARATOR :: cstr dir).take (MAX_PATH_LENGTH - 2), ?_,
      (List.length_take_le _ _).trans_lt (by decide)⟩
    rw [cstr_take, cstr_eq_self h0, hp]
    rfl

theorem PathOk.step {first : UInt8} {fm fm' : FileManager} (h : FmStep fm fm')
    (hi : PathOk first fm.currentPath) : PathOk first fm'.currentPath := by
  cases h with
  | cursor h =>
    cases h with
    | up => simpa using hi
    | down => simpa using hi
    | changeDirectory dir fs => simpa using hi.changedPath dir
  | listDirectory dir => simpa using hi

theorem PathOk.steps {first : UInt8} {fm fm' : FileManager}
    (h : Relation.ReflTransGen FmStep fm fm') (hi : PathOk first fm.currentPath) :
    PathOk first fm'.currentPath := by
  induction h with
  | refl => exact hi
  | tail _ hs ih => exact ih.step hs

theorem PathOk.runLoop {first : UInt8} {s : Session} (hi : PathOk first s.fm.currentPath)
    (romBufferSize : Nat) (ticks : List Tick) :
    PathOk first (runLoop romBufferSize s ticks).fm.currentPath :=
  runLoop_induction (P := fun fm => PathOk first fm.currentPath) hi fun s t _ h =>
    h.steps (iteration_steps romBufferSize s t)

-- Started in a working directory that fits the buffer, `current_path` stays a non-empty C string
-- with the same first byte (an absolute path stays absolute) that fits the buffer, over every run.
theorem runLoop_currentPath_ok (romBufferSize : Nat) (cwd : List UInt8)
    (fs : List UInt8 → Option (List Dirent)) (opened : Bool) (ticks : List Tick)
    (hcwd : cstr cwd ≠ []) (hlen : (cstr cwd).length ≤ MAX_PATH_LENGTH - 1) :
    let path := cstr (runLoop romBufferSize (initSession cwd fs opened) ticks).fm.currentPath
    path ≠ [] ∧ path.head? = (cstr cwd).head? ∧ path.length ≤ MAX_PATH_LENGTH - 1 := by
  obtain ⟨first, rest, hc⟩ := List.exists_cons_of_ne_nil hcwd
  have hi : PathOk first (initSession cwd fs opened).fm.currentPath :=
    ⟨rest, by simpa [initSession] using hc, by rw [hc] at hlen; simp at hlen; omega⟩
  obtain ⟨rest', hp, hlen'⟩ := hi.runLoop romBufferSize ticks
  simp only [hp, hc, ne_eq, reduceCtorEq, not_false_eq_true, List.head?_cons, List.length_cons,
    true_and]
  omega

-- From the root, A enters the directory "roms" and B goes back up.
theorem runLoop_currentPath_ok_root :
    let fs : List UInt8 → Option (List Dirent) := fun _ =>
      some [⟨['r'.toUInt8, 'o'.toUInt8, 'm'.toUInt8, 's'.toUInt8], some (true, 0)⟩]
    let ticks : List Tick := [⟨[], fun b => b == .A, 0, fs⟩, ⟨[], fun b => b == .B, 10, fs⟩]
    (cstr [PATH_SEPARATOR] ≠ [] ∧ (cstr [PATH_SEPARATOR]).length ≤ MAX_PATH_LENGTH - 1) ∧
    let path := cstr (runLoop 1024 (initSession [PATH_SEPARATOR] fs true) ticks).fm.currentPath
    path ≠ [] ∧ path.head? = (cstr [PATH_SEPARATOR]).head? ∧ path.length ≤ MAX_PATH_LENGTH - 1 :=
  ⟨by decide, runLoop_currentPath_ok _ _ _ _ _ (by decide) (by decide)⟩

-- `selected_rom` over a run

-- What `selected_rom` holds between iterations: nothing, or, once the loop has been told to stop,
-- what `snprintf` wrote for A on a ROM file: "dir/name" cut to `rom_buffer_size - 1` bytes.
def SelectedRom (romBufferSize : Nat) (s : Session) : Prop :=
  s.selectedRom = [] ∨
    s.fmRunning = false ∧ ∃ dir name, isRomFile name = true ∧
      s.selectedRom = (cstr dir ++ PATH_SEPARATOR :: cstr name).take (romBufferSize - 1)

-- A step that leaves `selected_rom` alone and does not restart the loop keeps the invariant.
theorem SelectedRom.of_keeps {romBufferSize : Nat} {s s' : Session} (h : SelectedRom romBufferSize s)
    (hsel : s'.selectedRom = s.selectedRom) (hrun : s.fmRunning = false → s'.fmRunning = false) :
    SelectedRom romBufferSize s' := by
  unfold SelectedRom at h ⊢
  rw [hsel]
  exact h.imp_right fun ⟨hr, rest⟩ => ⟨hrun hr, rest⟩

theorem SelectedRom.handleEvent {romBufferSize : Nat} {s : Session} (h : SelectedRom romBufferSize s)
    (e : Event) : SelectedRom romBufferSize (handleEvent s e) := by
  cases e <;> simp only [N64Emu.Frontend.handleEvent] <;> try split_ifs
  all_goals exact h.of_keeps rfl fun hr => by simp [hr]

theorem SelectedRom.onPress {romBufferSize : Nat} {action : Session → Session}
    (hact : ∀ s, SelectedRom romBufferSize s → SelectedRom romBufferSize (action s)) (button : Button)
    {s : Session} (h : SelectedRom romBufferSize s) :
    SelectedRom romBufferSize (onPress button action s) := by
  unfold N64Emu.Frontend.onPress; split
  exacts [hact s h, h]

-- A on a ROM file is the one step that writes `selected_rom`, and it stops the loop.
theorem SelectedRom.pressA {romBufferSize : Nat} (fs : List UInt8 → Option (List Dirent))
    {s : Session} (h : SelectedRom romBufferSize s) :
    SelectedRom romBufferSize (pressA romBufferSize fs s) := by
  unfold N64Emu.Frontend.pressA
  split
  · dsimp only
    split_ifs with hdir hrom
    · exact h.of_keeps rfl id
    · exact .inr ⟨rfl, _, _, hrom, rfl⟩
    · exact h
  · exact h

theorem SelectedRom.iteration {romBufferSize : Nat} {s : Session} (h : SelectedRom romBufferSize s)
    (t : Tick) : SelectedRom romBufferSize (iteration romBufferSize s t) := by
  have hev : SelectedRom romBufferSize (t.events.foldl N64Emu.Frontend.handleEvent s) := by
    induction t.events generalizing s with
    | nil => exact h
    | cons e es ih => exact ih (h.handleEvent e)
  unfold N64Emu.Frontend.iteration navigate
  dsimp only
  split
  · -- Y, then Start, B and A after the D-pad
    refine .onPress (fun s h => ?_) _ ?_
    · exact h.of_keeps rfl id
    unfold navigateCursor
    refine .onPress (fun s h => ?_) _ ?_
    · exact h.of_keeps rfl fun _ => rfl
    refine .onPress (fun s h => ?_) _ ?_
    · exact h.of_keeps rfl id
    exact .onPress (fun s h => h.pressA t.fs) _ (hev.of_keeps rfl id)
  · exact hev.of_keeps rfl id

theorem runLoop_induction_session {P : Session → Prop} {romBufferSize : Nat} {ticks : List Tick}
    {s : Session} (hs : P s) (hstep : ∀ s t, P s → P (iteration romBufferSize s t)) :
    P (runLoop romBufferSize s ticks) := by
  induction ticks generalizing s with
  | nil => exact hs
  | cons t ts ih =>
    simp only [runLoop]
    split_ifs
    exacts [ih (hstep s t hs), hs]

theorem SelectedRom.runLoop (romBufferSize : Nat) (cwd : List UInt8)
    (fs : List UInt8 → Option (List Dirent)) (opened : Bool) (ticks : List Tick) :
    SelectedRom romBufferSize (runLoop romBufferSize (initSession cwd fs opened) ticks) :=
  runLoop_induction_session (.inl rfl) fun _ t h => h.iteration t

-- The file list drawn

@[simp] theorem moveUp_visibleItems (fm : FileManager) :
    (moveUp fm).visibleItems = fm.visibleItems := by
  unfold moveUp; split_ifs <;> rfl

@[simp] theorem moveDown_visibleItems (fm : FileManager) :
    (moveDown fm).visibleItems = fm.visibleItems := by
  unfold moveDown; split_ifs <;> rfl

@[simp] theorem changeDirectory_visibleItems (fm : FileManager) (dir : List UInt8)
    (fs : List UInt8 → Option (List Dirent)) :
    (changeDirectory fm dir fs).visibleItems = fm.visibleItems :=
  listDirectory_visibleItems ..

theorem visibleItems_steps {fm fm' : FileManager} (h : Relation.ReflTransGen FmStep fm fm') :
    fm'.visibleItems = fm.visibleItems := by
  induction h with
  | refl => rfl
  | tail _ hs ih =>
    rw [← ih]
    cases hs with
    | cursor h => cases h <;> simp
    | listDirectory => simp

theorem renderRow_marked (fm : FileManager) (i : Int) :
    (renderRow fm i).marked = (i == fm.selectedIndex) := rfl

-- When the highlighted index is drawn, it is the one row with the `>>` marker.
theorem renderRows_filter_marked {fm : FileManager} (h₁ : fm.scrollOffset ≤ fm.selectedIndex)
    (h₂ : fm.selectedIndex < visibleEnd fm) :
    (renderRows fm).filter (·.marked) = [renderRow fm fm.selectedIndex] := by
  have hm : (fm.selectedIndex - fm.scrollOffset).toNat ∈
      List.range (visibleEnd fm - fm.scrollOffset).toNat := List.mem_range.2 (by omega)
  unfold renderRows
  rw [List.filter_map, List.filter_congr (q := (· == (fm.selectedIndex - fm.scrollOffset).toNat)),
    List.filter_beq, List.count_eq_one_of_mem (List.nodup_range _) hm]
  · rw [List.replicate_one, List.map_singleton]
    congr 2; omega
  · intro k _
    rw [Function.comp_apply, renderRow_marked, Bool.eq_iff_iff, beq_iff_eq, beq_iff_eq]
    omega

-- On every run in which Y is never down, the list shows at most 15 rows and, while the directory
-- is not empty, exactly one of them carries the `>>` marker: the highlighted entry's.
theorem runLoop_marks_selected_row (romBufferSize : Nat) (cwd : List UInt8)
    (fs : List UInt8 → Option (List Dirent)) (opened : Bool) (ticks : List Tick)
    (hY : ∀ t ∈ ticks, t.buttons .Y = false) :
    let fm := (runLoop romBufferSize (initSession cwd fs opened) ticks).fm
    (renderRows fm).length ≤ 15 ∧
      (0 < fm.fileCount → (renderRows fm).filter (·.marked) = [renderRow fm fm.selectedIndex]) := by
  intro fm
  have hi : NavInv fm := (navInv_initSession cwd fs opened).runLoop romBufferSize ticks
  have hentry : OnEntry fm := runLoop_induction (P := OnEntry) (fun h => h)
    fun s t ht h => h.cursorSteps (iteration_cursorSteps romBufferSize s t (hY t ht))
  have hvis : fm.visibleItems = 15 := runLoop_induction (P := fun fm => fm.visibleItems = 15) rfl
    fun s t _ h => (visibleItems_steps (iteration_steps romBufferSize s t)).trans h
  have hend : visibleEnd fm ≤ fm.scrollOffset + fm.visibleItems := by
    unfold visibleEnd; split_ifs <;> omega
  refine ⟨?_, fun hpos => renderRows_filter_marked hi.scroll_le_selected ?_⟩
  · simp only [renderRows, List.length_map, List.length_range]; omega
  · have := hentry hpos
    have := hi.selected_lt
    unfold visibleEnd; split_ifs <;> omega

theorem runLoop_marks_selected_row_three :
    let three : List UInt8 → Option (List Dirent) := fun _ =>
      some [⟨['a'.toUInt8], some (false, 1)⟩, ⟨['b'.toUInt8], some (false, 1)⟩,
        ⟨['c'.toUInt8], some (false, 1)⟩]
    let ticks : List Tick := [⟨[], fun b => b == .DpadDown, 0, three⟩]
    let fm := (runLoop 1024 (initSession [PATH_SEPARATOR] three true) ticks).fm
    (∀ t ∈ ticks, t.buttons .Y = false) ∧ (renderRows fm).length ≤ 15 ∧
      (0 < fm.fileCount → (renderRows fm).filter (·.marked) = [renderRow fm fm.selectedIndex]) :=
  ⟨by decide, runLoop_marks_selected_row _ _ _ _ _ (by decide)⟩

end N64Emu.Frontend
