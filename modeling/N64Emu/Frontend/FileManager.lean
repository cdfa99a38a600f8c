import Mathlib.Logic.Relation
import N64Emu.Frontend.ListDirectory

namespace N64Emu.Frontend

-- `change_directory` and `is_rom_file`

-- The path `change_directory` leaves: ".." cuts the path at its last separator unless that is its
-- first byte; any other name is appended after a separator, `snprintf` keeping at most
-- `MAX_PATH_LENGTH - 1` bytes.
def changedPath (path dir : List UInt8) : List UInt8 :=
  if strcmp dir DOTDOT = 0 then
    match strrchr PATH_SEPARATOR path with
    | some k => if k ≠ 0 then path.take k else path
    | none => path
  else (cstr path ++ PATH_SEPARATOR :: cstr dir).take (MAX_PATH_LENGTH - 1)

-- `change_directory`: the new path is listed as `fs` shows it, and the cursor goes to the top.
def changeDirectory (fm : FileManager) (dir : List UInt8)
    (fs : List UInt8 → Option (List Dirent)) : FileManager :=
  let path := changedPath fm.currentPath dir
  { listDirectory { fm with currentPath := path } (fs path) with
    selectedIndex := 0
    scrollOffset := 0 }

@[simp] theorem changeDirectory_currentPath (fm : FileManager) (dir : List UInt8)
    (fs : List UInt8 → Option (List Dirent)) :
    (changeDirectory fm dir fs).currentPath = changedPath fm.currentPath dir :=
  listDirectory_currentPath ..

@[simp] theorem changeDirectory_selectedIndex (fm : FileManager) (dir : List UInt8)
    (fs : List UInt8 → Option (List Dirent)) : (changeDirectory fm dir fs).selectedIndex = 0 :=
  rfl

@[simp] theorem changeDirectory_scrollOffset (fm : FileManager) (dir : List UInt8)
    (fs : List UInt8 → Option (List Dirent)) : (changeDirectory fm dir fs).scrollOffset = 0 :=
  rfl

-- `tolower` in the C locale.
def tolower (x : UInt8) : UInt8 :=
  if 65 ≤ x.toNat ∧ x.toNat ≤ 90 then x + 32 else x

-- `is_rom_file`: the name ends in ".z64" or ".n64", in any case.
def isRomFile (filename : List UInt8) : Bool :=
  let s := cstr filename
  let ext := (s.drop (s.length - 4)).map tolower
  4 ≤ s.length &&
    (ext == ['.'.toUInt8, 'z'.toUInt8, '6'.toUInt8, '4'.toUInt8] ||
      ext == ['.'.toUInt8, 'n'.toUInt8, '6'.toUInt8, '4'.toUInt8])

-- The gamepad

-- The controller buttons the file manager reads.
inductive Button where
  | A | B | Y | Start | DpadUp | DpadDown
  deriving DecidableEq, Repr

-- `GamepadState`; `controller` says whether a controller is open.
structure GamepadState where
  controller : Bool
  buttonStates : Button → Bool
  prevButtonStates : Button → Bool
  repeatTimer : UInt32
  repeatDelay : UInt32
  dpadUpHeld : Bool
  dpadDownHeld : Bool

-- `init_gamepad`: everything cleared and a repeat delay of 150 ms; `opened` says whether a
-- controller could be opened.
def initGamepad (opened : Bool) : GamepadState :=
  ⟨opened, fun _ => false, fun _ => false, 0, 150, false, false⟩

-- `update_gamepad`: with a controller open, the current buttons become the previous ones and
-- `buttons` the current ones.
def updateGamepad (gp : GamepadState) (buttons : Button → Bool) : GamepadState :=
  if gp.controller then { gp with prevButtonStates := gp.buttonStates, buttonStates := buttons }
  else gp

-- `button_pressed`: down now and not at the previous update.
def buttonPressed (gp : GamepadState) (button : Button) : Bool :=
  gp.buttonStates button && !gp.prevButtonStates button

-- One iteration of `run_file_manager`

-- The SDL events the loop reacts to; `ControllerDeviceAdded opened` carries whether
-- `init_gamepad` then opens a controller.
inductive Event where
  | Quit
  | ControllerDeviceAdded (opened : Bool)
  | ControllerDeviceRemoved
  | Other

-- The state of `run_file_manager` between iterations.
structure Session where
  fm : FileManager
  gp : GamepadState
  fmRunning : Bool
  selectedRom : List UInt8

-- What one iteration reads from outside: the queued events, the buttons
-- `SDL_GameControllerGetButton` reports, `SDL_GetTicks`, and the file system `opendir` sees.
structure Tick where
  events : List Event
  buttons : Button → Bool
  currentTime : UInt32
  fs : List UInt8 → Option (List Dirent)

-- The body of the `SDL_PollEvent` loop.
def handleEvent (s : Session) : Event → Session
  | .Quit => { s with fmRunning := false }
  | .ControllerDeviceAdded opened =>
    if s.gp.controller then s else { s with gp := initGamepad opened }
  | .ControllerDeviceRemoved =>
    if s.gp.controller then { s with gp := { s.gp with controller := false } } else s
  | .Other => s

-- D-pad up: one entry up, scrolling up to keep the cursor on screen. The indices stay within
-- `[0, MAX_FILES]`, so `int` arithmetic is exact.
def moveUp (fm : FileManager) : FileManager :=
  if fm.selectedIndex > 0 then
    { fm with
      selectedIndex := fm.selectedIndex - 1
      scrollOffset :=
        if fm.selectedIndex - 1 < fm.scrollOffset then fm.selectedIndex - 1 else fm.scrollOffset }
  else fm

-- D-pad down: one entry down, but not past the last entry, scrolling down to keep the cursor
-- on screen.
def moveDown (fm : FileManager) : FileManager :=
  if fm.selectedIndex < fm.fileCount - 1 then
    { fm with
      selectedIndex := fm.selectedIndex + 1
      scrollOffset :=
        if fm.selectedIndex + 1 ≥ fm.scrollOffset + fm.visibleItems then
          fm.selectedIndex + 1 - fm.visibleItems + 1
        else fm.scrollOffset }
  else fm

-- The code both D-pad directions share: with the button down, `move` acts on a new press or
-- once `repeat_delay` ms have passed since the last action (`Uint32` arithmetic); the result
-- is the file manager, the repeat timer and the direction's held flag.
def dpad (down held : Bool) (repeatTimer repeatDelay currentTime : UInt32)
    (move : FileManager → FileManager) (fm : FileManager) : FileManager × UInt32 × Bool :=
  if down then
    if !held || currentTime - repeatTimer > repeatDelay then (move fm, currentTime, true)
    else (fm, repeatTimer, held)
  else (fm, repeatTimer, false)

def dpadUp (fm : FileManager) (gp : GamepadState) (currentTime : UInt32) :
    FileManager × GamepadState :=
  let r := dpad (gp.buttonStates .DpadUp) gp.dpadUpHeld gp.repeatTimer gp.repeatDelay currentTime
    moveUp fm
  (r.1, { gp with repeatTimer := r.2.1, dpadUpHeld := r.2.2 })

def dpadDown (fm : FileManager) (gp : GamepadState) (currentTime : UInt32) :
    FileManager × GamepadState :=
  let r := dpad (gp.buttonStates .DpadDown) gp.dpadDownHeld gp.repeatTimer gp.repeatDelay
    currentTime moveDown fm
  (r.1, { gp with repeatTimer := r.2.1, dpadDownHeld := r.2.2 })

-- The guard of the A button: the highlighted index, when it is an entry of the listing.
def selection (fm : FileManager) : Option Nat :=
  if fm.fileCount > 0 ∧ fm.selectedIndex ≥ 0 ∧ fm.selectedIndex < fm.fileCount then
    some fm.selectedIndex.toNat
  else none

-- A on a directory enters it; A on a ROM writes its path to `selected_rom` (as `snprintf` cuts
-- it to the buffer) and ends the loop.
def pressA (romBufferSize : Nat) (fs : List UInt8 → Option (List Dirent)) (s : Session) :
    Session :=
  match selection s.fm with
  | some i =>
    let entry := s.fm.files i
    if entry.isDirectory then { s with fm := changeDirectory s.fm entry.name fs }
    else if isRomFile entry.name then
      { s with
        selectedRom :=
          (cstr s.fm.currentPath ++ PATH_SEPARATOR :: cstr entry.name).take (romBufferSize - 1)
        fmRunning := false }
    else s
  | none => s

-- The two D-pad blocks: up, then down, sharing the repeat timer.
def dpadBlocks (currentTime : UInt32) (s : Session) : Session :=
  let up := dpadUp s.fm s.gp currentTime
  let down := dpadDown up.1 up.2 currentTime
  { s with fm := down.1, gp := down.2 }

-- The block `if (button_pressed(&gp, button)) ...` that each of A, B, Start and Y has.
def onPress (button : Button) (action : Session → Session) (s : Session) : Session :=
  if buttonPressed s.gp button then action s else s

-- The blocks of the navigation before Y: the D-pad, then A, B ("..") and Start.
def navigateCursor (romBufferSize : Nat) (t : Tick) (s : Session) : Session :=
  dpadBlocks t.currentTime s
    |> onPress .A (pressA romBufferSize t.fs)
    |> onPress .B (fun s => { s with fm := changeDirectory s.fm DOTDOT t.fs })
    |> onPress .Start (fun s => { s with fmRunning := false })

-- The gamepad navigation, when a controller is open: the blocks above, then Y (list again).
def navigate (romBufferSize : Nat) (t : Tick) (s : Session) : Session :=
  if s.gp.controller then
    navigateCursor romBufferSize t s
      |> onPress .Y (fun s => { s with fm := listDirectory s.fm (t.fs s.fm.currentPath) })
  else s

-- One iteration of the loop: the events, `update_gamepad`, then the navigation.
def iteration (romBufferSize : Nat) (s : Session) (t : Tick) : Session :=
  let s := t.events.foldl handleEvent s
  navigate romBufferSize t { s with gp := updateGamepad s.gp t.buttons }

-- The state before the first iteration: the working directory listed, the cursor at the top,
-- 15 visible rows, and the gamepad `init_gamepad` opens.
def initSession (cwd : List UInt8) (fs : List UInt8 → Option (List Dirent)) (opened : Bool) :
    Session :=
  let fm : FileManager := ⟨cwd, fun _ => ⟨[], false, 0⟩, 0, 0, 0, 0⟩
  ⟨{ listDirectory fm (fs cwd) with selectedIndex := 0, scrollOffset := 0, visibleItems := 15 },
    initGamepad opened, true, []⟩

-- `while (fm_running)`: one iteration for each tick, until an iteration ends the loop.
def runLoop (romBufferSize : Nat) : Session → List Tick → Session
  | s, [] => s
  | s, t :: ts => if s.fmRunning then runLoop romBufferSize (iteration romBufferSize s t) ts else s

-- The file list it draws

-- The label kind of a row.
inductive RowLabel where
  | Dir | Rom | File
  deriving DecidableEq, Repr

-- A row of the file list: its index, the `>>` marker, its label, and the size shown for a file.
structure Row where
  index : Int
  marked : Bool
  label : RowLabel
  size : Option Int
  deriving DecidableEq, Repr

-- `visible_end`: one past the last row drawn.
def visibleEnd (fm : FileManager) : Int :=
  if fm.scrollOffset + fm.visibleItems > fm.fileCount then fm.fileCount
  else fm.scrollOffset + fm.visibleItems

def renderRow (fm : FileManager) (i : Int) : Row :=
  let entry := fm.files i.toNat
  ⟨i, i == fm.selectedIndex,
    if entry.isDirectory then .Dir else if isRomFile entry.name then .Rom else .File,
    if entry.isDirectory then none else some entry.size⟩

-- The rows `scroll_offset .. visible_end - 1`.
def renderRows (fm : FileManager) : List Row :=
  (List.range (visibleEnd fm - fm.scrollOffset).toNat).map fun (k : Nat) =>
    renderRow fm (fm.scrollOffset + k)

-- What an iteration can do to the file manager

-- The actions of the loop that place the cursor: a D-pad move or a directory change.
inductive CursorStep : FileManager → FileManager → Prop
  | up (fm : FileManager) : CursorStep fm (moveUp fm)
  | down (fm : FileManager) : CursorStep fm (moveDown fm)
  | changeDirectory (fm : FileManager) (dir : List UInt8) (fs : List UInt8 → Option (List Dirent)) :
      CursorStep fm (changeDirectory fm dir fs)

-- Any action of the loop on the file manager: a cursor step, or Y listing the directory again.
inductive FmStep : FileManager → FileManager → Prop
  | cursor {fm fm' : FileManager} (h : CursorStep fm fm') : FmStep fm fm'
  | listDirectory (fm : FileManager) (dir : Option (List Dirent)) :
      FmStep fm (listDirectory fm dir)

theorem dpad_steps {move : FileManager → FileManager} {fm : FileManager}
    (h : CursorStep fm (move fm)) (down held : Bool) (repeatTimer repeatDelay currentTime : UInt32) :
    Relation.ReflTransGen CursorStep fm
      (dpad down held repeatTimer repeatDelay currentTime move fm).1 := by
  unfold dpad; split_ifs
  exacts [.single h, .refl, .refl]

theorem dpadBlocks_steps (currentTime : UInt32) (s : Session) :
    Relation.ReflTransGen CursorStep s.fm (dpadBlocks currentTime s).fm :=
  (dpad_steps (.up _) ..).trans (dpad_steps (.down _) ..)

theorem onPress_steps {R : FileManager → FileManager → Prop} {action : Session → Session}
    (h : ∀ s, Relation.ReflTransGen R s.fm (action s).fm) (button : Button) (s : Session) :
    Relation.ReflTransGen R s.fm (onPress button action s).fm := by
  unfold onPress; split
  exacts [h s, .refl]

theorem onPress_gp {action : Session → Session} (h : ∀ s, (action s).gp = s.gp) (button : Button)
    (s : Session) : (onPress button action s).gp = s.gp := by
  unfold onPress; split
  exacts [h s, rfl]

theorem pressA_steps (romBufferSize : Nat) (fs : List UInt8 → Option (List Dirent)) (s : Session) :
    Relation.ReflTransGen CursorStep s.fm (pressA romBufferSize fs s).fm := by
  unfold pressA
  split
  · dsimp only; split_ifs
    exacts [.single (.changeDirectory ..), .refl, .refl]
  · exact .refl

theorem pressA_gp (romBufferSize : Nat) (fs : List UInt8 → Option (List Dirent)) (s : Session) :
    (pressA romBufferSize fs s).gp = s.gp := by
  unfold pressA; split
  · dsimp only; split_ifs <;> rfl
  · rfl

theorem navigateCursor_steps (romBufferSize : Nat) (t : Tick) (s : Session) :
    Relation.ReflTransGen CursorStep s.fm (navigateCursor romBufferSize t s).fm :=
  .trans (.trans (.trans (dpadBlocks_steps _ s) (onPress_steps (pressA_steps romBufferSize t.fs) ..))
    (onPress_steps (fun _ => by exact .single (.changeDirectory ..)) ..))
    (onPress_steps (fun _ => by exact .refl) ..)

-- Before Y is read, the navigation has not touched the buttons.
theorem navigateCursor_buttonStates (romBufferSize : Nat) (t : Tick) (s : Session) :
    (navigateCursor romBufferSize t s).gp.buttonStates = s.gp.buttonStates := by
  simp [navigateCursor, onPress_gp, pressA_gp, dpadBlocks, dpadDown, dpadUp]

theorem navigate_steps (romBufferSize : Nat) (t : Tick) (s : Session) :
    Relation.ReflTransGen FmStep s.fm (navigate romBufferSize t s).fm := by
  unfold navigate; split
  · exact ((navigateCursor_steps romBufferSize t s).mono fun _ _ => .cursor).trans
      (onPress_steps (fun _ => by exact .single (.listDirectory ..)) ..)
  · exact .refl

-- With Y up, the navigation only moves the cursor.
theorem navigate_cursorSteps (romBufferSize : Nat) (t : Tick) (s : Session)
    (hY : s.gp.buttonStates .Y = false) :
    Relation.ReflTransGen CursorStep s.fm (navigate romBufferSize t s).fm := by
  unfold navigate; split
  · have hpress : buttonPressed (navigateCursor romBufferSize t s).gp .Y = false := by
      simp [buttonPressed, navigateCursor_buttonStates, hY]
    simp only [onPress, hpress]
    exact navigateCursor_steps romBufferSize t s
  · exact .refl

theorem handleEvent_fm (s : Session) (e : Event) : (handleEvent s e).fm = s.fm := by
  cases e <;> simp only [handleEvent] <;> split_ifs <;> rfl

theorem foldl_handleEvent_fm (s : Session) (es : List Event) : (es.foldl handleEvent s).fm = s.fm := by
  induction es generalizing s with
  | nil => rfl
  | cons e es ih => rw [List.foldl_cons, ih, handleEvent_fm]

-- An iteration moves the file manager by a sequence of actions.
theorem iteration_steps (romBufferSize : Nat) (s : Session) (t : Tick) :
    Relation.ReflTransGen FmStep s.fm (iteration romBufferSize s t).fm := by
  dsimp only [iteration]
  rw [← foldl_handleEvent_fm s t.events]
  exact navigate_steps _ _
    { t.events.foldl handleEvent s with gp := updateGamepad (t.events.foldl handleEvent s).gp t.buttons }

-- An iteration with Y up only moves the cursor: `update_gamepad` reads Y as up, or no controller
-- is open and nothing moves.
theorem iteration_cursorSteps (romBufferSize : Nat) (s : Session) (t : Tick)
    (hY : t.buttons .Y = false) :
    Relation.ReflTransGen CursorStep s.fm (iteration romBufferSize s t).fm := by
  dsimp only [iteration]
  rw [← foldl_handleEvent_fm s t.events]
  generalize t.events.foldl handleEvent s = s
  by_cases hc : s.gp.controller
  · exact navigate_cursorSteps _ _ { s with gp := updateGamepad s.gp t.buttons }
      (by simp [updateGamepad, hc, hY])
  · rw [navigate, if_neg (by simp [updateGamepad, hc])]

-- The cursor stays on screen

-- The cursor invariant of the loop: the highlighted row is on screen, and the listing fits the
-- array.
structure NavInv (fm : FileManager) : Prop where
  scroll_nonneg : 0 ≤ fm.scrollOffset
  scroll_le_selected : fm.scrollOffset ≤ fm.selectedIndex
  selected_lt : fm.selectedIndex < fm.scrollOffset + fm.visibleItems
  count_nonneg : 0 ≤ fm.fileCount
  count_le : fm.fileCount ≤ MAX_FILES

theorem NavInv.cursorStep {fm fm' : FileManager} (h : CursorStep fm fm') (hi : NavInv fm) :
    NavInv fm' := by
  obtain ⟨h₁, h₂, h₃, h₄, h₅⟩ := hi
  cases h with
  | up =>
    unfold moveUp; split_ifs
    · constructor <;> dsimp only <;> omega
    · constructor <;> dsimp only <;> omega
    · exact ⟨h₁, h₂, h₃, h₄, h₅⟩
  | down =>
    unfold moveDown; split_ifs
    · constructor <;> dsimp only <;> omega
    · constructor <;> dsimp only <;> omega
    · exact ⟨h₁, h₂, h₃, h₄, h₅⟩
  | changeDirectory dir fs =>
    obtain ⟨hc₁, hc₂⟩ := listDirectory_fileCount { fm with currentPath := changedPath fm.currentPath dir }
      (fs (changedPath fm.currentPath dir))
    constructor <;> simp only [changeDirectory, listDirectory_visibleItems] <;> omega

theorem NavInv.step {fm fm' : FileManager} (h : FmStep fm fm') (hi : NavInv fm) : NavInv fm' := by
  cases h with
  | cursor h => exact hi.cursorStep h
  | listDirectory dir =>
    obtain ⟨hc₁, hc₂⟩ := listDirectory_fileCount fm dir
    exact ⟨by simpa using hi.1, by simpa using hi.2, by simpa using hi.3, hc₁, hc₂⟩

theorem NavInv.steps {fm fm' : FileManager} (h : Relation.ReflTransGen FmStep fm fm')
    (hi : NavInv fm) : NavInv fm' := by
  induction h with
  | refl => exact hi
  | tail _ hs ih => exact ih.step hs

theorem navInv_initSession (cwd : List UInt8) (fs : List UInt8 → Option (List Dirent))
    (opened : Bool) : NavInv (initSession cwd fs opened).fm := by
  obtain ⟨h₁, h₂⟩ := listDirectory_fileCount ⟨cwd, fun _ => ⟨[], false, 0⟩, 0, 0, 0, 0⟩ (fs cwd)
  constructor <;> simp only [initSession] <;> omega

-- What every iteration of a run keeps holds after the run.
theorem runLoop_induction {P : FileManager → Prop} {romBufferSize : Nat} {ticks : List Tick}
    {s : Session} (hs : P s.fm)
    (hstep : ∀ s, ∀ t ∈ ticks, P s.fm → P (iteration romBufferSize s t).fm) :
    P (runLoop romBufferSize s ticks).fm := by
  induction ticks generalizing s with
  | nil => exact hs
  | cons t ts ih =>
    simp only [runLoop]
    split_ifs
    · exact ih (hstep s t (List.mem_cons_self t ts) hs) fun s t ht => hstep s t (.tail _ ht)
    · exact hs

theorem NavInv.runLoop {s : Session} (hi : NavInv s.fm) (romBufferSize : Nat) (ticks : List Tick) :
    NavInv (runLoop romBufferSize s ticks).fm :=
  runLoop_induction hi fun s t _ h => h.steps (iteration_steps romBufferSize s t)

-- Every row drawn is an entry of the listing.
theorem NavInv.renderRows_index {fm : FileManager} (hi : NavInv fm) :
    ∀ r ∈ renderRows fm, 0 ≤ r.index ∧ r.index < fm.fileCount := by
  simp only [renderRows, List.mem_map, List.mem_range]
  rintro _ ⟨k, hk, rfl⟩
  have := hi.scroll_nonneg
  unfold visibleEnd at hk
  simp only [renderRow]
  split_ifs at hk <;> omega

-- Over every run of the loop, the cursor stays on screen, and every index into `files` the loop
-- uses (the entry A selects, the rows drawn) is below `file_count`, itself at most `MAX_FILES`.
theorem runLoop_cursor_in_range (romBufferSize : Nat) (cwd : List UInt8)
    (fs : List UInt8 → Option (List Dirent)) (opened : Bool) (ticks : List Tick) :
    let fm := (runLoop romBufferSize (initSession cwd fs opened) ticks).fm
    (0 ≤ fm.scrollOffset ∧ fm.scrollOffset ≤ fm.selectedIndex ∧
      fm.selectedIndex < fm.scrollOffset + fm.visibleItems) ∧
    fm.fileCount ≤ MAX_FILES ∧
    (∀ i, selection fm = some i → (i : Int) < fm.fileCount) ∧
    ∀ r ∈ renderRows fm, 0 ≤ r.index ∧ r.index < fm.fileCount := by
  intro fm
  have hi : NavInv fm := (navInv_initSession cwd fs opened).runLoop romBufferSize ticks
  refine ⟨⟨hi.1, hi.2, hi.3⟩, hi.5, fun i h => ?_, hi.renderRows_index⟩
  unfold selection at h
  split_ifs at h with hc
  cases h; omega

-- The cursor stays on an entry until Y lists again

-- A non-empty listing has the cursor on one of its entries.
def OnEntry (fm : FileManager) : Prop :=
  0 < fm.fileCount → fm.selectedIndex < fm.fileCount

theorem OnEntry.cursorStep {fm fm' : FileManager} (h : CursorStep fm fm') (hi : OnEntry fm) :
    OnEntry fm' := by
  unfold OnEntry at hi ⊢
  cases h with
  | up =>
    unfold moveUp; split_ifs
    · dsimp only; omega
    · dsimp only; omega
    · exact hi
  | down =>
    unfold moveDown; split_ifs
    · dsimp only; omega
    · dsimp only; omega
    · exact hi
  | changeDirectory => exact id

theorem OnEntry.cursorSteps {fm fm' : FileManager} (h : Relation.ReflTransGen CursorStep fm fm')
    (hi : OnEntry fm) : OnEntry fm' := by
  induction h with
  | refl => exact hi
  | tail _ hs ih => exact ih.cursorStep hs

-- On a run where Y is never down, every non-empty listing has the cursor on an entry: only the
-- re-listing of Y can leave it past the end.
theorem runLoop_cursor_on_entry_without_relist (romBufferSize : Nat) (cwd : List UInt8)
    (fs : List UInt8 → Option (List Dirent)) (opened : Bool) (ticks : List Tick)
    (hY : ∀ t ∈ ticks, t.buttons .Y = false) :
    let fm := (runLoop romBufferSize (initSession cwd fs opened) ticks).fm
    0 < fm.fileCount → fm.selectedIndex < fm.fileCount :=
  runLoop_induction (P := OnEntry) (fun h => h)
    fun s t ht h => h.cursorSteps (iteration_cursorSteps romBufferSize s t (hY t ht))

theorem runLoop_cursor_on_entry_without_relist_three :
    let three : List UInt8 → Option (List Dirent) := fun _ =>
      some [⟨['a'.toUInt8], some (false, 1)⟩, ⟨['b'.toUInt8], some (false, 1)⟩,
        ⟨['c'.toUInt8], some (false, 1)⟩]
    let ticks : List Tick :=
      [⟨[], fun b => b == .DpadDown, 0, three⟩, ⟨[], fun b => b == .DpadDown, 200, three⟩]
    let fm := (runLoop 256 (initSession ['/'.toUInt8] three true) ticks).fm
    (∀ t ∈ ticks, t.buttons .Y = false) ∧ (0 < fm.fileCount → fm.selectedIndex < fm.fileCount) :=
  ⟨by decide, runLoop_cursor_on_entry_without_relist _ _ _ _ _ (by decide)⟩

-- Y lists the directory again but leaves the cursor where it was. Three files, the cursor moved
-- down twice (the second time by holding the D-pad past the repeat delay), then a listing that
-- finds one file: the cursor is past the end of the listing, and no row is marked.
theorem runLoop_relist_cursor_past_end :
    let three : List UInt8 → Option (List Dirent) := fun _ =>
      some [⟨['a'.toUInt8], some (false, 1)⟩, ⟨['b'.toUInt8], some (false, 1)⟩,
        ⟨['c'.toUInt8], some (false, 1)⟩]
    let one : List UInt8 → Option (List Dirent) := fun _ => some [⟨['a'.toUInt8], some (false, 1)⟩]
    let s := runLoop 256 (initSession ['/'.toUInt8] three true)
      [⟨[], fun b => b == .DpadDown, 0, three⟩, ⟨[], fun b => b == .DpadDown, 200, three⟩,
        ⟨[], fun b => b == .Y, 300, one⟩]
    0 < s.fm.fileCount ∧ s.fm.fileCount ≤ s.fm.selectedIndex ∧
      ∀ r ∈ renderRows s.fm, r.marked = false := by
  decide

end N64Emu.Frontend
