import N64Emu.Frontend.Environment

namespace N64Emu.Frontend

-- Input

-- The SDL scancodes `g_binds` and `core_input_poll` read.
def SDL_SCANCODE_A : Nat := 4
def SDL_SCANCODE_Q : Nat := 20
def SDL_SCANCODE_S : Nat := 22
def SDL_SCANCODE_W : Nat := 26
def SDL_SCANCODE_X : Nat := 27
def SDL_SCANCODE_Z : Nat := 29
def SDL_SCANCODE_RETURN : Nat := 40
def SDL_SCANCODE_ESCAPE : Nat := 41
def SDL_SCANCODE_BACKSPACE : Nat := 42
def SDL_SCANCODE_RIGHT : Nat := 79
def SDL_SCANCODE_LEFT : Nat := 80
def SDL_SCANCODE_DOWN : Nat := 81
def SDL_SCANCODE_UP : Nat := 82

-- The libretro joypad device and its button ids.
def RETRO_DEVICE_JOYPAD : Nat := 1
def RETRO_DEVICE_ID_JOYPAD_B : Nat := 0
def RETRO_DEVICE_ID_JOYPAD_Y : Nat := 1
def RETRO_DEVICE_ID_JOYPAD_SELECT : Nat := 2
def RETRO_DEVICE_ID_JOYPAD_START : Nat := 3
def RETRO_DEVICE_ID_JOYPAD_UP : Nat := 4
def RETRO_DEVICE_ID_JOYPAD_DOWN : Nat := 5
def RETRO_DEVICE_ID_JOYPAD_LEFT : Nat := 6
def RETRO_DEVICE_ID_JOYPAD_RIGHT : Nat := 7
def RETRO_DEVICE_ID_JOYPAD_A : Nat := 8
def RETRO_DEVICE_ID_JOYPAD_X : Nat := 9
def RETRO_DEVICE_ID_JOYPAD_L : Nat := 10
def RETRO_DEVICE_ID_JOYPAD_R : Nat := 11
def RETRO_DEVICE_ID_JOYPAD_R3 : Nat := 15

-- `struct keymap`: the scancode `k` that drives the joypad button `rk`.
structure Keymap where
  k : Nat
  rk : Nat
  deriving DecidableEq, Repr

-- `g_binds`, ended by `{ 0, 0 }`.
def gBinds : List Keymap := [
  ⟨SDL_SCANCODE_X, RETRO_DEVICE_ID_JOYPAD_A⟩,
  ⟨SDL_SCANCODE_Z, RETRO_DEVICE_ID_JOYPAD_B⟩,
  ⟨SDL_SCANCODE_A, RETRO_DEVICE_ID_JOYPAD_Y⟩,
  ⟨SDL_SCANCODE_S, RETRO_DEVICE_ID_JOYPAD_X⟩,
  ⟨SDL_SCANCODE_UP, RETRO_DEVICE_ID_JOYPAD_UP⟩,
  ⟨SDL_SCANCODE_DOWN, RETRO_DEVICE_ID_JOYPAD_DOWN⟩,
  ⟨SDL_SCANCODE_LEFT, RETRO_DEVICE_ID_JOYPAD_LEFT⟩,
  ⟨SDL_SCANCODE_RIGHT, RETRO_DEVICE_ID_JOYPAD_RIGHT⟩,
  ⟨SDL_SCANCODE_RETURN, RETRO_DEVICE_ID_JOYPAD_START⟩,
  ⟨SDL_SCANCODE_BACKSPACE, RETRO_DEVICE_ID_JOYPAD_SELECT⟩,
  ⟨SDL_SCANCODE_Q, RETRO_DEVICE_ID_JOYPAD_L⟩,
  ⟨SDL_SCANCODE_W, RETRO_DEVICE_ID_JOYPAD_R⟩,
  ⟨0, 0⟩]

-- The loop of `core_input_poll`: `g_joy[rk] = g_kbd[k]` for each entry before the first
-- `{ 0, 0 }`; `g_kbd` holds 1 for a key that is down.
def pollBinds (kbd : Nat → Bool) (joy : Nat → Nat) : List Keymap → Nat → Nat
  | [] => joy
  | b :: rest =>
    if b.k ≠ 0 ∨ b.rk ≠ 0 then pollBinds kbd (Function.update joy b.rk (kbd b.k).toNat) rest
    else joy

-- The emulator loop

-- The fields of a core's `struct retro_perf_counter` that the perf callbacks write; the core owns
-- the counters, named here by number.
structure PerfCounter where
  start : UInt64
  total : UInt64
  registered : Bool
  deriving DecidableEq, Repr

-- The globals of the emulator loop: those `core_environment` writes, `g_joy`, the two flags the
-- loop tests, `runloop_frame_time_last`, `perf_counter_last`, and the counters the core hands to
-- the perf callbacks.
structure Runtime where
  globals : Globals
  gJoy : Nat → Nat
  running : Bool
  emulatorRunning : Bool
  runloopFrameTimeLast : Int
  perfCounterLast : Option Nat
  perfCounters : Nat → PerfCounter

-- `core_input_poll`: the keyboard `SDL_GetKeyboardState` reports is copied into `g_joy`, and
-- Escape clears `running`.
def coreInputPoll (r : Runtime) (kbd : Nat → Bool) : Runtime :=
  let r := { r with gJoy := pollBinds kbd r.gJoy gBinds }
  if kbd SDL_SCANCODE_ESCAPE then { r with running := false } else r

-- `core_input_state`: 0 off the first joypad, else `g_joy[id]`; `none` reads past the
-- `RETRO_DEVICE_ID_JOYPAD_R3 + 1` entries of `g_joy`.
def coreInputState (r : Runtime) (port device index id : Nat) : Option Int :=
  if port ≠ 0 ∨ index ≠ 0 ∨ device ≠ RETRO_DEVICE_JOYPAD then some 0
  else if id ≤ RETRO_DEVICE_ID_JOYPAD_R3 then some (r.gJoy id)
  else none

-- The levels of `enum retro_log_level` that `core_log` treats apart.
def RETRO_LOG_DEBUG : Nat := 0
def RETRO_LOG_INFO : Nat := 1
def RETRO_LOG_ERROR : Nat := 3

-- Whether `core_log` returns: a debug message is dropped and an info or a warning printed with its
-- `levelstr`, while an error ends the process with `exit(EXIT_FAILURE)` and a level past
-- `levelstr` reads out of bounds.
def coreLog (level : Nat) : Bool := level < RETRO_LOG_ERROR

-- `core_perf_register`.
def corePerfRegister (r : Runtime) (counter : Nat) : Runtime :=
  let c := r.perfCounters counter
  { r with perfCounterLast := some counter,
           perfCounters := Function.update r.perfCounters counter { c with registered := true } }

-- `core_perf_start`; `now` is what `SDL_GetPerformanceCounter` returns.
def corePerfStart (r : Runtime) (counter : Nat) (now : UInt64) : Runtime :=
  let c := r.perfCounters counter
  { r with perfCounters :=
      if c.registered then Function.update r.perfCounters counter { c with start := now }
      else r.perfCounters }

-- `core_perf_stop`: `total` is the unsigned difference from `start`.
def corePerfStop (r : Runtime) (counter : Nat) (now : UInt64) : Runtime :=
  let c := r.perfCounters counter
  { r with perfCounters := Function.update r.perfCounters counter { c with total := now - c.start } }

-- The `data` of a frame: NULL (a duplicated frame), `RETRO_HW_FRAME_BUFFER_VALID`, or pixels in
-- memory to upload.
inductive FrameData where
  | Null
  | HwFrameBufferValid
  | Pixels
  deriving DecidableEq, Repr

-- `video_refresh`: the clip size and pitch of the frame are stored; pixels in memory are
-- uploaded with `GL_UNPACK_ROW_LENGTH` set to `g_video.pitch / g_video.bpp`, whose division by
-- zero is `none`.
def videoRefresh (v : Video) (data : FrameData) (width height pitch : Nat) : Option Video :=
  let v := if v.clipW ≠ width ∨ v.clipH ≠ height then { v with clipH := height, clipW := width }
    else v
  let v := if pitch ≠ v.pitch then { v with pitch := pitch } else v
  match data with
  | .Pixels => if v.bpp = 0 then none else some v
  | _ => some v

-- The callbacks the core makes into the frontend.
inductive CoreCall where
  | environment (call : EnvCall)
  | inputPoll (kbd : Nat → Bool)
  | inputState (port device index id : Nat)
  | videoRefresh (data : FrameData) (width height pitch : Nat)
  | audioSample
  | audioSampleBatch (frames : Nat)
  | log (level : Nat)
  | perfRegister (counter : Nat)
  | perfStart (counter : Nat) (now : UInt64)
  | perfStop (counter : Nat) (now : UInt64)
  | perfLog

-- One callback and the globals after it; `none` where its behaviour is undefined or it does not
-- return. The audio callbacks only queue samples with SDL, and the text `core_log` prints is not
-- modelled.
def coreCall (r : Runtime) : CoreCall → Option Runtime
  | .environment call => (coreEnvironment r.globals call).map fun res => { r with globals := res.2.2 }
  | .inputPoll kbd => some (coreInputPoll r kbd)
  | .inputState port device index id => (coreInputState r port device index id).map fun _ => r
  | .videoRefresh data width height pitch =>
    (videoRefresh r.globals.video data width height pitch).map fun v =>
      { r with globals := { r.globals with video := v } }
  | .audioSample => some r
  | .audioSampleBatch _ => some r
  | .log level => if coreLog level then some r else none
  | .perfRegister counter => some (corePerfRegister r counter)
  | .perfStart counter now => some (corePerfStart r counter now)
  | .perfStop counter now => some (corePerfStop r counter now)
  -- `core_perf_log` reads `perf_counter_last->ident`, through NULL before any registration
  | .perfLog => if r.perfCounterLast.isSome && coreLog RETRO_LOG_INFO then some r else none

-- The SDL events the emulator loop reacts to.
inductive EmuEvent where
  | Quit
  | WindowClose
  | WindowResized (width height : Nat)
  | Other
  deriving DecidableEq, Repr

def handleEmuEvent (r : Runtime) : EmuEvent → Runtime
  | .Quit => { r with emulatorRunning := false, running := false }
  | .WindowClose => { r with emulatorRunning := false, running := false }
  | _ => r

-- The frame-time block: with a callback set, the microseconds since the last frame (the
-- callback's `reference` the first time) are handed to it.
def frameTime (r : Runtime) (ticks : UInt32) : Runtime × Option Int :=
  if r.globals.runloopFrameTime.callback then
    let current : Int := ticks.toNat * 1000
    let delta := if r.runloopFrameTimeLast = 0 then r.globals.runloopFrameTime.reference
      else current - r.runloopFrameTimeLast
    ({ r with runloopFrameTimeLast := current }, some delta)
  else (r, none)

-- What one pass of the loop reads: `SDL_GetTicks` at the frame-time block, the events polled, and
-- the callbacks the core makes in `retro_run`.
structure Frame where
  ticks : UInt32
  events : List EmuEvent
  core : List CoreCall

-- One pass: the frame-time block, the events, then `retro_run`; with the delta handed to the
-- frame-time callback.
def emulatorFrame (r : Runtime) (frame : Frame) : Option (Runtime × Option Int) :=
  let timed := frameTime r frame.ticks
  let r := frame.events.foldl handleEmuEvent timed.1
  (frame.core.foldlM coreCall r).map fun r => (r, timed.2)

-- `while (emulator_running && running)`, over the frames given: the globals after the passes it
-- makes, and the deltas handed to the frame-time callback.
def emulatorLoop (r : Runtime) : List Frame → Option (Runtime × List Int)
  | [] => some (r, [])
  | frame :: frames =>
    if r.emulatorRunning && r.running then
      (emulatorFrame r frame).bind fun step =>
        (emulatorLoop step.1 frames).map fun rest => (rest.1, step.2.toList ++ rest.2)
    else some (r, [])

-- The loop's globals when `main` starts: static storage, zero but for `running`.
def Runtime.initial : Runtime :=
  ⟨Globals.zero, fun _ => 0, true, false, 0, none, fun _ => ⟨0, 0, false⟩⟩

-- What the core's callbacks read and write: the globals, `g_joy`, and the perf counters.
def Runtime.coreView (r : Runtime) : Globals × (Nat → Nat) × Option Nat × (Nat → PerfCounter) :=
  (r.globals, r.gJoy, r.perfCounterLast, r.perfCounters)

-- `core_input_poll` as one update: `running` is the only field its `if` decides.
theorem coreInputPoll_eq (r : Runtime) (kbd : Nat → Bool) :
    coreInputPoll r kbd =
      { r with gJoy := pollBinds kbd r.gJoy gBinds, running := r.running && !kbd SDL_SCANCODE_ESCAPE } := by
  unfold coreInputPoll; cases kbd SDL_SCANCODE_ESCAPE <;> simp

@[simp] theorem frameTime_fst_coreView (r : Runtime) (ticks : UInt32) :
    (frameTime r ticks).1.coreView = r.coreView := by
  unfold frameTime; split <;> rfl

@[simp] theorem frameTime_fst_globals (r : Runtime) (ticks : UInt32) :
    (frameTime r ticks).1.globals = r.globals := by
  unfold frameTime; split <;> rfl

-- A fact about the callbacks made so far that each callback keeps holds after any sequence of
-- them.
theorem foldlM_coreCall_induction {β : Type} (next : β → CoreCall → β) (Q : β → Runtime → Prop)
    {calls : List CoreCall}
    (hstep : ∀ {b r c r'}, c ∈ calls → Q b r → coreCall r c = some r' → Q (next b c) r')
    {r r' : Runtime} {b : β} (hr : Q b r) (h : calls.foldlM coreCall r = some r') :
    Q (calls.foldl next b) r' := by
  induction calls generalizing r b with
  | nil => cases h; exact hr
  | cons c cs ih =>
    obtain ⟨r₁, h₁, h⟩ := Option.bind_eq_some.1 h
    exact ih (fun hc => hstep (List.mem_cons_of_mem _ hc)) (hstep (List.mem_cons_self _ _) hr h₁) h

-- What the core reads from `g_joy`

-- The entry of `g_binds` before its `{ 0, 0 }` that drives the button `id`.
def bindOf (id : Nat) : Option Keymap :=
  (gBinds.takeWhile fun b => b.k ≠ 0 ∨ b.rk ≠ 0).find? (·.rk == id)

-- `g_joy` as the keyboard `kbd` drives it: a bound button is 1 while its key is down, any other
-- button 0.
def joypad (kbd : Nat → Bool) (id : Nat) : Nat :=
  (bindOf id).elim 0 fun b => (kbd b.k).toNat

-- The keyboard the core last had polled: the one `core_input_poll` reads, else the one before.
def CoreCall.keyboard (kbd : Nat → Bool) : CoreCall → Nat → Bool
  | .inputPoll k => k
  | _ => kbd

-- Where no two entries before the end drive one button, a button holds its key's state, or what
-- it held before when no entry drives it.
theorem pollBinds_apply (kbd : Nat → Bool) (joy : Nat → Nat) (bs : List Keymap)
    (hnd : ((bs.takeWhile fun b => b.k ≠ 0 ∨ b.rk ≠ 0).map (·.rk)).Nodup) (id : Nat) :
    pollBinds kbd joy bs id =
      ((bs.takeWhile fun b => b.k ≠ 0 ∨ b.rk ≠ 0).find? (·.rk == id)).elim (joy id)
        fun b => (kbd b.k).toNat := by
  induction bs generalizing joy with
  | nil => rfl
  | cons b bs ih =>
    by_cases hb : b.k ≠ 0 ∨ b.rk ≠ 0
    · rw [List.takeWhile_cons_of_pos (by simpa using hb)] at hnd ⊢
      obtain ⟨hfresh, hnd⟩ := List.nodup_cons.1 hnd
      rw [pollBinds, if_pos hb, ih _ hnd, List.find?_cons]
      by_cases hid : b.rk = id
      · -- the entry drives `id`, and no later one does
        subst hid
        rw [List.find?_eq_none.2 fun b' hb' h =>
          hfresh (List.mem_map.2 ⟨b', hb', by simpa using h⟩)]
        simp
      · rw [show (b.rk == id) = false by simpa using hid, Function.update_noteq (Ne.symm hid)]
    · rw [pollBinds, if_neg hb, List.takeWhile_cons_of_neg (by simpa using hb)]
      rfl

-- From the joypad of any keyboard, a poll leaves the joypad of the keyboard it reads.
theorem pollBinds_joypad (kbd kbd' : Nat → Bool) : pollBinds kbd (joypad kbd') gBinds = joypad kbd :=
  funext fun id => by
    rw [pollBinds_apply kbd _ gBinds (by decide)]
    unfold joypad bindOf
    cases (gBinds.takeWhile fun b => b.k ≠ 0 ∨ b.rk ≠ 0).find? (·.rk == id) <;> rfl

-- With every key up `g_joy` is zero, as static storage starts it.
theorem joypad_all_up : joypad (fun _ => false) = fun _ => 0 :=
  funext fun id => by unfold joypad; cases bindOf id <;> rfl

theorem coreCall_gJoy {r r' : Runtime} {c : CoreCall} {kbd : Nat → Bool}
    (hjoy : r.gJoy = joypad kbd) (h : coreCall r c = some r') : r'.gJoy = joypad (c.keyboard kbd) := by
  cases c <;> simp only [coreCall, Option.map_eq_some', Option.some.injEq,
    Option.ite_none_right_eq_some] at h <;> first | subst h | obtain ⟨_, _, rfl⟩ := h
  case inputPoll k =>
    rw [coreInputPoll_eq, hjoy, pollBinds_joypad]
    rfl
  all_goals exact hjoy

-- Over any sequence of callbacks, `core_input_state` answers each button of the first joypad
-- with the state of the key `g_binds` binds to it at the last `core_input_poll`: 0 for the
-- buttons no key drives, and as all keys up before any poll.
theorem coreInputState_joypad (calls : List CoreCall) (r r' : Runtime) (kbd : Nat → Bool)
    (hjoy : r.gJoy = joypad kbd) (h : calls.foldlM coreCall r = some r') (id : Nat)
    (hid : id ≤ RETRO_DEVICE_ID_JOYPAD_R3) :
    coreInputState r' 0 RETRO_DEVICE_JOYPAD 0 id =
      some (joypad (calls.foldl CoreCall.keyboard kbd) id) := by
  have hjoy' := foldlM_coreCall_induction CoreCall.keyboard (fun kbd r => r.gJoy = joypad kbd)
    (fun _ hjoy h => coreCall_gJoy hjoy h) hjoy h
  simp only [coreInputState, ne_eq, not_true_eq_false, or_self, if_false, if_pos hid, hjoy']
  rfl

theorem coreInputState_joypad_x :
    let kbd : Nat → Bool := fun k => k == SDL_SCANCODE_X
    let calls := [CoreCall.inputPoll kbd, .audioSampleBatch 735]
    (Runtime.initial.gJoy = joypad (fun _ => false) ∧
      calls.foldlM coreCall Runtime.initial = some (coreInputPoll Runtime.initial kbd) ∧
      RETRO_DEVICE_ID_JOYPAD_A ≤ RETRO_DEVICE_ID_JOYPAD_R3) ∧
    coreInputState (coreInputPoll Runtime.initial kbd) 0 RETRO_DEVICE_JOYPAD 0
        RETRO_DEVICE_ID_JOYPAD_A =
      some (joypad (calls.foldl CoreCall.keyboard fun _ => false) RETRO_DEVICE_ID_JOYPAD_A) := by
  intro kbd calls
  exact ⟨⟨joypad_all_up.symm, rfl, by decide⟩,
    coreInputState_joypad calls _ _ _ joypad_all_up.symm rfl _ (by decide)⟩

-- The pixel format and software frames

-- The format in force after a callback.
def CoreCall.pixelFormat (fmt : Option Nat) : CoreCall → Option Nat
  | .environment call => call.pixelFormat fmt
  | _ => fmt

theorem videoRefresh_format {v v' : Video} {data : FrameData} {width height pitch : Nat}
    (h : videoRefresh v data width height pitch = some v') : v'.format = v.format := by
  unfold videoRefresh at h
  cases data <;> dsimp only at h <;> split_ifs at h <;> cases h <;> rfl

theorem coreCall_format {r r' : Runtime} {c : CoreCall} {fmt : Option Nat}
    (hf : r.globals.video.format = formatOf fmt) (h : coreCall r c = some r') :
    r'.globals.video.format = formatOf (c.pixelFormat fmt) := by
  cases c <;> simp only [coreCall, Option.map_eq_some', Option.some.injEq,
    Option.ite_none_right_eq_some] at h <;> first | subst h | obtain ⟨_, _, rfl⟩ := h
  case environment call res hres => exact coreEnvironment_format hf hres
  case videoRefresh data width height pitch v hv => exact (videoRefresh_format hv).trans hf
  case inputPoll k => rwa [coreInputPoll_eq]
  all_goals exact hf

-- Over any sequence of callbacks, the pixel format fields of `g_video` are those of the last
-- format `SET_PIXEL_FORMAT` accepted, or still those before the sequence; and from any state
-- `SET_PIXEL_FORMAT` returns, never reaching the `die` of `video_set_pixel_format`.
theorem foldlM_coreCall_format (calls : List CoreCall) (r r' : Runtime) (fmt : Option Nat)
    (hf : r.globals.video.format = formatOf fmt) (h : calls.foldlM coreCall r = some r') :
    r'.globals.video.format = formatOf (calls.foldl CoreCall.pixelFormat fmt) ∧
      ∀ (s : Runtime) (format : Nat), coreCall s (.environment (.SetPixelFormat format)) ≠ none :=
  ⟨foldlM_coreCall_induction CoreCall.pixelFormat
    (fun fmt r => r.globals.video.format = formatOf fmt) (fun _ hf h => coreCall_format hf h) hf h,
    fun s format => by simp [coreCall, coreEnvironment_setPixelFormat_ne_none]⟩

-- A rejected format leaves the accepted one in force.
theorem foldlM_coreCall_format_xrgb :
    let calls := [CoreCall.environment (.SetPixelFormat RETRO_PIXEL_FORMAT_XRGB8888),
      .environment (.SetPixelFormat 7)]
    let r' : Runtime := { Runtime.initial with
      globals := { Globals.zero with
        video := { Globals.zero.video with
          pixfmt := GL_UNSIGNED_INT_8_8_8_8_REV, pixtype := GL_BGRA, bpp := 4 } } }
    (Runtime.initial.globals.video.format = formatOf none ∧
      calls.foldlM coreCall Runtime.initial = some r') ∧
    r'.globals.video.format = formatOf (calls.foldl CoreCall.pixelFormat none) ∧
      ∀ (s : Runtime) (format : Nat), coreCall s (.environment (.SetPixelFormat format)) ≠ none := by
  intro calls r'
  exact ⟨⟨rfl, rfl⟩, foldlM_coreCall_format calls Runtime.initial r' none rfl rfl⟩

-- Whether a callback is a poll that sees Escape down.
def CoreCall.escape : CoreCall → Bool
  | .inputPoll kbd => kbd SDL_SCANCODE_ESCAPE
  | _ => false

-- A callback changes neither `emulator_running` nor `runloop_frame_time_last`, and clears
-- `running` exactly on a poll that sees Escape.
theorem coreCall_flags {r r' : Runtime} {c : CoreCall} (h : coreCall r c = some r') :
    r'.emulatorRunning = r.emulatorRunning ∧ r'.runloopFrameTimeLast = r.runloopFrameTimeLast ∧
      r'.running = (r.running && !c.escape) := by
  cases c <;> simp only [coreCall, Option.map_eq_some', Option.some.injEq,
    Option.ite_none_right_eq_some] at h <;> first | subst h | obtain ⟨_, _, rfl⟩ := h
  case inputPoll kbd => rw [coreInputPoll_eq]; exact ⟨rfl, rfl, rfl⟩
  all_goals simp [CoreCall.escape, corePerfRegister, corePerfStart, corePerfStop]

theorem foldlM_coreCall_flags {calls : List CoreCall} {r r' : Runtime}
    (h : calls.foldlM coreCall r = some r') :
    r'.emulatorRunning = r.emulatorRunning ∧ r'.runloopFrameTimeLast = r.runloopFrameTimeLast ∧
      r'.running = (r.running && !calls.any CoreCall.escape) := by
  induction calls generalizing r with
  | nil => cases h; simp
  | cons c cs ih =>
    obtain ⟨r₁, h₁, h⟩ := Option.bind_eq_some.1 h
    obtain ⟨he₁, hl₁, hr₁⟩ := coreCall_flags h₁
    obtain ⟨he, hl, hr⟩ := ih h
    refine ⟨he.trans he₁, hl.trans hl₁, ?_⟩
    rw [hr, hr₁, List.any_cons, Bool.not_or, Bool.and_assoc]

-- What is stored after a callback: only environment commands store anything.
def CoreCall.store (s : Stored) : CoreCall → Stored
  | .environment call => call.store s
  | _ => s

theorem videoRefresh_hwContextType {v v' : Video} {data : FrameData} {width height pitch : Nat}
    (h : videoRefresh v data width height pitch = some v') :
    v'.hwContextType = v.hwContextType := by
  unfold videoRefresh at h
  dsimp only at h
  split at h <;> split_ifs at h <;> cases h <;> rfl

-- Only `SET_HW_RENDER`, `SET_FRAME_TIME_CALLBACK` and `SET_AUDIO_CALLBACK` change what is stored.
theorem coreCall_stored {r r' : Runtime} {c : CoreCall} (h : coreCall r c = some r') :
    r'.globals.stored = c.store r.globals.stored := by
  cases c <;> simp only [coreCall, Option.map_eq_some', Option.some.injEq,
    Option.ite_none_right_eq_some] at h <;> first | subst h | obtain ⟨_, _, rfl⟩ := h
  case environment call res hres => exact coreEnvironment_stored hres
  case inputPoll kbd => rw [coreInputPoll_eq]; rfl
  case videoRefresh data width height pitch v hv =>
    simp only [Globals.stored, videoRefresh_hwContextType hv, CoreCall.store]
  all_goals rfl

theorem foldlM_coreCall_stored {calls : List CoreCall} {r r' : Runtime}
    (h : calls.foldlM coreCall r = some r') :
    r'.globals.stored = calls.foldl CoreCall.store r.globals.stored :=
  foldlM_coreCall_induction CoreCall.store (fun s r => r.globals.stored = s)
    (fun _ (hs : _ = _) h => (coreCall_stored h).trans (congrArg (CoreCall.store · _) hs)) rfl h

theorem coreCall_runloopFrameTime {r r' : Runtime} {c : CoreCall}
    (hc : ∀ cb, c ≠ .environment (.SetFrameTimeCallback cb)) (h : coreCall r c = some r') :
    r'.globals.runloopFrameTime = r.globals.runloopFrameTime := by
  have hs := congrArg Stored.runloopFrameTime (coreCall_stored h)
  cases c with
  | environment call => cases call <;> first | exact absurd rfl (hc _) | exact hs
  | _ => exact hs

-- What a callback does depends on the state only through what the core's callbacks see.
theorem coreCall_coreView {r₁ r₂ : Runtime} (hv : r₁.coreView = r₂.coreView) (c : CoreCall) :
    (coreCall r₁ c).map Runtime.coreView = (coreCall r₂ c).map Runtime.coreView := by
  obtain ⟨g, j, _, _, _, l, p⟩ := r₁
  obtain ⟨g', j', _, _, _, l', p'⟩ := r₂
  simp only [Runtime.coreView, Prod.mk.injEq] at hv
  obtain ⟨rfl, rfl, rfl, rfl⟩ := hv
  cases c
  case inputPoll kbd => simp only [coreCall, coreInputPoll_eq]; rfl
  case log level => simp only [coreCall]; split <;> rfl
  case perfLog => simp only [coreCall]; split <;> rfl
  case environment call => simp only [coreCall, Option.map_map]; rfl
  case inputState port device index id => simp only [coreCall, Option.map_map]; rfl
  case videoRefresh data width height pitch => simp only [coreCall, Option.map_map]; rfl
  all_goals rfl

-- From two states that agree on what the callbacks see, a callback that succeeds from the one
-- succeeds from the other, and they agree after it.
theorem coreCall_sim {r₁ r₂ r₁' : Runtime} {c : CoreCall} (hv : r₁.coreView = r₂.coreView)
    (h : coreCall r₁ c = some r₁') :
    ∃ r₂', coreCall r₂ c = some r₂' ∧ r₁'.coreView = r₂'.coreView := by
  have := coreCall_coreView hv c
  rw [h, Option.map_some', eq_comm, Option.map_eq_some'] at this
  obtain ⟨r₂', h₂, hv'⟩ := this
  exact ⟨r₂', h₂, hv'.symm⟩

theorem foldlM_coreCall_sim {calls : List CoreCall} {r₁ r₂ r₁' : Runtime}
    (hv : r₁.coreView = r₂.coreView) (h : calls.foldlM coreCall r₁ = some r₁') :
    ∃ r₂', calls.foldlM coreCall r₂ = some r₂' ∧ r₁'.coreView = r₂'.coreView := by
  induction calls generalizing r₁ r₂ with
  | nil => cases h; exact ⟨r₂, rfl, hv⟩
  | cons c cs ih =>
    obtain ⟨s₁, hs₁, h⟩ := Option.bind_eq_some.1 h
    obtain ⟨s₂, hs₂, hv'⟩ := coreCall_sim hv hs₁
    obtain ⟨r₂', h', hv''⟩ := ih hv' h
    exact ⟨r₂', by rw [List.foldlM_cons, hs₂]; exact h', hv''⟩

-- Whether a pass leaves the loop's condition false: a quit, a window close, or a poll that sees
-- Escape.
def Frame.stops (frame : Frame) : Bool :=
  decide (EmuEvent.Quit ∈ frame.events) || decide (EmuEvent.WindowClose ∈ frame.events) ||
    frame.core.any CoreCall.escape

-- The number of passes `while (emulator_running && running)` makes over the frames given, from a
-- state whose condition is `go`: one per frame up to and including the first that stops it.
def loopPasses : Bool → List Frame → Nat
  | false, _ => 0
  | true, [] => 0
  | true, frame :: frames => loopPasses (!frame.stops) frames + 1

@[simp] theorem frameTime_fst_emulatorRunning (r : Runtime) (ticks : UInt32) :
    (frameTime r ticks).1.emulatorRunning = r.emulatorRunning := by
  unfold frameTime; split <;> rfl

@[simp] theorem frameTime_fst_running (r : Runtime) (ticks : UInt32) :
    (frameTime r ticks).1.running = r.running := by
  unfold frameTime; split <;> rfl

-- The events of one pass: a quit or a window close clears both flags, and nothing else changes.
theorem foldl_handleEmuEvent (events : List EmuEvent) (r : Runtime) :
    events.foldl handleEmuEvent r =
      if EmuEvent.Quit ∈ events ∨ EmuEvent.WindowClose ∈ events then
        { r with emulatorRunning := false, running := false }
      else r := by
  induction events generalizing r with
  | nil => simp
  | cons e es ih => cases e <;> simp [handleEmuEvent, ih]

@[simp] theorem foldl_handleEmuEvent_coreView (events : List EmuEvent) (r : Runtime) :
    (events.foldl handleEmuEvent r).coreView = r.coreView := by
  rw [foldl_handleEmuEvent]; split <;> rfl

@[simp] theorem foldl_handleEmuEvent_globals (events : List EmuEvent) (r : Runtime) :
    (events.foldl handleEmuEvent r).globals = r.globals := by
  rw [foldl_handleEmuEvent]; split <;> rfl

@[simp] theorem foldl_handleEmuEvent_runloopFrameTimeLast (events : List EmuEvent) (r : Runtime) :
    (events.foldl handleEmuEvent r).runloopFrameTimeLast = r.runloopFrameTimeLast := by
  rw [foldl_handleEmuEvent]; split <;> rfl

theorem emulatorFrame_eq_some {r r' : Runtime} {frame : Frame} {d : Option Int}
    (h : emulatorFrame r frame = some (r', d)) :
    frame.core.foldlM coreCall (frame.events.foldl handleEmuEvent (frameTime r frame.ticks).1) =
      some r' ∧ d = (frameTime r frame.ticks).2 := by
  obtain ⟨_, h₁, h⟩ := Option.map_eq_some'.1 h
  cases h
  exact ⟨h₁, rfl⟩

-- A pass leaves the loop's condition true exactly when it held before and the pass does not stop
-- the loop.
theorem emulatorFrame_condition {r r' : Runtime} {frame : Frame} {d : Option Int}
    (h : emulatorFrame r frame = some (r', d)) :
    (r'.emulatorRunning && r'.running) = (r.emulatorRunning && r.running && !frame.stops) := by
  obtain ⟨he, -, hr⟩ := foldlM_coreCall_flags (emulatorFrame_eq_some h).1
  rw [foldl_handleEmuEvent] at he hr
  rw [he, hr, Frame.stops]
  by_cases hq : EmuEvent.Quit ∈ frame.events <;> by_cases hw : EmuEvent.WindowClose ∈ frame.events <;>
    simp [hq, hw, Bool.and_assoc]

theorem emulatorLoop_of_stopped {r : Runtime} (h : (r.emulatorRunning && r.running) = false)
    (frames : List Frame) : emulatorLoop r frames = some (r, []) := by
  cases frames <;> simp [emulatorLoop, h]

-- What a run that starts with a pass can be: the loop's condition is false and nothing runs, or
-- the pass runs and the rest of the run goes on from it.
theorem emulatorLoop_cons_eq_some {r r' : Runtime} {frame : Frame} {frames : List Frame}
    {ds : List Int} (h : emulatorLoop r (frame :: frames) = some (r', ds)) :
    ((r.emulatorRunning && r.running) = false ∧ r' = r ∧ ds = []) ∨
      (r.emulatorRunning && r.running) = true ∧ ∃ r₁ d ds', emulatorFrame r frame = some (r₁, d) ∧
        emulatorLoop r₁ frames = some (r', ds') ∧ ds = d.toList ++ ds' := by
  simp only [emulatorLoop] at h
  split at h
  · obtain ⟨⟨r₁, d⟩, hf, h⟩ := Option.bind_eq_some.1 h
    obtain ⟨⟨r₂, ds'⟩, hl, h⟩ := Option.map_eq_some'.1 h
    cases h
    exact .inr ⟨by assumption, r₁, d, ds', hf, hl, rfl⟩
  · cases h
    exact .inl ⟨Bool.eq_false_iff.2 ‹_›, rfl, rfl⟩

-- A pass with a quit, a window close, or a poll that sees Escape ends with the loop's condition
-- false.
theorem emulatorFrame_stops {r r' : Runtime} {frame : Frame} {d : Option Int}
    (h : emulatorFrame r frame = some (r', d))
    (hstop : EmuEvent.Quit ∈ frame.events ∨ EmuEvent.WindowClose ∈ frame.events ∨
      ∃ kbd, CoreCall.inputPoll kbd ∈ frame.core ∧ kbd SDL_SCANCODE_ESCAPE = true) :
    (r'.emulatorRunning && r'.running) = false := by
  obtain ⟨he, -, hr⟩ := foldlM_coreCall_flags (emulatorFrame_eq_some h).1
  rw [foldl_handleEmuEvent] at he hr
  rcases hstop with hq | hw | ⟨kbd, hmem, hesc⟩
  · simp [he, hq]
  · simp [he, hw]
  · have hany : frame.core.any CoreCall.escape = true := List.any_eq_true.2 ⟨_, hmem, hesc⟩
    simp [hr, hany]

-- Once a pass sees a quit, a window close or Escape, the loop makes no further pass: the frames
-- that would follow it are never run.
theorem emulatorLoop_stops_after (r : Runtime) (pre post : List Frame) (frame : Frame)
    (hstop : EmuEvent.Quit ∈ frame.events ∨ EmuEvent.WindowClose ∈ frame.events ∨
      ∃ kbd, CoreCall.inputPoll kbd ∈ frame.core ∧ kbd SDL_SCANCODE_ESCAPE = true) :
    emulatorLoop r (pre ++ frame :: post) = emulatorLoop r (pre ++ [frame]) := by
  induction pre generalizing r with
  | cons f pre ih =>
    rw [List.cons_append, List.cons_append, emulatorLoop, emulatorLoop]
    simp only [ih]
  | nil =>
    rw [List.nil_append, List.nil_append, emulatorLoop, emulatorLoop]
    split
    · cases hf : emulatorFrame r frame with
      | none => rfl
      | some step =>
        obtain ⟨r₁, d⟩ := step
        simp only [Option.some_bind, emulatorLoop_of_stopped (emulatorFrame_stops hf hstop)]
    · rfl

theorem emulatorLoop_stops_after_quit :
    let r : Runtime := { Runtime.initial with emulatorRunning := true }
    let frame : Frame := ⟨1, [.Quit], []⟩
    (EmuEvent.Quit ∈ frame.events ∨ EmuEvent.WindowClose ∈ frame.events ∨
      ∃ kbd, CoreCall.inputPoll kbd ∈ frame.core ∧ kbd SDL_SCANCODE_ESCAPE = true) ∧
    emulatorLoop r ([] ++ frame :: [⟨2, [], []⟩]) = emulatorLoop r ([] ++ [frame]) := by
  intro r frame
  exact ⟨.inl (by decide), emulatorLoop_stops_after r [] [⟨2, [], []⟩] frame (.inl (by decide))⟩

-- One pass with the frame-time callback set: the callback gets the time since the last pass, or
-- `reference` while `runloop_frame_time_last` is 0; the callback stays as it was unless the core
-- sets another.
theorem emulatorFrame_frameTime {r r' : Runtime} {frame : Frame} {d : Option Int}
    (h : emulatorFrame r frame = some (r', d)) (hcb : r.globals.runloopFrameTime.callback = true)
    (hkeep : ∀ c ∈ frame.core, ∀ cb, c ≠ .environment (.SetFrameTimeCallback cb)) :
    d = some (if r.runloopFrameTimeLast = 0 then r.globals.runloopFrameTime.reference
      else (frame.ticks.toNat : Int) * 1000 - r.runloopFrameTimeLast) ∧
    r'.runloopFrameTimeLast = (frame.ticks.toNat : Int) * 1000 ∧
    r'.globals.runloopFrameTime = r.globals.runloopFrameTime := by
  obtain ⟨hcore, rfl⟩ := emulatorFrame_eq_some h
  have hcb' := foldlM_coreCall_induction (b := ()) (fun _ _ => ()) (fun _ r₁ =>
      r₁.globals.runloopFrameTime = r.globals.runloopFrameTime)
    (fun hc hr h => (coreCall_runloopFrameTime (hkeep _ hc) h).trans hr)
    (by simp) hcore
  obtain ⟨-, hlast, -⟩ := foldlM_coreCall_flags hcore
  simp only [frameTime, hcb, if_true] at hlast ⊢
  exact ⟨trivial, by simpa using hlast, hcb'⟩

-- Over a run with the frame-time callback set and kept, the deltas handed to it are, pass by
-- pass, those of the code's `if`, each against the time of the pass before.
theorem emulatorLoop_frameTime {r r' : Runtime} {frames : List Frame} {ds : List Int}
    (hcb : r.globals.runloopFrameTime.callback = true)
    (hkeep : ∀ frame ∈ frames, ∀ c ∈ frame.core, ∀ cb, c ≠ .environment (.SetFrameTimeCallback cb))
    (h : emulatorLoop r frames = some (r', ds)) :
    ds <+: List.zipWith
      (fun t last => if last = 0 then r.globals.runloopFrameTime.reference else t - last)
      (frames.map fun frame => (frame.ticks.toNat : Int) * 1000)
      (r.runloopFrameTimeLast :: frames.map fun frame => (frame.ticks.toNat : Int) * 1000) := by
  induction frames generalizing r ds with
  | nil => cases h; exact List.nil_prefix
  | cons frame frames ih =>
    rcases emulatorLoop_cons_eq_some h with ⟨-, -, rfl⟩ | ⟨-, r₁, d, ds', hf, hl, rfl⟩
    · exact List.nil_prefix
    obtain ⟨rfl, hlast, hcb₁⟩ := emulatorFrame_frameTime hf hcb (hkeep _ (List.mem_cons_self _ _))
    have hrest := ih (hcb₁ ▸ hcb) (fun f hf => hkeep f (List.mem_cons_of_mem _ hf)) hl
    rw [hlast, hcb₁] at hrest
    simpa only [List.map_cons, List.zipWith_cons_cons, Option.toList, List.singleton_append,
      List.cons_prefix_cons, true_and] using hrest

theorem zipWith_frameTime_of_ne_zero (reference : Int) :
    ∀ ts lasts : List Int, (∀ last ∈ lasts, last ≠ 0) →
      List.zipWith (fun t last => if last = 0 then reference else t - last) ts lasts =
        List.zipWith (· - ·) ts lasts
  | t :: ts, last :: lasts, h => by
    rw [List.zipWith_cons_cons, List.zipWith_cons_cons, if_neg (h last (List.mem_cons_self _ _)),
      zipWith_frameTime_of_ne_zero reference ts lasts fun x hx => h x (List.mem_cons_of_mem _ hx)]
  | [], _, _ => by simp
  | _ :: _, [], _ => by simp

-- With `SDL_GetTicks` past 0 at every pass, `runloop_frame_time_last` is 0 only before the first:
-- the code's `if` hands over `reference` once, then the differences of successive times.
theorem zipWith_frameTime_of_ticks (reference : Int) (frames : List Frame)
    (hticks : ∀ frame ∈ frames, 0 < frame.ticks.toNat) :
    let times := frames.map fun frame => (frame.ticks.toNat : Int) * 1000
    List.zipWith (fun t last => if last = 0 then reference else t - last) times (0 :: times) <+:
      reference :: List.zipWith (· - ·) times.tail times := by
  cases frames with
  | nil => exact List.nil_prefix
  | cons frame frames =>
    have hne : ∀ t ∈ (frame.ticks.toNat : Int) * 1000 ::
        frames.map fun frame => (frame.ticks.toNat : Int) * 1000, t ≠ 0 := by
      simp only [List.mem_cons, List.mem_map]
      rintro _ (rfl | ⟨f, hf, rfl⟩)
      · have := hticks frame (List.mem_cons_self _ _)
        omega
      · have := hticks f (List.mem_cons_of_mem _ hf)
        omega
    dsimp only
    rw [List.map_cons, List.zipWith_cons_cons, if_pos rfl, zipWith_frameTime_of_ne_zero _ _ _ hne]
    exact List.prefix_refl _

-- From the first pass on, with the callback set and kept and `SDL_GetTicks` past 0, the
-- callback gets `reference` once and then the microseconds between successive passes.
theorem emulatorLoop_frameTime_deltas (r r' : Runtime) (frames : List Frame) (ds : List Int)
    (hcb : r.globals.runloopFrameTime.callback = true) (hlast : r.runloopFrameTimeLast = 0)
    (hticks : ∀ frame ∈ frames, 0 < frame.ticks.toNat)
    (hkeep : ∀ frame ∈ frames, ∀ c ∈ frame.core, ∀ cb, c ≠ .environment (.SetFrameTimeCallback cb))
    (h : emulatorLoop r frames = some (r', ds)) :
    let times := frames.map fun frame => (frame.ticks.toNat : Int) * 1000
    ds <+: r.globals.runloopFrameTime.reference :: List.zipWith (· - ·) times.tail times := by
  have hds := emulatorLoop_frameTime hcb hkeep h
  rw [hlast] at hds
  exact hds.trans (zipWith_frameTime_of_ticks _ frames hticks)

theorem emulatorLoop_frameTime_deltas_two :
    let r : Runtime := { Runtime.initial with
      globals := { Globals.zero with runloopFrameTime := ⟨true, 16666⟩ }, emulatorRunning := true }
    let frames : List Frame := [⟨100, [], []⟩, ⟨117, [], []⟩]
    let times := frames.map fun frame => (frame.ticks.toNat : Int) * 1000
    (r.globals.runloopFrameTime.callback = true ∧ r.runloopFrameTimeLast = 0 ∧
      (∀ frame ∈ frames, 0 < frame.ticks.toNat) ∧
      (∀ frame ∈ frames, ∀ c ∈ frame.core, ∀ cb, c ≠ .environment (.SetFrameTimeCallback cb)) ∧
      emulatorLoop r frames = some ({ r with runloopFrameTimeLast := 117000 }, [16666, 17000])) ∧
    [16666, 17000] <+: r.globals.runloopFrameTime.reference ::
      List.zipWith (· - ·) times.tail times := by
  intro r frames times
  have h : emulatorLoop r frames = some ({ r with runloopFrameTimeLast := 117000 }, [16666, 17000]) :=
    rfl
  exact ⟨⟨rfl, rfl, by decide, by simp [frames], h⟩,
    emulatorLoop_frameTime_deltas r _ frames _ rfl rfl (by decide) (by simp [frames]) h⟩

-- The loop's own steps, the frame-time block and the events, never touch what the core's
-- callbacks see: after any run, `g_joy` and the globals are those the callbacks of the passes it
-- made leave, applied in order from the loop's start.
theorem emulatorLoop_core_calls (r : Runtime) (frames : List Frame) (r' : Runtime) (ds : List Int)
    (h : emulatorLoop r frames = some (r', ds)) :
    ∃ r'', ((frames.take (loopPasses (r.emulatorRunning && r.running) frames)).flatMap
      Frame.core).foldlM coreCall r = some r'' ∧ r''.coreView = r'.coreView := by
  induction frames generalizing r ds with
  | nil => cases h; exact ⟨_, by rw [List.take_nil]; rfl, rfl⟩
  | cons frame frames ih =>
    rcases emulatorLoop_cons_eq_some h with ⟨hc, rfl, -⟩ | ⟨hc, r₁, d, ds', hf, hl, -⟩
    · exact ⟨_, by rw [hc]; rfl, rfl⟩
    obtain ⟨r'', hn, hv⟩ := ih r₁ ds' hl
    rw [emulatorFrame_condition hf, hc, Bool.true_and] at hn
    -- the pass's callbacks from the loop's state, then the later passes' from there
    obtain ⟨s₁, hs₁, hv₁⟩ := foldlM_coreCall_sim (show _ = r.coreView by simp)
      (emulatorFrame_eq_some hf).1
    obtain ⟨s₂, hs₂, hv₂⟩ := foldlM_coreCall_sim hv₁ hn
    refine ⟨s₂, ?_, hv₂.symm.trans hv⟩
    rw [hc, loopPasses, List.take_succ_cons, List.flatMap_cons, List.foldlM_append, hs₁]
    exact hs₂

-- A quit in the first pass: the second pass, whose `core_perf_log` would dereference NULL, is
-- never made.
theorem emulatorLoop_core_calls_quit :
    let r : Runtime := { Runtime.initial with emulatorRunning := true }
    let kbd : Nat → Bool := fun k => k == SDL_SCANCODE_Z
    let frames : List Frame := [⟨1, [.Quit], [.inputPoll kbd]⟩, ⟨2, [], [.perfLog]⟩]
    emulatorLoop r frames =
      some (coreInputPoll { r with emulatorRunning := false, running := false } kbd, []) ∧
    ∃ r'', ((frames.take (loopPasses (r.emulatorRunning && r.running) frames)).flatMap
      Frame.core).foldlM coreCall r = some r'' ∧
      r''.coreView = (coreInputPoll { r with emulatorRunning := false, running := false } kbd).coreView := by
  intro r kbd frames
  have h : emulatorLoop r frames =
      some (coreInputPoll { r with emulatorRunning := false, running := false } kbd, []) := rfl
  exact ⟨h, emulatorLoop_core_calls r frames _ _ h⟩

-- The perf counters

-- The counter `perf_counter_last` points to after a callback.
def CoreCall.perfLast (last : Option Nat) : CoreCall → Option Nat
  | .perfRegister counter => some counter
  | _ => last

theorem coreCall_perfCounterLast {r r' : Runtime} {c : CoreCall} (h : coreCall r c = some r') :
    r'.perfCounterLast = c.perfLast r.perfCounterLast := by
  cases c <;> simp only [coreCall, Option.map_eq_some', Option.some.injEq,
    Option.ite_none_right_eq_some] at h <;> first | subst h | obtain ⟨_, _, rfl⟩ := h
  case inputPoll kbd => rw [coreInputPoll_eq]; rfl
  all_goals rfl

theorem foldl_perfLast_eq_none (calls : List CoreCall) (last : Option Nat) :
    calls.foldl CoreCall.perfLast last = none ↔
      last = none ∧ ∀ c ∈ calls, ∀ counter, c ≠ .perfRegister counter := by
  induction calls generalizing last with
  | nil => simp
  | cons c cs ih => cases c <;> simp [CoreCall.perfLast, ih]

theorem foldlM_perfCounterLast {calls : List CoreCall} {r r' : Runtime}
    (h : calls.foldlM coreCall r = some r') :
    r'.perfCounterLast = calls.foldl CoreCall.perfLast r.perfCounterLast :=
  foldlM_coreCall_induction CoreCall.perfLast (fun last r => r.perfCounterLast = last)
    (fun _ hl h => hl ▸ coreCall_perfCounterLast h) rfl h

-- `core_perf_log` after a sequence of callbacks, from a state with `perf_counter_last` NULL (as
-- at start-up): it dereferences NULL exactly when no `core_perf_register` came before it, and
-- `perf_counter_last` is the counter registered last.
theorem foldlM_perfLog (calls : List CoreCall) (r : Runtime) (hlast : r.perfCounterLast = none) :
    ((calls ++ [CoreCall.perfLog]).foldlM coreCall r = none ↔
      calls.foldlM coreCall r = none ∨ ∀ c ∈ calls, ∀ counter, c ≠ .perfRegister counter) ∧
    ∀ r', calls.foldlM coreCall r = some r' →
      r'.perfCounterLast = calls.foldl CoreCall.perfLast none := by
  have hl : ∀ r', calls.foldlM coreCall r = some r' →
      r'.perfCounterLast = calls.foldl CoreCall.perfLast none := fun r' h =>
    hlast ▸ foldlM_perfCounterLast h
  refine ⟨?_, hl⟩
  rw [List.foldlM_append]
  cases h : calls.foldlM coreCall r with
  | none => simp
  | some r' =>
    have hnone : (∀ c ∈ calls, ∀ counter, c ≠ .perfRegister counter) ↔ r'.perfCounterLast = none := by
      rw [hl r' h, foldl_perfLast_eq_none, and_iff_right rfl]
    have hlog : coreLog RETRO_LOG_INFO = true := rfl
    rw [hnone]
    simp [coreCall, hlog, Option.isSome_iff_ne_none]

theorem foldlM_perfLog_start_only :
    let calls := [CoreCall.perfStart 0 500]
    Runtime.initial.perfCounterLast = none ∧
      ((calls ++ [CoreCall.perfLog]).foldlM coreCall Runtime.initial = none ↔
        calls.foldlM coreCall Runtime.initial = none ∨
          ∀ c ∈ calls, ∀ counter, c ≠ .perfRegister counter) ∧
      ∀ r', calls.foldlM coreCall Runtime.initial = some r' →
        r'.perfCounterLast = calls.foldl CoreCall.perfLast none := by
  intro calls
  exact ⟨rfl, foldlM_perfLog calls Runtime.initial rfl⟩

-- A callback other than `core_perf_start` of a counter keeps its `start`.
theorem coreCall_perfCounter_start {r r' : Runtime} {c : CoreCall} {counter : Nat}
    (hc : ∀ now, c ≠ .perfStart counter now) (h : coreCall r c = some r') :
    (r'.perfCounters counter).start = (r.perfCounters counter).start := by
  cases c <;> simp only [coreCall, Option.map_eq_some', Option.some.injEq,
    Option.ite_none_right_eq_some] at h <;> first | subst h | obtain ⟨_, _, rfl⟩ := h
  case inputPoll kbd => rw [coreInputPoll_eq]
  case perfRegister c =>
    simp only [corePerfRegister, Function.update_apply]
    split <;> simp_all
  case perfStart c now =>
    have hne : counter ≠ c := fun he => hc now (he ▸ rfl)
    simp only [corePerfStart]
    split <;> simp [Function.update_noteq hne]
  case perfStop c now =>
    simp only [corePerfStop, Function.update_apply]
    split <;> simp_all
  all_goals rfl

-- A registered counter started at `start` and stopped at `stop`, with no other start of it in
-- between, records `stop - start` ticks (modulo 2^64), whatever else the core calls meanwhile.
theorem foldlM_perfStop_total (calls : List CoreCall) (r r' : Runtime) (counter : Nat)
    (start stop : UInt64) (hreg : (r.perfCounters counter).registered = true)
    (hcalls : ∀ c ∈ calls, ∀ now, c ≠ .perfStart counter now)
    (h : (CoreCall.perfStart counter start :: calls ++ [CoreCall.perfStop counter stop]).foldlM coreCall r =
      some r') :
    (r'.perfCounters counter).total = stop - start := by
  -- the start is recorded, the counter being registered
  replace h : (calls ++ [CoreCall.perfStop counter stop]).foldlM coreCall
      (corePerfStart r counter start) = some r' := h
  rw [List.foldlM_append] at h
  obtain ⟨r₂, h₂, h⟩ := Option.bind_eq_some.1 h
  have hkeep := foldlM_coreCall_induction (b := ()) (fun _ _ => ())
    (fun _ r₃ => (r₃.perfCounters counter).start = start)
    (fun hc hr h => (coreCall_perfCounter_start (hcalls _ hc) h).trans hr)
    (by simp [corePerfStart, hreg]) h₂
  obtain rfl : corePerfStop r₂ counter stop = r' := Option.some.inj h
  simp [corePerfStop, hkeep]

theorem foldlM_perfStop_total_frame :
    let r : Runtime := { Runtime.initial with perfCounters := fun _ => ⟨0, 0, true⟩ }
    let calls := [CoreCall.audioSampleBatch 735, .perfRegister 1]
    let r' := corePerfStop (corePerfRegister (corePerfStart r 0 100) 1) 0 350
    ((r.perfCounters 0).registered = true ∧ (∀ c ∈ calls, ∀ now, c ≠ .perfStart 0 now) ∧
      (CoreCall.perfStart 0 100 :: calls ++ [CoreCall.perfStop 0 350]).foldlM coreCall r = some r') ∧
    (r'.perfCounters 0).total = 350 - 100 := by
  intro r calls r'
  have h : (CoreCall.perfStart 0 100 :: calls ++ [CoreCall.perfStop 0 350]).foldlM coreCall r =
    some r' := rfl
  exact ⟨⟨rfl, by simp [calls], h⟩,
    foldlM_perfStop_total calls r r' 0 100 350 rfl (by simp [calls]) h⟩

end N64Emu.Frontend
