import N64Emu.Frontend.Variables

namespace N64Emu.Frontend

-- The environment callback

-- `enum retro_pixel_format`. Its values are non-negative, so its type is unsigned and
-- `*fmt > RETRO_PIXEL_FORMAT_RGB565` compares without sign.
def RETRO_PIXEL_FORMAT_0RGB1555 : Nat := 0
def RETRO_PIXEL_FORMAT_XRGB8888 : Nat := 1
def RETRO_PIXEL_FORMAT_RGB565 : Nat := 2

-- The OpenGL constants `video_set_pixel_format` stores.
def GL_UNSIGNED_SHORT_5_5_5_1 : Nat := 0x8034
def GL_UNSIGNED_INT_8_8_8_8_REV : Nat := 0x8367
def GL_UNSIGNED_SHORT_5_6_5 : Nat := 0x8363
def GL_BGRA : Nat := 0x80e1
def GL_RGB : Nat := 0x1907

-- The fields of `g_video` the callbacks write, and the `context_type` of its copy of the core's
-- `retro_hw_render_callback`, which `create_window` checks. The texture and framebuffer names and
-- the rest of the copy are read only by the OpenGL set-up.
structure Video where
  pitch : Nat
  clipW : Nat
  clipH : Nat
  pixfmt : Nat
  pixtype : Nat
  bpp : Nat
  hwContextType : Nat
  deriving DecidableEq, Repr

-- `struct retro_frame_time_callback`: whether `callback` is set, and `reference`.
structure FrameTimeCallback where
  callback : Bool
  reference : Int
  deriving DecidableEq, Repr

-- `struct retro_audio_callback`: whether `callback` and `set_state` are set.
structure AudioCallback where
  callback : Bool
  setState : Bool
  deriving DecidableEq, Repr

-- The globals `core_environment` writes.
structure Globals where
  gVars : Option (List RetroVariable)
  video : Video
  runloopFrameTime : FrameTimeCallback
  audioCallback : AudioCallback
  supportsNoGame : Bool

-- The globals before the core runs: static storage, all zero.
def Globals.zero : Globals :=
  ⟨none, ⟨0, 0, 0, 0, 0, 0, 0⟩, ⟨false, 0⟩, ⟨false, false⟩, false⟩

-- `video_set_pixel_format`: the OpenGL type, format and bytes per pixel of a libretro pixel
-- format; `none` is the `die` for any other format.
def videoSetPixelFormat (format : Nat) (video : Video) : Option Video :=
  if format = RETRO_PIXEL_FORMAT_0RGB1555 then
    some { video with pixfmt := GL_UNSIGNED_SHORT_5_5_5_1, pixtype := GL_BGRA, bpp := 2 }
  else if format = RETRO_PIXEL_FORMAT_XRGB8888 then
    some { video with pixfmt := GL_UNSIGNED_INT_8_8_8_8_REV, pixtype := GL_BGRA, bpp := 4 }
  else if format = RETRO_PIXEL_FORMAT_RGB565 then
    some { video with pixfmt := GL_UNSIGNED_SHORT_5_6_5, pixtype := GL_RGB, bpp := 2 }
  else none

-- The commands the core passes to `core_environment`, each with what `data` points to; `Other`
-- is any command the `switch` has no case for.
inductive EnvCall where
  | SetVariables (vars : List RetroVariable)
  | GetVariable (var : RetroVariable)
  | GetVariableUpdate
  | GetLogInterface
  | GetPerfInterface
  | GetCanDupe
  | SetPixelFormat (format : Nat)
  | SetHwRender (contextType : Nat)
  | SetFrameTimeCallback (cb : FrameTimeCallback)
  | SetAudioCallback (cb : AudioCallback)
  | GetSaveDirectory
  | GetSystemDirectory
  | SetGeometry (baseWidth baseHeight : Nat)
  | SetSupportNoGame (supports : Bool)
  | GetAudioVideoEnable
  | Other (cmd : Nat)
  deriving DecidableEq, Repr

-- What `core_environment` writes back through `data`.
inductive EnvReply where
  | none
  | variable (var : RetroVariable)
  | flag (b : Bool)
  -- `cb->log = core_log`
  | logInterface
  -- the `cpu_features_get_time_usec`, `core_get_cpu_features` and `core_perf_*` entry points
  | perfInterface
  -- `get_current_framebuffer` and `get_proc_address`
  | hwRender
  | directory (dir : List UInt8)
  | audioVideoEnable (mask : Nat)
  deriving DecidableEq, Repr

-- `core_environment`: the value it returns, what it writes through `data`, and the globals
-- afterwards; `none` where the call does not return normally (a value `SET_VARIABLES` cannot
-- parse, or the `die` of `video_set_pixel_format`). An unknown command is logged at
-- `RETRO_LOG_DEBUG`, which `core_log` drops.
def coreEnvironment (f : Globals) : EnvCall → Option (Bool × EnvReply × Globals)
  | .SetVariables vars => (setVariables vars).map fun g => (true, .none, { f with gVars := some g })
  | .GetVariable var =>
    let r := getVariable f.gVars var
    some (r.1, .variable r.2, f)
  | .GetVariableUpdate => some (true, .flag false, f)
  | .GetLogInterface => some (true, .logInterface, f)
  | .GetPerfInterface => some (true, .perfInterface, f)
  | .GetCanDupe => some (true, .flag true, f)
  | .SetPixelFormat format =>
    if format > RETRO_PIXEL_FORMAT_RGB565 then some (false, .none, f)
    else (videoSetPixelFormat format f.video).map fun v => (true, .none, { f with video := v })
  | .SetHwRender contextType =>
    some (true, .hwRender, { f with video := { f.video with hwContextType := contextType } })
  | .SetFrameTimeCallback cb => some (true, .none, { f with runloopFrameTime := cb })
  | .SetAudioCallback cb => some (true, .none, { f with audioCallback := cb })
  | .GetSaveDirectory => some (true, .directory DOT, f)
  | .GetSystemDirectory => some (true, .directory DOT, f)
  | .SetGeometry w h => some (true, .none, { f with video := { f.video with clipW := w, clipH := h } })
  | .SetSupportNoGame supports => some (true, .none, { f with supportsNoGame := supports })
  | .GetAudioVideoEnable => some (true, .audioVideoEnable 3, f)
  | .Other _ => some (false, .none, f)

-- The pixel format over a run of commands

-- The pixel format fields of `g_video`: the OpenGL type, the OpenGL format, and bytes per pixel.
def Video.format (v : Video) : Nat × Nat × Nat := (v.pixfmt, v.pixtype, v.bpp)

-- The fields `video_set_pixel_format` stores for a format `SET_PIXEL_FORMAT` accepts (none is
-- above `RETRO_PIXEL_FORMAT_RGB565`), and the zeros of static storage before any.
def formatOf : Option Nat → Nat × Nat × Nat
  | none => (0, 0, 0)
  | some 0 => (GL_UNSIGNED_SHORT_5_5_5_1, GL_BGRA, 2)
  | some 1 => (GL_UNSIGNED_INT_8_8_8_8_REV, GL_BGRA, 4)
  | some _ => (GL_UNSIGNED_SHORT_5_6_5, GL_RGB, 2)

-- The format in force after a command: the one `SET_PIXEL_FORMAT` accepts, else the one before.
def EnvCall.pixelFormat (fmt : Option Nat) : EnvCall → Option Nat
  | .SetPixelFormat format => if format ≤ RETRO_PIXEL_FORMAT_RGB565 then some format else fmt
  | _ => fmt

-- Every format `SET_PIXEL_FORMAT` lets through has a case in `video_set_pixel_format`: its `die`
-- is never reached.
theorem videoSetPixelFormat_format {format : Nat} (h : format ≤ RETRO_PIXEL_FORMAT_RGB565)
    (video : Video) :
    (videoSetPixelFormat format video).map Video.format = some (formatOf (some format)) := by
  rcases (by simp only [RETRO_PIXEL_FORMAT_RGB565] at h; omega :
    format = 0 ∨ format = 1 ∨ format = 2) with rfl | rfl | rfl <;> rfl

-- `SET_PIXEL_FORMAT` refuses a format above `RETRO_PIXEL_FORMAT_RGB565` and stores any other.
theorem coreEnvironment_setPixelFormat_ne_none (f : Globals) (format : Nat) :
    coreEnvironment f (.SetPixelFormat format) ≠ none := by
  simp only [coreEnvironment, gt_iff_lt]
  split_ifs with hgt
  · simp
  · have := videoSetPixelFormat_format (Nat.le_of_not_lt hgt) f.video
    rw [Ne, Option.map_eq_none']
    intro h
    simp [h] at this

-- One command keeps the pixel format fields in step with the format in force.
theorem coreEnvironment_format {f f' : Globals} {call : EnvCall} {b : Bool} {reply : EnvReply}
    {fmt : Option Nat} (hf : f.video.format = formatOf fmt)
    (h : coreEnvironment f call = some (b, reply, f')) :
    f'.video.format = formatOf (call.pixelFormat fmt) := by
  cases call with
  | SetVariables vars =>
    obtain ⟨_, -, h⟩ := Option.map_eq_some'.1 h
    cases h
    exact hf
  | SetPixelFormat format =>
    simp only [coreEnvironment, gt_iff_lt] at h
    split_ifs at h with hgt
    · cases h
      rwa [EnvCall.pixelFormat, if_neg (by omega)]
    · obtain ⟨v, hv, h⟩ := Option.map_eq_some'.1 h
      cases h
      have := videoSetPixelFormat_format (Nat.le_of_not_lt hgt) f.video
      rw [hv, Option.map_some', Option.some.injEq] at this
      rwa [EnvCall.pixelFormat, if_pos (Nat.le_of_not_lt hgt)]
  | _ =>
    cases h
    exact hf

-- What the core hands over

-- What `SET_HW_RENDER`, `SET_FRAME_TIME_CALLBACK` and `SET_AUDIO_CALLBACK` store: the context the
-- core asks for and the callbacks the frontend calls back.
structure Stored where
  hwContextType : Nat
  runloopFrameTime : FrameTimeCallback
  audioCallback : AudioCallback
  deriving DecidableEq, Repr

def Globals.stored (f : Globals) : Stored :=
  ⟨f.video.hwContextType, f.runloopFrameTime, f.audioCallback⟩

theorem videoSetPixelFormat_hwContextType {format : Nat} {video video' : Video}
    (h : videoSetPixelFormat format video = some video') :
    video'.hwContextType = video.hwContextType := by
  unfold videoSetPixelFormat at h
  split_ifs at h <;> cases h <;> rfl

-- What is stored after a command: each of the three commands overwrites its own part.
def EnvCall.store (s : Stored) : EnvCall → Stored
  | .SetHwRender contextType => { s with hwContextType := contextType }
  | .SetFrameTimeCallback cb => { s with runloopFrameTime := cb }
  | .SetAudioCallback cb => { s with audioCallback := cb }
  | _ => s

theorem coreEnvironment_stored {f f' : Globals} {call : EnvCall} {b : Bool} {reply : EnvReply}
    (h : coreEnvironment f call = some (b, reply, f')) : f'.stored = call.store f.stored := by
  cases call with
  | SetVariables vars =>
    obtain ⟨_, -, h⟩ := Option.map_eq_some'.1 h
    cases h
    rfl
  | SetPixelFormat format =>
    simp only [coreEnvironment] at h
    split_ifs at h
    · cases h
      rfl
    · obtain ⟨_, hv, h⟩ := Option.map_eq_some'.1 h
      cases h
      simp only [Globals.stored, videoSetPixelFormat_hwContextType hv, EnvCall.store]
  | _ =>
    cases h
    rfl

end N64Emu.Frontend
