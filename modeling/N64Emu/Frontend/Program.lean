import N64Emu.Frontend.Emulator
import N64Emu.Frontend.Main

namespace N64Emu.Frontend

-- `create_window`, `video_configure` and `audio_init`

-- `enum retro_hw_context_type`: the contexts `create_window` can create.
def RETRO_HW_CONTEXT_OPENGL : Nat := 1
def RETRO_HW_CONTEXT_OPENGLES2 : Nat := 2
def RETRO_HW_CONTEXT_OPENGL_CORE : Nat := 3

def GL_FRAGMENT_SHADER : Nat := 0x8b30
def GL_VERTEX_SHADER : Nat := 0x8b31

-- Where the start-up stops before the loop: a `die`, or a callback that does not return.
inductive Stop where
  | die (msg : List UInt8)
  | callback
  deriving DecidableEq, Repr

-- `die`: the message is what `vsnprintf` leaves in the 4096-byte buffer.
def die {α : Type} (text : List UInt8) : Except Stop α := .error (.die (text.take 4095))

-- The callbacks the core makes from one call into it, one after the other.
def runCore (r : Runtime) (calls : List CoreCall) : Except Stop Runtime :=
  match calls.foldlM coreCall r with
  | some r => .ok r
  | none => .error .callback

-- What SDL and the OpenGL driver answer while the game loads: `SDL_GetError()`; the `SDL_RWsize`
-- of the ROM file, `none` where `SDL_RWFromFile` cannot open it; whether `SDL_malloc` returns a
-- block; what `SDL_RWread` reads, `none` where it reads no object; whether `SDL_CreateWindow`,
-- `SDL_GL_CreateContext` and the glad loader succeed; the info log of each shader that does not
-- compile, and of a program that does not link; and whether `SDL_OpenAudioDevice` opens a device.
structure Sdl where
  error : List UInt8
  rwSize : Option Int
  malloc : Bool
  rwRead : Option (List UInt8)
  createWindow : Bool
  glCreateContext : Bool
  gladLoad : Bool
  vertexLog : Option (List UInt8)
  fragmentLog : Option (List UInt8)
  linkLog : Option (List UInt8)
  openAudioDevice : Bool

-- `compile_shader`, for the info log of a shader that does not compile.
def compileShader (type : Nat) (log : Option (List UInt8)) : Except Stop Unit :=
  match log with
  | some buffer =>
    die (bytes ("Failed to compile ") ++
      (if type = GL_VERTEX_SHADER then bytes ("vertex") else bytes ("fragment")) ++
      bytes (" shader: ") ++ cstr buffer)
  | none => pure ()

def initShaders (sdl : Sdl) : Except Stop Unit := do
  compileShader GL_VERTEX_SHADER sdl.vertexLog
  compileShader GL_FRAGMENT_SHADER sdl.fragmentLog
  match sdl.linkLog with
  | some buffer => die (bytes ("Failed to link shader program: ") ++ cstr buffer)
  | none => pure ()

-- `create_window`: the `switch` on the context type, then the window, the OpenGL context, the
-- glad loader and the shaders. `%i` prints a value of the enum, which is at most `INT_MAX`.
def createWindow (sdl : Sdl) (contextType : Nat) : Except Stop Unit :=
  if contextType ≠ RETRO_HW_CONTEXT_OPENGL_CORE ∧ contextType ≠ RETRO_HW_CONTEXT_OPENGLES2 ∧
      contextType ≠ RETRO_HW_CONTEXT_OPENGL then
    die (bytes ("Unsupported hw context ") ++ bytes (toString contextType) ++
      bytes (". (only OPENGL, OPENGL_CORE and OPENGLES2 supported)"))
  else if !sdl.createWindow then die (bytes ("Failed to create window: ") ++ cstr sdl.error)
  else if !sdl.glCreateContext then
    die (bytes ("Failed to create OpenGL context: ") ++ cstr sdl.error)
  else if !sdl.gladLoad then die (bytes ("Failed to initialize glad."))
  else initShaders sdl

-- `video_configure` on its one call, before there is a window: `create_window`, then `clip_w` and
-- `clip_h` from the geometry, then the `context_reset` in `g_video.hw`, whose callbacks are
-- `resetCalls`. The window size, the texture and the vertex data are OpenGL state.
def videoConfigure (sdl : Sdl) (baseWidth baseHeight : Nat) (resetCalls : List CoreCall)
    (r : Runtime) : Except Stop Runtime := do
  createWindow sdl r.globals.video.hwContextType
  let g := r.globals
  let g := { g with video := { g.video with clipW := baseWidth, clipH := baseHeight } }
  runCore { r with globals := g } resetCalls

-- `audio_init`: the playback device, then the core's `set_state`, if it handed one over, whose
-- callbacks are `stateCalls`.
def audioInit (sdl : Sdl) (stateCalls : List CoreCall) (r : Runtime) : Except Stop Runtime :=
  if !sdl.openAudioDevice then die (bytes ("Failed to open playback device: ") ++ cstr sdl.error)
  else if r.globals.audioCallback.setState then runCore r stateCalls
  else pure r

-- `core_load_game` and `main`

-- `struct retro_game_info` as `core_load_game` fills it: the path (`none` for NULL), the ROM's
-- bytes where it reads them, and their number. Its `meta` is always "".
structure GameInfo where
  path : Option (List UInt8)
  data : Option (List UInt8)
  size : Nat
  deriving DecidableEq, Repr

-- What the core does while `main` starts it: whether it wants the path only (`need_fullpath`);
-- the callbacks it makes from `retro_init` and `retro_load_game`; whether `retro_load_game`
-- accepts the game; the `base_width` and `base_height` of `retro_get_system_av_info`; and the
-- callbacks it makes from the `context_reset` and `set_state` that `core_load_game` calls, and
-- from `retro_set_controller_port_device`.
structure CoreStart where
  needFullpath : Bool
  initCalls : List CoreCall
  loadCalls : List CoreCall
  retroLoadGame : GameInfo → Bool
  baseWidth : Nat
  baseHeight : Nat
  resetCalls : List CoreCall
  stateCalls : List CoreCall
  portCalls : List CoreCall

-- The size and bytes of the ROM as `core_load_game` reads them: not at all for NULL, or for a core
-- that wants the path only.
def readGame (sdl : Sdl) (needFullpath : Bool) :
    Option (List UInt8) → Except Stop (Option (Nat × List UInt8))
  | some filename =>
    if needFullpath then pure none
    else match sdl.rwSize with
      | none => die (bytes ("Failed to load ") ++ cstr filename ++ bytes (": ") ++ cstr sdl.error)
      | some size =>
        if size < 0 then die (bytes ("Failed to query game file size: ") ++ cstr sdl.error)
        else if !sdl.malloc then die (bytes ("Failed to allocate memory for the content"))
        else match sdl.rwRead with
          | none => die (bytes ("Failed to read file data: ") ++ cstr sdl.error)
          | some data => pure (some (size.toNat, data))
  | none => pure none

-- `core_load_game`: the `retro_game_info` handed to `retro_load_game`, the globals afterwards, and
-- the window title `snprintf` leaves in its 255-byte buffer.
def coreLoadGame (sdl : Sdl) (core : CoreStart) (filename : Option (List UInt8)) (r : Runtime) :
    Except Stop (GameInfo × Runtime × List UInt8) := do
  let read ← readGame sdl core.needFullpath filename
  let info : GameInfo := ⟨filename, read.map (·.2), (read.map (·.1)).getD 0⟩
  let r ← runCore r core.loadCalls
  if !core.retroLoadGame info then die (bytes ("The core failed to load the content."))
  else
    let r ← videoConfigure sdl core.baseWidth core.baseHeight core.resetCalls r
    let r ← audioInit sdl core.stateCalls r
    let title := bytes ("N64 Emulator - ") ++ (filename.map cstr).getD (bytes ("No Game"))
    pure (info, r, title.take 254)

-- The globals once `main` has set the defaults of `g_video.hw`: an OpenGL 4.5 core context,
-- whose `context_reset` is `noop`.
def Runtime.hwDefaults : Runtime :=
  { Runtime.initial with
    globals := { Globals.zero with
      video := { Globals.zero.video with hwContextType := RETRO_HW_CONTEXT_OPENGL_CORE } } }

-- `main` from the defaults of `g_video.hw` on: `retro_init`, `core_load_game(rom_path)`,
-- `retro_set_controller_port_device`, then the loop from `emulator_running = true`.
def startEmulator (sdl : Sdl) (core : CoreStart) (romPath : List UInt8) (frames : List Frame) :
    Except Stop (GameInfo × List UInt8 × Runtime × List Int) := do
  let r ← runCore Runtime.hwDefaults core.initCalls
  let (info, r, title) ← coreLoadGame sdl core (some romPath) r
  let r ← runCore r core.portCalls
  match emulatorLoop { r with emulatorRunning := true } frames with
  | some (r, deltas) => pure (info, title, r, deltas)
  | none => .error .callback

-- How `main` ends: `EXIT_SUCCESS` with no ROM selected, a stop before the loop, or the end of the
-- loop, with the game the core was given, the window title, the globals and the deltas handed to
-- the frame-time callback.
inductive Exit where
  | success
  | stop (s : Stop)
  | ran (info : GameInfo) (title : List UInt8) (r : Runtime) (deltas : List Int)

-- `main`, with `args`, `runFileManager` and `sdlInit` as for `launch`.
def main (args : List (List UInt8)) (runFileManager : Nat → List UInt8) (sdlInit : Bool)
    (sdl : Sdl) (core : CoreStart) (frames : List Frame) : Exit :=
  match launch args runFileManager sdlInit with
  | .exit => .success
  | .die msg => .stop (.die msg)
  | .load romPath =>
    match startEmulator sdl core romPath frames with
    | .ok (info, title, r, deltas) => .ran info title r deltas
    | .error s => .stop s

-- The start-up as one sequence of callbacks

theorem bind_eq_ok {ε α β : Type} {a : Except ε α} {f : α → Except ε β} {b : β}
    (h : a >>= f = .ok b) : ∃ x, a = .ok x ∧ f x = .ok b := by
  cases a with
  | error e => cases h
  | ok x => exact ⟨x, rfl, h⟩

theorem runCore_eq_ok {r r' : Runtime} {calls : List CoreCall} (h : runCore r calls = .ok r') :
    calls.foldlM coreCall r = some r' := by
  unfold runCore at h
  split at h <;> simp_all

-- `create_window` gets past its `switch` only for the three contexts it has a case for.
theorem createWindow_eq_ok {sdl : Sdl} {contextType : Nat} {u : Unit}
    (h : createWindow sdl contextType = .ok u) :
    contextType ∈
      [RETRO_HW_CONTEXT_OPENGL, RETRO_HW_CONTEXT_OPENGLES2, RETRO_HW_CONTEXT_OPENGL_CORE] := by
  unfold createWindow at h
  split_ifs at h with hctx
  · cases h
  all_goals
    simp only [List.mem_cons, List.mem_singleton, List.not_mem_nil, or_false]
    tauto

-- `video_configure`'s write of `clip_w` and `clip_h` is the one `SET_GEOMETRY` makes.
theorem videoConfigure_eq_ok {sdl : Sdl} {baseWidth baseHeight : Nat} {calls : List CoreCall}
    {r r' : Runtime} (h : videoConfigure sdl baseWidth baseHeight calls r = .ok r') :
    createWindow sdl r.globals.video.hwContextType = .ok () ∧
      (CoreCall.environment (.SetGeometry baseWidth baseHeight) :: calls).foldlM coreCall r =
        some r' := by
  obtain ⟨_, hw, h⟩ := bind_eq_ok h
  exact ⟨hw, runCore_eq_ok h⟩

theorem audioInit_eq_ok {sdl : Sdl} {calls : List CoreCall} {r r' : Runtime}
    (h : audioInit sdl calls r = .ok r') :
    (if r.globals.audioCallback.setState then calls else []).foldlM coreCall r = some r' := by
  unfold audioInit at h
  split_ifs at h with hopen hset
  · cases h
  · rw [if_pos hset]; exact runCore_eq_ok h
  · cases h; rw [if_neg hset]; rfl

-- The callbacks `core_load_game` lets the core make, and the window it creates between them.
theorem coreLoadGame_eq_ok {sdl : Sdl} {core : CoreStart} {filename : Option (List UInt8)}
    {r r' : Runtime} {info : GameInfo} {title : List UInt8}
    (h : coreLoadGame sdl core filename r = .ok (info, r', title)) :
    ∃ r₁ r₂, core.loadCalls.foldlM coreCall r = some r₁ ∧
      createWindow sdl r₁.globals.video.hwContextType = .ok () ∧
      (CoreCall.environment (.SetGeometry core.baseWidth core.baseHeight) :: core.resetCalls).foldlM
        coreCall r₁ = some r₂ ∧
      (if r₂.globals.audioCallback.setState then core.stateCalls else []).foldlM coreCall r₂ =
        some r' := by
  unfold coreLoadGame at h
  obtain ⟨read, hread, h⟩ := bind_eq_ok h
  obtain ⟨r₁, h₁, h⟩ := bind_eq_ok h
  split_ifs at h with hacc
  · cases h
  obtain ⟨r₂, h₂, h⟩ := bind_eq_ok h
  obtain ⟨r₃, h₃, h⟩ := bind_eq_ok h
  cases h
  obtain ⟨hw, h₂⟩ := videoConfigure_eq_ok h₂
  exact ⟨r₁, r₂, runCore_eq_ok h₁, hw, h₂, audioInit_eq_ok h₃⟩

-- The callbacks of the start-up, in order: `video_configure`'s write of `clip_w` and `clip_h` as
-- the `SET_GEOMETRY` that writes the same, and the `set_state` ones only if the last
-- `SET_AUDIO_CALLBACK` before them handed one over.
def CoreStart.calls (core : CoreStart) : List CoreCall :=
  let before := core.initCalls ++ core.loadCalls ++
    CoreCall.environment (.SetGeometry core.baseWidth core.baseHeight) :: core.resetCalls
  let stored := before.foldl CoreCall.store Runtime.hwDefaults.globals.stored
  before ++ (if stored.audioCallback.setState then core.stateCalls else []) ++ core.portCalls

theorem foldlM_coreCall_append {l₁ l₂ : List CoreCall} {r r' : Runtime} :
    (l₁ ++ l₂).foldlM coreCall r = some r' ↔
      ∃ r₁, l₁.foldlM coreCall r = some r₁ ∧ l₂.foldlM coreCall r₁ = some r' := by
  rw [List.foldlM_append]
  exact Option.bind_eq_some

-- The start-up's callbacks, call into the core by call: `retro_init`, `retro_load_game`,
-- `video_configure`, `audio_init` with the `set_state` then in force, and the controller port.
theorem foldlM_calls_eq_some {core : CoreStart} {r₁ ra rb rc r₀ : Runtime}
    (h₁ : core.initCalls.foldlM coreCall Runtime.hwDefaults = some r₁)
    (ha : core.loadCalls.foldlM coreCall r₁ = some ra)
    (hb : (CoreCall.environment (.SetGeometry core.baseWidth core.baseHeight) ::
      core.resetCalls).foldlM coreCall ra = some rb)
    (hc : (if rb.globals.audioCallback.setState then core.stateCalls else []).foldlM coreCall rb =
      some rc)
    (hp : core.portCalls.foldlM coreCall rc = some r₀) :
    core.calls.foldlM coreCall Runtime.hwDefaults = some r₀ := by
  have hset := congrArg (fun s : Stored => s.audioCallback.setState) (foldlM_coreCall_stored
    (foldlM_coreCall_append.2 ⟨ra, foldlM_coreCall_append.2 ⟨r₁, h₁, ha⟩, hb⟩))
  rw [show rb.globals.audioCallback.setState = _ from hset] at hc
  simp only [CoreStart.calls, foldlM_coreCall_append]
  exact ⟨rc, ⟨rb, ⟨ra, ⟨r₁, h₁, ha⟩, hb⟩, hc⟩, hp⟩

-- A start-up that reaches the loop is the start-up's callbacks run from `main`'s defaults, with
-- the window created for the context in force after `retro_load_game`.
theorem startEmulator_eq_ok {sdl : Sdl} {core : CoreStart} {romPath : List UInt8}
    {frames : List Frame} {info : GameInfo} {title : List UInt8} {r : Runtime} {ds : List Int}
    (h : startEmulator sdl core romPath frames = .ok (info, title, r, ds)) :
    ∃ r₀ r₁ r₂, core.calls.foldlM coreCall Runtime.hwDefaults = some r₀ ∧
      emulatorLoop { r₀ with emulatorRunning := true } frames = some (r, ds) ∧
      createWindow sdl ((core.initCalls ++ core.loadCalls).foldl CoreCall.store
        Runtime.hwDefaults.globals.stored).hwContextType = .ok () ∧
      coreLoadGame sdl core (some romPath) r₁ = .ok (info, r₂, title) := by
  obtain ⟨r₁, h₁, h⟩ := bind_eq_ok h
  obtain ⟨⟨info', r₂, title'⟩, hload, h⟩ := bind_eq_ok h
  obtain ⟨r₃, h₃, h⟩ := bind_eq_ok h
  split at h
  · cases h
    obtain ⟨ra, rb, ha, hw, hb, hc⟩ := coreLoadGame_eq_ok hload
    have hinit := runCore_eq_ok h₁
    have hctx := foldlM_coreCall_stored (foldlM_coreCall_append.2 ⟨r₁, hinit, ha⟩)
    exact ⟨r₃, r₁, r₂, foldlM_calls_eq_some hinit ha hb hc (runCore_eq_ok h₃), ‹_›,
      hctx ▸ hw, hload⟩
  · cases h

-- A run of `main`

theorem main_eq_ran {args : List (List UInt8)} {runFileManager : Nat → List UInt8}
    {sdlInit : Bool} {sdl : Sdl} {core : CoreStart} {frames : List Frame} {info : GameInfo}
    {title : List UInt8} {r : Runtime} {ds : List Int}
    (h : main args runFileManager sdlInit sdl core frames = .ran info title r ds) :
    ∃ romPath, launch args runFileManager sdlInit = .load romPath ∧
      startEmulator sdl core romPath frames = .ok (info, title, r, ds) := by
  unfold main at h
  split at h
  · cases h
  · cases h
  · split at h
    · cases h
      exact ⟨_, ‹_›, ‹_›⟩
    · cases h

-- A run of `main` that reaches the loop created its window for an OpenGL, OpenGL ES 2 or OpenGL
-- core context: the one of the last `SET_HW_RENDER` of `retro_init` and `retro_load_game`, or
-- `main`'s default without one.
theorem main_ran_hwContext (args : List (List UInt8)) (runFileManager : Nat → List UInt8)
    (sdlInit : Bool) (sdl : Sdl) (core : CoreStart) (frames : List Frame) (info : GameInfo)
    (title : List UInt8) (r : Runtime) (ds : List Int)
    (h : main args runFileManager sdlInit sdl core frames = .ran info title r ds) :
    ((core.initCalls ++ core.loadCalls).foldl CoreCall.store
      Runtime.hwDefaults.globals.stored).hwContextType ∈
      [RETRO_HW_CONTEXT_OPENGL, RETRO_HW_CONTEXT_OPENGLES2, RETRO_HW_CONTEXT_OPENGL_CORE] := by
  obtain ⟨romPath, -, hs⟩ := main_eq_ran h
  obtain ⟨_, _, _, -, -, hw, -⟩ := startEmulator_eq_ok hs
  exact createWindow_eq_ok hw

-- A core that asks for an OpenGL ES 2 context while loading.
theorem main_ran_hwContext_gles2 :
    let sdl : Sdl := ⟨[], none, true, none, true, true, true, none, none, none, true⟩
    let core : CoreStart := ⟨true, [], [.environment (.SetHwRender RETRO_HW_CONTEXT_OPENGLES2)],
      fun _ => true, 320, 240, [], [], []⟩
    let args := [bytes ("n64"), bytes ("a.z64")]
    let info : GameInfo := ⟨some (bytes ("a.z64")), none, 0⟩
    let r : Runtime := { Runtime.hwDefaults with
      globals := { Runtime.hwDefaults.globals with
        video := { Runtime.hwDefaults.globals.video with
          clipW := 320, clipH := 240, hwContextType := RETRO_HW_CONTEXT_OPENGLES2 } },
      emulatorRunning := true }
    main args (fun _ => []) true sdl core [] = .ran info (bytes ("N64 Emulator - a.z64")) r [] ∧
    ((core.initCalls ++ core.loadCalls).foldl CoreCall.store
      Runtime.hwDefaults.globals.stored).hwContextType ∈
      [RETRO_HW_CONTEXT_OPENGL, RETRO_HW_CONTEXT_OPENGLES2, RETRO_HW_CONTEXT_OPENGL_CORE] := by
  intro sdl core args info r
  have h : main args (fun _ => []) true sdl core [] =
      .ran info (bytes ("N64 Emulator - a.z64")) r [] := rfl
  exact ⟨h, main_ran_hwContext _ _ _ _ _ _ _ _ _ _ h⟩

-- Over a run of `main`, with the frame-time callback that the start-up's callbacks set last kept
-- by the loop's, and `SDL_GetTicks` past 0, the callback gets that callback's `reference` first
-- (nothing before the loop writes `runloop_frame_time_last`), then the microseconds between
-- successive passes.
theorem main_ran_frameTime (args : List (List UInt8)) (runFileManager : Nat → List UInt8)
    (sdlInit : Bool) (sdl : Sdl) (core : CoreStart) (frames : List Frame) (info : GameInfo)
    (title : List UInt8) (r : Runtime) (ds : List Int)
    (h : main args runFileManager sdlInit sdl core frames = .ran info title r ds)
    (hcb : (core.calls.foldl CoreCall.store
      Runtime.hwDefaults.globals.stored).runloopFrameTime.callback = true)
    (hticks : ∀ frame ∈ frames, 0 < frame.ticks.toNat)
    (hkeep : ∀ frame ∈ frames, ∀ c ∈ frame.core, ∀ cb,
      c ≠ .environment (.SetFrameTimeCallback cb)) :
    let times := frames.map fun frame => (frame.ticks.toNat : Int) * 1000
    ds <+: (core.calls.foldl CoreCall.store
      Runtime.hwDefaults.globals.stored).runloopFrameTime.reference ::
        List.zipWith (· - ·) times.tail times := by
  obtain ⟨romPath, -, hs⟩ := main_eq_ran h
  obtain ⟨r₀, _, _, hcalls, hloop, -, -⟩ := startEmulator_eq_ok hs
  have hft : r₀.globals.runloopFrameTime = _ :=
    congrArg Stored.runloopFrameTime (foldlM_coreCall_stored hcalls)
  obtain ⟨-, hlast, -⟩ := foldlM_coreCall_flags hcalls
  have hds := emulatorLoop_frameTime (r := { r₀ with emulatorRunning := true })
    (by dsimp only; rw [hft]; exact hcb) hkeep hloop
  dsimp only at hds
  rw [hft, hlast] at hds
  exact hds.trans (zipWith_frameTime_of_ticks _ frames hticks)

-- A core that sets its frame-time callback while loading gets its `reference`, then 17 ms.
theorem main_ran_frameTime_load :
    let sdl : Sdl := ⟨[], none, true, none, true, true, true, none, none, none, true⟩
    let core : CoreStart := ⟨true, [], [.environment (.SetFrameTimeCallback ⟨true, 16666⟩)],
      fun _ => true, 320, 240, [], [], []⟩
    let args := [bytes ("n64"), bytes ("a.z64")]
    let frames : List Frame := [⟨100, [], []⟩, ⟨117, [], []⟩]
    let info : GameInfo := ⟨some (bytes ("a.z64")), none, 0⟩
    let r : Runtime := { Runtime.hwDefaults with
      globals := { Runtime.hwDefaults.globals with
        video := { Runtime.hwDefaults.globals.video with clipW := 320, clipH := 240 },
        runloopFrameTime := ⟨true, 16666⟩ },
      emulatorRunning := true, runloopFrameTimeLast := 117000 }
    let times := frames.map fun frame => (frame.ticks.toNat : Int) * 1000
    (main args (fun _ => []) true sdl core frames =
        .ran info (bytes ("N64 Emulator - a.z64")) r [16666, 17000] ∧
      (core.calls.foldl CoreCall.store
        Runtime.hwDefaults.globals.stored).runloopFrameTime.callback = true ∧
      (∀ frame ∈ frames, 0 < frame.ticks.toNat) ∧
      (∀ frame ∈ frames, ∀ c ∈ frame.core, ∀ cb, c ≠ .environment (.SetFrameTimeCallback cb))) ∧
    [16666, 17000] <+: (core.calls.foldl CoreCall.store
      Runtime.hwDefaults.globals.stored).runloopFrameTime.reference ::
        List.zipWith (· - ·) times.tail times := by
  intro sdl core args frames info r times
  have h : main args (fun _ => []) true sdl core frames =
      .ran info (bytes ("N64 Emulator - a.z64")) r [16666, 17000] := rfl
  exact ⟨⟨h, rfl, by decide, by simp [frames]⟩,
    main_ran_frameTime _ _ _ _ _ _ _ _ _ _ h rfl (by decide) (by simp [frames])⟩

end N64Emu.Frontend
