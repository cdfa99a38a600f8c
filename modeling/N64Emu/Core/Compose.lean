import N64Emu.Core.PiDma
import N64Emu.Core.RetroMemoryMap

namespace N64Emu.Core

-- `interrupt_handlers[]` of `init_device`: each event kind with the controller it is bound to.
-- The three disk-drive handlers are in the table whether or not a disk drive is plugged.
def interruptHandlers : List (Component × InterruptHandler) := [
  (.Vi, .ViVerticalInterruptEvent), (.R4300, .CompareIntHandler), (.R4300, .CheckIntHandler),
  (.Si, .SiEndOfDmaEvent), (.Pi, .PiEndOfDmaEvent), (.Cp0, .SpecialIntHandler),
  (.Ai, .AiEndOfDmaEvent), (.Sp, .RspInterruptEvent), (.Dp, .RdpInterruptEvent),
  (.Pif, .Hw2IntHandler), (.Device, .NmiIntHandler), (.Device, .ResetHardHandler),
  (.Sp, .RspEndOfDmaEvent), (.Dd, .DdMechaIntHandler), (.Dd, .DdBmIntHandler),
  (.Dd, .DdDvIntHandler)]

/-- Modelled from the spec: `init_dd` (dd_controller.c) is not under src/; the disk-drive
controller keeps the DD-ROM pointer it is handed. -/
def initDd (dev : Device) (rom : Ptr) : Device := { dev with ddRom := rom }

/-- Modelled from the spec: `init_memory`, `init_rdram`, `init_r4300` and `init_rsp` are not
under src/; each controller keeps the table or the backing pointer it is handed. -/
def initMemoryControllers (dev : Device) (mappings : List MemMapping) (dram spMem : Ptr) :
    Device :=
  { dev with
    mem := mappings
    rdramDram := dram
    interruptHandlers := interruptHandlers
    spMem := spMem }

/-- Modelled from the spec: `init_pif` (pif.c) is not under src/; the PIF keeps its memory, whose
writable RAM follows the `PIF_ROM_SIZE` bytes of boot ROM, its channels' joybus interfaces, and
the boot ROM pointer. -/
def initPif (dev : Device) (base : Nat) (ijbds : Nat → Option JoybusDeviceInterface)
    (ipl3 : Ptr) : Device :=
  { dev with
    pifBase := .Base base
    pifRam := .Base (base + PIF_ROM_SIZE)
    ijbd := ijbds
    pifIpl3 := ipl3 }

/-- Modelled from the spec: `init_cart` (cart.c) is not under src/; the cartridge keeps its ROM
pointer and takes `use_flashram` from the save-type selector (`-1` when unset). -/
def initCart (dev : Device) (rom : Ptr) (useFlashram : Int) : Device :=
  { dev with cartRom := rom, useFlashram := useFlashram }

-- The boot ROM `init_device` hands the PIF: the cartridge, unless a disk drive is plugged and the
-- cartridge is not combo media, or no cartridge is loaded.
def romBase (cfg : Config) : Nat :=
  if cfg.romSize = 0 ∨ (0 < cfg.ddRomSize ∧ cfg.media ≠ 'C'.toNat) then MM_DD_ROM else MM_CART_ROM

-- `init_device`: the composed device, and the memory map it hands the host at the end.
def initDevice (dev : Device) (cfg : Config) (useFlashram : Int)
    (ijbds : Nat → Option JoybusDeviceInterface) : Device × Option (List RetroMemoryDescriptor) :=
  let dev := if 0 < cfg.ddRomSize then initDd dev (.Base MM_DD_ROM) else dev
  let dev := initMemoryControllers dev (initMappings cfg) (.Base MM_RDRAM_DRAM) (.Base MM_RSP_MEM)
  let dev := initPif dev MM_PIF_MEM ijbds (.Base (romBase cfg + 0x40))
  let dev := initCart dev (.Base MM_CART_ROM) useFlashram
  (dev, setupRetroarchMemoryMap (initMappings cfg) dev)

-- Power-on and lifecycle

-- The calls `poweron_device` makes, in order; `Joybus i` is channel `i`'s own `poweron`.
inductive PoweronCall where
  | Rdram | R4300 | Rdp | Rsp | Ai | Mi | Pi | Ri | Si | Vi | Pif | Cart | IsViewer
  | Joybus (channel : Nat) | Dd
  deriving DecidableEq, Repr

def poweronDevice (dev : Device) : List PoweronCall :=
  [.Rdram, .R4300, .Rdp, .Rsp, .Ai, .Mi, .Pi, .Ri, .Si, .Vi, .Pif, .Cart, .IsViewer] ++
    ((List.range GAME_CONTROLLERS_COUNT).filter fun i => (dev.ijbd i).any (·.poweron)).map
      .Joybus ++
    if dev.ddRom ≠ .Null then [.Dd] else []

-- `stop_device` and `hard_reset_device` only raise a flag that the r4300 reads at its next
-- interrupt; `soft_reset_device` schedules a HW2 interrupt now and an NMI half a second later.
def stopDevice (dev : Device) : Device := { dev with stop := true }

def hardResetDevice (dev : Device) : Device := { dev with resetHardJob := true }

def softResetDevice (dev : Device) : Device :=
  { dev with scheduled := dev.scheduled ++ [(.Hw2Int, 0), (.NmiInt, 50000000)] }

-- A device without a disk drive

theorem initDevice_fst_mem (dev : Device) (cfg : Config) (useFlashram : Int)
    (ijbds : Nat → Option JoybusDeviceInterface) :
    (initDevice dev cfg useFlashram ijbds).1.mem = initMappings cfg := by
  simp only [initDevice, initCart, initPif, initMemoryControllers]

theorem initDevice_fst_pifIpl3 (dev : Device) (cfg : Config) (useFlashram : Int)
    (ijbds : Nat → Option JoybusDeviceInterface) :
    (initDevice dev cfg useFlashram ijbds).1.pifIpl3 = .Base (romBase cfg + 0x40) := by
  simp only [initDevice, initCart, initPif]

theorem initDevice_fst_ddRom (dev : Device) (cfg : Config) (useFlashram : Int)
    (ijbds : Nat → Option JoybusDeviceInterface) :
    (initDevice dev cfg useFlashram ijbds).1.ddRom =
      if 0 < cfg.ddRomSize then .Base MM_DD_ROM else dev.ddRom := by
  simp only [initDevice, initCart, initPif, initMemoryControllers]
  split <;> rfl

theorem dd_not_mem_poweronDevice {dev : Device} (h : dev.ddRom = .Null) :
    PoweronCall.Dd ∉ poweronDevice dev := by
  simp [poweronDevice, h]

-- Composed from a zeroed device without a disk image, nothing reaches the disk-drive controller:
-- no table row carries its handlers and power-on skips it. The PIF boots from the cartridge,
-- or from the DD-ROM window when no cartridge is loaded either.
theorem initDevice_without_dd (cfg : Config) (hdd : cfg.ddRomSize = 0) (useFlashram : Int)
    (ijbds : Nat → Option JoybusDeviceInterface) :
    (∀ m ∈ (initDevice Device.zero cfg useFlashram ijbds).1.mem,
      m.handler.rw ≠ .DdRegs ∧ m.handler.rw ≠ .DdRom) ∧
    PoweronCall.Dd ∉ poweronDevice (initDevice Device.zero cfg useFlashram ijbds).1 ∧
    (initDevice Device.zero cfg useFlashram ijbds).1.pifIpl3 =
      .Base ((if cfg.romSize = 0 then MM_DD_ROM else MM_CART_ROM) + 0x40) := by
  refine ⟨?_, dd_not_mem_poweronDevice ?_, ?_⟩
  · rw [initDevice_fst_mem]
    simp only [initMappings, hdd, lt_self_iff_false, ↓reduceIte, baseMappings, List.mem_cons,
      List.mem_singleton, ne_eq, forall_eq_or_imp, reduceCtorEq, not_false_eq_true, and_self,
      mapping_handler, forall_eq, List.not_mem_nil, false_implies, implies_true, and_true]
  · rw [initDevice_fst_ddRom, hdd, if_neg (Nat.lt_irrefl 0)]; rfl
  · rw [initDevice_fst_pifIpl3, romBase, hdd]
    simp

theorem initDevice_without_dd_8mib :
    let cfg : Config := ⟨0x800000, 0x800000, 0, 0⟩
    cfg.ddRomSize = 0 ∧
    (∀ m ∈ (initDevice Device.zero cfg (-1) fun _ => none).1.mem,
      m.handler.rw ≠ .DdRegs ∧ m.handler.rw ≠ .DdRom) ∧
    PoweronCall.Dd ∉ poweronDevice (initDevice Device.zero cfg (-1) fun _ => none).1 ∧
    (initDevice Device.zero cfg (-1) fun _ => none).1.pifIpl3 =
      .Base ((if cfg.romSize = 0 then MM_DD_ROM else MM_CART_ROM) + 0x40) :=
  ⟨rfl, initDevice_without_dd _ rfl _ _⟩

-- With neither a cartridge nor a disk image the PIF is handed the DD-ROM window as boot ROM.
theorem initDevice_no_media_boots_dd_window :
    (initDevice Device.zero ⟨0x800000, 0, 0, 0⟩ (-1) fun _ => none).1.pifIpl3 =
      .Base (MM_DD_ROM + 0x40) := rfl

-- The exported lengths

-- An 8 MiB cartridge is exported as 0x7fffff bytes: its row's length is `rom_size - 1`.
theorem initDevice_cart_rom_descriptor_len :
    ((initDevice Device.zero ⟨0x800000, 0x800000, 0, 0⟩ (-1) fun _ => none).2.map fun ds =>
      (ds.filter (·.ptr == .Base MM_CART_ROM)).map (·.len)) = some [0x7fffff] := by
  decide

end N64Emu.Core
