import Mathlib.Data.List.Pairwise

namespace N64Emu.Core

-- The physical address map of mupen64plus `memory.h` (the header is not under src/; the
-- cartridge and disk bands are also the ranges the comments of `get_pi_dma_handler` give).
def MM_RDRAM_DRAM : Nat := 0x00000000
def MM_RDRAM_REGS : Nat := 0x03f00000
def MM_RSP_MEM : Nat := 0x04000000
def MM_RSP_REGS : Nat := 0x04040000
def MM_RSP_REGS2 : Nat := 0x04080000
def MM_DPC_REGS : Nat := 0x04100000
def MM_DPS_REGS : Nat := 0x04200000
def MM_MI_REGS : Nat := 0x04300000
def MM_VI_REGS : Nat := 0x04400000
def MM_AI_REGS : Nat := 0x04500000
def MM_PI_REGS : Nat := 0x04600000
def MM_RI_REGS : Nat := 0x04700000
def MM_SI_REGS : Nat := 0x04800000
def MM_DOM2_ADDR1 : Nat := 0x05000000
def MM_DD_ROM : Nat := 0x06000000
def MM_DOM2_ADDR2 : Nat := 0x08000000
def MM_CART_ROM : Nat := 0x10000000
def MM_IS_VIEWER : Nat := 0x13ff0000
def MM_PIF_MEM : Nat := 0x1fc00000
def MM_CART_DOM3 : Nat := 0x1fd00000

-- The two unmapped kernel segments of the r4300 (`R4300_KSEG0`, `R4300_KSEG1`), the PIF
-- ROM/RAM split of `pif.h` and the `RETRO_MEMDESC_*` flags of `libretro.h`.
def R4300_KSEG0 : Nat := 0x80000000
def R4300_KSEG1 : Nat := 0xa0000000
def PIF_ROM_SIZE : Nat := 0x7c0
def PIF_RAM_SIZE : Nat := 0x40
def RETRO_MEMDESC_CONST : Nat := 1
def RETRO_MEMDESC_SYSTEM_RAM : Nat := 4
def GAME_CONTROLLERS_COUNT : Nat := 4

-- `size_t` subtraction: `rom_size - 1` wraps to `SIZE_MAX` at `rom_size = 0`.
def sizeSub (a b : Nat) : Nat := (a + (0x10000000000000000 - b)) % 0x10000000000000000

theorem sizeSub_one_of_pos {n : Nat} (h0 : 0 < n) (h : n ≤ 0x10000000000000000) :
    sizeSub n 1 = n - 1 := by
  unfold sizeSub; omega

@[simp] theorem sizeSub_zero_one : sizeSub 0 1 = 0xffffffffffffffff := rfl

-- The controllers of `struct device` that a handler, a back-reference or an interrupt
-- handler is bound to (`&dev->X`; `Device` is `dev` itself).
inductive Component where
  | Rdram | R4300 | Cp0 | Dp | Sp | Ai | Mi | Pi | Ri | Si | Vi | Pif | Cart | CartRom | Dd
  | IsViewer | Device
  deriving DecidableEq, Repr

-- The member arrays of `struct device` whose addresses are exported as backing stores.
inductive Member where
  | RdramRegs | SpRegs | SpRegs2 | DpcRegs | DpsRegs | MiRegs | ViRegs | AiRegs | PiRegs
  | RiRegs | SiRegs | CartSram | CartFlashram | DdRegs
  deriving DecidableEq, Repr

-- A pointer: NULL, `mem_base_u32(base, offset)` into the emulated memory block, or the
-- address of a member array of the device.
inductive Ptr where
  | Null
  | Base (offset : Nat)
  | Member (m : Member)
  deriving DecidableEq, Repr

-- `M64P_MEM_*`: the type tag of a mapping.
inductive MemType where
  | Nothing | Rdram | RdramReg | RspMem | RspReg | Rsp | Dp | Dps | Mi | Vi | Ai | Pi | Ri | Si
  | FlashramStat | Rom | Pif | DdReg | DdRom
  deriving DecidableEq, Repr

-- The `read_x`/`write_x` pair that `RW(x)` installs.
inductive Rw where
  | OpenBus | RdramDram | RdramRegs | RspMem | RspRegs | RspRegs2 | DpcRegs | DpsRegs | MiRegs
  | ViRegs | AiRegs | PiRegs | RiRegs | SiRegs | DdRegs | DdRom | CartDom2 | IsViewer | CartRom
  | PifMem
  deriving DecidableEq, Repr

-- `struct mem_handler`: the context pointer handed to the handlers (NULL is `none`) and the
-- handler pair.
structure MemHandler where
  context : Option Component
  rw : Rw
  deriving DecidableEq, Repr

-- The `retroarch_mapping` part of a mapping: backing pointer, length and flags.
structure RetroMapping where
  ptr : Ptr
  len : Nat
  flags : Nat
  deriving DecidableEq, Repr

-- `struct mem_mapping`; `begin` and `end` are `uint32_t`.
structure MemMapping where
  begin : Nat
  endAddr : Nat
  type : MemType
  handler : MemHandler
  retroarchMapping : RetroMapping
  deriving DecidableEq, Repr

-- A row `{ A(x, m), type, handler, retroarch_mapping }`: `A(x, m)` is `(x), (x) | (m)`, and the
-- `end` field keeps the low 32 bits of the `size_t` value.
def mapping (x m : Nat) (type : MemType) (handler : MemHandler) (retro : RetroMapping) :
    MemMapping :=
  ⟨x, (x ||| m) % 0x100000000, type, handler, retro⟩

@[simp] theorem mapping_begin (x m : Nat) (type : MemType) (handler : MemHandler)
    (retro : RetroMapping) : (mapping x m type handler retro).begin = x := rfl

@[simp] theorem mapping_endAddr (x m : Nat) (type : MemType) (handler : MemHandler)
    (retro : RetroMapping) : (mapping x m type handler retro).endAddr = (x ||| m) % 0x100000000 := rfl

@[simp] theorem mapping_type (x m : Nat) (type : MemType) (handler : MemHandler)
    (retro : RetroMapping) : (mapping x m type handler retro).type = type := rfl

@[simp] theorem mapping_handler (x m : Nat) (type : MemType) (handler : MemHandler)
    (retro : RetroMapping) : (mapping x m type handler retro).handler = handler := rfl

@[simp] theorem mapping_retroarchMapping (x m : Nat) (type : MemType) (handler : MemHandler)
    (retro : RetroMapping) : (mapping x m type handler retro).retroarchMapping = retro := rfl

namespace MemMapping

def Contains (m : MemMapping) (address : Nat) : Prop :=
  m.begin ≤ address ∧ address ≤ m.endAddr

instance (m : MemMapping) (address : Nat) : Decidable (m.Contains address) :=
  inferInstanceAs (Decidable (_ ∧ _))

-- The ranges `[begin, end]` of two mappings share no address.
def Disjoint (a b : MemMapping) : Prop :=
  a.endAddr < b.begin ∨ b.endAddr < a.begin

instance (a b : MemMapping) : Decidable (a.Disjoint b) :=
  inferInstanceAs (Decidable (_ ∨ _))

end MemMapping

-- The save-type selector and the other construction-time inputs of `init_device` that the
-- modelled code reads.
structure Config where
  dramSize : Nat
  romSize : Nat
  ddRomSize : Nat
  -- the media-type byte at offset 0x3b of the cartridge image (`'C'` for combo media)
  media : Nat
  deriving DecidableEq, Repr

-- `struct joybus_device_interface` of a PIF channel: whether its `poweron` is set.
structure JoybusDeviceInterface where
  poweron : Bool
  deriving DecidableEq, Repr

-- The interrupt kinds this code schedules on the r4300 event queue.
inductive IntType where
  | Hw2Int | NmiInt
  deriving DecidableEq, Repr

-- The handlers of `interrupt_handlers[]`, one per event kind.
inductive InterruptHandler where
  | ViVerticalInterruptEvent | CompareIntHandler | CheckIntHandler | SiEndOfDmaEvent
  | PiEndOfDmaEvent | SpecialIntHandler | AiEndOfDmaEvent | RspInterruptEvent | RdpInterruptEvent
  | Hw2IntHandler | NmiIntHandler | ResetHardHandler | RspEndOfDmaEvent | DdMechaIntHandler
  | DdBmIntHandler | DdDvIntHandler
  deriving DecidableEq, Repr

-- The parts of `struct device` that the modelled code writes or reads: the tables handed to
-- `init_memory` and `init_r4300`, the backing pointers the controllers keep, the cartridge's save
-- type, the PIF channels' joybus interfaces, the r4300 stop and reset flags, and the
-- `add_interrupt_event` requests made, in order.
structure Device where
  mem : List MemMapping
  interruptHandlers : List (Component × InterruptHandler)
  rdramDram : Ptr
  spMem : Ptr
  cartRom : Ptr
  useFlashram : Int
  ddRom : Ptr
  pifBase : Ptr
  pifRam : Ptr
  pifIpl3 : Ptr
  ijbd : Nat → Option JoybusDeviceInterface
  stop : Bool
  resetHardJob : Bool
  scheduled : List (IntType × Nat)

-- A zero-filled `struct device`.
def Device.zero : Device :=
  ⟨[], [], .Null, .Null, .Null, 0, .Null, .Null, .Null, .Null, fun _ => none, false, false, []⟩

end N64Emu.Core
