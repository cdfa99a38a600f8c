import N64Emu.Core.Mappings

namespace N64Emu.Core

-- The `x_dma_read`/`x_dma_write` pair that `get_pi_dma_handler` installs.
inductive PiDmaHandler where
  | CartDom3 | CartRom | CartDom2 | DdDom
  deriving DecidableEq, Repr

-- `get_pi_dma_handler`: the context and handler pair of a PI DMA at a cartridge-bus address.
-- Below `MM_DOM2_ADDR1` it sets nothing. The `cart` and `dd` it is handed are the device's own
-- (`init_pi` receives `&dev->cart` and `&dev->dd`).
def getPiDmaHandler (address : Nat) : Option (Component × PiDmaHandler) :=
  if address ≥ MM_CART_ROM then
    if address ≥ MM_CART_DOM3 then some (.Cart, .CartDom3) else some (.CartRom, .CartRom)
  else if address ≥ MM_DOM2_ADDR2 then some (.Cart, .CartDom2)
  else if address ≥ MM_DOM2_ADDR1 then some (.Dd, .DdDom)
  else none

theorem getPiDmaHandler_dd {address : Nat} (h1 : MM_DOM2_ADDR1 ≤ address)
    (h2 : address < MM_DOM2_ADDR2) : getPiDmaHandler address = some (.Dd, .DdDom) := by
  simp only [MM_DOM2_ADDR1, MM_DOM2_ADDR2] at h1 h2
  simp only [getPiDmaHandler, MM_CART_ROM, MM_DOM2_ADDR2, MM_DOM2_ADDR1]
  repeat rw [if_neg (by omega)]
  rw [if_pos h1]

theorem getPiDmaHandler_cartDom2 {address : Nat} (h1 : MM_DOM2_ADDR2 ≤ address)
    (h2 : address < MM_CART_ROM) : getPiDmaHandler address = some (.Cart, .CartDom2) := by
  rw [getPiDmaHandler, if_neg (by omega), if_pos h1]

theorem getPiDmaHandler_cartRom {address : Nat} (h1 : MM_CART_ROM ≤ address)
    (h2 : address < MM_CART_DOM3) : getPiDmaHandler address = some (.CartRom, .CartRom) := by
  rw [getPiDmaHandler, if_pos h1, if_neg (by omega)]

-- The DMA handler of the same device as a CPU handler pair, for the devices behind the parallel
-- interface.
def Rw.piDma : Rw → Option PiDmaHandler
  | .DdRegs | .DdRom => some .DdDom
  | .CartDom2 => some .CartDom2
  | .CartRom => some .CartRom
  | _ => none

def MemHandler.piDma (h : MemHandler) : Option (Component × PiDmaHandler) :=
  h.rw.piDma.bind fun dma => h.context.map (·, dma)

-- A CPU mapping of a parallel-interface device and a PI DMA agree on every address it holds.
def DmaAgrees (m : MemMapping) : Prop :=
  ∀ address, m.Contains address → ∀ p, m.handler.piDma = some p → getPiDmaHandler address = some p

theorem dmaAgrees_of_piDma_none {m : MemMapping} (h : m.handler.rw.piDma = none) : DmaAgrees m := by
  intro _ _ p hp; simp [MemHandler.piDma, h] at hp

-- A row of a parallel-interface device whose range lies in the band of its DMA handler.
theorem dmaAgrees_of_band {m : MemMapping} {p : Component × PiDmaHandler}
    (hp : m.handler.piDma = some p) (lo hi : Nat) (hlo : lo ≤ m.begin) (hhi : m.endAddr < hi)
    (hband : ∀ address, lo ≤ address → address < hi → getPiDmaHandler address = some p) :
    DmaAgrees m := by
  intro address ha q hq
  rw [hp] at hq; cases hq
  exact hband address (by unfold MemMapping.Contains at ha; omega)
    (by unfold MemMapping.Contains at ha; omega)

-- With a cartridge in place, the CPU map and the DMA resolver agree on every cartridge-space
-- address: the disk-drive rows, the save row and the cartridge-ROM row lie in their DMA bands.
theorem initMappings_dmaAgrees (cfg : Config) (h0 : 0 < cfg.romSize)
    (h1 : cfg.romSize ≤ 0x0fc00000) (hdd : cfg.ddRomSize ≤ 0x02000000) :
    ∀ m ∈ initMappings cfg, DmaAgrees m := by
  have hdom2 : DmaAgrees (mapping MM_DOM2_ADDR2 0x1ffff .FlashramStat ⟨some .Cart, .CartDom2⟩
      ⟨.Null, 0x1ffff, 0⟩) :=
    dmaAgrees_of_band rfl MM_DOM2_ADDR2 MM_CART_ROM (le_refl _) (by decide)
      fun _ => getPiDmaHandler_cartDom2
  have hrom : DmaAgrees (mapping MM_CART_ROM (sizeSub cfg.romSize 1) .Rom
      ⟨some .CartRom, .CartRom⟩ ⟨.Null, sizeSub cfg.romSize 1, RETRO_MEMDESC_CONST⟩) :=
    dmaAgrees_of_band rfl MM_CART_ROM MM_CART_DOM3 (le_refl _)
      (by rw [mapping_endAddr, cartRom_end h0 h1]; simp only [MM_CART_ROM, MM_CART_DOM3]; omega)
      fun _ => getPiDmaHandler_cartRom
  have hregs : DmaAgrees ddRegsMapping :=
    dmaAgrees_of_band rfl MM_DOM2_ADDR1 MM_DOM2_ADDR2 (le_refl _) (by decide)
      fun _ => getPiDmaHandler_dd
  have hddrom (h : 0 < cfg.ddRomSize) : DmaAgrees (ddRomMapping cfg) :=
    dmaAgrees_of_band rfl MM_DOM2_ADDR1 MM_DOM2_ADDR2
      (by simp [ddRomMapping, MM_DD_ROM, MM_DOM2_ADDR1])
      (by rw [ddRomMapping, mapping_endAddr, ddRom_end h hdd]
          simp only [MM_DD_ROM, MM_DOM2_ADDR2]; omega)
      fun _ => getPiDmaHandler_dd
  unfold initMappings
  split <;> simp only [baseMappings, List.set_cons_succ, List.set_cons_zero, List.forall_mem_cons,
    List.not_mem_nil, false_implies, implies_true, and_true] <;> repeat' constructor
  all_goals first | exact dmaAgrees_of_piDma_none rfl | assumption | exact hddrom ‹_›

theorem initMappings_dmaAgrees_8mib_dd :
    let cfg : Config := ⟨0x800000, 0x800000, 0x2000000, 0⟩
    (0 < cfg.romSize ∧ cfg.romSize ≤ 0x0fc00000 ∧ cfg.ddRomSize ≤ 0x02000000) ∧
      ∀ m ∈ initMappings cfg, DmaAgrees m :=
  ⟨by decide, initMappings_dmaAgrees _ (by decide) (by decide) (by decide)⟩

-- With no cartridge (`rom_size = 0`) the cartridge-ROM row ends at 0xffffffff: the CPU map sends
-- `MM_CART_DOM3` to `cart_rom`, the DMA resolver to `cart_dom3`.
theorem initMappings_no_cart_dma_mismatch :
    ∃ m ∈ initMappings ⟨0x800000, 0, 0, 0⟩, m.Contains MM_CART_DOM3 ∧
      m.handler.piDma = some (.CartRom, .CartRom) ∧
      getPiDmaHandler MM_CART_DOM3 = some (.Cart, .CartDom3) := by
  decide

end N64Emu.Core
