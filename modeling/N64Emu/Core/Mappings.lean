import Mathlib.Data.List.Basic
import N64Emu.Core.Basic

namespace N64Emu.Core

-- `mappings[]` of `init_device` as it is written, before the disk-drive substitution.
def baseMappings (cfg : Config) : List MemMapping := [
  ⟨0x00000000, 0xffffffff, .Nothing, ⟨none, .OpenBus⟩, ⟨.Null, 0, 0⟩⟩,
  mapping MM_RDRAM_DRAM 0x3efffff .Rdram ⟨some .Rdram, .RdramDram⟩
    ⟨.Null, cfg.dramSize, RETRO_MEMDESC_SYSTEM_RAM⟩,
  mapping MM_RDRAM_REGS 0xfffff .RdramReg ⟨some .Rdram, .RdramRegs⟩ ⟨.Member .RdramRegs, 0xfffff, 0⟩,
  mapping MM_RSP_MEM 0xffff .RspMem ⟨some .Sp, .RspMem⟩ ⟨.Null, 0xffff, 0⟩,
  mapping MM_RSP_REGS 0xffff .RspReg ⟨some .Sp, .RspRegs⟩ ⟨.Member .SpRegs, 0xffff, 0⟩,
  mapping MM_RSP_REGS2 0xffff .Rsp ⟨some .Sp, .RspRegs2⟩ ⟨.Member .SpRegs2, 0xffff, 0⟩,
  mapping MM_DPC_REGS 0xffff .Dp ⟨some .Dp, .DpcRegs⟩ ⟨.Member .DpcRegs, 0xffff, 0⟩,
  mapping MM_DPS_REGS 0xffff .Dps ⟨some .Dp, .DpsRegs⟩ ⟨.Member .DpsRegs, 0xffff, 0⟩,
  mapping MM_MI_REGS 0xffff .Mi ⟨some .Mi, .MiRegs⟩ ⟨.Member .MiRegs, 0xffff, 0⟩,
  mapping MM_VI_REGS 0xffff .Vi ⟨some .Vi, .ViRegs⟩ ⟨.Member .ViRegs, 0xffff, 0⟩,
  mapping MM_AI_REGS 0xffff .Ai ⟨some .Ai, .AiRegs⟩ ⟨.Member .AiRegs, 0xffff, 0⟩,
  mapping MM_PI_REGS 0xffff .Pi ⟨some .Pi, .PiRegs⟩ ⟨.Member .PiRegs, 0xffff, 0⟩,
  mapping MM_RI_REGS 0xffff .Ri ⟨some .Ri, .RiRegs⟩ ⟨.Member .RiRegs, 0xffff, 0⟩,
  mapping MM_SI_REGS 0xffff .Si ⟨some .Si, .SiRegs⟩ ⟨.Member .SiRegs, 0xffff, 0⟩,
  mapping MM_DOM2_ADDR1 0xffffff .Nothing ⟨none, .OpenBus⟩ ⟨.Null, 0xffffff, 0⟩,
  mapping MM_DD_ROM 0x1ffffff .Nothing ⟨none, .OpenBus⟩ ⟨.Null, 0x1ffffff, 0⟩,
  mapping MM_DOM2_ADDR2 0x1ffff .FlashramStat ⟨some .Cart, .CartDom2⟩ ⟨.Null, 0x1ffff, 0⟩,
  mapping MM_IS_VIEWER 0xfff .Nothing ⟨some .IsViewer, .IsViewer⟩ ⟨.Null, 0xfff, 0⟩,
  mapping MM_CART_ROM (sizeSub cfg.romSize 1) .Rom ⟨some .CartRom, .CartRom⟩
    ⟨.Null, sizeSub cfg.romSize 1, RETRO_MEMDESC_CONST⟩,
  mapping MM_PIF_MEM 0xffff .Pif ⟨some .Pif, .PifMem⟩ ⟨.Null, 0xffff, 0⟩]

-- The two rows that take slots 14 and 15 when a disk drive is plugged.
def ddRegsMapping : MemMapping :=
  mapping MM_DOM2_ADDR1 0xffffff .DdReg ⟨some .Dd, .DdRegs⟩ ⟨.Null, 0xffffff, 0⟩

def ddRomMapping (cfg : Config) : MemMapping :=
  mapping MM_DD_ROM (sizeSub cfg.ddRomSize 1) .DdRom ⟨some .Dd, .DdRom⟩
    ⟨.Null, sizeSub cfg.ddRomSize 1, RETRO_MEMDESC_CONST⟩

-- The table `init_device` hands to `init_memory`: `mappings[14]` and `mappings[15]` are
-- overwritten when `dd_rom_size > 0`.
def initMappings (cfg : Config) : List MemMapping :=
  if 0 < cfg.ddRomSize then ((baseMappings cfg).set 14 ddRegsMapping).set 15 (ddRomMapping cfg)
  else baseMappings cfg

@[simp] theorem length_initMappings (cfg : Config) : (initMappings cfg).length = 20 := by
  unfold initMappings; split <;> simp [baseMappings]

-- An `A(x, m)` row whose base is a multiple of `2^k` and whose mask is below `2^k` ends at
-- `x + m`.
theorem or_mod_of_aligned {x m k : Nat} (q : Nat) (hx : x = Nat.pow 2 k * q) (hm : m < Nat.pow 2 k)
    (hend : x + m < 0x100000000) : (x ||| m) % 0x100000000 = x + m := by
  have hor : Nat.pow 2 k * q + m = Nat.pow 2 k * q ||| m := Nat.mul_add_lt_is_or hm q
  rw [hx, ← hor, ← hx]
  exact Nat.mod_eq_of_lt hend

theorem cartRom_end {n : Nat} (h0 : 0 < n) (h1 : n ≤ 0x0fc00000) :
    (MM_CART_ROM ||| sizeSub n 1) % 0x100000000 = MM_CART_ROM + n - 1 := by
  rw [sizeSub_one_of_pos h0 (by omega), or_mod_of_aligned (x := MM_CART_ROM) (k := 28) 1 rfl
    (by rw [Nat.pow_eq]; omega) (by simp only [MM_CART_ROM]; omega)]
  simp only [MM_CART_ROM]; omega

theorem ddRom_end {n : Nat} (h0 : 0 < n) (h1 : n ≤ 0x02000000) :
    (MM_DD_ROM ||| sizeSub n 1) % 0x100000000 = MM_DD_ROM + n - 1 := by
  rw [sizeSub_one_of_pos h0 (by omega), or_mod_of_aligned (x := MM_DD_ROM) (k := 25) 3 rfl
    (by rw [Nat.pow_eq]; omega) (by simp only [MM_DD_ROM]; omega)]
  simp only [MM_DD_ROM]; omega

-- Disjointness of the table

-- `a`'s range starts where `b`'s does and ends no later.
def MemMapping.Within (a b : MemMapping) : Prop :=
  a.begin = b.begin ∧ a.endAddr ≤ b.endAddr

-- Two ranges are disjoint, or they are the IS-Viewer window and the cartridge-ROM row after it.
def DisjointExceptViewer (a b : MemMapping) : Prop :=
  a.Disjoint b ∨ (a.begin = MM_IS_VIEWER ∧ b.begin = MM_CART_ROM)

instance (a b : MemMapping) : Decidable (DisjointExceptViewer a b) :=
  inferInstanceAs (Decidable (_ ∨ _))

theorem forall₂_exists_mem {α β : Type} {W : α → β → Prop} :
    ∀ {l : List α} {l' : List β}, List.Forall₂ W l l' → ∀ b ∈ l, ∃ b' ∈ l', W b b'
  | _, _, .nil, _, hb => absurd hb (List.not_mem_nil _)
  | _, _, .cons hw hs, b, hb => by
    rcases List.mem_cons.1 hb with rfl | hb
    · exact ⟨_, List.mem_cons_self _ _, hw⟩
    · obtain ⟨b', hb', hwb⟩ := forall₂_exists_mem hs b hb
      exact ⟨b', List.mem_cons_of_mem _ hb', hwb⟩

-- A pairwise fact moves along `Forall₂` to a list whose entries it holds of whenever it holds of
-- the related entries.
theorem pairwise_of_forall₂ {α β : Type} {W : α → β → Prop} {R : α → α → Prop}
    {R' : β → β → Prop} (hR : ∀ a a' b b', W a a' → W b b' → R' a' b' → R a b) :
    ∀ {l : List α} {l' : List β}, List.Forall₂ W l l' → l'.Pairwise R' → l.Pairwise R
  | _, _, .nil, _ => .nil
  | _, _, .cons hw hs, .cons h' hs' =>
    .cons (fun b hb => by
      obtain ⟨b', hb', hwb⟩ := forall₂_exists_mem hs b hb
      exact hR _ _ _ _ hw hwb (h' b' hb')) (pairwise_of_forall₂ hR hs hs')

theorem MemMapping.Disjoint.of_within {a a' b b' : MemMapping} (h : a'.Disjoint b')
    (ha : a.Within a') (hb : b.Within b') : a.Disjoint b := by
  unfold MemMapping.Within at ha hb; unfold MemMapping.Disjoint at h ⊢; omega

theorem DisjointExceptViewer.of_within {a a' b b' : MemMapping} (h : DisjointExceptViewer a' b')
    (ha : a.Within a') (hb : b.Within b') : DisjointExceptViewer a b := by
  rcases h with h | ⟨h1, h2⟩
  · exact .inl (h.of_within ha hb)
  · exact .inr ⟨ha.1.trans h1, hb.1.trans h2⟩

-- The table for a cartridge of at most `bound` bytes and any disk ROM that fits its window lies
-- inside the table for a `bound`-byte cartridge and no disk drive.
theorem initMappings_within {cfg : Config} {bound : Nat} (h0 : 0 < cfg.romSize)
    (hb : cfg.romSize ≤ bound) (hbound : bound ≤ 0x0fc00000) (hdd : cfg.ddRomSize ≤ 0x02000000) :
    List.Forall₂ MemMapping.Within (initMappings cfg).tail (initMappings ⟨0, bound, 0, 0⟩).tail := by
  have hrom := cartRom_end h0 (Nat.le_trans hb hbound)
  have hmax := cartRom_end (n := bound) (by omega) hbound
  unfold initMappings
  simp only [Nat.lt_irrefl, if_false]
  split
  · have hdd' : (MM_DD_ROM ||| 0x1ffffff) % 4294967296 = MM_DD_ROM + 0x1ffffff := by decide
    simp only [baseMappings, ddRegsMapping, List.set_cons_succ, List.set_cons_zero, ddRomMapping,
      List.tail_cons, List.forall₂_cons, MemMapping.Within, mapping_begin, mapping_endAddr,
      Nat.reducePow, le_refl, and_self, ddRom_end (n := cfg.ddRomSize) (by assumption) hdd, hdd',
      Nat.sub_le_iff_le_add, true_and, hrom, hmax, List.Forall₂.nil, and_true]
    omega
  · simp only [baseMappings, List.tail_cons, List.forall₂_cons, MemMapping.Within, mapping_begin,
      mapping_endAddr, Nat.reducePow, le_refl, and_self, hrom, hmax, Nat.sub_le_iff_le_add, true_and,
      List.Forall₂.nil, and_true, ge_iff_le]
    omega

-- The table runs from the catch-all to the IS-Viewer window, the cartridge ROM after it, and PIF.
theorem initMappings_eq_append (cfg : Config) : ∃ pre,
    initMappings cfg = ⟨0, 0xffffffff, .Nothing, ⟨none, .OpenBus⟩, ⟨.Null, 0, 0⟩⟩ :: pre ++
      [mapping MM_IS_VIEWER 0xfff .Nothing ⟨some .IsViewer, .IsViewer⟩ ⟨.Null, 0xfff, 0⟩,
        mapping MM_CART_ROM (sizeSub cfg.romSize 1) .Rom ⟨some .CartRom, .CartRom⟩
          ⟨.Null, sizeSub cfg.romSize 1, RETRO_MEMDESC_CONST⟩,
        mapping MM_PIF_MEM 0xffff .Pif ⟨some .Pif, .PifMem⟩ ⟨.Null, 0xffff, 0⟩] :=
  ⟨(initMappings cfg).tail.take 16, by unfold initMappings; split <;> rfl⟩

-- Every admitted table lies inside the one for the largest cartridge, whose entries after the
-- catch-all are disjoint but for the IS-Viewer window and the ROM row.
theorem initMappings_tail_pairwise {cfg : Config} (h0 : 0 < cfg.romSize)
    (h1 : cfg.romSize ≤ 0x0fc00000) (hdd : cfg.ddRomSize ≤ 0x02000000) :
    (initMappings cfg).tail.Pairwise DisjointExceptViewer := by
  have hbig : (initMappings ⟨0, 0x0fc00000, 0, 0⟩).tail.Pairwise DisjointExceptViewer := by
    decide
  exact pairwise_of_forall₂ (fun _ _ _ _ ha hb h => h.of_within ha hb)
    (initMappings_within h0 h1 (Nat.le_refl _) hdd) hbig

theorem initMappings_disjoint_iff (cfg : Config) (h0 : 0 < cfg.romSize)
    (h1 : cfg.romSize ≤ 0x0fc00000) (hdd : cfg.ddRomSize ≤ 0x02000000) :
    (initMappings cfg).tail.Pairwise DisjointExceptViewer ∧
      ((initMappings cfg).tail.Pairwise MemMapping.Disjoint ↔ cfg.romSize ≤ 0x3ff0000) := by
  have hsmall : (initMappings ⟨0, 0x3ff0000, 0, 0⟩).tail.Pairwise MemMapping.Disjoint := by
    decide
  refine ⟨initMappings_tail_pairwise h0 h1 hdd, fun h => ?_, fun h =>
    pairwise_of_forall₂ (fun _ _ _ _ ha hb h => h.of_within ha hb)
      (initMappings_within h0 h (by decide) hdd) hsmall⟩
  -- the IS-Viewer window and the ROM row after it are disjoint only for a small cartridge
  obtain ⟨pre, htab⟩ := initMappings_eq_append cfg
  rw [htab, List.cons_append, List.tail_cons] at h
  have hvr := (List.pairwise_cons.1 (List.pairwise_append.1 h).2.1).1 _ (List.mem_cons_self _ _)
  simp only [MemMapping.Disjoint, mapping_begin, mapping_endAddr, cartRom_end h0 h1] at hvr
  revert hvr; simp only [MM_IS_VIEWER, MM_CART_ROM, Nat.reduceOr, Nat.reduceMod]; omega

theorem initMappings_disjoint_iff_8mib_dd :
    (initMappings ⟨0x800000, 0x800000, 0x2000000, 0⟩).tail.Pairwise DisjointExceptViewer ∧
      ((initMappings ⟨0x800000, 0x800000, 0x2000000, 0⟩).tail.Pairwise MemMapping.Disjoint ↔
        0x800000 ≤ 0x3ff0000) :=
  initMappings_disjoint_iff _ (by decide) (by decide) (by decide)

-- A 64 MiB cartridge: its ROM row reaches the IS-Viewer window at 0x13ff0000.
theorem initMappings_overlap_64mib :
    ¬ (initMappings ⟨0x800000, 0x4000000, 0, 0⟩).tail.Pairwise MemMapping.Disjoint := by
  decide

-- Resolution of an address

end N64Emu.Core
