import Mathlib.Data.List.Forall2
import N64Emu.Core.Mappings

namespace N64Emu.Core

-- `struct retro_memory_descriptor`, the fields this code sets; the others stay 0 from the
-- `memset`.
structure RetroMemoryDescriptor where
  flags : Nat
  ptr : Ptr
  start : Nat
  select : Nat
  disconnect : Nat
  len : Nat
  deriving DecidableEq, Repr

def RetroMemoryDescriptor.zero : RetroMemoryDescriptor := ⟨0, .Null, 0, 0, 0, 0⟩

-- `descs[]` with `mapped_regions_count`.
structure DescArray where
  descs : List RetroMemoryDescriptor
  count : Nat
  deriving DecidableEq, Repr

-- `descs[mapped_regions_count] = d; mapped_regions_count++`. A write past the last of the
-- `mappings_count + 2` slots is undefined behaviour, `none` here.
def DescArray.push (a : DescArray) (d : RetroMemoryDescriptor) : Option DescArray :=
  if a.count < a.descs.length then some ⟨a.descs.set a.count d, a.count + 1⟩ else none

-- A descriptor at `R4300_KSEG1 | begin` over `ptr`, as every branch but the first RDRAM alias
-- writes it.
def kseg1Desc (ptr : Ptr) (begin len flags : Nat) : RetroMemoryDescriptor :=
  ⟨flags, ptr, R4300_KSEG1 ||| begin, 0, 0, len⟩

-- The descriptors one pass of the loop of `setup_retroarch_memory_map` writes for a mapping, in
-- the order it writes them.
def entryDescriptors (dev : Device) (m : MemMapping) : List RetroMemoryDescriptor :=
  let rm := m.retroarchMapping
  match m.type with
  | .Rdram =>
    [⟨rm.flags, dev.rdramDram, R4300_KSEG0 ||| m.begin, 0x20000000, 0xC0000000, rm.len⟩,
      kseg1Desc dev.rdramDram m.begin rm.len rm.flags]
  | .RspMem => [kseg1Desc dev.spMem m.begin rm.len rm.flags]
  | .FlashramStat =>
    [kseg1Desc (if dev.useFlashram = -1 then .Member .CartSram else .Member .CartFlashram)
      m.begin rm.len rm.flags]
  | .Rom => [kseg1Desc dev.cartRom m.begin rm.len rm.flags]
  | .DdReg => [kseg1Desc (.Member .DdRegs) m.begin rm.len rm.flags]
  | .DdRom => [kseg1Desc dev.ddRom m.begin rm.len rm.flags]
  | .Pif =>
    -- `R4300_KSEG1 | mapping.begin + PIF_ROM_SIZE`: the `uint32_t` sum binds first
    [kseg1Desc dev.pifBase m.begin PIF_ROM_SIZE RETRO_MEMDESC_CONST,
      kseg1Desc dev.pifRam ((m.begin + PIF_ROM_SIZE) % 0x100000000) PIF_RAM_SIZE 0]
  | _ => if rm.ptr ≠ .Null then [kseg1Desc rm.ptr m.begin rm.len rm.flags] else []

-- One pass of the loop: each descriptor goes to `descs[mapped_regions_count++]`.
def mapEntry (dev : Device) (a : DescArray) (m : MemMapping) : Option DescArray :=
  (entryDescriptors dev m).foldlM DescArray.push a

-- `descs` after the `memset`, with room for `mappings_count + 2` descriptors.
def initDescs (n : Nat) : DescArray := ⟨List.replicate (n + 2) .zero, 0⟩

-- `setup_retroarch_memory_map`: the descriptor list handed to `RETRO_ENVIRONMENT_SET_MEMORY_MAPS`
-- (`descs[0 .. mapped_regions_count)`), or `none` when a write overran `descs`.
def setupRetroarchMemoryMap (mappings : List MemMapping) (dev : Device) :
    Option (List RetroMemoryDescriptor) := do
  let a ← mappings.foldlM (mapEntry dev) (initDescs mappings.length)
  return a.descs.take a.count

-- How many descriptors a mapping takes

-- The types the loop handles by name.
def MemType.special : MemType → Bool
  | .Rdram | .RspMem | .FlashramStat | .Rom | .DdReg | .DdRom | .Pif => true
  | _ => false

-- A mapping exports a descriptor: every specially handled one, and an other one iff its
-- `retroarch_mapping.ptr` is set.
def exportsDescriptor (m : MemMapping) : Bool :=
  m.type.special || m.retroarchMapping.ptr != .Null

-- RDRAM and PIF mappings export a second descriptor.
def doubled (m : MemMapping) : Bool :=
  m.type == .Rdram || m.type == .Pif

theorem length_entryDescriptors (dev : Device) (m : MemMapping) :
    (entryDescriptors dev m).length =
      (if exportsDescriptor m then 1 else 0) + (if doubled m then 1 else 0) := by
  unfold entryDescriptors exportsDescriptor doubled
  by_cases h : m.retroarchMapping.ptr = .Null <;> cases m.type <;> simp [MemType.special, h]

theorem length_flatMap_entryDescriptors (dev : Device) (mappings : List MemMapping) :
    (mappings.flatMap (entryDescriptors dev)).length =
      (mappings.filter exportsDescriptor).length + (mappings.filter doubled).length := by
  induction mappings with
  | nil => rfl
  | cons m ms ih =>
    simp only [List.flatMap_cons, List.length_append, ih, length_entryDescriptors,
      List.filter_cons]
    split <;> split <;> simp <;> omega

-- The loop as a concatenation

-- `setup_retroarch_memory_map` is the loop over all `n` mappings, cut to the slots it wrote.
theorem setupRetroarchMemoryMap_eq (mappings : List MemMapping) (dev : Device) :
    setupRetroarchMemoryMap mappings dev =
      (mappings.foldlM (mapEntry dev) (initDescs mappings.length)).map
        fun a => a.descs.take a.count := by
  simp only [setupRetroarchMemoryMap]
  cases mappings.foldlM (mapEntry dev) (initDescs mappings.length) <;> rfl

-- Writing `d` to the first unwritten slot of an array whose unwritten slots are still zero.
theorem push_append_replicate (done : List RetroMemoryDescriptor) (d : RetroMemoryDescriptor)
    (k : Nat) : DescArray.push ⟨done ++ List.replicate (k + 1) .zero, done.length⟩ d =
      some ⟨(done ++ [d]) ++ List.replicate k .zero, (done ++ [d]).length⟩ := by
  rw [DescArray.push, if_pos (by simp), List.set_append_right _ _ (Nat.le_refl _), Nat.sub_self,
    List.replicate_succ, List.set_cons_zero]
  simp

-- Pushing onto an array whose first `count` slots are written and whose other `k` slots are still
-- zero appends while there is room, and fails at the first write past the end.
theorem foldlM_push (ds done : List RetroMemoryDescriptor) (k : Nat) :
    ds.foldlM DescArray.push ⟨done ++ List.replicate k .zero, done.length⟩ =
      if ds.length ≤ k then
        some ⟨done ++ ds ++ List.replicate (k - ds.length) .zero, done.length + ds.length⟩
      else none := by
  induction ds generalizing done k with
  | nil => simp
  | cons d ds ih =>
    cases k with
    | zero => simp [DescArray.push]
    | succ k =>
      simp only [List.foldlM_cons, push_append_replicate, Option.bind_eq_bind, Option.some_bind, ih]
      simp [Nat.add_assoc, Nat.add_comm 1]

theorem foldlM_mapEntry (dev : Device) (mappings : List MemMapping) (a : DescArray) :
    mappings.foldlM (mapEntry dev) a = (mappings.flatMap (entryDescriptors dev)).foldlM
      DescArray.push a := by
  induction mappings generalizing a with
  | nil => rfl
  | cons m ms ih =>
    simp only [List.foldlM_cons, List.flatMap_cons, List.foldlM_append, mapEntry]
    cases (entryDescriptors dev m).foldlM DescArray.push a <;> simp [ih]

-- The loop over the first `i` mappings: their descriptors in order while they fit in `descs`,
-- and a failed write once they do not.
theorem foldlM_mapEntry_take (dev : Device) (mappings : List MemMapping) (i : Nat) :
    (mappings.take i).foldlM (mapEntry dev) (initDescs mappings.length) =
      if ((mappings.take i).flatMap (entryDescriptors dev)).length ≤ mappings.length + 2 then
        some ⟨(mappings.take i).flatMap (entryDescriptors dev) ++ List.replicate
          (mappings.length + 2 - ((mappings.take i).flatMap (entryDescriptors dev)).length) .zero,
          ((mappings.take i).flatMap (entryDescriptors dev)).length⟩
      else none := by
  have h := foldlM_push ((mappings.take i).flatMap (entryDescriptors dev)) [] (mappings.length + 2)
  rw [List.nil_append, List.nil_append, List.length_nil, Nat.zero_add] at h
  rw [foldlM_mapEntry]
  exact h

-- With at most two RDRAM and PIF mappings the descriptors always fit.
theorem length_flatMap_le (dev : Device) (mappings : List MemMapping) (i : Nat)
    (h : (mappings.filter doubled).length ≤ 2) :
    ((mappings.take i).flatMap (entryDescriptors dev)).length ≤ (mappings.take i).length + 2 := by
  have hsub := (List.take_sublist i mappings).filter doubled
  have := hsub.length_le
  have := List.length_filter_le exportsDescriptor (mappings.take i)
  rw [length_flatMap_entryDescriptors]
  omega

-- After the first `i` passes over an array with at most two RDRAM and PIF mappings the loop has
-- not failed, `descs` still has its `n + 2` slots, and `mapped_regions_count` counts the
-- exporting mappings plus the RDRAM and PIF ones among them.
theorem foldlM_mapEntry_take_in_bounds (mappings : List MemMapping) (dev : Device)
    (h : (mappings.filter doubled).length ≤ 2) (i : Nat) :
    ∃ a, (mappings.take i).foldlM (mapEntry dev) (initDescs mappings.length) = some a ∧
      a.descs.length = mappings.length + 2 ∧
      a.count = ((mappings.take i).filter exportsDescriptor).length +
        ((mappings.take i).filter doubled).length ∧
      a.count ≤ i + 2 := by
  have hle := length_flatMap_le dev mappings i h
  have hi := List.length_take_le i mappings
  have hn := List.length_take_le' i mappings
  rw [foldlM_mapEntry_take, if_pos (by omega)]
  exact ⟨_, rfl, by simp only [List.length_append, List.length_replicate]; omega,
    length_flatMap_entryDescriptors dev _, by dsimp only; omega⟩

-- The loop never writes past `descs`: for an array with at most two RDRAM and PIF mappings
-- `setup_retroarch_memory_map` hands over one descriptor per exporting mapping plus one per RDRAM
-- and PIF mapping, at most `n + 2`, and after its first `i` passes `mapped_regions_count` is that
-- count over those passes, at most `i + 2`. The table of `init_device` has one RDRAM and one PIF
-- mapping.
theorem setupRetroarchMemoryMap_in_bounds :
    (∀ cfg, ((initMappings cfg).filter (·.type == .Rdram)).length = 1 ∧
      ((initMappings cfg).filter (·.type == .Pif)).length = 1) ∧
    ∀ (mappings : List MemMapping) (dev : Device), (mappings.filter doubled).length ≤ 2 →
      (∃ ds, setupRetroarchMemoryMap mappings dev = some ds ∧
        ds.length = (mappings.filter exportsDescriptor).length + (mappings.filter doubled).length ∧
        ds.length ≤ mappings.length + 2) ∧
      ∀ i, ∃ a, (mappings.take i).foldlM (mapEntry dev) (initDescs mappings.length) = some a ∧
        a.descs.length = mappings.length + 2 ∧
        a.count = ((mappings.take i).filter exportsDescriptor).length +
          ((mappings.take i).filter doubled).length ∧
        a.count ≤ i + 2 := by
  refine ⟨fun cfg => ?_, fun mappings dev h => ⟨?_, foldlM_mapEntry_take_in_bounds mappings dev h⟩⟩
  · unfold initMappings
    split <;> simp only [baseMappings, ddRegsMapping, List.set_cons_succ, List.set_cons_zero,
      ddRomMapping, beq_iff_eq, reduceCtorEq, not_false_eq_true, List.filter_cons_of_neg,
      mapping_type, beq_self_eq_true, List.filter_cons_of_pos, List.filter_nil,
      List.length_singleton, and_self]
  · obtain ⟨a, hrun, hlen, hcount, hle⟩ :=
      foldlM_mapEntry_take_in_bounds mappings dev h mappings.length
    rw [List.take_length] at hrun hcount
    refine ⟨_, by rw [setupRetroarchMemoryMap_eq, hrun]; rfl, ?_, ?_⟩ <;>
      rw [List.length_take] <;> omega

theorem setupRetroarchMemoryMap_in_bounds_initMappings :
    let table := initMappings ⟨0x800000, 0x800000, 0x2000000, 0⟩
    (table.filter doubled).length ≤ 2 ∧
    (∃ ds, setupRetroarchMemoryMap table Device.zero = some ds ∧
      ds.length = (table.filter exportsDescriptor).length + (table.filter doubled).length ∧
      ds.length ≤ table.length + 2) ∧
    ∃ a, (table.take 20).foldlM (mapEntry Device.zero) (initDescs table.length) = some a ∧
      a.descs.length = table.length + 2 ∧
      a.count = ((table.take 20).filter exportsDescriptor).length +
        ((table.take 20).filter doubled).length ∧
      a.count ≤ 20 + 2 :=
  ⟨by decide, (setupRetroarchMemoryMap_in_bounds.2 _ Device.zero (by decide)).1,
    (setupRetroarchMemoryMap_in_bounds.2 _ Device.zero (by decide)).2 20⟩

-- The export as the spec describes it

-- The descriptors one mapping exports, as the spec describes them: RDRAM twice over
-- `rdram.dram`, at its KSEG0 and KSEG1 aliases; PIF as a constant ROM half over `pif.base` and a
-- writable RAM half over `pif.ram` that starts where the ROM half ends; the save mapping once,
-- over SRAM exactly when `use_flashram == -1`; the other named types once over the device's own
-- buffer; any other mapping once if its `retroarch_mapping.ptr` is set and not at all otherwise.
def Expansion (dev : Device) (m : MemMapping) (ds : List RetroMemoryDescriptor) : Prop :=
  match m.type with
  | .Rdram => ∃ d₀ d₁, ds = [d₀, d₁] ∧ d₀.ptr = dev.rdramDram ∧ d₁.ptr = dev.rdramDram ∧
      d₀.len = d₁.len ∧ d₀.start = R4300_KSEG0 ||| m.begin ∧ d₁.start = R4300_KSEG1 ||| m.begin
  | .Pif => ∃ d₀ d₁, ds = [d₀, d₁] ∧ d₀.ptr = dev.pifBase ∧ d₀.flags = RETRO_MEMDESC_CONST ∧
      d₀.len = PIF_ROM_SIZE ∧ d₀.start = R4300_KSEG1 ||| m.begin ∧ d₁.ptr = dev.pifRam ∧
      d₁.flags = 0 ∧ d₁.len = PIF_RAM_SIZE ∧
      (m.begin + PIF_ROM_SIZE < 0x20000000 → d₁.start = d₀.start + d₀.len)
  | .FlashramStat => ∃ d, ds = [d] ∧
      d.ptr = if dev.useFlashram = -1 then .Member .CartSram else .Member .CartFlashram
  | .RspMem => ∃ d, ds = [d] ∧ d.ptr = dev.spMem
  | .Rom => ∃ d, ds = [d] ∧ d.ptr = dev.cartRom
  | .DdReg => ∃ d, ds = [d] ∧ d.ptr = .Member .DdRegs
  | .DdRom => ∃ d, ds = [d] ∧ d.ptr = dev.ddRom
  | _ => (m.retroarchMapping.ptr = .Null ∧ ds = []) ∨
      (m.retroarchMapping.ptr ≠ .Null ∧ ∃ d, ds = [d] ∧ d.ptr = m.retroarchMapping.ptr)

-- `R4300_KSEG1 | x` adds the segment bits to an address below 0x20000000.
theorem kseg1_or {x : Nat} (hx : x < 0x20000000) : R4300_KSEG1 ||| x = R4300_KSEG1 + x := by
  have h := Nat.mul_add_lt_is_or (i := 29) (b := x) (by omega) 5
  simp only [Nat.reducePow, Nat.reduceMul] at h
  simp only [R4300_KSEG1]; omega

theorem entryDescriptors_expansion (dev : Device) (m : MemMapping) :
    Expansion dev m (entryDescriptors dev m) := by
  unfold Expansion entryDescriptors
  cases m.type
  case Pif =>
    refine ⟨_, _, rfl, rfl, rfl, rfl, rfl, rfl, rfl, rfl, fun h => ?_⟩
    simp only [kseg1Desc]
    rw [Nat.mod_eq_of_lt (by simp only [PIF_ROM_SIZE] at h ⊢; omega),
      kseg1_or (by omega), kseg1_or (by simp only [PIF_ROM_SIZE] at h ⊢; omega)]
    omega
  all_goals first
    | exact ⟨_, _, rfl, rfl, rfl, rfl, rfl, rfl⟩
    | exact ⟨_, rfl, rfl⟩
    | by_cases h : (MemMapping.retroarchMapping m).ptr = .Null <;> simp [h, kseg1Desc]

-- For every array and every device state, the descriptors of the mappings' expansions, in order,
-- number the exporting mappings plus the RDRAM and PIF ones; the loop hands exactly them to
-- `RETRO_ENVIRONMENT_SET_MEMORY_MAPS` when they fit in the `n + 2` slots of `descs` (always, with
-- at most two RDRAM and PIF mappings), and a write overruns `descs` when they do not.
theorem setupRetroarchMemoryMap_eq_flatten (mappings : List MemMapping) (dev : Device) :
    ∃ parts : List (List RetroMemoryDescriptor), List.Forall₂ (Expansion dev) mappings parts ∧
      parts.flatten.length =
        (mappings.filter exportsDescriptor).length + (mappings.filter doubled).length ∧
      ((mappings.filter doubled).length ≤ 2 → parts.flatten.length ≤ mappings.length + 2) ∧
      setupRetroarchMemoryMap mappings dev =
        if parts.flatten.length ≤ mappings.length + 2 then some parts.flatten else none := by
  have hflat : (mappings.map (entryDescriptors dev)).flatten =
      mappings.flatMap (entryDescriptors dev) := rfl
  refine ⟨mappings.map (entryDescriptors dev), List.forall₂_map_right_iff.2
    (List.forall₂_same.2 fun m _ => entryDescriptors_expansion dev m), ?_, fun h => ?_, ?_⟩
  · rw [hflat, length_flatMap_entryDescriptors]
  · have hle := length_flatMap_le dev mappings mappings.length h
    rw [List.take_length] at hle
    rwa [hflat]
  · have hrun := foldlM_mapEntry_take dev mappings mappings.length
    rw [List.take_length] at hrun
    rw [hflat, setupRetroarchMemoryMap_eq, hrun]
    by_cases hc : (mappings.flatMap (entryDescriptors dev)).length ≤ mappings.length + 2
    · rw [if_pos hc, if_pos hc, Option.map_some', List.take_left' rfl]
    · rw [if_neg hc, if_neg hc, Option.map_none']

-- Three RDRAM mappings need six descriptors where `descs` has five slots: the last write overruns
-- the array, and no list is handed over.
theorem setupRetroarchMemoryMap_overrun :
    ¬ ∃ parts : List (List RetroMemoryDescriptor),
      List.Forall₂ (Expansion Device.zero) (List.replicate 3 (mapping MM_RDRAM_DRAM 0x3efffff .Rdram
        ⟨some .Rdram, .RdramDram⟩ ⟨.Null, 0x800000, RETRO_MEMDESC_SYSTEM_RAM⟩)) parts ∧
      setupRetroarchMemoryMap (List.replicate 3 (mapping MM_RDRAM_DRAM 0x3efffff .Rdram
        ⟨some .Rdram, .RdramDram⟩ ⟨.Null, 0x800000, RETRO_MEMDESC_SYSTEM_RAM⟩)) Device.zero =
        some parts.flatten := by
  have hnone : setupRetroarchMemoryMap (List.replicate 3 (mapping MM_RDRAM_DRAM 0x3efffff .Rdram
      ⟨some .Rdram, .RdramDram⟩ ⟨.Null, 0x800000, RETRO_MEMDESC_SYSTEM_RAM⟩)) Device.zero = none := by
    decide
  rintro ⟨_, _, h⟩
  rw [hnone] at h
  cases h

end N64Emu.Core
