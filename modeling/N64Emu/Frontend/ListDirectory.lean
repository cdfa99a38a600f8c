import Mathlib.Logic.Equiv.Basic
import Mathlib.Data.List.Nodup
import N64Emu.Frontend.CString

namespace N64Emu.Frontend

-- `FileEntry`; `name` is the C string in `char name[256]`.
structure FileEntry where
  name : List UInt8
  isDirectory : Bool
  size : Int

-- What `readdir` and `stat` report for one directory entry: its name and, when `stat`
-- succeeds, whether it is a directory and its size.
structure Dirent where
  dName : List UInt8
  stat : Option (Bool × Int)

-- `FileManager`. `files` is the array `files[MAX_FILES]`; its first `file_count` slots hold the
-- listing of `current_path`.
structure FileManager where
  currentPath : List UInt8
  files : Nat → FileEntry
  fileCount : Int
  selectedIndex : Int
  scrollOffset : Int
  visibleItems : Int

-- The entry `list_directory` fills in: the name as `strncpy(entry->name, d_name, 255)` leaves
-- it, and the type and size `stat` gives (a file of size 0 when `stat` fails).
def FileEntry.ofDirent (ent : Dirent) : FileEntry :=
  match ent.stat with
  | some (dir, size) => ⟨ent.dName.take 255, dir, if dir then 0 else size⟩
  | none => ⟨ent.dName.take 255, false, 0⟩

-- The `readdir` loop: every entry but "." goes to `files[file_count++]`, until `MAX_FILES`.
def readEntries (files : Nat → FileEntry) (count : Nat) : List Dirent → (Nat → FileEntry) × Nat
  | [] => (files, count)
  | ent :: rest =>
    if count < MAX_FILES then
      if strcmp ent.dName DOT = 0 then readEntries files count rest
      else readEntries (Function.update files count (.ofDirent ent)) (count + 1) rest
    else (files, count)

-- The test of the exchange sort: `b` belongs before `a`, a directory before a file and then a
-- smaller name first.
def swapCond (a b : FileEntry) : Bool :=
  a.isDirectory.toNat < b.isDirectory.toNat ||
    (a.isDirectory == b.isDirectory && decide (strcmp a.name b.name > 0))

-- One step of the inner loop: `files[i]` and `files[j]` are swapped when they are out of order.
def sortStep (i : Nat) (files : Nat → FileEntry) (j : Nat) : Nat → FileEntry :=
  if swapCond (files i) (files j) then files ∘ Equiv.swap i j else files

-- The inner loop, `j` from `i + 1` to `file_count - 1`.
def sortInner (n : Nat) (files : Nat → FileEntry) (i : Nat) : Nat → FileEntry :=
  (List.range' (i + 1) (n - (i + 1))).foldl (sortStep i) files

-- The sort at the end of `list_directory`, `i` from 0 to `file_count - 2`.
def sortFiles (n : Nat) (files : Nat → FileEntry) : Nat → FileEntry :=
  (List.range (n - 1)).foldl (sortInner n) files

-- `list_directory` (POSIX branch): `opendir` fails (`none`) or yields the directory's entries.
def listDirectory (fm : FileManager) (dir : Option (List Dirent)) : FileManager :=
  match dir with
  | none => { fm with fileCount := 0 }
  | some ents =>
    let read := readEntries fm.files 0 ents
    { fm with files := sortFiles read.2 read.1, fileCount := read.2 }

-- `list_directory` touches only the listing.
@[simp] theorem listDirectory_currentPath (fm : FileManager) (dir : Option (List Dirent)) :
    (listDirectory fm dir).currentPath = fm.currentPath := by cases dir <;> rfl

@[simp] theorem listDirectory_selectedIndex (fm : FileManager) (dir : Option (List Dirent)) :
    (listDirectory fm dir).selectedIndex = fm.selectedIndex := by cases dir <;> rfl

@[simp] theorem listDirectory_scrollOffset (fm : FileManager) (dir : Option (List Dirent)) :
    (listDirectory fm dir).scrollOffset = fm.scrollOffset := by cases dir <;> rfl

@[simp] theorem listDirectory_visibleItems (fm : FileManager) (dir : Option (List Dirent)) :
    (listDirectory fm dir).visibleItems = fm.visibleItems := by cases dir <;> rfl

-- The read loop

-- The entries `list_directory` keeps: all but ".", in the order `readdir` gives them.
def keptEntries (ents : List Dirent) : List FileEntry :=
  (ents.filter fun e => strcmp e.dName DOT != 0).map FileEntry.ofDirent

theorem keptEntries_cons (ent : Dirent) (rest : List Dirent) :
    keptEntries (ent :: rest) =
      if strcmp ent.dName DOT = 0 then keptEntries rest else .ofDirent ent :: keptEntries rest := by
  by_cases h : strcmp ent.dName DOT = 0 <;> simp [keptEntries, List.filter_cons, h]

-- From `count` on, the read loop appends the kept entries until the array holds `MAX_FILES`.
theorem readEntries_spec (files : Nat → FileEntry) (count : Nat) (ents : List Dirent)
    (h : count ≤ MAX_FILES) :
    (readEntries files count ents).2 ≤ MAX_FILES ∧
    (List.range (readEntries files count ents).2).map (readEntries files count ents).1 =
      (List.range count).map files ++ (keptEntries ents).take (MAX_FILES - count) := by
  induction ents generalizing files count with
  | nil => simp [readEntries, keptEntries, h]
  | cons ent rest ih =>
    rw [readEntries, keptEntries_cons]
    by_cases hc : count < MAX_FILES
    · by_cases hd : strcmp ent.dName DOT = 0
      · simp only [if_pos hc, if_pos hd]; exact ih files count h
      · simp only [if_pos hc, if_neg hd]
        refine ⟨(ih _ (count + 1) hc).1, ?_⟩
        rw [(ih _ (count + 1) hc).2, List.range_succ, List.map_append,
          List.map_congr_left fun k hk => Function.update_noteq (List.mem_range.1 hk).ne _ _,
          List.take_cons (by omega), List.append_assoc]
        simp [Nat.sub_add_eq]
    · simp [if_neg hc, show MAX_FILES - count = 0 by omega, h]

-- The order the sort establishes

theorem strcmp_self (a : List UInt8) : strcmp a a = 0 := by
  induction a with
  | nil => rfl
  | cons x xs ih => simp only [strcmp]; split <;> omega

theorem swapCond_irrefl (a : FileEntry) : swapCond a a = false := by
  simp [swapCond, strcmp_self]

theorem swapCond_trans {a b c : FileEntry} (h₁ : swapCond a b) (h₂ : swapCond b c) :
    swapCond a c := by
  simp only [swapCond, Bool.or_eq_true, Bool.and_eq_true, beq_iff_eq, decide_eq_true_eq] at *
  rcases h₁ with h₁ | ⟨e₁, h₁⟩ <;> rcases h₂ with h₂ | ⟨e₂, h₂⟩
  · omega
  · exact .inl (e₂ ▸ h₁)
  · exact .inl (e₁ ▸ h₂)
  · exact .inr ⟨e₁.trans e₂, strcmp_pos_trans h₁ h₂⟩

-- Two entries are in order when a file never precedes a directory and, within a kind, the names
-- are in `strcmp` order.
theorem swapCond_eq_false (a b : FileEntry) :
    swapCond a b = false ↔ (a.isDirectory || !b.isDirectory) ∧
      (a.isDirectory = b.isDirectory → strcmp a.name b.name ≤ 0) := by
  rcases a with ⟨_, _ | _, _⟩ <;> rcases b with ⟨_, _ | _, _⟩ <;> simp [swapCond]

theorem swapCond_asymm {a b : FileEntry} (h : swapCond a b) : swapCond b a = false := by
  cases h' : swapCond b a
  · rfl
  · exact absurd (swapCond_trans h h') (by simp [swapCond_irrefl])

-- The sort permutes the listing

theorem map_swap_perm {α : Type} (f : Nat → α) {a b n : Nat} (ha : a < n) (hb : b < n) :
    ((List.range n).map (f ∘ Equiv.swap a b)).Perm ((List.range n).map f) := by
  rw [← List.map_map]
  refine List.Perm.map f ((List.perm_ext_iff_of_nodup
    ((List.nodup_range n).map (Equiv.swap a b).injective) (List.nodup_range n)).2 fun k => ?_)
  simp only [List.mem_map, List.mem_range]
  constructor
  · rintro ⟨j, hj, rfl⟩
    rw [Equiv.swap_apply_def]; split_ifs <;> omega
  · intro hk
    refine ⟨Equiv.swap a b k, ?_, Equiv.swap_apply_self _ _ _⟩
    rw [Equiv.swap_apply_def]; split_ifs <;> omega

theorem sortStep_perm {i j n : Nat} (hi : i < n) (hj : j < n) (files : Nat → FileEntry) :
    ((List.range n).map (sortStep i files j)).Perm ((List.range n).map files) := by
  unfold sortStep; split
  · exact map_swap_perm files hi hj
  · exact List.Perm.refl _

-- The sort orders the listing

-- `g` keeps the slots of `f` below `i`, and each slot of `[i, n)` of `g` holds a value that `f`
-- holds in `[i, n)`.
def SameTail (i n : Nat) (f g : Nat → FileEntry) : Prop :=
  (∀ k < i, g k = f k) ∧ ∀ q, i ≤ q → q < n → ∃ r, i ≤ r ∧ r < n ∧ g q = f r

theorem SameTail.refl (i n : Nat) (f : Nat → FileEntry) : SameTail i n f f :=
  ⟨fun _ _ => rfl, fun q h₁ h₂ => ⟨q, h₁, h₂, rfl⟩⟩

theorem SameTail.trans {i n : Nat} {f g h : Nat → FileEntry} (h₁ : SameTail i n f g)
    (h₂ : SameTail i n g h) : SameTail i n f h := by
  refine ⟨fun k hk => (h₂.1 k hk).trans (h₁.1 k hk), fun q hq₁ hq₂ => ?_⟩
  obtain ⟨r, hr₁, hr₂, hr⟩ := h₂.2 q hq₁ hq₂
  obtain ⟨r', hr₁', hr₂', hr'⟩ := h₁.2 r hr₁ hr₂
  exact ⟨r', hr₁', hr₂', hr.trans hr'⟩

theorem sameTail_sortStep {i j n : Nat} (hij : i < j) (hj : j < n) (g : Nat → FileEntry) :
    SameTail i n g (sortStep i g j) := by
  unfold sortStep; split
  · refine ⟨fun k hk => ?_, fun q hq₁ hq₂ => ⟨Equiv.swap i j q, ?_, ?_, rfl⟩⟩
    · simp only [Function.comp, Equiv.swap_apply_of_ne_of_ne (by omega : k ≠ i) (by omega : k ≠ j)]
    all_goals rw [Equiv.swap_apply_def]; split_ifs <;> omega
  · exact .refl i n g

-- One step of the inner loop keeps slot `i` no later than every slot of `(i, j]`.
theorem sortStep_min {i j : Nat} {g : Nat → FileEntry}
    (h : ∀ k, i < k → k < j → swapCond (g i) (g k) = false) :
    ∀ k, i < k → k < j + 1 → swapCond (sortStep i g j i) (sortStep i g j k) = false := by
  intro k hk₁ hk₂
  unfold sortStep
  split
  · next hs =>
    simp only [Function.comp, Equiv.swap_apply_left]
    rcases Nat.lt_or_ge k j with hk | hk
    · rw [Equiv.swap_apply_of_ne_of_ne (by omega) (by omega)]
      cases hc : swapCond (g j) (g k)
      · rfl
      · exact absurd (swapCond_trans hs hc) (by simp [h k hk₁ hk])
    · rw [show k = j by omega, Equiv.swap_apply_right]
      exact swapCond_asymm hs
  · next hs =>
    rcases Nat.lt_or_ge k j with hk | hk
    · exact h k hk₁ hk
    · rw [show k = j by omega]; simpa using hs

theorem sortInner_loop (i n : Nat) : ∀ (m j : Nat) (g : Nat → FileEntry), i < j → j + m ≤ n →
    (∀ k, i < k → k < j → swapCond (g i) (g k) = false) →
    SameTail i n g ((List.range' j m).foldl (sortStep i) g) ∧
    ((List.range n).map ((List.range' j m).foldl (sortStep i) g)).Perm
      ((List.range n).map g) ∧
    ∀ k, i < k → k < j + m →
      swapCond ((List.range' j m).foldl (sortStep i) g i)
        ((List.range' j m).foldl (sortStep i) g k) = false
  | 0, _, g, _, _, h => ⟨.refl .., .refl _, fun k h₁ h₂ => h k h₁ (by omega)⟩
  | m + 1, j, g, hij, hn, h => by
    rw [List.range'_succ, List.foldl_cons]
    obtain ⟨hs, hp, hk⟩ := sortInner_loop i n m (j + 1) (sortStep i g j) (by omega) (by omega)
      (sortStep_min h)
    exact ⟨(sameTail_sortStep hij (by omega) g).trans hs,
      hp.trans (sortStep_perm (by omega) (by omega) g), fun k h₁ h₂ => hk k h₁ (by omega)⟩

-- The inner loop at `i` leaves in slot `i` an entry no later than any entry of `(i, n)`.
theorem sortInner_spec {i n : Nat} (hi : i < n) (g : Nat → FileEntry) :
    SameTail i n g (sortInner n g i) ∧
    ((List.range n).map (sortInner n g i)).Perm ((List.range n).map g) ∧
    ∀ k, i < k → k < n → swapCond (sortInner n g i i) (sortInner n g i k) = false := by
  obtain ⟨hs, hp, hk⟩ := sortInner_loop i n (n - (i + 1)) (i + 1) g (by omega) (by omega)
    (fun k h₁ h₂ => absurd h₂ (by omega))
  exact ⟨hs, hp, fun k h₁ h₂ => hk k h₁ (by omega)⟩

-- Before the outer loop reaches `i`: the slots below `i` are in order, and each is no later than
-- every slot of `[i, n)`.
def OuterInv (n : Nat) (g : Nat → FileEntry) (i : Nat) : Prop :=
  (∀ p q, p < q → q < i → swapCond (g p) (g q) = false) ∧
  ∀ p q, p < i → i ≤ q → q < n → swapCond (g p) (g q) = false

theorem outerInv_sortInner {i n : Nat} (hi : i < n) {g : Nat → FileEntry} (h : OuterInv n g i) :
    OuterInv n (sortInner n g i) (i + 1) := by
  obtain ⟨⟨hkeep, hfrom⟩, -, hmin⟩ := sortInner_spec hi g
  -- a slot of `[i, n)` after the pass holds a value of `[i, n)` before it
  have hlate : ∀ p q, p < i → i ≤ q → q < n → swapCond (sortInner n g i p) (sortInner n g i q) =
      false := by
    intro p q hp hq₁ hq₂
    obtain ⟨r, hr₁, hr₂, hr⟩ := hfrom q hq₁ hq₂
    rw [hkeep p hp, hr]; exact h.2 p r hp hr₁ hr₂
  refine ⟨fun p q hpq hq => ?_, fun p q hp hq₁ hq₂ => ?_⟩
  · rcases Nat.lt_or_ge q i with hq' | hq'
    · rw [hkeep p (by omega), hkeep q hq']; exact h.1 p q hpq hq'
    · exact hlate p q (by omega) hq' (by omega)
  · rcases Nat.lt_or_ge p i with hp' | hp'
    · exact hlate p q hp' (by omega) hq₂
    · rw [show p = i by omega]; exact hmin q (by omega) hq₂

theorem sortOuter_loop (n : Nat) : ∀ (m i : Nat) (g : Nat → FileEntry), i + m < n → OuterInv n g i →
    OuterInv n ((List.range' i m).foldl (sortInner n) g) (i + m) ∧
    ((List.range n).map ((List.range' i m).foldl (sortInner n) g)).Perm ((List.range n).map g)
  | 0, _, _, _, h => ⟨h, .refl _⟩
  | m + 1, i, g, hn, h => by
    rw [List.range'_succ, List.foldl_cons]
    obtain ⟨hinv, hp⟩ := sortOuter_loop n m (i + 1) (sortInner n g i) (by omega)
      (outerInv_sortInner (by omega) h)
    exact ⟨by simpa [Nat.add_right_comm, Nat.add_assoc] using hinv,
      hp.trans (sortInner_spec (by omega) g).2.1⟩

-- The exchange sort of `list_directory` leaves the first `n` slots a permutation of what they
-- held, with every directory before every file and each group in `strcmp` order.
theorem sortFiles_perm_sorted (n : Nat) (files : Nat → FileEntry) :
    ((List.range n).map (sortFiles n files)).Perm ((List.range n).map files) ∧
    ∀ p q, p < q → q < n →
      ((sortFiles n files p).isDirectory || !(sortFiles n files q).isDirectory) ∧
      ((sortFiles n files p).isDirectory = (sortFiles n files q).isDirectory →
        strcmp (sortFiles n files p).name (sortFiles n files q).name ≤ 0) := by
  rcases Nat.eq_zero_or_pos n with rfl | hn
  · exact ⟨.refl _, fun p q _ hq => absurd hq (Nat.not_lt_zero q)⟩
  obtain ⟨hinv, hperm⟩ := sortOuter_loop n (n - 1) 0 files (by omega)
    ⟨fun _ _ _ h => absurd h (Nat.not_lt_zero _), fun _ _ h => absurd h (Nat.not_lt_zero _)⟩
  rw [← List.range_eq_range'] at hinv hperm
  refine ⟨hperm, fun p q hpq hq => (swapCond_eq_false _ _).1 ?_⟩
  rcases Nat.lt_or_ge q (n - 1) with hq' | hq'
  · exact hinv.1 p q hpq (by omega)
  · exact hinv.2 p q (by omega) (by omega) hq

-- After `list_directory` succeeds, `files[0..file_count)` is the kept entries (at most
-- `MAX_FILES` of them) in another order: directories first, each group in `strcmp` order.
theorem listDirectory_sorted (fm : FileManager) (ents : List Dirent) :
    ∃ n ≤ MAX_FILES, (listDirectory fm (some ents)).fileCount = n ∧
      ((List.range n).map (listDirectory fm (some ents)).files).Perm
        ((keptEntries ents).take MAX_FILES) ∧
      ∀ p q, p < q → q < n →
        (((listDirectory fm (some ents)).files p).isDirectory ||
          !((listDirectory fm (some ents)).files q).isDirectory) ∧
        (((listDirectory fm (some ents)).files p).isDirectory =
            ((listDirectory fm (some ents)).files q).isDirectory →
          strcmp ((listDirectory fm (some ents)).files p).name
            ((listDirectory fm (some ents)).files q).name ≤ 0) := by
  obtain ⟨hle, hread⟩ := readEntries_spec fm.files 0 ents (Nat.zero_le _)
  obtain ⟨hperm, hsorted⟩ := sortFiles_perm_sorted (readEntries fm.files 0 ents).2
    (readEntries fm.files 0 ents).1
  refine ⟨_, hle, rfl, ?_, hsorted⟩
  simpa [listDirectory, hread] using hperm

-- Whatever `opendir` and `readdir` give, the listing fits the array.
theorem listDirectory_fileCount (fm : FileManager) (dir : Option (List Dirent)) :
    0 ≤ (listDirectory fm dir).fileCount ∧ (listDirectory fm dir).fileCount ≤ MAX_FILES := by
  cases dir with
  | none => simp [listDirectory, MAX_FILES]
  | some ents =>
    have := (readEntries_spec fm.files 0 ents (Nat.zero_le _)).1
    simp only [listDirectory]; omega

end N64Emu.Frontend
