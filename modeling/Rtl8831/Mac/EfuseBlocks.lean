import Rtl8831.Mac.EfuseProgram

/-!
# Programming a map block by block

The mask has a byte for every sixteen of the map, the upper nibble for the
first block.  `program_efuse` appends an entry for every block with words
selected; `proc_write_log_efuse` appends one for the word of a byte.
-/

namespace Rtl8831.Mac

open List

namespace Efuse

open Lib

section Mask

variable {mask : ℕ → UInt8} {pre : UInt8} {n t o : ℕ}

/-- The mask bit of the word of byte `o`. -/
def maskBit (o : ℕ) : ℕ := if o / 8 % 2 = 1 then o % 8 / 2 else 4 + o % 8 / 2

/-- Whether a mask selects the word of byte `o`. -/
def selected (mask : ℕ → UInt8) (o : ℕ) : Bool := (mask (o / 16)).toNat.testBit (maskBit o)

set_option maxRecDepth 20000 in
lemma wordBit_low_nibble : ∀ m : Fin 256, ∀ t : Fin 4,
    wordBit (UInt8.ofNat m &&& 0x0F) t = (m : ℕ).testBit t := by
  decide

set_option maxRecDepth 20000 in
lemma wordBit_high_nibble : ∀ m : Fin 256, ∀ t : Fin 4,
    wordBit (UInt8.ofNat m >>> 4) t = (m : ℕ).testBit (4 + t) := by
  decide

set_option maxRecDepth 20000 in
lemma nibbles_lt : ∀ m : Fin 256,
    (UInt8.ofNat m &&& 0x0F).toNat < 16 ∧ (UInt8.ofNat m >>> 4).toNat < 16 := by
  decide

lemma preWordEn_block (mask : ℕ → UInt8) (n : ℕ) :
    preWordEn mask (8 * n) = if n % 2 = 1 then mask (n / 2) &&& 0x0F else mask (n / 2) >>> 4 := by
  unfold preWordEn
  have hblk : (8 * n) >>> 3 = n := by
    rw [Nat.shiftRight_eq_div_pow]
    omega
  have hline : (8 * n) >>> 4 = n / 2 := by
    rw [Nat.shiftRight_eq_div_pow]
    omega
  rw [hblk, hline, Nat.and_one_is_mod]
  rcases Nat.mod_two_eq_zero_or_one n with h | h <;> simp [h]

lemma preWordEn_lt (mask : ℕ → UInt8) (n : ℕ) : (preWordEn mask (8 * n)).toNat < 16 := by
  rw [preWordEn_block]
  have h := nibbles_lt ⟨(mask (n / 2)).toNat, (mask (n / 2)).toNat_lt⟩
  rw [UInt8.ofNat_toNat] at h
  split
  · exact h.1
  · exact h.2

lemma wordBit_preWordEn (mask : ℕ → UInt8) (o : ℕ) :
    wordBit (preWordEn mask (8 * (o / 8))) (o % 8 / 2) = selected mask o := by
  have ht : o % 8 / 2 < 4 := by omega
  have hline : o / 8 / 2 = o / 16 := by omega
  unfold selected maskBit
  rw [preWordEn_block, hline]
  split
  · have h := wordBit_low_nibble ⟨(mask (o / 16)).toNat, (mask (o / 16)).toNat_lt⟩ ⟨_, ht⟩
    rwa [UInt8.ofNat_toNat] at h
  · have h := wordBit_high_nibble ⟨(mask (o / 16)).toNat, (mask (o / 16)).toNat_lt⟩ ⟨_, ht⟩
    rwa [UInt8.ofNat_toNat] at h

lemma writeBlock_preWordEn {val log : ℕ → UInt8} :
    writeBlock n (preWordEn mask (8 * n)) val log =
      fun o => if o / 8 = n ∧ selected mask o = true then val o else log o := by
  funext o
  unfold writeBlock
  by_cases hn : o / 8 = n
  · rw [← hn, wordBit_preWordEn]
  · rw [if_neg fun h => hn h.1, if_neg fun h => hn h.1]

lemma clrBit_testBit : ∀ k b : Fin 8,
    (~~~(clrBit (2 * k))).toNat.testBit b = decide ((k : ℕ) ≠ (b + 4) % 8) := by
  decide

lemma clearBits_testBit (p : ℕ → Bool) (i : ℕ) (m : UInt8) {b : ℕ} (hb : b < 8) :
    (clearBits p i m).toNat.testBit b =
      (m.toNat.testBit b && !p (16 * i + 2 * ((b + 4) % 8))) := by
  have hline : [0, 2, 4, 6, 8, 10, 12, 14] = (range 8).map (2 * ·) := rfl
  have hloop : ∀ t ≤ 8, (((range t).map (2 * ·)).foldl
      (fun m j => if p (16 * i + j) then m &&& ~~~(clrBit j) else m) m).toNat.testBit b =
      (m.toNat.testBit b && !(decide ((b + 4) % 8 < t) && p (16 * i + 2 * ((b + 4) % 8)))) := by
    intro t
    induction t with
    | zero => simp
    | succ t ih =>
      intro ht
      have hclr := clrBit_testBit ⟨t, ht⟩ ⟨b, hb⟩
      dsimp only at hclr
      rw [range_succ, map_append, foldl_append, map_singleton,
        foldl_cons, foldl_nil]
      by_cases hp : p (16 * i + 2 * t) = true
      · rw [if_pos hp, UInt8.toNat_and, Nat.testBit_and, ih (Nat.le_of_succ_le ht), hclr]
        by_cases hlast : (b + 4) % 8 = t
        · simp [hlast, hp]
        · have hlt : (b + 4) % 8 < t + 1 ↔ (b + 4) % 8 < t := by omega
          simp [hlt, Ne.symm hlast]
      · rw [if_neg hp, ih (Nat.le_of_succ_le ht)]
        by_cases hlast : (b + 4) % 8 = t
        · simp [hlast, hp]
        · have hlt : (b + 4) % 8 < t + 1 ↔ (b + 4) % 8 < t := by omega
          simp [hlt]
  unfold clearBits
  rw [hline, hloop 8 (Nat.le_refl _)]
  have hlt : (b + 4) % 8 < 8 := by omega
  simp [hlt]

lemma maskBit_lt : maskBit o < 8 := by
  unfold maskBit
  split <;> omega

lemma maskBit_word : 16 * (o / 16) + 2 * ((maskBit o + 4) % 8) = 2 * (o / 2) := by
  unfold maskBit
  split <;> omega

lemma selected_updatedMask {info : PgEfuseInfo} {map maskMap : ℕ → UInt8}
    (hsize : info.efuseMapSize % 16 = 0) (ho : o < info.efuseMapSize) :
    selected (updatedMask info map maskMap) o =
      (selected info.efuseMask o &&
        !decide (info.efuseMap (2 * (o / 2)) = map (2 * (o / 2)) ∧
          info.efuseMap (2 * (o / 2) + 1) = map (2 * (o / 2) + 1) ∧ maskMap (2 * (o / 2)) = 0)) := by
  unfold selected updatedMask
  rw [if_pos (by omega), clearBits_testBit _ _ _ maskBit_lt, maskBit_word]

lemma selected_adjustMask {info : PgEfuseInfo} (ho : o / 16 < info.efuseMaskSize) :
    selected (adjustMask info).efuseMask o =
      !decide (info.efuseMap (2 * (o / 2)) = 0xFF ∧ info.efuseMap (2 * (o / 2) + 1) = 0xFF) := by
  have hset : ∀ b < 8, (0xFF : UInt8).toNat.testBit b = true := by decide
  unfold selected adjustMask
  dsimp only
  rw [if_pos ho, clearBits_testBit _ _ _ maskBit_lt, maskBit_word, hset _ maskBit_lt, Bool.true_and]

lemma sum_wordBit (pre : UInt8) (t : ℕ) :
    ((range t).map fun j => if wordBit pre j then 2 else 0).sum = 2 * wordsBelow pre t := by
  induction t with
  | zero => rfl
  | succ t ih =>
    rw [range_succ, map_append, sum_append, ih, wordsBelow, map_singleton,
      sum_singleton, Nat.mul_add]
    split <;> rfl

lemma pgNum_succ (mask : ℕ → UInt8) (k n : ℕ) :
    pgNum mask (k + 1) (8 * n) =
      (if preWordEn mask (8 * n) > 0 then 2 + 2 * wordsBelow (preWordEn mask (8 * n)) 4 else 0) +
        pgNum mask k (8 * (n + 1)) := by
  have hpre : (if (8 * n) &&& 0x0F > 0 then mask ((8 * n) >>> 4) &&& 0x0F
      else mask ((8 * n) >>> 4) >>> 4) = preWordEn mask (8 * n) := by
    have hline : (8 * n) >>> 4 = n / 2 := by
      rw [Nat.shiftRight_eq_div_pow]
      omega
    have hodd : (8 * n) &&& 0x0F > 0 ↔ n % 2 = 1 := by
      rw [show (0x0F : ℕ) = 2 ^ 4 - 1 by decide, Nat.and_two_pow_sub_one_eq_mod]
      omega
    rw [preWordEn_block, hline]
    exact if_congr hodd rfl rfl
  rw [pgNum, hpre, sum_wordBit, Nat.mul_succ]

lemma blockWords_length (map : ℕ → UInt8) (pre : UInt8) (off t : ℕ) :
    ((range t).flatMap fun i =>
      if wordBit pre i then [map (off + (i <<< 1)), map (off + (i <<< 1) + 1)] else []).length =
      2 * wordsBelow pre t := by
  induction t with
  | zero => rfl
  | succ t ih =>
    rw [range_succ, flatMap_append, length_append, ih, wordsBelow,
      flatMap_singleton, Nat.mul_add]
    split <;> rfl

lemma blockWords_getD (map : ℕ → UInt8) (pre : UInt8) (off t : ℕ) {k : ℕ} (hk : k / 2 < t)
    (hbit : wordBit pre (k / 2) = true) :
    ((range t).flatMap fun i =>
      if wordBit pre i then [map (off + (i <<< 1)), map (off + (i <<< 1) + 1)] else []).getD
        (wordPos pre k) 0xFF = map (off + k) := by
  induction t with
  | zero => exact absurd hk (Nat.not_lt_zero _)
  | succ t ih =>
    rw [range_succ, flatMap_append, flatMap_singleton]
    by_cases hlt : k / 2 < t
    · have hmono := wordsBelow_mono pre (Nat.succ_le_of_lt hlt)
      rw [Nat.succ_eq_add_one, wordsBelow_succ_of_bit hbit] at hmono
      rw [getD_append _ _ _ _ (by rw [blockWords_length]; unfold wordPos; omega), ih hlt]
    · have heq : k / 2 = t := by omega
      rw [getD_append_right _ _ _ _ (by rw [blockWords_length]; unfold wordPos; rw [heq]; omega),
        blockWords_length]
      have hpos : wordPos pre k - 2 * wordsBelow pre t = k % 2 := by
        unfold wordPos
        rw [heq]
        omega
      rw [hpos, ← heq, if_pos hbit, Nat.shiftLeft_eq, Nat.pow_one]
      rcases Nat.mod_two_eq_zero_or_one k with h | h
      · rw [h]
        exact congrArg map (by omega)
      · rw [h]
        exact congrArg map (by omega)

end Mask

section Cut

/-- A `write_hw_efuse` of a call that fails: the block of its entry, its place
among the bytes of the entry, and whether the byte got to the fuse. -/
structure Cut where
  blk : ℕ
  idx : ℕ
  stored : Bool

/-- The bytes of the entry for block `n`. -/
def entryLen (isBt : Bool) (mask : ℕ → UInt8) (n : ℕ) : ℕ :=
  hdrLen isBt n + 2 * wordsBelow (preWordEn mask (8 * n)) 4

/-- Where the loop of `program_efuse` over `k` blocks from `n` on is cut. -/
def cutAt (isBt : Bool) (mask : ℕ → UInt8) : ℕ → ℕ → Option (ℕ × Bool) → Option Cut
  | 0, _, _ => none
  | k + 1, n, cut =>
    if preWordEn mask (8 * n) > 0 then
      match cut with
      | none => none
      | some (idx, stored) =>
        if idx < entryLen isBt mask n then some ⟨n, idx, stored⟩
        else cutAt isBt mask k (n + 1) (some (idx - entryLen isBt mask n, stored))
    else cutAt isBt mask k (n + 1) cut

/-- The word of the block whose bytes come `q`-th in the entry. -/
def nthWord (pre : UInt8) (q : ℕ) : ℕ :=
  ((range 4).find? fun t => wordBit pre t && wordsBelow pre t == q).getD 0

namespace Cut

variable (isBt : Bool) (mask log : ℕ → UInt8) (c : Cut)

def reached : ℕ := c.idx + c.stored.toNat

/-- The word being written, as a number in the map; with a header byte it is the
first one of the entry. -/
def word : ℕ :=
  4 * c.blk + nthWord (preWordEn mask (8 * c.blk)) ((c.idx - hdrLen isBt c.blk) / 2)

/-- The entry was cut before its first byte or after its complete header, and
the words of it after the one being written read `0xFFFF` before. -/
def Harmless : Prop :=
  c.reached = 0 ∨
    hdrLen isBt c.blk ≤ c.reached ∧
      ∀ o, o / 8 = c.blk → selected mask o = true → c.word isBt mask < o / 2 → log o = 0xFF

end Cut

variable {isBt : Bool} {mask log map : ℕ → UInt8} {pre : UInt8} {n q : ℕ} {c : Cut}

lemma nthWord_spec_of_fin : ∀ p : Fin 16, ∀ q : Fin 4, q < wordsBelow (UInt8.ofNat p) 4 →
    nthWord (UInt8.ofNat p) q < 4 ∧ wordsBelow (UInt8.ofNat p) (nthWord (UInt8.ofNat p) q) = q ∧
      wordBit (UInt8.ofNat p) (nthWord (UInt8.ofNat p) q) = true := by
  decide

lemma wordsBelow_le (pre : UInt8) (t : ℕ) : wordsBelow pre t ≤ t := by
  induction t with
  | zero => exact Nat.le_refl _
  | succ t ih =>
    rw [wordsBelow]
    split <;> omega

lemma nthWord_spec (hlt : pre.toNat < 16) (hq : q < wordsBelow pre 4) :
    nthWord pre q < 4 ∧ wordsBelow pre (nthWord pre q) = q ∧ wordBit pre (nthWord pre q) = true := by
  have hle := wordsBelow_le pre 4
  have h := nthWord_spec_of_fin ⟨pre.toNat, hlt⟩ ⟨q, Nat.lt_of_lt_of_le hq hle⟩
  rw [UInt8.ofNat_toNat] at h
  exact h hq

lemma cutAt_spec {k : ℕ} {cut : Option (ℕ × Bool)} (h : cutAt isBt mask k n cut = some c) :
    n ≤ c.blk ∧ c.blk < n + k ∧ c.idx < entryLen isBt mask c.blk := by
  induction k generalizing n cut with
  | zero => cases h
  | succ k ih =>
    unfold cutAt at h
    split at h
    · split at h
      · cases h
      split at h
      · cases h
        exact ⟨Nat.le_refl _, by dsimp only; omega, by assumption⟩
      · have hrest := ih h
        omega
    · have hrest := ih h
      omega

lemma wordPos_nthWord (hlt : pre.toNat < 16) (hq : q < wordsBelow pre 4) {k : ℕ}
    (hbit : wordBit pre (k / 2) = true) :
    (k / 2 < nthWord pre q → wordPos pre k < 2 * q) ∧
      (nthWord pre q < k / 2 → 2 * q + 2 ≤ wordPos pre k) := by
  obtain ⟨-, hbelow, hword⟩ := nthWord_spec hlt hq
  unfold wordPos
  refine ⟨fun hbefore => ?_, fun hbehind => ?_⟩
  · have hmono := wordsBelow_mono pre (Nat.succ_le_of_lt hbefore)
    rw [Nat.succ_eq_add_one, wordsBelow_succ_of_bit hbit, hbelow] at hmono
    omega
  · have hmono := wordsBelow_mono pre (Nat.succ_le_of_lt hbehind)
    rw [Nat.succ_eq_add_one, wordsBelow_succ_of_bit hword, hbelow] at hmono
    omega

lemma nthWord_lt (pre : UInt8) (q : ℕ) : nthWord pre q < 4 := by
  unfold nthWord
  match h : (range 4).find? fun t => wordBit pre t && wordsBelow pre t == q with
  | none => exact Nat.zero_lt_succ 3
  | some t => exact mem_range.1 (mem_of_find?_eq_some h)

lemma Cut.le_word (c : Cut) (isBt : Bool) (mask : ℕ → UInt8) : 4 * c.blk ≤ c.word isBt mask :=
  Nat.le_add_right _ _

lemma Cut.word_lt (c : Cut) (isBt : Bool) (mask : ℕ → UInt8) :
    c.word isBt mask < 4 * (c.blk + 1) := by
  have h := nthWord_lt (preWordEn mask (8 * c.blk)) ((c.idx - hdrLen isBt c.blk) / 2)
  unfold Cut.word
  omega

lemma Cut.Harmless.congr {log' : ℕ → UInt8} (h : c.Harmless isBt mask log)
    (hlog : ∀ o, o / 8 = c.blk → log' o = log o) : c.Harmless isBt mask log' := by
  refine h.imp_right fun hhdr => ⟨hhdr.1, fun o ho hsel hlt => ?_⟩
  rw [hlog o ho]
  exact hhdr.2 o ho hsel hlt

lemma Cut.reached_iff (hlt : c.idx < entryLen isBt mask c.blk) {o : ℕ} (hblk : o / 8 = c.blk)
    (hsel : selected mask o = true) (hne : o / 2 ≠ c.word isBt mask) :
    hdrLen isBt c.blk + wordPos (preWordEn mask (8 * c.blk)) (o % 8) < c.reached ↔
      o / 2 < c.word isBt mask := by
  have hpre := preWordEn_lt mask c.blk
  rw [← wordBit_preWordEn, hblk] at hsel
  have hpos := wordPos_lt (Nat.mod_lt o (by omega)) hsel
  unfold entryLen at hlt
  obtain ⟨hbefore, hbehind⟩ := wordPos_nthWord (q := (c.idx - hdrLen isBt c.blk) / 2) hpre
    (by omega) hsel
  have hstored : c.stored.toNat ≤ 1 := Bool.toNat_le c.stored
  unfold Cut.word at hne ⊢
  unfold Cut.reached
  omega

end Cut

section Loop

variable {hw : HwInfo} {cells : Cells} {bank : Bank} {info : PgEfuseInfo} {mask : ℕ → UInt8}
  {s : BankState} {e n : ℕ} {log : ℕ → UInt8}

/-- Every byte up to `e` has been written. -/
def Tight (hw : HwInfo) (bank : Bank) (s : BankState) (e : ℕ) : Prop :=
  ∀ i, hw.secCtrlSize bank ≤ i → i < e → s.fuse i ≠ none

structure Fits (hw : HwInfo) (bank : Bank) (info : PgEfuseInfo) : Prop where
  isBt : decide (info.efuseMapSize = hw.btLogEfuseSize) = hw.isBt bank
  line : info.efuseMapSize % 16 = 0
  size : info.efuseMapSize ≤ hw.logMapSize bank

lemma logMapSize_le (hw : HwInfo) (bank : Bank) :
    hw.logMapSize bank ≤ 8 * blkCount (hw.isBt bank) := by
  cases bank with
  | wifi =>
    have hne : hw.isBt .wifi = false := decide_eq_false hw.log_ne_btLog
    rw [hne]
    exact hw.log_le
  | bt =>
    have heq : hw.isBt .bt = true := decide_eq_true rfl
    rw [heq]
    exact hw.btLog_le

/-- The bytes that `proc_pg_efuse` writes for block `n`. -/
def entryBytes (isBt : Bool) (map mask : ℕ → UInt8) (n : ℕ) : List UInt8 :=
  pgEfuseHdr isBt (8 * n) (preWordEn mask (8 * n) ^^^ 0x0F) ++
    pgEfuseWords map (preWordEn mask (8 * n)) (8 * n)

lemma burn_tight (htight : Tight hw bank s e) {bs : List UInt8}
    (hok : fails s.cut bs.length = false) : Tight hw bank (burn s e bs) (e + bs.length) := by
  intro i hi hlt
  unfold burn fill
  dsimp only
  rw [burnt_of_not_fails hok, take_length]
  by_cases he : e ≤ i
  · rw [if_pos ⟨he, hlt⟩]
    exact Option.some_ne_none _
  · rw [if_neg fun h => he h.1]
    exact htight i hi (Nat.lt_of_not_le he)

lemma Programmed.entry (h : Programmed hw bank s e log) (hfit : Fits hw bank info)
    (hn : 8 * n < info.efuseMapSize) (hpre : preWordEn mask (8 * n) > 0)
    (hroom : e + (2 + 2 * wordsBelow (preWordEn mask (8 * n)) 4) ≤ hw.phyMapSize bank) :
    (entryBytes (hw.isBt bank) info.efuseMap mask n).length = entryLen (hw.isBt bank) mask n ∧
      (burnt s.cut (entryLen (hw.isBt bank) mask n) = 0 →
        Programmed hw bank (burn s e (entryBytes (hw.isBt bank) info.efuseMap mask n)) e log) ∧
      ∀ p, burnt s.cut (entryLen (hw.isBt bank) mask n) = p → hdrLen (hw.isBt bank) n ≤ p →
        Programmed hw bank (burn s e (entryBytes (hw.isBt bank) info.efuseMap mask n))
          (e + entryLen (hw.isBt bank) mask n)
          fun o => if o / 8 = n ∧ selected mask o = true then
            (if hdrLen (hw.isBt bank) n + wordPos (preWordEn mask (8 * n)) (o % 8) < p then
              info.efuseMap o else 0xFF) else log o := by
  have hline := hfit.line
  have hsize := hfit.size
  have hblk := logMapSize_le hw bank
  have hlt := preWordEn_lt mask n
  have hpos : 0 < (preWordEn mask (8 * n)).toNat := UInt8.lt_iff_toNat_lt.1 hpre
  have hreads : hdrReads (hw.isBt bank) n (preWordEn mask (8 * n))
      (pgEfuseHdr (hw.isBt bank) (8 * n) (preWordEn mask (8 * n) ^^^ 0x0F)) = true :=
    hdrReads_pgEfuseHdr (by omega) hpos hlt
  have hhdr := length_of_hdrReads hreads
  have hwords : (pgEfuseWords info.efuseMap (preWordEn mask (8 * n)) (8 * n)).length =
      2 * wordsBelow (preWordEn mask (8 * n)) 4 := blockWords_length _ _ _ 4
  have hlen : (entryBytes (hw.isBt bank) info.efuseMap mask n).length =
      entryLen (hw.isBt bank) mask n := by
    unfold entryBytes entryLen
    rw [length_append, hhdr, hwords]
  have hhdrLe : hdrLen (hw.isBt bank) n ≤ 2 := by
    unfold hdrLen
    split <;> omega
  refine ⟨hlen, fun hzero => h.burn_zero (by rw [hlen]; exact hzero), fun p hp hcut => ?_⟩
  have hentry := h.burn_entry hreads (by omega) hpos hlt (fun t ht _ => by omega) hwords
    (by omega) (p := p) (by rw [← hp, ← hlen]; rfl) (by omega)
  rw [writeBlock_preWordEn, hhdr] at hentry
  have hlog : (fun o => if o / 8 = n ∧ selected mask o = true then
      cutValue p (hdrLen (hw.isBt bank) n) (preWordEn mask (8 * n))
        (pgEfuseWords info.efuseMap (preWordEn mask (8 * n)) (8 * n)) o else log o) =
      fun o => if o / 8 = n ∧ selected mask o = true then
        (if hdrLen (hw.isBt bank) n + wordPos (preWordEn mask (8 * n)) (o % 8) < p then
          info.efuseMap o else 0xFF) else log o := by
    funext o
    by_cases ho : o / 8 = n ∧ selected mask o = true
    · rw [if_pos ho, if_pos ho]
      unfold cutValue
      have hbit := ho.2
      rw [← wordBit_preWordEn, ho.1] at hbit
      have hbyte : (pgEfuseWords info.efuseMap (preWordEn mask (8 * n)) (8 * n)).getD
          (wordPos (preWordEn mask (8 * n)) (o % 8)) 0xFF = info.efuseMap (8 * n + o % 8) :=
        blockWords_getD _ _ _ 4 (by omega) hbit
      rw [hbyte]
      exact if_congr Iff.rfl (congrArg info.efuseMap (by omega)) rfl
    · rw [if_neg ho, if_neg ho]
  rw [hlog] at hentry
  have hend : e + hdrLen (hw.isBt bank) n +
      (pgEfuseWords info.efuseMap (preWordEn mask (8 * n)) (8 * n)).length =
      e + entryLen (hw.isBt bank) mask n := by
    unfold entryLen
    omega
  rw [hend] at hentry
  exact hentry

lemma Programmed.procPgEfuse_eq (h : Programmed hw bank s e log) (hfit : Fits hw bank info)
    (cells : Cells) (hn : 8 * n < info.efuseMapSize) (hpre : preWordEn mask (8 * n) > 0)
    (hend : s.efuseEnd = e)
    (hroom : e + (2 + 2 * wordsBelow (preWordEn mask (8 * n)) 4) ≤ hw.phyMapSize bank) :
    procPgEfuse hw cells s info (preWordEn mask (8 * n) ^^^ 0x0F) (preWordEn mask (8 * n)) (8 * n) =
      if fails s.cut (entryLen (hw.isBt bank) mask n) = true then
        (.efuseWrite, burn s e (entryBytes (hw.isBt bank) info.efuseMap mask n))
      else (.success,
        { burn s e (entryBytes (hw.isBt bank) info.efuseMap mask n) with
          efuseEnd := e + entryLen (hw.isBt bank) mask n }) := by
  obtain ⟨hlen, -, -⟩ := h.entry hfit hn hpre hroom
  have hne : entryBytes (hw.isBt bank) info.efuseMap mask n ≠ [] := by
    have hpos := wordsBelow_pos (UInt8.lt_iff_toNat_lt.1 hpre) (preWordEn_lt mask n)
    intro hnil
    rw [hnil] at hlen
    unfold entryLen at hlen
    rw [length_nil] at hlen
    omega
  unfold procPgEfuse
  dsimp only
  rw [hfit.isBt, hend]
  have hwrite : s.writeBytes cells e (entryBytes (hw.isBt bank) info.efuseMap mask n) = _ :=
    h.writeBytes hne
  rw [hlen] at hwrite
  cases hf : fails s.cut (entryLen (hw.isBt bank) mask n) with
  | true =>
    rw [hf] at hwrite
    split
    · next heq => cases heq.symm.trans hwrite
    · next heq =>
      cases heq.symm.trans hwrite
      rfl
  | false =>
    rw [hf] at hwrite
    split
    · next heq =>
      cases heq.symm.trans hwrite
      rw [← hlen]
      rfl
    · next heq => cases heq.symm.trans hwrite

lemma not_selected_of_pre (hpre : ¬preWordEn mask (8 * n) > 0) {o : ℕ} (ho : o / 8 = n) :
    selected mask o = false := by
  have hzero : preWordEn mask (8 * n) = 0 := by
    have hle := UInt8.le_iff_toNat_le.1 (UInt8.not_lt.1 hpre)
    exact UInt8.toNat_inj.1 (Nat.le_zero.1 hle)
  rw [← wordBit_preWordEn, ho, hzero]
  unfold wordBit
  rw [UInt8.zero_shiftRight, UInt8.zero_and]
  rfl

/-- The selected words from block `n` on replaced. -/
def writtenFrom (n : ℕ) (info : PgEfuseInfo) (mask log : ℕ → UInt8) (o : ℕ) : UInt8 :=
  if 8 * n ≤ o ∧ o < info.efuseMapSize ∧ selected mask o = true then info.efuseMap o else log o

lemma writtenFrom_end (hn : info.efuseMapSize ≤ 8 * n) : writtenFrom n info mask log = log := by
  funext o
  exact if_neg fun ho => by omega

lemma writtenFrom_succ (mask log : ℕ → UInt8) (hn : 8 * (n + 1) ≤ info.efuseMapSize) :
    writtenFrom (n + 1) info mask
        (fun o => if o / 8 = n ∧ selected mask o = true then info.efuseMap o else log o) =
      writtenFrom n info mask log := by
  funext o
  unfold writtenFrom
  by_cases hsel : selected mask o = true
  · simp only [hsel, and_true]
    by_cases hblk : o / 8 = n
    · rw [if_neg (by omega), if_pos hblk, if_pos (by omega)]
    · rw [if_neg hblk]
      exact if_congr (by omega) rfl rfl
  · simp [hsel]

lemma writtenFrom_skip (hn : 8 * (n + 1) ≤ info.efuseMapSize)
    (hpre : ¬preWordEn mask (8 * n) > 0) :
    writtenFrom (n + 1) info mask log = writtenFrom n info mask log := by
  have hlog : (fun o => if o / 8 = n ∧ selected mask o = true then info.efuseMap o else log o) =
      log := by
    funext o
    refine if_neg fun ho => ?_
    rw [not_selected_of_pre hpre ho.1] at ho
    exact Bool.false_ne_true ho.2
  have h := writtenFrom_succ mask log hn
  rwa [hlog] at h

lemma cutAt_none (isBt : Bool) (mask : ℕ → UInt8) (k n : ℕ) :
    cutAt isBt mask k n none = none := by
  induction k generalizing n with
  | zero => rfl
  | succ k ih =>
    unfold cutAt
    split
    · rfl
    · exact ih _

lemma cutAt_succ_of_ok {isBt : Bool} {k : ℕ} {cut : Option (ℕ × Bool)}
    (hpre : preWordEn mask (8 * n) > 0) (hok : fails cut (entryLen isBt mask n) = false) :
    cutAt isBt mask (k + 1) n cut =
      cutAt isBt mask k (n + 1) (cutAfter cut (entryLen isBt mask n)) := by
  rw [cutAt.eq_def]
  dsimp only
  rw [if_pos hpre]
  match cut, hok with
  | none, _ => exact (cutAt_none isBt mask k (n + 1)).symm
  | some (idx, stored), hok =>
    have hle := of_decide_eq_false hok
    unfold cutAfter
    dsimp only
    rw [if_neg hle, if_neg hle]

lemma cutAt_succ_of_fail {isBt : Bool} {k : ℕ} {cut : Option (ℕ × Bool)}
    (hpre : preWordEn mask (8 * n) > 0) (hfail : fails cut (entryLen isBt mask n) = true) :
    ∃ c : Cut, cutAt isBt mask (k + 1) n cut = some c ∧ c.blk = n ∧
      burnt cut (entryLen isBt mask n) = c.reached := by
  match cut, hfail with
  | none, hfail => cases hfail
  | some (idx, stored), hfail =>
    have hlt := of_decide_eq_true hfail
    refine ⟨⟨n, idx, stored⟩, ?_, rfl, if_pos hlt⟩
    rw [cutAt.eq_def]
    dsimp only
    rw [if_pos hpre, if_pos hlt]

lemma cutAt_succ_of_skip {isBt : Bool} {k : ℕ} {cut : Option (ℕ × Bool)}
    (hpre : ¬preWordEn mask (8 * n) > 0) :
    cutAt isBt mask (k + 1) n cut = cutAt isBt mask k (n + 1) cut := by
  rw [cutAt.eq_def]
  dsimp only
  rw [if_neg hpre]

lemma Programmed.program_step (h : Programmed hw bank s e log) (cells : Cells) (hfit : Fits hw bank info)
    (hn : 8 * n < info.efuseMapSize) (hpre : preWordEn mask (8 * n) > 0) (hend : s.efuseEnd = e)
    (hroom : e + (2 + 2 * wordsBelow (preWordEn mask (8 * n)) 4) ≤ hw.phyMapSize bank)
    (hok : fails s.cut (entryLen (hw.isBt bank) mask n) = false) (k : ℕ) :
    ∃ s', programEfuse hw cells info mask (k + 1) (8 * n) s =
        programEfuse hw cells info mask k (8 * (n + 1)) s' ∧
      Programmed hw bank s' (e + entryLen (hw.isBt bank) mask n)
        (fun o => if o / 8 = n ∧ selected mask o = true then info.efuseMap o else log o) ∧
      s'.efuseEnd = e + entryLen (hw.isBt bank) mask n ∧
      s'.cut = cutAfter s.cut (entryLen (hw.isBt bank) mask n) ∧
      (Tight hw bank s e → Tight hw bank s' (e + entryLen (hw.isBt bank) mask n)) := by
  obtain ⟨hlen, -, hentry⟩ := h.entry hfit hn hpre hroom
  have hprog := hentry _ (burnt_of_not_fails hok) (Nat.le_add_right _ _)
  have hlog : (fun o => if o / 8 = n ∧ selected mask o = true then
      (if hdrLen (hw.isBt bank) n + wordPos (preWordEn mask (8 * n)) (o % 8) <
        entryLen (hw.isBt bank) mask n then info.efuseMap o else 0xFF) else log o) =
      fun o => if o / 8 = n ∧ selected mask o = true then info.efuseMap o else log o := by
    funext o
    by_cases ho : o / 8 = n ∧ selected mask o = true
    · have hbit := ho.2
      rw [← wordBit_preWordEn, ho.1] at hbit
      have hin : hdrLen (hw.isBt bank) n + wordPos (preWordEn mask (8 * n)) (o % 8) <
          entryLen (hw.isBt bank) mask n :=
        Nat.add_lt_add_left (wordPos_lt (Nat.mod_lt o (by omega)) hbit) _
      rw [if_pos ho, if_pos ho, if_pos hin]
    · rw [if_neg ho, if_neg ho]
  rw [hlog] at hprog
  refine ⟨{ burn s e (entryBytes (hw.isBt bank) info.efuseMap mask n) with
      efuseEnd := e + entryLen (hw.isBt bank) mask n }, ?_,
    ⟨hprog.entries, hprog.unused, fun hvalid => (nomatch hvalid), fun hvalid => (nomatch hvalid)⟩,
    rfl, congrArg (cutAfter s.cut) hlen, fun htight => ?_⟩
  · rw [programEfuse]
    dsimp only
    rw [if_pos hpre, h.procPgEfuse_eq hfit cells hn hpre hend hroom, if_neg (by rw [hok]; decide)]
    rfl
  · have hall := burn_tight htight (hlen.symm ▸ hok)
    rw [hlen] at hall
    exact hall

lemma entryLen_le (isBt : Bool) (mask : ℕ → UInt8) (n : ℕ) :
    entryLen isBt mask n ≤ 2 + 2 * wordsBelow (preWordEn mask (8 * n)) 4 := by
  unfold entryLen hdrLen
  split <;> omega

lemma programEfuse_skip (cells : Cells) {k : ℕ} (hpre : ¬preWordEn mask (8 * n) > 0) :
    programEfuse hw cells info mask (k + 1) (8 * n) s =
      programEfuse hw cells info mask k (8 * (n + 1)) s := by
  rw [programEfuse]
  exact if_neg hpre

lemma Programmed.program (cells : Cells) (hfit : Fits hw bank info) {k : ℕ} (h : Programmed hw bank s e log)
    (hk : 8 * (n + k) = info.efuseMapSize) (hend : s.efuseEnd = e)
    (hroom : e + pgNum mask k (8 * n) ≤ hw.phyMapSize bank)
    (hcut : cutAt (hw.isBt bank) mask k n s.cut = none) :
    (programEfuse hw cells info mask k (8 * n) s).1 = .success ∧
      ∃ e', Programmed hw bank (programEfuse hw cells info mask k (8 * n) s).2 e'
          (writtenFrom n info mask log) ∧
        (Tight hw bank s e → Tight hw bank (programEfuse hw cells info mask k (8 * n) s).2 e') := by
  induction k generalizing n s e log with
  | zero =>
    rw [writtenFrom_end (by omega)]
    exact ⟨rfl, e, h, id⟩
  | succ k ih =>
    rw [pgNum_succ] at hroom
    by_cases hpre : preWordEn mask (8 * n) > 0
    · rw [if_pos hpre] at hroom
      cases hok : fails s.cut (entryLen (hw.isBt bank) mask n) with
      | true =>
        obtain ⟨c, hc, -⟩ := cutAt_succ_of_fail (k := k) hpre hok
        rw [hc] at hcut
        cases hcut
      | false =>
        obtain ⟨s', hstep, hprog, hend', hcut', htight⟩ :=
          h.program_step cells hfit (by omega) hpre hend (by omega) hok k
        rw [cutAt_succ_of_ok hpre hok, ← hcut'] at hcut
        have hlen := entryLen_le (hw.isBt bank) mask n
        obtain ⟨hret, e', hprog', htight'⟩ := ih hprog (by omega) hend' (by omega) hcut
        rw [hstep]
        rw [writtenFrom_succ mask log (by omega)] at hprog'
        exact ⟨hret, e', hprog', fun ht => htight' (htight ht)⟩
    · rw [if_neg hpre] at hroom
      rw [cutAt_succ_of_skip hpre] at hcut
      have hstep : programEfuse hw cells info mask (k + 1) (8 * n) s = _ :=
        programEfuse_skip cells hpre
      obtain ⟨hret, e', hprog', htight'⟩ := ih h (by omega) hend (by omega) hcut
      rw [hstep]
      rw [writtenFrom_skip (by omega) hpre] at hprog'
      exact ⟨hret, e', hprog', htight'⟩

lemma Programmed.program_cut (cells : Cells) (hfit : Fits hw bank info) {k : ℕ} {c : Cut}
    (h : Programmed hw bank s e log) (hk : 8 * (n + k) = info.efuseMapSize) (hend : s.efuseEnd = e)
    (hroom : e + pgNum mask k (8 * n) ≤ hw.phyMapSize bank)
    (hcut : cutAt (hw.isBt bank) mask k n s.cut = some c) :
    (programEfuse hw cells info mask k (8 * n) s).1 = .efuseWrite ∧
      (c.Harmless (hw.isBt bank) mask log →
        ∃ e' log', Programmed hw bank (programEfuse hw cells info mask k (8 * n) s).2 e' log' ∧
          ∀ o, o / 2 ≠ c.word (hw.isBt bank) mask → log' o =
            if 8 * n ≤ o ∧ o / 2 < c.word (hw.isBt bank) mask ∧ selected mask o = true then
              info.efuseMap o else log o) := by
  have hc := cutAt_spec hcut
  induction k generalizing n s e log with
  | zero => cases hcut
  | succ k ih =>
    rw [pgNum_succ] at hroom
    by_cases hpre : preWordEn mask (8 * n) > 0
    · rw [if_pos hpre] at hroom
      cases hok : fails s.cut (entryLen (hw.isBt bank) mask n) with
      | false =>
        obtain ⟨s', hstep, hprog, hend', hcut', -⟩ :=
          h.program_step cells hfit (by omega) hpre hend (by omega) hok k
        rw [cutAt_succ_of_ok hpre hok, ← hcut'] at hcut
        have hlen := entryLen_le (hw.isBt bank) mask n
        have hc' := cutAt_spec hcut
        obtain ⟨hret, hsafe⟩ := ih hprog (by omega) hend' (by omega) hcut hc'
        rw [hstep]
        refine ⟨hret, fun hharm => ?_⟩
        have hword := c.le_word (hw.isBt bank) mask
        obtain ⟨e', log', hprog', hlog'⟩ := hsafe (hharm.congr fun o ho => if_neg (by omega))
        refine ⟨e', log', hprog', fun o ho => (hlog' o ho).trans ?_⟩
        by_cases hsel : selected mask o = true
        · simp only [hsel, and_true]
          by_cases hblk : o / 8 = n
          · rw [if_neg (by omega), if_pos hblk, if_pos (by omega)]
          · rw [if_neg hblk]
            exact if_congr (by omega) rfl rfl
        · simp [hsel]
      | true =>
        obtain ⟨c', hcutAt, hblk, hburnt⟩ := cutAt_succ_of_fail (k := k) hpre hok
        rw [hcutAt] at hcut
        rw [Option.some.inj hcut] at hblk hburnt
        obtain ⟨-, hzero, hentry⟩ := h.entry hfit (by omega) hpre (by omega)
        have hprocEq := h.procPgEfuse_eq hfit cells (by omega) hpre hend (by omega)
        rw [if_pos hok] at hprocEq
        have hstep : programEfuse hw cells info mask (k + 1) (8 * n) s =
            (.efuseWrite, burn s e (entryBytes (hw.isBt bank) info.efuseMap mask n)) := by
          rw [programEfuse, if_pos hpre, hprocEq]
        have hlow := c.le_word (hw.isBt bank) mask
        have hhigh := c.word_lt (hw.isBt bank) mask
        rw [hstep]
        refine ⟨rfl, fun hharm => ?_⟩
        rcases hharm with hnone | ⟨hhdr, hblank⟩
        · refine ⟨e, log, hzero (hburnt.trans hnone), fun o ho => (if_neg ?_).symm⟩
          rintro ⟨hn, hlt, hsel⟩
          have hin := (Cut.reached_iff hc.2.2 (by omega) hsel ho).2 hlt
          omega
        · refine ⟨_, _, hentry c.reached hburnt (hblk ▸ hhdr), fun o ho => ?_⟩
          by_cases hin : o / 8 = n ∧ selected mask o = true
          · rw [if_pos hin]
            have hiff := Cut.reached_iff hc.2.2 (by omega) hin.2 ho
            rw [hblk] at hiff
            by_cases hlt : o / 2 < c.word (hw.isBt bank) mask
            · rw [if_pos (hiff.2 hlt), if_pos ⟨by omega, hlt, hin.2⟩]
            · rw [if_neg fun hp => hlt (hiff.1 hp), if_neg fun hp => hlt hp.2.1]
              exact (hblank o (by omega) hin.2 (by omega)).symm
          · rw [if_neg hin]
            refine (if_neg ?_).symm
            rintro ⟨hn, hlt, hsel⟩
            exact hin ⟨by omega, hsel⟩
    · rw [if_neg hpre] at hroom
      rw [cutAt_succ_of_skip hpre] at hcut
      have hstep : programEfuse hw cells info mask (k + 1) (8 * n) s = _ :=
        programEfuse_skip cells hpre
      have hc' := cutAt_spec hcut
      obtain ⟨hret, hsafe⟩ := ih h (by omega) hend (by omega) hcut hc'
      rw [hstep]
      refine ⟨hret, fun hharm => ?_⟩
      have hword := c.le_word (hw.isBt bank) mask
      obtain ⟨e', log', hprog', hlog'⟩ := hsafe hharm
      refine ⟨e', log', hprog', fun o ho => (hlog' o ho).trans ?_⟩
      by_cases hsel : selected mask o = true
      · have hblk : o / 8 ≠ n := fun hblk => by
          rw [not_selected_of_pre hpre hblk] at hsel
          cases hsel
        simp only [hsel, and_true]
        exact if_congr (by omega) rfl rfl
      · simp [hsel]

end Loop

end Efuse

end Rtl8831.Mac
