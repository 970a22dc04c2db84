import Rtl8831.Lib.RecordLog
import Rtl8831.Mac.Efuse

/-!
# What the parser makes of an entry

`readEntry` is one turn of the loop of `eeprom_parser` that goes on.  It depends
on the bytes of the entry only, and on an entry with a header of
`proc_pg_efuse` it fills in the words enabled, whatever stands in their bytes.
-/

namespace Rtl8831.Mac

open Function

namespace Efuse

open Lib

section Read

variable {isBt : Bool} {efuseSize logEfuseSize : ℕ} {cfg : ParserCfg} {phyMap phyMap' : ℕ → UInt8}
  {blkIdx wordEn : UInt8} {i idx : ℕ} {logMap logMap' : ℕ → UInt8} {p : ℕ × (ℕ → UInt8)}

/-- A turn of the loop of `eeprom_parser` that reads an entry. -/
def readEntry (isBt : Bool) (efuseSize logEfuseSize : ℕ) (cfg : ParserCfg) (phyMap : ℕ → UInt8)
    (efuseIdx : ℕ) (logMap : ℕ → UInt8) : Option (ℕ × (ℕ → UInt8)) :=
  if efuseSize ≤ efuseIdx then none
  else if phyMap efuseIdx = 0xFF then none
  else if isBt = true ∧ phyMap efuseIdx &&& 0x0F ≠ 0x0F then
    parseWords efuseSize logEfuseSize cfg phyMap ((phyMap efuseIdx &&& 0xF0) >>> 4)
      (phyMap efuseIdx &&& 0x0F) (efuseIdx + 1) logMap
  else if phyMap (efuseIdx + 1) = 0xFF then none
  else parseWords efuseSize logEfuseSize cfg phyMap
    (if isBt then
      (((phyMap (efuseIdx + 1) &&& 0xF0) >>> 4) <<< 3) + (((phyMap efuseIdx &&& 0xF0) >>> 4) >>> 1)
    else ((phyMap (efuseIdx + 1) &&& 0xF0) >>> 4) ||| ((phyMap efuseIdx &&& 0x0F) <<< 4))
    (phyMap (efuseIdx + 1) &&& 0x0F) (efuseIdx + 2) logMap

variable (cfg' : ParserCfg) (fuel : ℕ)

lemma parserLoop_succ_of_readEntry (h : readEntry isBt efuseSize logEfuseSize cfg phyMap idx logMap = some p) :
    parserLoop isBt efuseSize logEfuseSize cfg phyMap (fuel + 1) idx logMap =
      parserLoop isBt efuseSize logEfuseSize cfg phyMap fuel p.1 p.2 := by
  unfold readEntry at h
  unfold parserLoop
  dsimp only
  split at h
  · cases h
  rename_i hsize
  rw [if_neg hsize]
  split at h
  · cases h
  rename_i hhdr
  rw [if_neg hhdr]
  split at h
  · rename_i hone
    rw [if_pos hone, h, Option.bind_some]
    cases fuel <;> rfl
  rename_i htwo
  rw [if_neg htwo]
  split at h
  · cases h
  rename_i hhdr2
  rw [if_neg hhdr2, h, Option.bind_some]
  cases fuel <;> rfl

lemma parserLoop_succ_of_blank (h : idx < efuseSize → phyMap idx = 0xFF) :
    parserLoop isBt efuseSize logEfuseSize cfg phyMap (fuel + 1) idx logMap =
      some (idx, logMap) := by
  unfold parserLoop
  by_cases hsize : efuseSize ≤ idx
  · rw [if_pos hsize]
  · rw [if_neg hsize]
    exact if_pos (h (Nat.lt_of_not_le hsize))

lemma parseWord_idx
    (h : parseWord efuseSize logEfuseSize cfg phyMap blkIdx wordEn i idx logMap = some p) :
    idx ≤ p.1 ∧ (idx ≤ efuseSize → p.1 ≤ efuseSize) := by
  unfold parseWord at h
  dsimp only at h
  split at h
  · split at h
    · cases h
    split at h
    · cases h
    split at h
    · cases h
    cases h
    dsimp only
    omega
  · cases h
    exact ⟨Nat.le_refl _, id⟩

lemma parseWord_congr (hagree : ∀ o < p.1, phyMap' o = phyMap o)
    (h : parseWord efuseSize logEfuseSize cfg phyMap blkIdx wordEn i idx logMap = some p) :
    parseWord efuseSize logEfuseSize cfg phyMap' blkIdx wordEn i idx logMap = some p := by
  unfold parseWord at h ⊢
  dsimp only at h ⊢
  split at h
  · rename_i hvalid
    rw [if_pos hvalid]
    split at h
    · cases h
    rename_i hlog
    rw [if_neg hlog]
    split at h
    · cases h
    rename_i hfirst
    rw [if_neg hfirst]
    split at h
    · cases h
    rename_i hsecond
    rw [if_neg hsecond]
    cases h
    rw [hagree idx (by dsimp only; omega), hagree (idx + 1) (by dsimp only; omega)]
  · rename_i hvalid
    rw [if_neg hvalid]
    exact h

lemma parseWord_positions (logMap' : ℕ → UInt8)
    (h : parseWord efuseSize logEfuseSize cfg phyMap blkIdx wordEn i idx logMap = some p) :
    ∃ m, parseWord efuseSize logEfuseSize cfg' phyMap blkIdx wordEn i idx logMap' =
      some (p.1, m) := by
  unfold parseWord at h ⊢
  dsimp only at h ⊢
  split at h
  · rename_i hvalid
    rw [if_pos hvalid]
    split at h
    · cases h
    rename_i hlog
    rw [if_neg hlog]
    split at h
    · cases h
    rename_i hfirst
    rw [if_neg hfirst]
    split at h
    · cases h
    rename_i hsecond
    rw [if_neg hsecond]
    cases h
    exact ⟨_, rfl⟩
  · rename_i hvalid
    rw [if_neg hvalid]
    cases h
    exact ⟨_, rfl⟩

lemma parseWords_eq_some_iff :
    parseWords efuseSize logEfuseSize cfg phyMap blkIdx wordEn idx logMap = some p ↔
      idx < efuseSize - 1 ∧ ∃ p0 p1 p2,
        parseWord efuseSize logEfuseSize cfg phyMap blkIdx wordEn 0 idx logMap = some p0 ∧
        parseWord efuseSize logEfuseSize cfg phyMap blkIdx wordEn 1 p0.1 p0.2 = some p1 ∧
        parseWord efuseSize logEfuseSize cfg phyMap blkIdx wordEn 2 p1.1 p1.2 = some p2 ∧
        parseWord efuseSize logEfuseSize cfg phyMap blkIdx wordEn 3 p2.1 p2.2 = some p := by
  unfold parseWords
  by_cases hidx : efuseSize - 1 ≤ idx
  · rw [if_pos hidx]
    exact ⟨fun h => (nomatch h), fun h => absurd hidx (Nat.not_le_of_lt h.1)⟩
  · rw [if_neg hidx]
    simp only [Option.bind_eq_some_iff]
    constructor
    · rintro ⟨p0, h0, p1, h1, p2, h2, h3⟩
      exact ⟨Nat.lt_of_not_le hidx, p0, p1, p2, h0, h1, h2, h3⟩
    · rintro ⟨-, p0, p1, p2, h0, h1, h2, h3⟩
      exact ⟨p0, h0, p1, h1, p2, h2, h3⟩

lemma parseWords_idx
    (h : parseWords efuseSize logEfuseSize cfg phyMap blkIdx wordEn idx logMap = some p) :
    idx ≤ p.1 ∧ p.1 ≤ efuseSize := by
  obtain ⟨hidx, p0, p1, p2, h0, h1, h2, h3⟩ := parseWords_eq_some_iff.1 h
  have hb0 := parseWord_idx h0
  have hb1 := parseWord_idx h1
  have hb2 := parseWord_idx h2
  have hb3 := parseWord_idx h3
  omega

lemma parseWords_congr (hagree : ∀ o < p.1, phyMap' o = phyMap o)
    (h : parseWords efuseSize logEfuseSize cfg phyMap blkIdx wordEn idx logMap = some p) :
    parseWords efuseSize logEfuseSize cfg phyMap' blkIdx wordEn idx logMap = some p := by
  obtain ⟨hidx, p0, p1, p2, h0, h1, h2, h3⟩ := parseWords_eq_some_iff.1 h
  have hb1 := parseWord_idx h1
  have hb2 := parseWord_idx h2
  have hb3 := parseWord_idx h3
  refine parseWords_eq_some_iff.2 ⟨hidx, p0, p1, p2, ?_, ?_, ?_, parseWord_congr hagree h3⟩
  · exact parseWord_congr (fun o ho => hagree o (by omega)) h0
  · exact parseWord_congr (fun o ho => hagree o (by omega)) h1
  · exact parseWord_congr (fun o ho => hagree o (by omega)) h2

lemma parseWords_positions (logMap' : ℕ → UInt8)
    (h : parseWords efuseSize logEfuseSize cfg phyMap blkIdx wordEn idx logMap = some p) :
    ∃ m, parseWords efuseSize logEfuseSize cfg' phyMap blkIdx wordEn idx logMap' =
      some (p.1, m) := by
  obtain ⟨hidx, p0, p1, p2, h0, h1, h2, h3⟩ := parseWords_eq_some_iff.1 h
  obtain ⟨m0, hm0⟩ := parseWord_positions cfg' logMap' h0
  obtain ⟨m1, hm1⟩ := parseWord_positions cfg' m0 h1
  obtain ⟨m2, hm2⟩ := parseWord_positions cfg' m1 h2
  obtain ⟨m3, hm3⟩ := parseWord_positions cfg' m2 h3
  exact ⟨m3, parseWords_eq_some_iff.2 ⟨hidx, _, _, _, hm0, hm1, hm2, hm3⟩⟩

lemma readEntry_cases
    (h : readEntry isBt efuseSize logEfuseSize cfg phyMap idx logMap = some p) :
    idx < p.1 ∧ p.1 ≤ efuseSize ∧
    (∀ phyMap', (∀ o < p.1, phyMap' o = phyMap o) →
      readEntry isBt efuseSize logEfuseSize cfg phyMap' idx logMap = some p) ∧
    ∀ cfg' logMap', ∃ m,
      readEntry isBt efuseSize logEfuseSize cfg' phyMap idx logMap' = some (p.1, m) := by
  have hread := h
  unfold readEntry at h
  split at h
  · cases h
  rename_i hsize
  split at h
  · cases h
  rename_i hhdr
  split at h
  · rename_i hone
    have hb := parseWords_idx h
    refine ⟨by omega, hb.2, fun phyMap' hagree => ?_, fun cfg' logMap' => ?_⟩
    · unfold readEntry
      rw [hagree idx (by omega), if_neg hsize, if_neg hhdr, if_pos hone]
      exact parseWords_congr hagree h
    · unfold readEntry
      rw [if_neg hsize, if_neg hhdr, if_pos hone]
      exact parseWords_positions cfg' logMap' h
  rename_i htwo
  split at h
  · cases h
  rename_i hhdr2
  have hb := parseWords_idx h
  refine ⟨by omega, hb.2, fun phyMap' hagree => ?_, fun cfg' logMap' => ?_⟩
  · unfold readEntry
    rw [hagree idx (by omega), hagree (idx + 1) (by omega), if_neg hsize, if_neg hhdr,
      if_neg htwo, if_neg hhdr2]
    exact parseWords_congr hagree h
  · unfold readEntry
    rw [if_neg hsize, if_neg hhdr, if_neg htwo, if_neg hhdr2]
    exact parseWords_positions cfg' logMap' h

end Read

section Words

variable {pre : UInt8} {n k t : ℕ}

/-- The words enabled before word `t` of a block. -/
def wordsBelow (pre : UInt8) : ℕ → ℕ
  | 0 => 0
  | t + 1 => wordsBelow pre t + if wordBit pre t then 1 else 0

/-- Where byte `k` of a block stands among the bytes of its entry. -/
def wordPos (pre : UInt8) (k : ℕ) : ℕ := 2 * wordsBelow pre (k / 2) + k % 2

/-- The block `n` of a logical map with the words enabled replaced. -/
def writeBlock (n : ℕ) (pre : UInt8) (val log : ℕ → UInt8) (o : ℕ) : UInt8 :=
  if o / 8 = n ∧ wordBit pre (o % 8 / 2) = true then val o else log o

lemma wordsBelow_mono (pre : UInt8) {s t : ℕ} (h : s ≤ t) : wordsBelow pre s ≤ wordsBelow pre t := by
  induction h with
  | refl => exact Nat.le_refl _
  | step _ ih => exact Nat.le_trans ih (Nat.le_add_right _ _)

lemma wordsBelow_succ_of_bit (h : wordBit pre t = true) :
    wordsBelow pre (t + 1) = wordsBelow pre t + 1 := by
  rw [wordsBelow, if_pos h]

lemma wordPos_lt (hk : k < 8) (h : wordBit pre (k / 2) = true) :
    wordPos pre k < 2 * wordsBelow pre 4 := by
  have hmono := wordsBelow_mono pre (show k / 2 + 1 ≤ 4 by omega)
  rw [wordsBelow_succ_of_bit h] at hmono
  unfold wordPos
  omega

lemma toNat_shiftRight {t : ℕ} (ht : t < 4) (x : UInt8) :
    (x >>> UInt8.ofNat t).toNat = x.toNat >>> t := by
  rw [UInt8.toNat_shiftRight, UInt8.toNat_ofNat_of_lt' (Nat.lt_trans ht (by decide)),
    Nat.mod_eq_of_lt (by omega)]

lemma valid_iff {t : ℕ} (ht : t < 4) (pre : UInt8) :
    (~~~((pre ^^^ 0x0F) >>> UInt8.ofNat t)) &&& 1 = 1 ↔ wordBit pre t = true := by
  have h15 : Nat.testBit 15 t = true := by interval_cases t <;> rfl
  have hpre : (pre.toNat >>> t) % 2 = (pre.toNat.testBit t).toNat := by
    rw [Nat.toNat_testBit, Nat.shiftRight_eq_div_pow]
  have hxor : ((pre.toNat ^^^ 15) >>> t) % 2 = (!pre.toNat.testBit t).toNat := by
    rw [Nat.shiftRight_eq_div_pow, ← Nat.toNat_testBit, Nat.testBit_xor, h15, Bool.xor_true]
  have hlt := UInt8.toNat_lt ((pre ^^^ 0x0F) >>> UInt8.ofNat t)
  rw [toNat_shiftRight ht, UInt8.toNat_xor] at hlt
  rw [wordBit, decide_eq_true_eq, gt_iff_lt, UInt8.lt_iff_toNat_lt, ← UInt8.toNat_inj]
  simp only [UInt8.toNat_and, UInt8.toNat_not, toNat_shiftRight ht, UInt8.toNat_xor,
    UInt8.toNat_one, UInt8.toNat_zero, Nat.and_one_is_mod, hpre]
  change (_ - 1 - ((pre.toNat ^^^ 15) >>> t)) % 2 = 1 ↔ _
  change (pre.toNat ^^^ 15) >>> t < _ at hlt
  cases hb : pre.toNat.testBit t <;> simp [hb] at hxor ⊢ <;> omega

lemma wordsBelow_pos_of_fin : ∀ p : Fin 16, 0 < p → 0 < wordsBelow (UInt8.ofNat p) 4 := by
  decide

lemma wordsBelow_pos (hpos : 0 < pre.toNat) (hlt : pre.toNat < 16) : 0 < wordsBelow pre 4 := by
  have h := wordsBelow_pos_of_fin ⟨pre.toNat, hlt⟩ hpos
  rwa [UInt8.ofNat_toNat] at h

end Words

section Fill

variable {efuseSize logEfuseSize n t base : ℕ} {cfg : ParserCfg} {phyMap log : ℕ → UInt8}
  {blkIdx pre : UInt8}

/-- The logical map after the first `t` words of a block. -/
def wordsDone (n : ℕ) (pre : UInt8) (t : ℕ) (val log : ℕ → UInt8) (o : ℕ) : UInt8 :=
  if o / 8 = n ∧ o % 8 / 2 < t ∧ wordBit pre (o % 8 / 2) = true then val o else log o

variable {val : ℕ → UInt8}

lemma wordsDone_zero : wordsDone n pre 0 val log = log := by
  funext o
  exact if_neg fun h => absurd h.2.1 (Nat.not_lt_zero _)

lemma wordsDone_four : wordsDone n pre 4 val log = writeBlock n pre val log := by
  funext o
  unfold wordsDone writeBlock
  have hword : o % 8 / 2 < 4 := by omega
  simp only [hword, true_and]

lemma wordsDone_succ_of_not (h : ¬wordBit pre t = true) :
    wordsDone n pre (t + 1) val log = wordsDone n pre t val log := by
  funext o
  unfold wordsDone
  refine if_congr ?_ rfl rfl
  constructor
  · rintro ⟨hblk, hlt, hbit⟩
    refine ⟨hblk, Nat.lt_of_le_of_ne (Nat.le_of_lt_succ hlt) ?_, hbit⟩
    rintro heq
    exact h (heq ▸ hbit)
  · rintro ⟨hblk, hlt, hbit⟩
    exact ⟨hblk, Nat.lt_succ_of_lt hlt, hbit⟩

lemma wordsDone_succ_of_bit (ht : t < 4) (h : wordBit pre t = true) :
    wordsDone n pre (t + 1) val log =
      update
        (update (wordsDone n pre t val log) (8 * n + 2 * t) (val (8 * n + 2 * t)))
        (8 * n + 2 * t + 1) (val (8 * n + 2 * t + 1)) := by
  funext o
  by_cases hsecond : o = 8 * n + 2 * t + 1
  · subst hsecond
    rw [update_self]
    have hword : (8 * n + 2 * t + 1) % 8 / 2 = t := by omega
    refine if_pos ⟨by omega, by omega, ?_⟩
    rw [hword]
    exact h
  rw [update_of_ne hsecond]
  by_cases hfirst : o = 8 * n + 2 * t
  · subst hfirst
    rw [update_self]
    have hword : (8 * n + 2 * t) % 8 / 2 = t := by omega
    refine if_pos ⟨by omega, by omega, ?_⟩
    rw [hword]
    exact h
  rw [update_of_ne hfirst]
  unfold wordsDone
  refine if_congr ?_ rfl rfl
  constructor
  · rintro ⟨hblk, hlt, hbit⟩
    exact ⟨hblk, by omega, hbit⟩
  · rintro ⟨hblk, hlt, hbit⟩
    exact ⟨hblk, Nat.lt_succ_of_lt hlt, hbit⟩

def entryValue (cfg : ParserCfg) (phyMap : ℕ → UInt8) (base : ℕ) (pre : UInt8) (o : ℕ) : UInt8 :=
  cfg.value (phyMap (base + wordPos pre (o % 8)))

lemma parseWord_fill (ht : t < 4) (hblk : blkIdx.toNat = n)
    (hlog : wordBit pre t = true → 8 * n + 2 * t + 1 < logEfuseSize)
    (hsize : base + 2 * wordsBelow pre 4 ≤ efuseSize) :
    parseWord efuseSize logEfuseSize cfg phyMap blkIdx (pre ^^^ 0x0F) t
        (base + 2 * wordsBelow pre t) (wordsDone n pre t (entryValue cfg phyMap base pre) log) =
      some (base + 2 * wordsBelow pre (t + 1),
        wordsDone n pre (t + 1) (entryValue cfg phyMap base pre) log) := by
  unfold parseWord
  by_cases hbit : wordBit pre t = true
  · have hmono := wordsBelow_mono pre (show t + 1 ≤ 4 by omega)
    have hsucc := wordsBelow_succ_of_bit hbit
    have hoff : (blkIdx.toNat <<< 3) + (t <<< 1) = 8 * n + 2 * t := by
      rw [Nat.shiftLeft_eq, Nat.shiftLeft_eq, hblk]
      omega
    have hfirst : entryValue cfg phyMap base pre (8 * n + 2 * t) =
        cfg.value (phyMap (base + 2 * wordsBelow pre t)) := by
      unfold entryValue wordPos
      rw [show (8 * n + 2 * t) % 8 = 2 * t by omega, Nat.mul_div_cancel_left t Nat.two_pos,
        Nat.mul_mod_right, Nat.add_zero]
    have hsecond : entryValue cfg phyMap base pre (8 * n + 2 * t + 1) =
        cfg.value (phyMap (base + 2 * wordsBelow pre t + 1)) := by
      unfold entryValue wordPos
      rw [show (8 * n + 2 * t + 1) % 8 = 2 * t + 1 by omega,
        show (2 * t + 1) / 2 = t by omega, show (2 * t + 1) % 2 = 1 by omega, Nat.add_assoc]
    have hin := hlog hbit
    dsimp only
    rw [if_pos ((valid_iff ht pre).2 hbit), hoff, if_neg (by omega), if_neg (by omega),
      if_neg (by omega), wordsDone_succ_of_bit ht hbit, hfirst, hsecond, hsucc, Nat.mul_add,
      Nat.add_assoc]
  · dsimp only
    rw [if_neg fun h => hbit ((valid_iff ht pre).1 h), wordsDone_succ_of_not hbit, wordsBelow,
      if_neg hbit, Nat.add_zero]

lemma parseWords_fill (hblk : blkIdx.toNat = n) (hpos : 0 < pre.toNat) (hlt : pre.toNat < 16)
    (hlog : ∀ t < 4, wordBit pre t = true → 8 * n + 2 * t + 1 < logEfuseSize)
    (hsize : base + 2 * wordsBelow pre 4 ≤ efuseSize) :
    parseWords efuseSize logEfuseSize cfg phyMap blkIdx (pre ^^^ 0x0F) base log =
      some (base + 2 * wordsBelow pre 4,
        writeBlock n pre (entryValue cfg phyMap base pre) log) := by
  have hwords := wordsBelow_pos hpos hlt
  have hword : ∀ t < 4, parseWord efuseSize logEfuseSize cfg phyMap blkIdx (pre ^^^ 0x0F) t
      (base + 2 * wordsBelow pre t) (wordsDone n pre t (entryValue cfg phyMap base pre) log) =
      some (base + 2 * wordsBelow pre (t + 1),
        wordsDone n pre (t + 1) (entryValue cfg phyMap base pre) log) :=
    fun t ht => parseWord_fill ht hblk (hlog t ht) hsize
  have h0 := hword 0 (by omega)
  have h3 := hword 3 (by omega)
  rw [wordsDone_zero] at h0
  rw [wordsDone_four] at h3
  exact parseWords_eq_some_iff.2
    ⟨by omega, _, _, _, h0, hword 1 (by omega), hword 2 (by omega), h3⟩

end Fill

section Header

variable {isBt : Bool} {efuseSize logEfuseSize n idx : ℕ} {cfg : ParserCfg}
  {phyMap log : ℕ → UInt8} {pre : UInt8}

def hdrLen (isBt : Bool) (n : ℕ) : ℕ := if isBt = true ∧ n < 16 then 1 else 2

def blkCount (isBt : Bool) : ℕ := if isBt then 128 else 256

/-- The parser takes the bytes for the header of block `n` with the words `pre`. -/
def hdrReads (isBt : Bool) (n : ℕ) (pre : UInt8) : List UInt8 → Bool
  | [hdr] => isBt ∧ hdr ≠ 0xFF ∧ hdr &&& 0x0F ≠ 0x0F ∧ (hdr &&& 0xF0) >>> 4 = UInt8.ofNat n ∧
      hdr &&& 0x0F = pre ^^^ 0x0F ∧ n < 16
  | [hdr, hdr2] => hdr ≠ 0xFF ∧ hdr2 ≠ 0xFF ∧ ¬(isBt = true ∧ hdr &&& 0x0F ≠ 0x0F) ∧
      (if isBt then (((hdr2 &&& 0xF0) >>> 4) <<< 3) + (((hdr &&& 0xF0) >>> 4) >>> 1)
        else ((hdr2 &&& 0xF0) >>> 4) ||| ((hdr &&& 0x0F) <<< 4)) = UInt8.ofNat n ∧
      hdr2 &&& 0x0F = pre ^^^ 0x0F ∧ ¬(isBt = true ∧ n < 16)
  | _ => false

-- A header byte made of a block nibble and the complement of the words.
lemma nibbles_of_add : ∀ l p : Fin 16, 0 < p →
    (UInt8.ofNat l <<< 4) + (UInt8.ofNat p ^^^ 0x0F) ≠ 0xFF ∧
      (((UInt8.ofNat l <<< 4) + (UInt8.ofNat p ^^^ 0x0F)) &&& 0xF0) >>> 4 = UInt8.ofNat l ∧
      ((UInt8.ofNat l <<< 4) + (UInt8.ofNat p ^^^ 0x0F)) &&& 0x0F = UInt8.ofNat p ^^^ 0x0F ∧
      UInt8.ofNat p ^^^ 0x0F ≠ 0x0F := by
  decide

lemma nibbles_of_hdr {l : ℕ} (hl : l < 16) (hpos : 0 < pre.toNat) (hlt : pre.toNat < 16) :
    (UInt8.ofNat l <<< 4) + (pre ^^^ 0x0F) ≠ 0xFF ∧
      (((UInt8.ofNat l <<< 4) + (pre ^^^ 0x0F)) &&& 0xF0) >>> 4 = UInt8.ofNat l ∧
      ((UInt8.ofNat l <<< 4) + (pre ^^^ 0x0F)) &&& 0x0F = pre ^^^ 0x0F ∧ pre ^^^ 0x0F ≠ 0x0F := by
  have h := nibbles_of_add ⟨l, hl⟩ ⟨pre.toNat, hlt⟩ hpos
  rwa [UInt8.ofNat_toNat] at h

set_option maxRecDepth 20000 in
lemma blk_of_wifi_hdr : ∀ n < 256,
    ((UInt8.ofNat n &&& 0xF0) >>> 4) ||| 0x30 ≠ 0xFF ∧
      UInt8.ofNat n &&& 0x0F = UInt8.ofNat (n % 16) ∧
      UInt8.ofNat (n % 16) |||
        (((((UInt8.ofNat n &&& 0xF0) >>> 4) ||| 0x30) &&& 0x0F) <<< 4) = UInt8.ofNat n := by
  decide

lemma blk_of_bt_hdr : ∀ n < 128,
    (UInt8.ofNat ((n &&& 7) <<< 1) <<< 4) ||| 0x0F ≠ 0xFF ∧
      ((UInt8.ofNat ((n &&& 7) <<< 1) <<< 4) ||| 0x0F) &&& 0x0F = (0x0F : UInt8) ∧
      (UInt8.ofNat (n >>> 3) <<< 3) +
        (((((UInt8.ofNat ((n &&& 7) <<< 1) <<< 4) ||| 0x0F) &&& 0xF0) >>> 4) >>> 1) =
        UInt8.ofNat n := by
  decide

lemma hdrReads_pgEfuseHdr (hn : n < blkCount isBt) (hpos : 0 < pre.toNat)
    (hlt : pre.toNat < 16) :
    hdrReads isBt n pre (pgEfuseHdr isBt (8 * n) (pre ^^^ 0x0F)) = true := by
  have hblk : (8 * n) >>> 3 = n := by
    rw [Nat.shiftRight_eq_div_pow]
    omega
  unfold pgEfuseHdr
  dsimp only
  rw [hblk]
  cases isBt with
  | false =>
    obtain ⟨hff, hlow, hdec⟩ := blk_of_wifi_hdr n hn
    obtain ⟨hff2, hhigh, hword, -⟩ := nibbles_of_hdr (Nat.mod_lt n (by decide : 0 < 16)) hpos hlt
    simp only [hdrReads, decide_eq_true_eq, Bool.false_eq_true, if_false, false_and,
      not_false_eq_true, and_true, true_and]
    rw [hlow, hhigh]
    exact ⟨hff, hff2, hdec, hword⟩
  | true =>
    by_cases hone : n < 16
    · obtain ⟨hff, hhigh, hword, hne⟩ := nibbles_of_hdr hone hpos hlt
      rw [if_pos rfl, if_pos (by unfold bt1bEntrySize; omega)]
      simp only [hdrReads, decide_eq_true_eq, true_and]
      rw [hhigh, hword]
      exact ⟨hff, hne, rfl, rfl, hone⟩
    · obtain ⟨hff, hlow, hdec⟩ := blk_of_bt_hdr n hn
      have hlarge : n >>> 3 < 16 := by
        rw [Nat.shiftRight_eq_div_pow]
        have hbound : n < 128 := hn
        omega
      obtain ⟨hff2, hhigh, hword, -⟩ := nibbles_of_hdr hlarge hpos hlt
      rw [if_pos rfl, if_neg (by unfold bt1bEntrySize; omega)]
      simp only [hdrReads, decide_eq_true_eq, true_and, if_true]
      rw [hhigh]
      exact ⟨hff, hff2, fun h => h hlow, hdec, hword, hone⟩

lemma blkCount_le : blkCount isBt ≤ 256 := by
  cases isBt <;> decide

variable {hdr : List UInt8}

lemma length_of_hdrReads (h : hdrReads isBt n pre hdr = true) :
    hdr.length = hdrLen isBt n := by
  match hdr, h with
  | [_], h =>
    simp only [hdrReads, decide_eq_true_eq] at h
    exact (if_pos ⟨h.1, h.2.2.2.2.2⟩).symm
  | [_, _], h =>
    simp only [hdrReads, decide_eq_true_eq] at h
    exact (if_neg h.2.2.2.2.2).symm

lemma readEntry_of_hdr (hreads : hdrReads isBt n pre hdr = true)
    (hhdr : ∀ k < hdr.length, phyMap (idx + k) = hdr.getD k 0) (hn : n < blkCount isBt)
    (hpos : 0 < pre.toNat) (hlt : pre.toNat < 16)
    (hlog : ∀ t < 4, wordBit pre t = true → 8 * n + 2 * t + 1 < logEfuseSize)
    (hsize : idx + hdr.length + 2 * wordsBelow pre 4 ≤ efuseSize) :
    readEntry isBt efuseSize logEfuseSize cfg phyMap idx log =
      some (idx + hdr.length + 2 * wordsBelow pre 4,
        writeBlock n pre (entryValue cfg phyMap (idx + hdr.length) pre) log) := by
  have hblk : (UInt8.ofNat n).toNat = n :=
    UInt8.toNat_ofNat_of_lt' (Nat.lt_of_lt_of_le hn blkCount_le)
  unfold readEntry
  match hdr, hreads with
  | [hdr], hreads =>
    simp only [hdrReads, decide_eq_true_eq] at hreads
    obtain ⟨hbt, hff, hone, hidx, hword, -⟩ := hreads
    have hbyte : phyMap idx = hdr := hhdr 0 (by simp)
    rw [List.length_singleton] at hsize ⊢
    rw [if_neg (by omega), hbyte, if_neg hff, if_pos ⟨hbt, hone⟩, hidx, hword]
    exact parseWords_fill hblk hpos hlt hlog hsize
  | [hdr, hdr2], hreads =>
    simp only [hdrReads, decide_eq_true_eq] at hreads
    obtain ⟨hff, hff2, htwo, hidx, hword, -⟩ := hreads
    have hbyte : phyMap idx = hdr := hhdr 0 (by simp)
    have hbyte2 : phyMap (idx + 1) = hdr2 := hhdr 1 (by simp)
    have hlen : [hdr, hdr2].length = 2 := rfl
    rw [hlen] at hsize ⊢
    rw [if_neg (by omega), hbyte, hbyte2, if_neg hff, if_neg htwo, if_neg hff2, hidx, hword]
    exact parseWords_fill hblk hpos hlt hlog hsize

end Header

end Efuse

end Rtl8831.Mac
