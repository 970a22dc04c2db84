import Rtl8831.Mac.EfuseRun

/-!
# The checksum of the logical map

`mac_checksum_update` stores the exclusive or of the words of the map, its own
word left out, with two entries of that word; `mac_checksum_rpt` compares it.
-/

namespace Rtl8831.Mac

namespace Efuse

def chksumOffset1 : ℕ := 0x1AC
def chksumOffset2 : ℕ := 0x1AD

/-- Word `k` of a map as the code loads it. -/
def leWord (map : ℕ → UInt8) (k : ℕ) : UInt16 :=
  UInt16.ofNat ((map (2 * k)).toNat + 256 * (map (2 * k + 1)).toNat)

def calCheckSum (hw : HwInfo) (map : ℕ → UInt8) : UInt16 :=
  (List.range (hw.logEfuseSize >>> 2)).foldl
    (fun chksum i =>
      if i = chksumOffset1 >>> 2 then chksum ^^^ (0x0000 ^^^ leWord map (2 * i + 1))
      else chksum ^^^ (leWord map (2 * i) ^^^ leWord map (2 * i + 1)))
    0x0000

/-- A return code of `mac_checksum_rpt`. -/
inductive ChkRet
  | ret (r : Ret)
  | chksumEmpty
  | chksumFail
  deriving DecidableEq

section Bank

variable (hw : HwInfo) (cells : Cells) (ans : Answers) (s : BankState)

/-- `mac_dump_log_efuse` on the bank.  The dump of the firmware leaves the same
copy of the physical map as that of the driver. -/
def dumpLogEfuse : Ret × BankState :=
  if s.logMapValid then (.success, s)
  else
    match readPhyMap hw .wifi ans s with
    | (.success, s) =>
      if s.phyMapValid then
        if ans.alloc .map = false then (.bufAlloc, s)
        else
          match eepromParser hw .wifi .map s.phyMap with
          | none => (.efuseParse, s)
          | some (efuseEnd, map) =>
            (.success, { s with logMap := map, logMapValid := true, efuseEnd := efuseEnd })
      else (.success, s)
    | (ret, s) => (ret, s)

/-- A turn of the loop of `set_check_sum_val`. -/
def setCheckSumEntry (map : ℕ → UInt8) (value : UInt16) (offset : ℕ) (value8 : UInt8)
    (efuseEnd : ℕ) : Ret × BankState :=
  let word :=
    if offset &&& 1 = 0 then [value8, map (offset + 1)] else [(value &&& 0xFF).toUInt8, value8]
  if hw.phyMapSize .wifi ≤ 4 + efuseEnd then (.efuseSize, s)
  else
    match s.writeBytes cells efuseEnd (logEfuseHdr false offset ++ word) with
    | (true, s) => (.success, s)
    | (false, s) => (.efuseWrite, s)

/-- `set_check_sum_val`; `efuse_end` is left as it is. -/
def setCheckSumVal (map : ℕ → UInt8) (value : UInt16) : Ret × BankState :=
  match setCheckSumEntry hw cells s map value chksumOffset1 (value &&& 0xFF).toUInt8 s.efuseEnd with
  | (.success, s') =>
    setCheckSumEntry hw cells s' map value chksumOffset2 ((value &&& 0xFF00) >>> 8).toUInt8
      (s.efuseEnd + 4)
  | (ret, s') => (ret, s')

end Bank

/-- The answers during `mac_checksum_rpt`: its two buffers and its two reads. -/
structure RptAnswers where
  malloc : Bool
  readWord : Answers
  mallocMap : Bool
  readMap : Answers

namespace Adapter

variable (hw : HwInfo) (cells : Cells) (a : Adapter)

def macDumpLogEfuse (ans : Answers) : Ret × Adapter × (ℕ → UInt8) :=
  match a.inState .wifi .logMap ans none (dumpLogEfuse hw ans) with
  | (ret, a) => (ret, a, a.wifi.logMap)

/-- `mac_read_log_efuse`; the bytes handed back are those of the copy. -/
def macReadLogEfuse (ans : Answers) (addr size : ℕ) : Ret × Adapter × (ℕ → UInt8) :=
  match a.inState .wifi .logMap ans
      (if hw.logEfuseSize ≤ addr ∨ hw.logEfuseSize < addr + size then some .efuseSize else none)
      fun s => if ans.alloc .map = false then (.bufAlloc, s) else readLogEfuseMap hw .wifi ans s with
  | (ret, a) => (ret, a, fun k => a.wifi.logMap (addr + k))

def macChecksumUpdate (malloc : Bool) (ans : Answers) : Ret × Adapter :=
  if malloc = false then (.bufAlloc, a)
  else
    match a.macDumpLogEfuse hw ans with
    | (.success, a, map) =>
      match setCheckSumVal hw cells a.wifi map (calCheckSum hw a.wifi.logMap) with
      | (ret, s) => (ret, { a with wifi := s })
    | (ret, a, _) => (ret, a)

/-- `mac_checksum_rpt`: the code, what `*chksum` is set to, if it is, and the state. -/
def macChecksumRpt (ans : RptAnswers) : ChkRet × Option UInt16 × Adapter :=
  if ans.malloc = false then (.ret .bufAlloc, none, a)
  else
    match a.macReadLogEfuse hw ans.readWord chksumOffset1 2 with
    | (.success, a, val) =>
      let realChksum := leWord val 0
      if realChksum = 0xFFFF then (.chksumEmpty, none, a)
      else if ans.mallocMap = false then (.ret .bufAlloc, none, a)
      else
        match a.macReadLogEfuse hw ans.readMap 0 hw.logEfuseSize with
        | (.success, a, _) =>
          let chksum := calCheckSum hw a.wifi.logMap
          (if chksum ≠ realChksum then .chksumFail else .ret .success, some chksum, a)
        | (ret, a, _) => (.ret ret, none, a)
    | (ret, a, _) => (.ret ret, none, a)

end Adapter

section Words

variable {map map' : ℕ → UInt8} {k n : ℕ}

lemma leWord_toNat (map : ℕ → UInt8) (k : ℕ) :
    (leWord map k).toNat = (map (2 * k)).toNat + 256 * (map (2 * k + 1)).toNat := by
  have hlow := (map (2 * k)).toNat_lt
  have hhigh := (map (2 * k + 1)).toNat_lt
  rw [leWord, UInt16.toNat_ofNat']
  exact Nat.mod_eq_of_lt (by omega)

lemma leWord_eq_iff (v : UInt16) :
    leWord map k = v ↔ map (2 * k) = (v &&& 0xFF).toUInt8 ∧
      map (2 * k + 1) = ((v &&& 0xFF00) >>> 8).toUInt8 := by
  have hlow := (map (2 * k)).toNat_lt
  have hv := v.toNat_lt
  have hvLow : ((v &&& 0xFF).toUInt8).toNat = v.toNat % 256 := by
    have hmask : (0xFF : UInt16).toNat = 2 ^ 8 - 1 := rfl
    rw [UInt16.toNat_toUInt8, UInt16.toNat_and, hmask, Nat.and_two_pow_sub_one_eq_mod]
    omega
  have hvHigh : (((v &&& 0xFF00) >>> 8).toUInt8).toNat = v.toNat / 256 := by
    have hmask : (0xFF00 : UInt16).toNat >>> 8 = 2 ^ 8 - 1 := by decide
    have hshift : (8 : UInt16).toNat % 16 = 8 := rfl
    rw [UInt16.toNat_toUInt8, UInt16.toNat_shiftRight, hshift, UInt16.toNat_and,
      Nat.shiftRight_and_distrib, hmask, Nat.and_two_pow_sub_one_eq_mod, Nat.shiftRight_eq_div_pow]
    omega
  rw [← UInt16.toNat_inj, ← UInt8.toNat_inj, ← UInt8.toNat_inj, leWord_toNat, hvLow, hvHigh]
  omega

lemma leWord_congr (h : ∀ o, o / 2 = k → map o = map' o) : leWord map k = leWord map' k := by
  rw [leWord, leWord, h (2 * k) (by omega), h (2 * k + 1) (by omega)]

def chksumWord : ℕ := 0xD6

/-- The exclusive or of the first `n` words but that of the checksum. -/
def xorWords (map : ℕ → UInt8) : ℕ → UInt16
  | 0 => 0
  | n + 1 => xorWords map n ^^^ (if n = chksumWord then 0 else leWord map n)

lemma xorWords_congr (h : ∀ j < n, j ≠ chksumWord → leWord map j = leWord map' j) :
    xorWords map n = xorWords map' n := by
  induction n with
  | zero => rfl
  | succ n ih =>
    rw [xorWords, xorWords, ih fun j hj => h j (Nat.lt_succ_of_lt hj)]
    by_cases hn : n = chksumWord
    · rw [if_pos hn, if_pos hn]
    · rw [if_neg hn, if_neg hn, h n (Nat.lt_succ_self n) hn]

lemma leWord_eq_of_xorWords_eq (hk : k < n) (hck : k ≠ chksumWord)
    (h : ∀ j, j ≠ k → leWord map j = leWord map' j) (heq : xorWords map n = xorWords map' n) :
    leWord map k = leWord map' k := by
  induction n with
  | zero => exact absurd hk (Nat.not_lt_zero k)
  | succ n ih =>
    rw [xorWords, xorWords] at heq
    by_cases hlast : k = n
    · subst hlast
      have hbelow : xorWords map k = xorWords map' k :=
        xorWords_congr fun j hj _ => h j (Nat.ne_of_lt hj)
      rw [hbelow, if_neg hck, if_neg hck] at heq
      exact (UInt16.xor_right_inj _).1 heq
    · refine ih (by omega) ?_
      have hsame : (if n = chksumWord then 0 else leWord map n) =
          if n = chksumWord then 0 else leWord map' n := by
        rw [h n fun hn => hlast hn.symm]
      rw [hsame] at heq
      exact (UInt16.xor_left_inj _).1 heq

lemma calCheckSum_eq (hw : HwInfo) (hline : hw.logEfuseSize % 4 = 0) (map : ℕ → UInt8) :
    calCheckSum hw map = xorWords map (hw.logEfuseSize / 2) := by
  have hloop : ∀ n, (List.range n).foldl
      (fun chksum i =>
        if i = chksumOffset1 >>> 2 then chksum ^^^ (0x0000 ^^^ leWord map (2 * i + 1))
        else chksum ^^^ (leWord map (2 * i) ^^^ leWord map (2 * i + 1))) (0x0000 : UInt16) =
      xorWords map (2 * n) := by
    intro n
    induction n with
    | zero => rfl
    | succ n ih =>
      have hodd : ¬2 * n + 1 = chksumWord := by
        unfold chksumWord
        omega
      have heven : 2 * n = chksumWord ↔ n = chksumOffset1 >>> 2 := by
        have hoff : chksumOffset1 >>> 2 = 107 := rfl
        rw [hoff]
        unfold chksumWord
        omega
      rw [List.range_succ, List.foldl_append, ih, List.foldl_cons, List.foldl_nil,
        show 2 * (n + 1) = 2 * n + 1 + 1 by omega, xorWords, xorWords, if_neg hodd]
      by_cases hn : n = chksumOffset1 >>> 2
      · rw [if_pos hn, if_pos (heven.2 hn), UInt16.xor_zero, UInt16.zero_xor]
      · rw [if_neg hn, if_neg (mt heven.1 hn), UInt16.xor_assoc]
  have hhalf : 2 * (hw.logEfuseSize >>> 2) = hw.logEfuseSize / 2 := by
    rw [Nat.shiftRight_eq_div_pow]
    omega
  rw [calCheckSum, hloop, hhalf]

end Words

section Store

variable {hw : HwInfo} {cells : Cells} {ans : Answers} {s : BankState} {e : ℕ}
  {log map : ℕ → UInt8}

structure HasChksum (hw : HwInfo) : Prop where
  line : hw.logEfuseSize % 4 = 0
  lt : chksumOffset2 < hw.logEfuseSize

lemma mac8851b_hasChksum : HasChksum mac8851b := ⟨by decide, by decide⟩

/-- `log` with the two bytes of the checksum replaced. -/
def withChksum (log : ℕ → UInt8) (lo hi : UInt8) (o : ℕ) : UInt8 :=
  if o = chksumOffset1 then lo else if o = chksumOffset2 then hi else log o

lemma withChksum_of_ne {lo hi : UInt8} {o : ℕ} (h : o / 2 ≠ chksumWord) :
    withChksum log lo hi o = log o := by
  unfold withChksum chksumOffset1 chksumOffset2
  unfold chksumWord at h
  rw [if_neg (by omega), if_neg (by omega)]

lemma leWord_withChksum (log : ℕ → UInt8) (v : UInt16) :
    leWord (withChksum log (v &&& 0xFF).toUInt8 ((v &&& 0xFF00) >>> 8).toUInt8) chksumWord = v :=
  (leWord_eq_iff v).2 ⟨rfl, rfl⟩

lemma Programmed.writeChksum (h : Programmed hw .wifi s e log) (hcut : s.cut = none)
    (hchk : HasChksum hw) (hroom : ¬hw.phyMapSize .wifi ≤ 4 + e) (cells : Cells) {offset : ℕ}
    (hoff : offset / 2 = chksumWord) (lo hi : UInt8) :
    ∃ s', s.writeBytes cells e (logEfuseHdr false offset ++ [lo, hi]) = (true, s') ∧
      s'.cut = none ∧ Programmed hw .wifi s' (e + 4) (withChksum log lo hi) := by
  have hlt : offset < hw.logMapSize .wifi := by
    have hin := hchk.lt
    unfold chksumOffset2 at hin
    unfold chksumWord at hoff
    change offset < hw.logEfuseSize
    omega
  obtain ⟨hlen, -, hentry⟩ := h.byteEntry hlt (rfl : [lo, hi].length = 2) hroom
  rw [isBt_wifi] at hlen hentry
  have hhdr : hdrLen false (offset / 8) = 2 := rfl
  rw [hhdr] at hlen hentry
  have hnil : logEfuseHdr false offset ++ [lo, hi] ≠ [] := by
    intro hnil
    rw [hnil] at hlen
    cases hlen
  have hfull := hentry 4 (by rw [hcut, hlen]; rfl) (by omega)
  refine ⟨burn s e (logEfuseHdr false offset ++ [lo, hi]), ?_, ?_, ?_⟩
  · rw [h.writeBytes hnil, hcut]
    rfl
  · unfold burn
    rw [hcut]
    rfl
  · rw [hlen] at hfull
    have hlog : (fun o => if o / 2 = offset / 2 then
        (if 2 + o % 2 < 4 then [lo, hi].getD (o % 2) 0xFF else 0xFF) else log o) =
        withChksum log lo hi := by
      funext o
      by_cases ho : o / 2 = chksumWord
      · rw [if_pos (ho.trans hoff.symm), if_pos (by omega)]
        unfold chksumWord at ho
        unfold withChksum chksumOffset1 chksumOffset2
        rcases (by omega : o = 0x1AC ∨ o = 0x1AD) with rfl | rfl
        · rfl
        · rfl
      · rw [if_neg (by rwa [hoff]), withChksum_of_ne ho]
    rw [hlog] at hfull
    exact hfull

lemma setCheckSumEntry_first {s' : BankState} {value8 : UInt8}
    (hroom : ¬hw.phyMapSize .wifi ≤ 4 + e) (value : UInt16)
    (h : s.writeBytes cells e (logEfuseHdr false chksumOffset1 ++ [value8, map chksumOffset2]) =
      (true, s')) :
    setCheckSumEntry hw cells s map value chksumOffset1 value8 e = (.success, s') := by
  have heven : chksumOffset1 &&& 1 = 0 := rfl
  have hnext : chksumOffset1 + 1 = chksumOffset2 := rfl
  rw [setCheckSumEntry, if_neg hroom, if_pos heven, hnext, h]

lemma Programmed.setCheckSumVal (h : Programmed hw .wifi s e log) (cells : Cells)
    (map : ℕ → UInt8) (hcut : s.cut = none)
    (hchk : HasChksum hw) (hend : s.efuseEnd = e) (value : UInt16)
    (hroom : e + 8 < hw.efuseSize) :
    ∃ s', Efuse.setCheckSumVal hw cells s map value = (.success, s') ∧
      Programmed hw .wifi s' (e + 8)
        (withChksum log (value &&& 0xFF).toUInt8 ((value &&& 0xFF00) >>> 8).toUInt8) := by
  have hfirst : ¬hw.phyMapSize .wifi ≤ 4 + e := Nat.not_le_of_lt (by
    change 4 + e < hw.efuseSize
    omega)
  have hsecond : ¬hw.phyMapSize .wifi ≤ 4 + (e + 4) := Nat.not_le_of_lt (by
    change 4 + (e + 4) < hw.efuseSize
    omega)
  obtain ⟨s₁, hwrite₁, hcut₁, hprog₁⟩ := h.writeChksum hcut hchk hfirst cells
    (rfl : chksumOffset1 / 2 = chksumWord) (value &&& 0xFF).toUInt8 (map chksumOffset2)
  obtain ⟨s₂, hwrite₂, -, hprog₂⟩ := hprog₁.writeChksum hcut₁ hchk hsecond cells
    (rfl : chksumOffset2 / 2 = chksumWord) (value &&& 0xFF).toUInt8 ((value &&& 0xFF00) >>> 8).toUInt8
  have hentry₁ := setCheckSumEntry_first hfirst value hwrite₁
  have hentry₂ : setCheckSumEntry hw cells s₁ map value chksumOffset2
      ((value &&& 0xFF00) >>> 8).toUInt8 (e + 4) = (.success, s₂) := by
    rw [setCheckSumEntry, if_neg hsecond, if_neg (by decide), hwrite₂]
  refine ⟨s₂, ?_, ?_⟩
  · rw [Efuse.setCheckSumVal, hend, hentry₁]
    exact hentry₂
  · have hlog : withChksum (withChksum log (value &&& 0xFF).toUInt8 (map chksumOffset2))
        (value &&& 0xFF).toUInt8 ((value &&& 0xFF00) >>> 8).toUInt8 =
        withChksum log (value &&& 0xFF).toUInt8 ((value &&& 0xFF00) >>> 8).toUInt8 := by
      funext o
      unfold withChksum
      split
      · rfl
      split <;> rfl
    rw [hlog] at hprog₂
    exact hprog₂

lemma Programmed.setCheckSumVal_half (h : Programmed hw .wifi s e log) (cells : Cells)
    (map : ℕ → UInt8) (hcut : s.cut = none)
    (hchk : HasChksum hw) (hend : s.efuseEnd = e) (hmap : map chksumOffset2 = log chksumOffset2)
    (value : UInt16) (hroom : e + 4 < hw.efuseSize) (hfull : hw.efuseSize ≤ e + 8) :
    ∃ s', Efuse.setCheckSumVal hw cells s map value = (.efuseSize, s') ∧
      Programmed hw .wifi s' (e + 4)
        (withChksum log (value &&& 0xFF).toUInt8 (log chksumOffset2)) := by
  have hfirst : ¬hw.phyMapSize .wifi ≤ 4 + e := Nat.not_le_of_lt (by
    change 4 + e < hw.efuseSize
    omega)
  have hsecond : hw.phyMapSize .wifi ≤ 4 + (e + 4) := by
    change hw.efuseSize ≤ 4 + (e + 4)
    omega
  obtain ⟨s₁, hwrite₁, hcut₁, hprog₁⟩ := h.writeChksum hcut hchk hfirst cells
    (rfl : chksumOffset1 / 2 = chksumWord) (value &&& 0xFF).toUInt8 (map chksumOffset2)
  have hentry₁ := setCheckSumEntry_first hfirst value hwrite₁
  refine ⟨s₁, ?_, ?_⟩
  · rw [Efuse.setCheckSumVal, hend, hentry₁]
    dsimp only
    rw [setCheckSumEntry, if_pos hsecond]
  · rw [hmap] at hprog₁
    exact hprog₁

lemma setCheckSumVal_full (hend : s.efuseEnd = e) (value : UInt16) (hfull : hw.efuseSize ≤ e + 4) :
    setCheckSumVal hw cells s map value = (.efuseSize, s) := by
  have hfirst : hw.phyMapSize .wifi ≤ 4 + e := by
    change hw.efuseSize ≤ 4 + e
    omega
  have hentry : setCheckSumEntry hw cells s map value chksumOffset1 (value &&& 0xFF).toUInt8 e =
      (.efuseSize, s) := by
    rw [setCheckSumEntry, if_pos hfirst]
  rw [setCheckSumVal, hend, hentry]

end Store

section RoundTrip

variable {hw : HwInfo} {cells : Cells} {ans : Answers} {a : Adapter} {s : BankState} {e : ℕ}
  {log : ℕ → UInt8}

structure RptAnswers.Fine (ans : RptAnswers) : Prop where
  malloc : ans.malloc = true
  readWord : ans.readWord.Fine
  mallocMap : ans.mallocMap = true
  readMap : ans.readMap.Fine

lemma Programmed.readLogEfuseMap_of_fine (h : Programmed hw .wifi s e log) (hans : ans.Fine)
    (hcut : s.cut = none) :
    ∃ s', Efuse.readLogEfuseMap hw .wifi ans s = (.success, s') ∧
      Programmed hw .wifi s' e log ∧ s'.cut = none ∧ s'.logMap = log ∧ s'.efuseEnd = e := by
  obtain ⟨hprog, hsame, hvalid⟩ := h.readLogEfuseMap ans
  have hret : (Efuse.readLogEfuseMap hw .wifi ans s).1 = .success := by
    unfold Efuse.readLogEfuseMap
    split
    · rfl
    obtain ⟨hphy, -, hcopy⟩ := h.readPhyMap ans
    have hread := readPhyMap_of_fine hw hans s
    match hres : Efuse.readPhyMap hw .wifi ans s with
    | (ret, s') =>
      rw [hres] at hphy hcopy hread
      cases hread
      dsimp only
      rw [hphy.parse_phyMap (hcopy rfl)]
  obtain ⟨-, hlog, hend⟩ := hprog.logMap (hvalid hret)
  exact ⟨_, Prod.ext hret rfl, hprog, hsame.cut.trans hcut, hlog, hend⟩

lemma Programmed.dumpLogEfuse_of_fine (h : Programmed hw .wifi s e log) (hans : ans.Fine) :
    dumpLogEfuse hw ans s = Efuse.readLogEfuseMap hw .wifi ans s := by
  unfold dumpLogEfuse Efuse.readLogEfuseMap
  split
  · rfl
  obtain ⟨-, -, hcopy⟩ := h.readPhyMap ans
  have hread := readPhyMap_of_fine hw hans s
  match hres : Efuse.readPhyMap hw .wifi ans s with
  | (ret, s') =>
    rw [hres] at hcopy hread
    cases hread
    have halloc : ¬ans.alloc .map = false := by
      rw [hans.alloc]
      exact nofun
    exact (if_pos (hcopy rfl)).trans (if_neg halloc)

lemma Programmed.macReadLogEfuse (h : Programmed hw .wifi a.wifi e log) (ha : a.sm = .idle)
    (hans : ans.Fine) (addr size : ℕ)
    (hin : ¬(hw.logEfuseSize ≤ addr ∨ hw.logEfuseSize < addr + size)) :
    ∃ b, a.macReadLogEfuse hw ans addr size = (.success, b, fun k => log (addr + k)) ∧
      b.sm = .idle ∧ Programmed hw .wifi b.wifi e log ∧ b.wifi.logMap = log := by
  obtain ⟨s, hread, hprog, -, hlog, -⟩ :=
    (h.setCut none).readLogEfuseMap_of_fine hans rfl
  refine ⟨{ a with wifi := s }, ?_, ha, hprog, hlog⟩
  rw [Adapter.macReadLogEfuse, if_neg hin, inState_of_fine hans ha (nofun : EfuseState.logMap ≠ .idle),
    hans.alloc, if_neg nofun, hread]
  dsimp only
  rw [hlog]

lemma Programmed.macDumpLogEfuse (h : Programmed hw .wifi a.wifi e log) (ha : a.sm = .idle)
    (hans : ans.Fine) :
    ∃ b, a.macDumpLogEfuse hw ans = (.success, b, log) ∧ b.sm = .idle ∧
      Programmed hw .wifi b.wifi e log ∧ b.wifi.cut = none ∧ b.wifi.logMap = log ∧
      b.wifi.efuseEnd = e := by
  have hcut := h.setCut none
  obtain ⟨s, hread, hprog, hnone, hlog, hend⟩ := hcut.readLogEfuseMap_of_fine hans rfl
  refine ⟨{ a with wifi := s }, ?_, ha, hprog, hnone, hlog, hend⟩
  rw [Adapter.macDumpLogEfuse, inState_of_fine hans ha (nofun : EfuseState.logMap ≠ .idle),
    hcut.dumpLogEfuse_of_fine hans, hread]
  dsimp only
  rw [hlog]

def report (hw : HwInfo) (log : ℕ → UInt8) : ChkRet × Option UInt16 :=
  if leWord log chksumWord = 0xFFFF then (.chksumEmpty, none)
  else (if xorWords log (hw.logEfuseSize / 2) ≠ leWord log chksumWord then .chksumFail
    else .ret .success, some (xorWords log (hw.logEfuseSize / 2)))

lemma Programmed.macChecksumRpt (h : Programmed hw .wifi a.wifi e log) (ha : a.sm = .idle)
    (hchk : HasChksum hw) {ans : RptAnswers} (hans : ans.Fine) :
    ∃ b, a.macChecksumRpt hw ans = ((report hw log).1, (report hw log).2, b) := by
  have hlt := hchk.lt
  unfold chksumOffset2 at hlt
  obtain ⟨b, hword, hb, hprog, -⟩ := h.macReadLogEfuse ha hans.readWord chksumOffset1 2
    (by unfold chksumOffset1; omega)
  obtain ⟨c, hmap, -, -, hcopy⟩ := hprog.macReadLogEfuse hb hans.readMap 0 hw.logEfuseSize
    (by omega)
  have hreal : leWord (fun k => log (chksumOffset1 + k)) 0 = leWord log chksumWord := rfl
  rw [Adapter.macChecksumRpt, hans.malloc, if_neg nofun, hword]
  dsimp only
  rw [hreal, report]
  by_cases hempty : leWord log chksumWord = 0xFFFF
  · refine ⟨b, ?_⟩
    rw [if_pos hempty, if_pos hempty]
  · refine ⟨c, ?_⟩
    rw [if_neg hempty, if_neg hempty, hans.mallocMap, if_neg nofun, hmap]
    dsimp only
    rw [hcopy, calCheckSum_eq hw hchk.line]

lemma Programmed.macChecksumUpdate (h : Programmed hw .wifi a.wifi e log) (ha : a.sm = .idle)
    (hchk : HasChksum hw) (hans : ans.Fine) (cells : Cells) :
    let value := xorWords log (hw.logEfuseSize / 2)
    let r := a.macChecksumUpdate hw cells true ans
    r.2.sm = .idle ∧
      (e + 8 < hw.efuseSize → r.1 = .success ∧ Programmed hw .wifi r.2.wifi (e + 8)
        (withChksum log (value &&& 0xFF).toUInt8 ((value &&& 0xFF00) >>> 8).toUInt8)) ∧
      (e + 4 < hw.efuseSize → hw.efuseSize ≤ e + 8 → r.1 = .efuseSize ∧
        Programmed hw .wifi r.2.wifi (e + 4)
          (withChksum log (value &&& 0xFF).toUInt8 (log chksumOffset2))) ∧
      (hw.efuseSize ≤ e + 4 → r.1 = .efuseSize ∧ Programmed hw .wifi r.2.wifi e log) := by
  intro value r
  obtain ⟨b, hdump, hb, hprog, hcut, hlog, hend⟩ := h.macDumpLogEfuse ha hans
  have hr : r = ((Efuse.setCheckSumVal hw cells b.wifi log value).1,
      { b with wifi := (Efuse.setCheckSumVal hw cells b.wifi log value).2 }) := by
    change a.macChecksumUpdate hw cells true ans = _
    rw [Adapter.macChecksumUpdate, if_neg nofun, hdump]
    dsimp only
    rw [hlog, calCheckSum_eq hw hchk.line]
  rw [hr]
  refine ⟨hb, fun hroom => ?_, fun hroom hfull => ?_, fun hfull => ?_⟩
  · obtain ⟨s, hset, hs⟩ := hprog.setCheckSumVal cells log hcut hchk hend value hroom
    rw [hset]
    exact ⟨rfl, hs⟩
  · obtain ⟨s, hset, hs⟩ := hprog.setCheckSumVal_half cells log hcut hchk hend rfl value hroom
      hfull
    rw [hset]
    exact ⟨rfl, hs⟩
  · rw [setCheckSumVal_full hend value hfull]
    exact ⟨rfl, hprog⟩

/-- The map differs from `log` in one word, which is not that of the checksum. -/
structure OneWordChanged (hw : HwInfo) (log log' : ℕ → UInt8) (k : ℕ) : Prop where
  lt : k < hw.logEfuseSize / 2
  ne_chksum : k ≠ chksumWord
  changed : leWord log' k ≠ leWord log k
  others : ∀ j, j ≠ k → leWord log' j = leWord log j

/-- What is promised of an update of the checksum over `log`, which ends at `e`,
by calls in which nothing fails. -/
structure RoundTrip (hw : HwInfo) (cells : Cells) (a : Adapter) (e : ℕ) (log : ℕ → UInt8) :
    Prop where
  /-- With room for both entries the update succeeds and touches the checksum
  only; a report gives it back, and one over another map fails. -/
  stored : e + 8 < hw.efuseSize → ∀ ans : Answers, ans.Fine →
    (a.macChecksumUpdate hw cells true ans).1 = .success ∧
    ∃ e' log', Programmed hw .wifi (a.macChecksumUpdate hw cells true ans).2.wifi e' log' ∧
      (∀ o, o ≠ chksumOffset1 → o ≠ chksumOffset2 → log' o = log o) ∧
      (∀ rpt : RptAnswers, rpt.Fine →
        ∃ b, (a.macChecksumUpdate hw cells true ans).2.macChecksumRpt hw rpt =
          (.ret .success, some (leWord log' chksumWord), b)) ∧
      ∀ (b : Adapter) (e'' : ℕ) (log'' : ℕ → UInt8) (k : ℕ) (rpt : RptAnswers), b.sm = .idle →
        Programmed hw .wifi b.wifi e'' log'' → OneWordChanged hw log' log'' k → rpt.Fine →
          (b.macChecksumRpt hw rpt).1 ≠ .ret .success
  /-- Without, it fails, and what was stored before still reads so. -/
  kept : hw.efuseSize ≤ e + 8 → ∀ ans : Answers, ans.Fine →
    (a.macChecksumUpdate hw cells true ans).1 ≠ .success ∧
    ∃ e' log', Programmed hw .wifi (a.macChecksumUpdate hw cells true ans).2.wifi e' log' ∧
      (leWord log chksumWord ≠ 0xFFFF → leWord log' chksumWord = leWord log chksumWord)

/-- With room for both entries the exclusive or of the words is not the mark of
an empty checksum; with room for the first only there is no checksum to keep, or
its low byte is the new one. -/
structure ChecksumSafe (hw : HwInfo) (e : ℕ) (log : ℕ → UInt8) : Prop where
  both : e + 8 < hw.efuseSize → xorWords log (hw.logEfuseSize / 2) ≠ 0xFFFF
  first : e + 4 < hw.efuseSize → hw.efuseSize ≤ e + 8 → leWord log chksumWord ≠ 0xFFFF →
    log chksumOffset1 = (xorWords log (hw.logEfuseSize / 2) &&& 0xFF).toUInt8

lemma withChksum_of_offsets {lo hi : UInt8} {o : ℕ} (h1 : o ≠ chksumOffset1)
    (h2 : o ≠ chksumOffset2) : withChksum log lo hi o = log o := by
  rw [withChksum, if_neg h1, if_neg h2]

lemma xorWords_withChksum (log : ℕ → UInt8) (lo hi : UInt8) (n : ℕ) :
    xorWords (withChksum log lo hi) n = xorWords log n :=
  xorWords_congr fun _ _ hj => leWord_congr fun _ ho => withChksum_of_ne (by rwa [ho])

lemma report_withChksum (log : ℕ → UInt8) :
    report hw (withChksum log (xorWords log (hw.logEfuseSize / 2) &&& 0xFF).toUInt8
        ((xorWords log (hw.logEfuseSize / 2) &&& 0xFF00) >>> 8).toUInt8) =
      if xorWords log (hw.logEfuseSize / 2) = 0xFFFF then (.chksumEmpty, none)
      else (.ret .success, some (xorWords log (hw.logEfuseSize / 2))) := by
  rw [report, leWord_withChksum, xorWords_withChksum, if_neg (not_not.2 rfl)]

lemma report_ne_success {log' : ℕ → UInt8} {k : ℕ}
    (hval : leWord log chksumWord = xorWords log (hw.logEfuseSize / 2))
    (h : OneWordChanged hw log log' k) : (report hw log').1 ≠ .ret .success := by
  have hstored : leWord log' chksumWord = leWord log chksumWord := h.others _ h.ne_chksum.symm
  have hxor : xorWords log' (hw.logEfuseSize / 2) ≠ leWord log' chksumWord := by
    rw [hstored, hval]
    intro heq
    exact h.changed (leWord_eq_of_xorWords_eq h.lt h.ne_chksum h.others heq)
  rw [report]
  by_cases hempty : leWord log' chksumWord = 0xFFFF
  · rw [if_pos hempty]
    exact nofun
  · rw [if_neg hempty, if_pos hxor]
    exact nofun

lemma Programmed.log_eq {e' : ℕ} {log' : ℕ → UInt8} (h : Programmed hw .wifi s e log)
    (h' : Programmed hw .wifi s e' log') : log' = log := by
  have heq : some (e', log') = some (e, log) := h'.parse.symm.trans h.parse
  cases heq
  rfl

lemma Programmed.stored_iff (h : Programmed hw .wifi a.wifi e log) (ha : a.sm = .idle)
    (hchk : HasChksum hw) (cells : Cells) (hroom : e + 8 < hw.efuseSize) :
    RoundTrip hw cells a e log ↔ xorWords log (hw.logEfuseSize / 2) ≠ 0xFFFF := by
  constructor
  · intro hround heq
    obtain ⟨-, e', log', hprog, -, hrpt, -⟩ := hround.stored hroom fineAnswers fineAnswers_fine
    obtain ⟨hidle, hboth, -, -⟩ := h.macChecksumUpdate ha hchk fineAnswers_fine cells
    obtain ⟨-, hnew⟩ := hboth hroom
    obtain ⟨b, hb⟩ := hrpt ⟨true, fineAnswers, true, fineAnswers⟩
      ⟨rfl, fineAnswers_fine, rfl, fineAnswers_fine⟩
    obtain ⟨c, hc⟩ := hnew.macChecksumRpt hidle hchk
      (⟨rfl, fineAnswers_fine, rfl, fineAnswers_fine⟩ :
        RptAnswers.Fine ⟨true, fineAnswers, true, fineAnswers⟩)
    rw [hc, report_withChksum, if_pos heq] at hb
    cases hb
  · intro hne
    refine ⟨fun _ ans hans => ?_, fun hfull => absurd hroom (Nat.not_lt_of_le hfull)⟩
    obtain ⟨hidle, hboth, -, -⟩ := h.macChecksumUpdate ha hchk hans cells
    obtain ⟨hret, hnew⟩ := hboth hroom
    refine ⟨hret, _, _, hnew, fun o h1 h2 => withChksum_of_offsets h1 h2, fun rpt hrpt => ?_,
      fun b e'' log'' k rpt hb hlog hchanged hrpt => ?_⟩
    · obtain ⟨b, hb⟩ := hnew.macChecksumRpt hidle hchk hrpt
      rw [report_withChksum, if_neg hne] at hb
      rw [leWord_withChksum]
      exact ⟨b, hb⟩
    · obtain ⟨c, hc⟩ := hlog.macChecksumRpt hb hchk hrpt
      rw [hc]
      exact report_ne_success ((leWord_withChksum log _).trans (xorWords_withChksum ..).symm) hchanged

lemma Programmed.kept_iff (h : Programmed hw .wifi a.wifi e log) (ha : a.sm = .idle)
    (hchk : HasChksum hw) (cells : Cells) (hroom : e + 4 < hw.efuseSize)
    (hfull : hw.efuseSize ≤ e + 8) :
    RoundTrip hw cells a e log ↔ (leWord log chksumWord ≠ 0xFFFF →
      log chksumOffset1 = (xorWords log (hw.logEfuseSize / 2) &&& 0xFF).toUInt8) := by
  constructor
  · intro hround hold
    obtain ⟨-, e', log', hprog, hkept⟩ := hround.kept hfull fineAnswers fineAnswers_fine
    obtain ⟨-, -, hhalf, -⟩ := h.macChecksumUpdate ha hchk fineAnswers_fine cells
    obtain ⟨-, hnew⟩ := hhalf hroom hfull
    have hword := hkept hold
    rw [hnew.log_eq hprog] at hword
    have hnow := ((leWord_eq_iff _).1 hword).1
    have hbefore := ((leWord_eq_iff (leWord log chksumWord)).1 rfl).1
    exact hbefore.trans hnow.symm
  · intro hsame
    refine ⟨fun hlt => absurd hlt (Nat.not_lt_of_le hfull), fun _ ans hans => ?_⟩
    obtain ⟨-, -, hhalf, -⟩ := h.macChecksumUpdate ha hchk hans cells
    obtain ⟨hret, hnew⟩ := hhalf hroom hfull
    refine ⟨by rw [hret]; exact nofun, _, _, hnew, fun hold => ?_⟩
    rw [← hsame hold]
    refine leWord_congr fun o ho => ?_
    unfold withChksum
    split
    · rename_i heq
      rw [heq]
    split
    · rename_i heq
      rw [heq]
    · rfl

/-- The checksum makes its round trip just over the maps for which it is safe. -/
theorem checksum_round_trip (hchk : HasChksum hw) (cells : Cells) (ha : a.sm = .idle)
    (h : Programmed hw .wifi a.wifi e log) :
    RoundTrip hw cells a e log ↔ ChecksumSafe hw e log := by
  by_cases hboth : e + 8 < hw.efuseSize
  · refine (h.stored_iff ha hchk cells hboth).trans
      ⟨fun hne => ⟨fun _ => hne, fun _ hfull => absurd hboth (Nat.not_lt_of_le hfull)⟩,
        fun hsafe => hsafe.both hboth⟩
  have hfull := Nat.le_of_not_lt hboth
  by_cases hfirst : e + 4 < hw.efuseSize
  · exact (h.kept_iff ha hchk cells hfirst hfull).trans
      ⟨fun hsame => ⟨fun hroom => absurd hroom hboth, fun _ _ => hsame⟩,
        fun hsafe => hsafe.first hfirst hfull⟩
  · refine iff_of_true ⟨fun hroom => absurd hroom hboth, fun _ ans hans => ?_⟩
      ⟨fun hroom => absurd hroom hboth, fun hroom => absurd hroom hfirst⟩
    obtain ⟨-, -, -, hnone⟩ := h.macChecksumUpdate ha hchk hans cells
    obtain ⟨hret, hsame⟩ := hnone (Nat.le_of_not_lt hfirst)
    exact ⟨by rw [hret]; exact nofun, e, log, hsame, fun _ => rfl⟩

theorem checksum_round_trip_blank :
    RoundTrip mac8851b fuseCells blankAdapter 4 (fun _ => 0xFF) ↔
      ChecksumSafe mac8851b 4 fun _ => 0xFF :=
  checksum_round_trip mac8851b_hasChksum fuseCells rfl (Programmed.of_blank blankAdapter_blank .wifi).1

/-- The words of a blank map, all but one, are an odd number of `0xFFFF`: the
update succeeds and leaves an empty checksum. -/
theorem blank_checksum_is_empty :
    ¬RoundTrip mac8851b fuseCells blankAdapter 4 fun _ => 0xFF := by
  have hblank : Programmed mac8851b .wifi blankAdapter.wifi 4 fun _ => 0xFF :=
    (Programmed.of_blank blankAdapter_blank .wifi).1
  rw [hblank.stored_iff rfl mac8851b_hasChksum fuseCells (by decide)]
  have hodd : xorWords (fun _ => 0xFF) (mac8851b.logEfuseSize / 2) = 0xFFFF := by
    set_option maxRecDepth 20000 in decide
  exact not_not.mpr hodd

end RoundTrip

end Efuse

end Rtl8831.Mac
