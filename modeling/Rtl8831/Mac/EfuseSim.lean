import Rtl8831.Mac.EfuseRun

/-!
# The simulator of efuse programming

`mac_pg_simulator` programs a map of the fuses that its caller has in memory,
and parses it into the caller's logical map.  It is compared here with
`mac_pg_efuse_by_map` on a fuse with the same contents.
-/

namespace Rtl8831.Mac

open Function

namespace Efuse

/-- The bytes `bs` put at `off`, where `c` says what becomes of what was there. -/
def patch {α : Type*} (c : α → UInt8 → α) (f : ℕ → α) (off : ℕ) (bs : List UInt8) (i : ℕ) : α :=
  if off ≤ i ∧ i < off + bs.length then c (f i) (bs.getD (i - off) 0xFF) else f i

def overlay : (ℕ → UInt8) → ℕ → List UInt8 → ℕ → UInt8 := patch fun _ b => b

section Simulator

variable (hw : HwInfo) (ans : Answers)

/-- `update_eeprom_mask` with `pg_sim` set: the logical map is the cached one. -/
def updateEepromMaskSim (s : BankState) (info : PgEfuseInfo) : Ret × BankState × (ℕ → UInt8) :=
  if ans.alloc .map = false then (.bufAlloc, s, fun _ => 0)
  else if ans.alloc .maskMap = false then (.bufAlloc, s, fun _ => 0)
  else
    match eepromParser hw .wifi .mask s.phyMap with
    | none => (.efuseParse, s, fun _ => 0)
    | some (efuseEnd, maskMap) =>
      (.success, { s with efuseEnd := efuseEnd }, updatedMask info s.logMap maskMap)

/-- `proc_pg_efuse` with `pg_sim` set: both header bytes, whatever the bank. -/
def procPgEfuseSim (s : BankState) (info : PgEfuseInfo) (wordEn preWordEn : UInt8)
    (eepromOffset : ℕ) : BankState :=
  let isBt : Bool := info.efuseMapSize = hw.btLogEfuseSize
  let hdr := pgEfuseHdr isBt eepromOffset wordEn
  let bytes :=
    [hdr.getD 0 0xFF, hdr.getD 1 0xFF] ++ pgEfuseWords info.efuseMap preWordEn eepromOffset
  { s with
    phyMap := overlay s.phyMap s.efuseEnd bytes
    efuseEnd := s.efuseEnd + bytes.length }

/-- The loop of `program_efuse` with `pg_sim` set. -/
def programEfuseSim (info : PgEfuseInfo) (mask : ℕ → UInt8) : ℕ → ℕ → BankState → BankState
  | 0, _, s => s
  | n + 1, i, s =>
    let pre := preWordEn mask i
    if pre > 0 then
      programEfuseSim info mask n (i + 8) (procPgEfuseSim hw s info (pre ^^^ 0x0F) pre i)
    else programEfuseSim info mask n (i + 8) s

/-- What `mac_pg_simulator` leaves: its code, the bank, and the caller's two
buffers, of the logical one also how many bytes of it have been written. -/
structure SimResult where
  ret : Ret
  bank : BankState
  phyMap : ℕ → UInt8
  efuseMap : ℕ → UInt8
  written : ℕ

/-- A copy of `n` bytes. -/
def memcpy (n : ℕ) (dst src : ℕ → UInt8) (i : ℕ) : UInt8 := if i < n then src i else dst i

/-- The size that `mac_pg_simulator` compares the caller's with. -/
def simMapSize (info : PgEfuseInfo) : ℕ :=
  if info.efuseMapSize ≠ hw.logEfuseSize then hw.limitEfuseSize else hw.logEfuseSize

/-- `mac_pg_simulator`.  A parser that fails leaves the map it fills in with the
entries read so far, which is not kept track of. -/
def macPgSimulator (s : BankState) (info : PgEfuseInfo) (phyMap : ℕ → UInt8) : SimResult :=
  if info.efuseMapSize ≠ simMapSize hw info then ⟨.efuseSize, s, phyMap, info.efuseMap, 0⟩
  else if compareVersion info hw.efuseVersionSize ≠ .success then
    ⟨.verErr, s, phyMap, info.efuseMap, 0⟩
  else if ans.alloc .phyMap = false then ⟨.bufAlloc, s, phyMap, info.efuseMap, 0⟩
  else if ans.alloc .logMap = false then ⟨.bufAlloc, s, phyMap, info.efuseMap, 0⟩
  else
    match eepromParser hw .wifi .map phyMap with
    | none => ⟨.efuseParse, s, phyMap, info.efuseMap, 0⟩
    | some (efuseEnd, log) =>
      let s := { s with
        logMap := log
        efuseEnd := efuseEnd
        phyMap := memcpy hw.efuseSize s.phyMap phyMap }
      if ans.alloc .updatedMask = false then ⟨.bufAlloc, s, phyMap, info.efuseMap, 0⟩
      else
        match updateEepromMaskSim hw ans s info with
        | (.success, s, mask) =>
          match checkEfuseEnough hw .wifi s info mask with
          | .success =>
            let s := programEfuseSim hw info mask ((info.efuseMapSize + 7) / 8) 0 s
            let phyMap := memcpy hw.efuseSize phyMap s.phyMap
            -- the parser begins by filling a map of the full size
            match eepromParser hw .wifi .map phyMap with
            | none => ⟨.efuseParse, s, phyMap, info.efuseMap, hw.logEfuseSize⟩
            | some (efuseEnd, map) =>
              ⟨.success, { s with efuseEnd := efuseEnd, phyMapValid := false, logMapValid := false },
                phyMap, map, hw.logEfuseSize⟩
          | ret => ⟨ret, s, phyMap, info.efuseMap, 0⟩
        | (ret, s, _) => ⟨ret, s, phyMap, info.efuseMap, 0⟩

end Simulator

section Patch

variable {α : Type*} {c : α → UInt8 → α} {f : ℕ → α} {off : ℕ} {xs : List UInt8}

@[simp] lemma patch_nil : patch c f off [] = f := by
  funext i
  rw [patch, if_neg fun h => Nat.not_lt_of_le h.1 h.2]

lemma patch_append (c : α → UInt8 → α) (f : ℕ → α) (off : ℕ) (xs ys : List UInt8) :
    patch c f off (xs ++ ys) = patch c (patch c f off xs) (off + xs.length) ys := by
  funext i
  unfold patch
  rw [List.length_append]
  by_cases hlow : off ≤ i ∧ i < off + xs.length
  · rw [if_pos (by omega), if_neg (by omega), if_pos hlow,
      List.getD_append _ _ _ _ (by omega)]
  · by_cases hhigh : off + xs.length ≤ i ∧ i < off + xs.length + ys.length
    · rw [if_pos (by omega), if_pos hhigh, if_neg hlow,
        List.getD_append_right _ _ _ _ (by omega), Nat.sub_sub]
    · rw [if_neg (by omega), if_neg hhigh, if_neg hlow]

lemma patch_cons (b : UInt8) :
    patch c f off (b :: xs) = patch c (update f off (c (f off) b)) (off + 1) xs := by
  have hone : patch c f off [b] = update f off (c (f off) b) := by
    funext i
    by_cases hi : i = off
    · rw [hi, update_self, patch, if_pos ⟨Nat.le_refl _, Nat.lt_succ_self _⟩, Nat.sub_self]
      rfl
    · rw [update_of_ne hi, patch]
      exact if_neg fun h => hi (Nat.le_antisymm (Nat.le_of_lt_succ h.2) h.1)
  have happend := patch_append c f off [b] xs
  rw [hone] at happend
  exact happend

/-- What a cell holds once `b` has been written to it. -/
def Cells.cell (cells : Cells) (old : Option UInt8) (b : UInt8) : Option UInt8 :=
  some (match old with
    | none => b
    | some old => cells.burn old b)

lemma writeHwEfuse_of_uncut (cells : Cells) {s : BankState} (hcut : s.cut = none) (off : ℕ)
    (b : UInt8) : ∃ s', s.writeHwEfuse cells off b = (true, s') ∧ s'.cut = none ∧
      s'.efuseEnd = s.efuseEnd ∧ s'.fuse = update s.fuse off (cells.cell (s.fuse off) b) := by
  obtain ⟨fuse, phyMap, phyMapValid, logMap, logMapValid, efuseEnd, cut⟩ := s
  cases hcut
  exact ⟨_, rfl, rfl, rfl, rfl⟩

lemma writeBytes_of_uncut (cells : Cells) {s : BankState} (hcut : s.cut = none)
    (off : ℕ) (bs : List UInt8) :
    ∃ s', s.writeBytes cells off bs = (true, s') ∧ s'.cut = none ∧
      s'.efuseEnd = s.efuseEnd ∧ s'.fuse = patch cells.cell s.fuse off bs := by
  induction bs generalizing s off with
  | nil => exact ⟨s, rfl, hcut, rfl, patch_nil.symm⟩
  | cons b bs ih =>
    obtain ⟨s₁, hwrite, hcut₁, hend₁, hfuse₁⟩ := writeHwEfuse_of_uncut cells hcut off b
    obtain ⟨s', hrest, hcut', hend', hfuse⟩ := ih hcut₁ (off + 1)
    refine ⟨s', ?_, hcut', hend'.trans hend₁, ?_⟩
    · rw [BankState.writeBytes, hwrite]
      exact hrest
    · rw [hfuse, hfuse₁, patch_cons]

end Patch

section Entries

variable {hw : HwInfo} {info : PgEfuseInfo} {mask : ℕ → UInt8}

/-- The bytes that `program_efuse` emits for `k` blocks from `n` on. -/
def pgBytes (map mask : ℕ → UInt8) : ℕ → ℕ → List UInt8
  | 0, _ => []
  | k + 1, n =>
    (if preWordEn mask (8 * n) > 0 then entryBytes false map mask n else []) ++
      pgBytes map mask k (n + 1)

lemma length_pgBytes (map mask : ℕ → UInt8) (k n : ℕ) :
    (pgBytes map mask k n).length = pgNum mask k (8 * n) := by
  induction k generalizing n with
  | zero => rfl
  | succ k ih =>
    rw [pgBytes, List.length_append, ih, pgNum_succ]
    congr 1
    split
    · rw [entryBytes, List.length_append, pgEfuseWords, blockWords_length]
      rfl
    · rfl

lemma programEfuse_of_uncut (cells : Cells)
    (hbt : decide (info.efuseMapSize = hw.btLogEfuseSize) = false) (mask : ℕ → UInt8) (k n : ℕ)
    {s : BankState} (hcut : s.cut = none) :
    ∃ s', programEfuse hw cells info mask k (8 * n) s = (.success, s') ∧
      s'.fuse = patch cells.cell s.fuse s.efuseEnd (pgBytes info.efuseMap mask k n) := by
  induction k generalizing n s with
  | zero => exact ⟨s, rfl, patch_nil.symm⟩
  | succ k ih =>
    rw [programEfuse, pgBytes]
    by_cases hpre : preWordEn mask (8 * n) > 0
    · rw [if_pos hpre, if_pos hpre]
      obtain ⟨s₁, hwrite, hcut₁, -, hfuse₁⟩ :=
        writeBytes_of_uncut cells hcut s.efuseEnd (entryBytes false info.efuseMap mask n)
      have hproc : procPgEfuse hw cells s info (preWordEn mask (8 * n) ^^^ 0x0F)
          (preWordEn mask (8 * n)) (8 * n) =
          (.success, { s₁ with efuseEnd :=
            s.efuseEnd + (entryBytes false info.efuseMap mask n).length }) := by
        rw [procPgEfuse, hbt]
        split
        · next heq =>
          cases heq.symm.trans hwrite
          rfl
        · next heq => cases heq.symm.trans hwrite
      obtain ⟨s', hrest, hfuse⟩ := ih (n + 1) (s := { s₁ with efuseEnd :=
        s.efuseEnd + (entryBytes false info.efuseMap mask n).length }) hcut₁
      refine ⟨s', ?_, ?_⟩
      · rw [hproc]
        exact hrest
      · rw [hfuse, patch_append]
        dsimp only
        rw [hfuse₁]
    · rw [if_neg hpre, if_neg hpre]
      exact ih (n + 1) hcut

lemma programEfuseSim_phyMap
    (hbt : decide (info.efuseMapSize = hw.btLogEfuseSize) = false) (mask : ℕ → UInt8) (k n : ℕ)
    (s : BankState) :
    (programEfuseSim hw info mask k (8 * n) s).phyMap =
      overlay s.phyMap s.efuseEnd (pgBytes info.efuseMap mask k n) := by
  induction k generalizing n s with
  | zero => exact patch_nil.symm
  | succ k ih =>
    rw [programEfuseSim, pgBytes]
    by_cases hpre : preWordEn mask (8 * n) > 0
    · rw [if_pos hpre, if_pos hpre]
      have hproc : procPgEfuseSim hw s info (preWordEn mask (8 * n) ^^^ 0x0F)
          (preWordEn mask (8 * n)) (8 * n) =
          { s with
            phyMap := overlay s.phyMap s.efuseEnd (entryBytes false info.efuseMap mask n)
            efuseEnd := s.efuseEnd + (entryBytes false info.efuseMap mask n).length } := by
        rw [procPgEfuseSim, hbt]
        rfl
      rw [hproc, show 8 * n + 8 = 8 * (n + 1) by omega, ih]
      exact (patch_append ..).symm
    · rw [if_neg hpre, if_neg hpre]
      exact ih (n + 1) s

end Entries

section Copies

variable {isBt : Bool} {efuseSize logEfuseSize : ℕ} {cfg : ParserCfg} {phyMap phyMap' : ℕ → UInt8}
  {fuel idx e : ℕ} {logMap log : ℕ → UInt8}

/-- Where the loop of the parser stops, if it does at `idx`. -/
def stopAt (isBt : Bool) (efuseSize : ℕ) (phyMap : ℕ → UInt8) (idx : ℕ) : Option ℕ :=
  if efuseSize ≤ idx then some idx
  else if phyMap idx = 0xFF then some idx
  else if isBt = true ∧ phyMap idx &&& 0x0F ≠ 0x0F then none
  else if phyMap (idx + 1) = 0xFF then some (idx + 1)
  else none

lemma parserLoop_succ :
    parserLoop isBt efuseSize logEfuseSize cfg phyMap (fuel + 1) idx logMap =
      match stopAt isBt efuseSize phyMap idx with
      | some e => some (e, logMap)
      | none => (readEntry isBt efuseSize logEfuseSize cfg phyMap idx logMap).bind fun p =>
          parserLoop isBt efuseSize logEfuseSize cfg phyMap fuel p.1 p.2 := by
  rw [parserLoop, stopAt, readEntry]
  by_cases hsize : efuseSize ≤ idx
  · simp only [if_pos hsize]
  by_cases hhdr : phyMap idx = 0xFF
  · simp only [if_neg hsize, if_pos hhdr]
  by_cases hone : isBt = true ∧ phyMap idx &&& 0x0F ≠ 0x0F
  · simp only [if_neg hsize, if_neg hhdr, if_pos hone]
  by_cases hhdr2 : phyMap (idx + 1) = 0xFF
  · simp only [if_neg hsize, if_neg hhdr, if_neg hone, if_pos hhdr2]
  · simp only [if_neg hsize, if_neg hhdr, if_neg hone, if_neg hhdr2]

section

variable (hagree : ∀ o < efuseSize, phyMap' o = phyMap o)
include hagree

lemma readEntry_of_agree
    {p : ℕ × (ℕ → UInt8)}
    (h : readEntry isBt efuseSize logEfuseSize cfg phyMap idx logMap = some p) :
    readEntry isBt efuseSize logEfuseSize cfg phyMap' idx logMap = some p := by
  obtain ⟨-, hsize, hcongr, -⟩ := readEntry_cases h
  exact hcongr phyMap' fun o ho => hagree o (Nat.lt_of_lt_of_le ho hsize)

lemma stopAt_of_agree
    (h : stopAt isBt efuseSize phyMap idx = none →
      readEntry isBt efuseSize logEfuseSize cfg phyMap idx logMap ≠ none)
    (h' : stopAt isBt efuseSize phyMap' idx = none →
      readEntry isBt efuseSize logEfuseSize cfg phyMap' idx logMap ≠ none) :
    stopAt isBt efuseSize phyMap' idx = stopAt isBt efuseSize phyMap idx := by
  cases hstop : stopAt isBt efuseSize phyMap idx with
  | none =>
    obtain ⟨p, hp⟩ := Option.ne_none_iff_exists'.1 (h hstop)
    have hp' := readEntry_of_agree hagree hp
    cases hstop' : stopAt isBt efuseSize phyMap' idx with
    | none => rfl
    | some e =>
      have hloop := parserLoop_succ_of_readEntry 0 hp'
      rw [parserLoop_succ, hstop'] at hloop
      cases hloop
  | some e =>
    cases hstop' : stopAt isBt efuseSize phyMap' idx with
    | none =>
      obtain ⟨p, hp'⟩ := Option.ne_none_iff_exists'.1 (h' hstop')
      have hp := readEntry_of_agree (fun o ho => (hagree o ho).symm) hp'
      have hloop := parserLoop_succ_of_readEntry 0 hp
      rw [parserLoop_succ, hstop] at hloop
      cases hloop
    | some e' =>
      congr 1
      unfold stopAt at hstop hstop'
      split at hstop
      · cases hstop
        rename_i hsize
        rw [if_pos hsize] at hstop'
        cases hstop'
        rfl
      rename_i hsize
      rw [if_neg hsize, hagree idx (Nat.lt_of_not_le hsize)] at hstop'
      split at hstop
      · cases hstop
        rename_i hhdr
        rw [if_pos hhdr] at hstop'
        cases hstop'
        rfl
      rename_i hhdr
      rw [if_neg hhdr] at hstop'
      split at hstop
      · cases hstop
      rename_i hone
      rw [if_neg hone] at hstop'
      split at hstop <;> split at hstop' <;> cases hstop <;> cases hstop'
      rfl

lemma parserLoop_mask
    {e' : ℕ} {log' : ℕ → UInt8}
    (h : parserLoop isBt efuseSize logEfuseSize .map phyMap fuel idx logMap = some (e, log))
    (h' : parserLoop isBt efuseSize logEfuseSize .map phyMap' fuel idx logMap = some (e', log'))
    (z : ℕ → UInt8) :
    ∃ m, parserLoop isBt efuseSize logEfuseSize .mask phyMap fuel idx z = some (e, m) ∧
      parserLoop isBt efuseSize logEfuseSize .mask phyMap' fuel idx z = some (e, m) := by
  induction fuel generalizing idx logMap z with
  | zero => cases h
  | succ fuel ih =>
    have hne : stopAt isBt efuseSize phyMap idx = none →
        readEntry isBt efuseSize logEfuseSize .map phyMap idx logMap ≠ none := by
      intro hstop hread
      rw [parserLoop_succ, hstop, hread] at h
      cases h
    have hne' : stopAt isBt efuseSize phyMap' idx = none →
        readEntry isBt efuseSize logEfuseSize .map phyMap' idx logMap ≠ none := by
      intro hstop hread
      rw [parserLoop_succ, hstop, hread] at h'
      cases h'
    have hsame := stopAt_of_agree hagree hne hne'
    rw [parserLoop_succ, parserLoop_succ, hsame]
    rw [parserLoop_succ] at h
    rw [parserLoop_succ, hsame] at h'
    cases hstop : stopAt isBt efuseSize phyMap idx with
    | some i =>
      rw [hstop] at h
      cases h
      exact ⟨z, rfl, rfl⟩
    | none =>
      rw [hstop] at h h'
      obtain ⟨p, hp⟩ := Option.ne_none_iff_exists'.1 (hne hstop)
      rw [hp] at h
      rw [readEntry_of_agree hagree hp] at h'
      obtain ⟨m, hm⟩ := (readEntry_cases hp).2.2.2 .mask z
      rw [hm, readEntry_of_agree hagree hm]
      exact ih h h' m

end

end Copies

section Agree

variable {hw : HwInfo} {cells : Cells} {ans : Answers} {a : Adapter} {s : BankState}
  {info : PgEfuseInfo} {isLimit : Bool} {phyMap P : ℕ → UInt8} {e : ℕ} {log maskMap : ℕ → UInt8}

def Accepts (hw : HwInfo) (P : ℕ → UInt8) (e : ℕ) (log : ℕ → UInt8) : Prop :=
  ∀ P', (∀ i < hw.efuseSize, P' i = P i) → eepromParser hw .wifi .map P' = some (e, log)

structure Coherent (hw : HwInfo) (s : BankState) (e : ℕ) (log : ℕ → UInt8) : Prop where
  phyMap : s.phyMapValid = true → ∀ i < hw.efuseSize, s.phyMap i = s.phy i
  logMap : s.logMapValid = true → s.phyMapValid = true ∧ s.logMap = log ∧ s.efuseEnd = e

structure Taken (hw : HwInfo) (info : PgEfuseInfo) (isLimit : Bool) : Prop where
  check : Adapter.checkInfo info (if isLimit then hw.limitEfuseSize else hw.logEfuseSize) = .success
  version : compareVersion info hw.efuseVersionSize = .success

lemma Accepts.mask (h : Accepts hw P e log) :
    ∃ maskMap, ∀ P', (∀ i < hw.efuseSize, P' i = P i) →
      eepromParser hw .wifi .mask P' = some (e, maskMap) := by
  have hself := h P fun _ _ => rfl
  obtain ⟨maskMap, hmask, -⟩ := parserLoop_mask (fun _ _ => rfl) hself hself fun _ => 0xFF
  refine ⟨maskMap, fun P' hagree => ?_⟩
  obtain ⟨m, hm, hm'⟩ := parserLoop_mask hagree hself (h P' hagree) fun _ => 0xFF
  have hsame : some (e, maskMap) = some (e, m) := hmask.symm.trans hm
  cases hsame
  exact hm'

section

variable (h : Taken hw info isLimit)
include h

lemma Taken.size :
    info.efuseMapSize = if isLimit then hw.limitEfuseSize else hw.logEfuseSize := by
  have hcheck := h.check
  unfold Adapter.checkInfo at hcheck
  by_contra hne
  rw [if_pos hne] at hcheck
  cases hcheck

lemma Taken.not_bt :
    decide (info.efuseMapSize = hw.btLogEfuseSize) = false := by
  rw [h.size]
  split
  · exact decide_eq_false hw.limit_ne_btLog
  · exact decide_eq_false hw.log_ne_btLog

lemma Taken.simMapSize :
    info.efuseMapSize = simMapSize hw info := by
  have hsize := h.size
  unfold Efuse.simMapSize
  split
  · rename_i hne
    cases isLimit with
    | true => exact hsize
    | false => exact absurd hsize hne
  · rename_i heq
    exact not_not.1 heq

end

def pgMask (info : PgEfuseInfo) (log maskMap : ℕ → UInt8) : ℕ → UInt8 := updatedMask info log maskMap

def pgEntries (info : PgEfuseInfo) (log maskMap : ℕ → UInt8) : List UInt8 :=
  pgBytes info.efuseMap (pgMask info log maskMap) ((info.efuseMapSize + 7) / 8) 0

lemma checkEfuseEnough_eq (hw : HwInfo) (hs : s.efuseEnd = e) :
    checkEfuseEnough hw .wifi s info (pgMask info log maskMap) =
      if hw.efuseSize < e + (pgEntries info log maskMap).length then .efuseSize else .success := by
  rw [checkEfuseEnough, hs, pgEntries, length_pgBytes, Nat.add_comm e]
  rfl

lemma macPgEfuseByMap_of_fine (hans : ans.Fine) (ha : a.sm = .idle) (hinfo : Taken hw info isLimit)
    (cells : Cells) :
    a.macPgEfuseByMap hw cells ans info false isLimit =
      ((procPgEfuseByMap hw cells .wifi ans { a.wifi with cut := none } info).1,
        { a with wifi := (procPgEfuseByMap hw cells .wifi ans { a.wifi with cut := none } info).2 }) := by
  rw [Adapter.macPgEfuseByMap, hinfo.check, hinfo.version]
  exact inState_of_fine hans ha (nofun : EfuseState.phy ≠ .idle) _

lemma macPgEfuseByMap_eq (hans : ans.Fine) (ha : a.sm = .idle) (hP : Accepts hw a.wifi.phy e log)
    (hcoh : Coherent hw a.wifi e log) (hinfo : Taken hw info isLimit)
    (hmask : ∀ P', (∀ i < hw.efuseSize, P' i = a.wifi.phy i) →
      eepromParser hw .wifi .mask P' = some (e, maskMap)) (cells : Cells) :
    (hw.efuseSize < e + (pgEntries info log maskMap).length →
      (a.macPgEfuseByMap hw cells ans info false isLimit).1 = .efuseSize) ∧
    (e + (pgEntries info log maskMap).length ≤ hw.efuseSize →
      (a.macPgEfuseByMap hw cells ans info false isLimit).1 = .success ∧
        (a.macPgEfuseByMap hw cells ans info false isLimit).2.wifi.fuse =
          patch cells.cell a.wifi.fuse e (pgEntries info log maskMap)) := by
  set s : BankState := { a.wifi with cut := none } with hs
  have hphy : s.phy = a.wifi.phy := rfl
  have hcall := macPgEfuseByMap_of_fine hans ha hinfo cells
  -- a valid copy of the physical map, and with it the logical one
  obtain ⟨s₁, hread, hfuse₁, hcut₁, hcopy₁⟩ : ∃ s₁, readPhyMap hw .wifi ans s = (.success, s₁) ∧
      s₁.fuse = s.fuse ∧ s₁.cut = none ∧ ∀ i < hw.efuseSize, s₁.phyMap i = a.wifi.phy i := by
    unfold readPhyMap
    by_cases hvalid : s.phyMapValid = true
    · rw [if_pos hvalid]
      exact ⟨s, rfl, rfl, rfl, hcoh.phyMap hvalid⟩
    · rw [if_neg hvalid, hans.alloc, if_neg nofun, hans.readHwEfuse, if_neg nofun]
      exact ⟨_, rfl, rfl, rfl, fun i hi => if_pos hi⟩
  obtain ⟨s₂, hlog, hfuse₂, hcut₂, hcopy₂, hlog₂, hend₂⟩ : ∃ s₂,
      readLogEfuseMap hw .wifi ans s = (.success, s₂) ∧ s₂.fuse = s.fuse ∧ s₂.cut = none ∧
        (∀ i < hw.efuseSize, s₂.phyMap i = a.wifi.phy i) ∧ s₂.logMap = log ∧ s₂.efuseEnd = e := by
    unfold readLogEfuseMap
    by_cases hvalid : s.logMapValid = true
    · rw [if_pos hvalid]
      obtain ⟨hcopy, hmap, hend⟩ := hcoh.logMap hvalid
      exact ⟨s, rfl, rfl, rfl, hcoh.phyMap hcopy, hmap, hend⟩
    · rw [if_neg hvalid, hread]
      dsimp only
      rw [hP _ hcopy₁]
      exact ⟨_, rfl, hfuse₁, hcut₁, hcopy₁, rfl, rfl⟩
  have hupdate : updateEepromMask hw .wifi ans s info =
      (.success, { s₂ with efuseEnd := e }, pgMask info log maskMap) := by
    rw [updateEepromMask, hans.alloc, if_neg nofun, hlog]
    dsimp only
    rw [hans.alloc, if_neg nofun, hmask _ hcopy₂]
    dsimp only
    rw [hlog₂]
    rfl
  rw [hcall, ← hs]
  unfold procPgEfuseByMap
  rw [hans.alloc, if_neg nofun, hupdate]
  dsimp only
  rw [checkEfuseEnough_eq hw rfl]
  refine ⟨fun hfull => ?_, fun hroom => ?_⟩
  · rw [if_pos hfull]
  · rw [if_neg (Nat.not_lt_of_le hroom)]
    obtain ⟨s', hpg, hfuse⟩ := programEfuse_of_uncut cells hinfo.not_bt (pgMask info log maskMap)
      ((info.efuseMapSize + 7) / 8) 0 (s := { s₂ with efuseEnd := e }) hcut₂
    rw [Nat.mul_zero] at hpg
    dsimp only
    rw [hpg]
    refine ⟨rfl, hfuse.trans ?_⟩
    dsimp only
    rw [hfuse₂]
    rfl

lemma memcpy_overlay {n off : ℕ} {bs : List UInt8} {f g : ℕ → UInt8} (hroom : off + bs.length ≤ n)
    (hagree : ∀ i < n, f i = g i) : memcpy n g (overlay f off bs) = overlay g off bs := by
  funext i
  unfold memcpy overlay patch
  by_cases hi : i < n
  · rw [if_pos hi, hagree i hi]
  · rw [if_neg hi, if_neg (by omega)]

lemma macPgSimulator_eq (hans : ans.Fine) (hP : Accepts hw P e log)
    (hmap : ∀ i < hw.efuseSize, phyMap i = P i) (hinfo : Taken hw info isLimit)
    (hmask : ∀ P', (∀ i < hw.efuseSize, P' i = P i) →
      eepromParser hw .wifi .mask P' = some (e, maskMap)) (s : BankState) :
    let sim := macPgSimulator hw ans s info phyMap
    (hw.efuseSize < e + (pgEntries info log maskMap).length →
      sim.ret = .efuseSize ∧ sim.written = 0) ∧
    (e + (pgEntries info log maskMap).length ≤ hw.efuseSize →
      sim.phyMap = overlay phyMap e (pgEntries info log maskMap) ∧
      sim.written = hw.logEfuseSize ∧
      match eepromParser hw .wifi .map sim.phyMap with
      | none => sim.ret = .efuseParse
      | some (_, map) => sim.ret = .success ∧ sim.efuseMap = map) := by
  intro sim
  have hread : eepromParser hw .wifi .map phyMap = some (e, log) := hP phyMap hmap
  set s₁ : BankState := { s with
    logMap := log
    efuseEnd := e
    phyMap := memcpy hw.efuseSize s.phyMap phyMap } with hs₁
  have hcopy : ∀ i < hw.efuseSize, s₁.phyMap i = P i := fun i hi => (if_pos hi).trans (hmap i hi)
  have hupdate : updateEepromMaskSim hw ans s₁ info =
      (.success, { s₁ with efuseEnd := e }, pgMask info log maskMap) := by
    rw [updateEepromMaskSim, hans.alloc, if_neg nofun, hans.alloc, if_neg nofun, hmask _ hcopy]
    rfl
  have hsim : sim = macPgSimulator hw ans s info phyMap := rfl
  unfold macPgSimulator at hsim
  rw [if_neg (not_not.2 hinfo.simMapSize), if_neg (not_not.2 hinfo.version), hans.alloc,
    if_neg nofun, hans.alloc, if_neg nofun, hread] at hsim
  dsimp only at hsim
  rw [hans.alloc, if_neg nofun, ← hs₁, hupdate] at hsim
  dsimp only at hsim
  rw [checkEfuseEnough_eq hw rfl] at hsim
  refine ⟨fun hfull => ?_, fun hroom => ?_⟩
  · rw [if_pos hfull] at hsim
    rw [hsim]
    exact ⟨rfl, rfl⟩
  · rw [if_neg (Nat.not_lt_of_le hroom)] at hsim
    have hpg : (programEfuseSim hw info (pgMask info log maskMap) ((info.efuseMapSize + 7) / 8) 0
        { s₁ with efuseEnd := e }).phyMap = overlay s₁.phyMap e (pgEntries info log maskMap) :=
      programEfuseSim_phyMap hinfo.not_bt (pgMask info log maskMap)
        ((info.efuseMapSize + 7) / 8) 0 { s₁ with efuseEnd := e }
    have hback : memcpy hw.efuseSize phyMap (overlay s₁.phyMap e (pgEntries info log maskMap)) =
        overlay phyMap e (pgEntries info log maskMap) :=
      memcpy_overlay hroom fun i hi => if_pos hi
    dsimp only at hsim
    rw [hpg, hback] at hsim
    cases hparse : eepromParser hw .wifi .map (overlay phyMap e (pgEntries info log maskMap)) with
    | none =>
      rw [hparse] at hsim
      rw [hsim]
      refine ⟨rfl, rfl, ?_⟩
      dsimp only
      rw [hparse]
    | some p =>
      rw [hparse] at hsim
      rw [hsim]
      refine ⟨rfl, rfl, ?_⟩
      dsimp only
      rw [hparse]
      exact ⟨rfl, rfl⟩

structure SimAgrees (hw : HwInfo) (sim : SimResult) (pg : Ret × Adapter) (info : PgEfuseInfo) :
    Prop where
  ret : sim.ret = pg.1
  phyMap : sim.ret = .success → ∀ i < hw.efuseSize, sim.phyMap i = pg.2.wifi.phy i
  logMap : sim.ret = .success →
    ∃ e', eepromParser hw .wifi .map sim.phyMap = some (e', sim.efuseMap)
  written : sim.written ≤ info.efuseMapSize

/-- Every byte of the fuse that `bs` go to from `e` on reads as the byte written to it. -/
def Takes (cells : Cells) (fuse : ℕ → Option UInt8) (e : ℕ) (bs : List UInt8) : Prop :=
  ∀ k < bs.length, readCell (cells.cell (fuse (e + k)) (bs.getD k 0xFF)) = bs.getD k 0xFF

def SimSafe (hw : HwInfo) (cells : Cells) (fuse : ℕ → Option UInt8) (phyMap : ℕ → UInt8)
    (info : PgEfuseInfo) (e : ℕ) (entries : List UInt8) : Prop :=
  hw.efuseSize < e + entries.length ∨
    (info.efuseMapSize = hw.logEfuseSize ∧ Takes cells fuse e entries ∧
      eepromParser hw .wifi .map (overlay phyMap e entries) ≠ none)

lemma overlay_eq_iff {fuse : ℕ → Option UInt8} {n : ℕ} {bs : List UInt8}
    (hroom : e + bs.length ≤ n) (hmap : ∀ i < n, phyMap i = readCell (fuse i)) :
    (∀ i < n, overlay phyMap e bs i = readCell (patch cells.cell fuse e bs i)) ↔
      Takes cells fuse e bs := by
  constructor
  · intro h k hk
    have hbyte := h (e + k) (by omega)
    rw [overlay, patch, patch, if_pos (by omega), if_pos (by omega), Nat.add_sub_cancel_left]
      at hbyte
    exact hbyte.symm
  · intro h i hi
    unfold overlay patch
    by_cases hin : e ≤ i ∧ i < e + bs.length
    · rw [if_pos hin, if_pos hin]
      have hbyte := h (i - e) (by omega)
      rw [Nat.add_sub_cancel' hin.1] at hbyte
      exact hbyte.symm
    · rw [if_neg hin, if_neg hin]
      exact hmap i hi

/-- The simulator agrees just where it is safe. -/
theorem simulator_agrees_iff {ans' : Answers} (hans : ans.Fine) (hans' : ans'.Fine)
    (hinfo : Taken hw info isLimit) (ha : a.sm = .idle) (hP : Accepts hw a.wifi.phy e log)
    (hcoh : Coherent hw a.wifi e log) (hmap : ∀ i < hw.efuseSize, phyMap i = a.wifi.phy i) :
    SimAgrees hw (macPgSimulator hw ans a.wifi info phyMap)
        (a.macPgEfuseByMap hw cells ans' info false isLimit) info ↔
      SimSafe hw cells a.wifi.fuse phyMap info e
        (pgEntries info log (maskMapOf hw .wifi phyMap)) := by
  obtain ⟨maskMap, hmask⟩ := hP.mask
  have hmaskMap : maskMapOf hw .wifi phyMap = maskMap := by
    rw [maskMapOf, hmask phyMap hmap]
  rw [hmaskMap]
  obtain ⟨hpgFull, hpgRoom⟩ := macPgEfuseByMap_eq hans' ha hP hcoh hinfo hmask cells
  obtain ⟨hsimFull, hsimRoom⟩ := macPgSimulator_eq hans hP hmap hinfo hmask a.wifi
  by_cases hfull : hw.efuseSize < e + (pgEntries info log maskMap).length
  · obtain ⟨hret, hwritten⟩ := hsimFull hfull
    refine iff_of_true ⟨hret.trans (hpgFull hfull).symm, fun hdone => ?_, fun hdone => ?_, ?_⟩
      (.inl hfull)
    · rw [hret] at hdone
      cases hdone
    · rw [hret] at hdone
      cases hdone
    · rw [hwritten]
      exact Nat.zero_le _
  have hroom := Nat.le_of_not_lt hfull
  obtain ⟨hpgRet, hpgFuse⟩ := hpgRoom hroom
  obtain ⟨hphy, hwritten, hparsed⟩ := hsimRoom hroom
  have hsize : hw.logEfuseSize ≤ info.efuseMapSize ↔ info.efuseMapSize = hw.logEfuseSize := by
    have hle := hw.limit_le
    have htaken := hinfo.size
    split at htaken <;> omega
  have hsame : (∀ i < hw.efuseSize, overlay phyMap e (pgEntries info log maskMap) i =
      (a.macPgEfuseByMap hw cells ans' info false isLimit).2.wifi.phy i) ↔
      Takes cells a.wifi.fuse e (pgEntries info log maskMap) := by
    unfold BankState.phy
    rw [hpgFuse]
    exact overlay_eq_iff hroom hmap
  rw [hphy] at hparsed
  cases hparse : eepromParser hw .wifi .map (overlay phyMap e (pgEntries info log maskMap)) with
  | none =>
    rw [hparse] at hparsed
    refine iff_of_false (fun hagree => ?_) fun hsafe => ?_
    · have hret := hagree.ret
      rw [hparsed, hpgRet] at hret
      cases hret
    · rcases hsafe with hlt | ⟨-, -, hne⟩
      · exact hfull hlt
      · exact hne hparse
  | some p =>
    rw [hparse] at hparsed
    obtain ⟨hret, hefuse⟩ := hparsed
    constructor
    · intro hagree
      have hle := hagree.written
      have hbytes := hagree.phyMap hret
      rw [hwritten] at hle
      rw [hphy] at hbytes
      refine .inr ⟨hsize.mp hle, hsame.mp hbytes, ?_⟩
      rw [hparse]
      exact nofun
    · rintro (hlt | ⟨hlog, htakes, -⟩)
      · exact absurd hlt hfull
      refine ⟨hret.trans hpgRet.symm, fun _ => ?_, fun _ => ?_, ?_⟩
      · rw [hphy]
        exact hsame.mpr htakes
      · refine ⟨p.1, ?_⟩
        rw [hphy, hparse, hefuse]
      · rw [hwritten]
        exact hsize.mpr hlog

lemma Programmed.accepts (h : Programmed hw .wifi s e log) : Accepts hw s.phy e log := by
  intro P' hagree
  obtain ⟨k, hk⟩ := h.entries
  refine eepromParser_of_replays (hk.congr (fun i x p hp => (readEntry_cases hp).1)
    fun i x p _ hp => readEntry_of_agree hagree hp) fun hlt => ?_
  rw [hagree e hlt]
  exact h.phy_end

def fullMap : PgEfuseInfo where
  efuseMap := fun _ => 0x12
  efuseMapSize := 2048
  efuseMask := fun k => if k = 3 then 0x01 else if k < 128 then 0 else 0x12
  efuseMaskSize := 128
  nullMap := false
  nullMask := false

def limitedMap : PgEfuseInfo where
  efuseMap := fun _ => 0x12
  efuseMapSize := 1280
  efuseMask := fun k => if k < 80 then 0 else 0x12
  efuseMaskSize := 80
  nullMap := false
  nullMask := false

theorem simulator_agrees_iff_fullMap :
    SimAgrees mac8851b (macPgSimulator mac8851b fineAnswers blankAdapter.wifi fullMap fun _ => 0xFF)
        (blankAdapter.macPgEfuseByMap mac8851b fuseCells fineAnswers fullMap false false) fullMap ↔
      SimSafe mac8851b fuseCells blankAdapter.wifi.fuse (fun _ => 0xFF) fullMap 4
        (pgEntries fullMap (fun _ => 0xFF) (maskMapOf mac8851b .wifi fun _ => 0xFF)) := by
  have hblank : Programmed mac8851b .wifi blankAdapter.wifi 4 fun _ => 0xFF :=
    (Programmed.of_blank blankAdapter_blank .wifi).1
  exact simulator_agrees_iff fineAnswers_fine fineAnswers_fine ⟨by decide, by decide⟩ rfl
    hblank.accepts ⟨hblank.phyMap, hblank.logMap⟩ fun _ _ => rfl

/-- Over the limited map the parser clears the bytes of a full one. -/
theorem simulator_overruns_limited_map :
    (macPgSimulator mac8851b fineAnswers blankAdapter.wifi limitedMap fun _ => 0xFF).written = 2048 ∧
      ¬SimAgrees mac8851b
        (macPgSimulator mac8851b fineAnswers blankAdapter.wifi limitedMap fun _ => 0xFF)
        (blankAdapter.macPgEfuseByMap mac8851b fuseCells fineAnswers limitedMap false true)
        limitedMap := by
  have hwritten : (macPgSimulator mac8851b fineAnswers blankAdapter.wifi limitedMap
      fun _ => 0xFF).written = 2048 := by
    set_option maxRecDepth 20000 in decide
  refine ⟨hwritten, fun hagree => ?_⟩
  have hle := hagree.written
  rw [hwritten] at hle
  exact absurd hle (by decide)

end Agree

end Efuse

end Rtl8831.Mac
