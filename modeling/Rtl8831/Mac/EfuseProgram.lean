import Rtl8831.Mac.EfuseParse

/-!
# Appending entries to a fuse

A bank is `Programmed` up to `e` when its entries end there, nothing is burnt
behind them, and the driver's valid copies agree.  Writes that reach the end of
a header make a new entry, whose missing bytes read `0xFF`; writes cut before
the first byte leave all as it was.
-/

namespace Rtl8831.Mac

open List Function

namespace Efuse

open Lib

section Write

variable {cells : Cells} {s : BankState} {off : ℕ} {b : UInt8} {bs : List UInt8}

/-- How many bytes of a chain of `len` writes get to the fuse. -/
def burnt (cut : Option (ℕ × Bool)) (len : ℕ) : ℕ :=
  match cut with
  | none => len
  | some (n, stored) => if n < len then n + stored.toNat else len

/-- Whether one of `len` writes fails. -/
def fails (cut : Option (ℕ × Bool)) (len : ℕ) : Bool :=
  match cut with
  | none => false
  | some (n, _) => n < len

def cutAfter (cut : Option (ℕ × Bool)) (len : ℕ) : Option (ℕ × Bool) :=
  match cut with
  | none => none
  | some (n, stored) => if n < len then none else some (n - len, stored)

/-- The cells with the bytes `bs` from `off` on. -/
def fill (f : ℕ → Option UInt8) (off : ℕ) (bs : List UInt8) (i : ℕ) : Option UInt8 :=
  if off ≤ i ∧ i < off + bs.length then some (bs.getD (i - off) 0xFF) else f i

variable {cut : Option (ℕ × Bool)} (f : ℕ → Option UInt8) (len : ℕ)

@[simp] lemma fill_nil : fill f off [] = f := by
  funext i
  exact if_neg fun h => absurd h.2 (Nat.not_lt_of_le h.1)

lemma fill_cons :
    fill f off (b :: bs) = fill (update f off (some b)) (off + 1) bs := by
  funext i
  unfold fill
  rw [length_cons]
  by_cases hoff : i = off
  · subst hoff
    rw [if_pos ⟨Nat.le_refl _, by omega⟩, if_neg (by omega), update_self, Nat.sub_self]
    rfl
  · rw [update_of_ne hoff]
    by_cases hin : off + 1 ≤ i ∧ i < off + 1 + bs.length
    · rw [if_pos hin, if_pos (by omega), show i - off = (i - (off + 1)) + 1 by omega,
        getD_cons_succ]
    · rw [if_neg hin, if_neg (by omega)]

lemma burnt_succ_of_ok (h : fails cut 1 = false) :
    burnt cut (len + 1) = burnt (cutAfter cut 1) len + 1 ∧
      fails cut (len + 1) = fails (cutAfter cut 1) len ∧
      cutAfter cut (len + 1) = cutAfter (cutAfter cut 1) len := by
  match cut, h with
  | none, _ => exact ⟨rfl, rfl, rfl⟩
  | some (0, _), h => cases h
  | some (n + 1, stored), _ =>
    by_cases hn : n < len
    · simp [burnt, fails, cutAfter, hn, Nat.add_right_comm n 1]
    · simp [burnt, fails, cutAfter, hn]

lemma burnt_of_fail (h : fails cut 1 = true) :
    burnt cut (len + 1) = burnt cut 1 ∧ burnt cut 1 ≤ 1 ∧ fails cut (len + 1) = true ∧
      cutAfter cut (len + 1) = none ∧ cutAfter cut 1 = none := by
  match cut, h with
  | none, h => cases h
  | some (0, stored), _ => cases stored <;> simp [burnt, fails, cutAfter]
  | some (n + 1, _), h => simp [fails] at h

lemma writeHwEfuse_of_ok (hblank : s.fuse off = none) (h : fails s.cut 1 = false) :
    s.writeHwEfuse cells off b =
      (true,
        { s with
          fuse := update s.fuse off (some b)
          phyMapValid := false
          logMapValid := false
          cut := cutAfter s.cut 1 }) := by
  obtain ⟨fuse, phyMap, phyMapValid, logMap, logMapValid, efuseEnd, cut⟩ := s
  dsimp only at hblank h
  match cut, h with
  | none, _ => simp [BankState.writeHwEfuse, BankState.store, hblank, cutAfter]
  | some (0, _), h => cases h
  | some (n + 1, stored), _ =>
    simp [BankState.writeHwEfuse, BankState.store, hblank, cutAfter]

lemma writeHwEfuse_of_fail (hblank : s.fuse off = none) (h : fails s.cut 1 = true) :
    s.writeHwEfuse cells off b =
      (false,
        { s with
          fuse := fill s.fuse off ([b].take (burnt s.cut 1))
          phyMapValid := false
          logMapValid := false
          cut := none }) := by
  obtain ⟨fuse, phyMap, phyMapValid, logMap, logMapValid, efuseEnd, cut⟩ := s
  dsimp only at hblank h
  match cut, h with
  | none, h => cases h
  | some (0, stored), _ =>
    cases stored <;>
      simp [BankState.writeHwEfuse, BankState.store, hblank, burnt, fill_cons]
  | some (n + 1, _), h => simp [fails] at h

lemma writeBytes_cons (hblank : ∀ i, off ≤ i → s.fuse i = none) :
    s.writeBytes cells off (b :: bs) =
      (!fails s.cut (bs.length + 1),
        { s with
          fuse := fill s.fuse off ((b :: bs).take (burnt s.cut (bs.length + 1)))
          phyMapValid := false
          logMapValid := false
          cut := cutAfter s.cut (bs.length + 1) }) := by
  have hoff := hblank off (Nat.le_refl _)
  induction bs generalizing s off b with
  | nil =>
    rw [BankState.writeBytes]
    cases h : fails s.cut 1 with
    | false =>
      obtain ⟨hburnt, -, -⟩ := burnt_succ_of_ok 0 h
      rw [writeHwEfuse_of_ok hoff h]
      simp [BankState.writeBytes, hburnt, fill_cons]
    | true =>
      obtain ⟨-, -, -, -, hcut⟩ := burnt_of_fail 0 h
      rw [writeHwEfuse_of_fail hoff h]
      simp [hcut]
  | cons c bs ih =>
    have hrest : ∀ i, off + 1 ≤ i → update s.fuse off (some b) i = none := by
      intro i hi
      rw [update_of_ne (Nat.ne_of_gt hi)]
      exact hblank i (Nat.le_of_succ_le hi)
    rw [BankState.writeBytes]
    cases h : fails s.cut 1 with
    | false =>
      obtain ⟨hburnt, hfails, hcut⟩ := burnt_succ_of_ok (bs.length + 1) h
      rw [writeHwEfuse_of_ok hoff h]
      dsimp only
      rw [ih hrest (hrest _ (Nat.le_refl _))]
      simp [hburnt, hfails, hcut, fill_cons]
    | true =>
      obtain ⟨hburnt, hone, hfails, hcut, -⟩ := burnt_of_fail (bs.length + 1) h
      rw [writeHwEfuse_of_fail hoff h]
      have htake : (b :: c :: bs).take (burnt s.cut 1) = [b].take (burnt s.cut 1) := by
        match burnt s.cut 1, hone with
        | 0, _ => rfl
        | 1, _ => rfl
      simp [hburnt, hfails, hcut, htake]

end Write

section Bank

variable {hw : HwInfo} {cells : Cells} {bank : Bank} {s s' : BankState} {e : ℕ}
  {log map : ℕ → UInt8} {cfg : ParserCfg}

/-- The entries of the fuse end at `e` and stand for `log`; the copies marked
valid are what the fuse holds. -/
structure Programmed (hw : HwInfo) (bank : Bank) (s : BankState) (e : ℕ) (log : ℕ → UInt8) :
    Prop where
  entries : ∃ k, Replays
    (readEntry (hw.isBt bank) (hw.phyMapSize bank) (hw.logMapSize bank) .map s.phy) k
    (hw.secCtrlSize bank) (fun _ => 0xFF) e log
  unused : ∀ i, e ≤ i → s.fuse i = none
  phyMap : s.phyMapValid = true → ∀ i < hw.phyMapSize bank, s.phyMap i = s.phy i
  logMap : s.logMapValid = true → s.phyMapValid = true ∧ s.logMap = log ∧ s.efuseEnd = e

lemma eepromParser_of_replays {k : ℕ} {x : ℕ → UInt8}
    (h : Replays (readEntry (hw.isBt bank) (hw.phyMapSize bank) (hw.logMapSize bank) cfg map) k
      (hw.secCtrlSize bank) (fun _ => 0xFF) e x)
    (hend : e < hw.phyMapSize bank → map e = 0xFF) : eepromParser hw bank cfg map = some (e, x) := by
  have hle := h.add_le fun i x p hp => (readEntry_cases hp).1
  have hsize := h.le_of_read fun i x p hp => (readEntry_cases hp).2.1
  unfold eepromParser
  rw [show hw.phyMapSize bank + 1 = hw.phyMapSize bank - k + 1 + k by omega,
    h.loop (f := parserLoop (hw.isBt bank) (hw.phyMapSize bank) (hw.logMapSize bank) cfg map)
      fun fuel i x p hp => parserLoop_succ_of_readEntry fuel hp]
  exact parserLoop_succ_of_blank _ hend

section

variable (h : Programmed hw bank s e log)
include h

lemma Programmed.phy_end : s.phy e = 0xFF := by
  unfold BankState.phy
  rw [h.unused e (Nat.le_refl _)]
  rfl

lemma Programmed.parse :
    eepromParser hw bank .map s.phy = some (e, log) := by
  obtain ⟨k, hk⟩ := h.entries
  exact eepromParser_of_replays hk fun _ => h.phy_end

lemma Programmed.replays_phyMap
    (hvalid : s.phyMapValid = true) : ∃ k, Replays
      (readEntry (hw.isBt bank) (hw.phyMapSize bank) (hw.logMapSize bank) .map s.phyMap) k
      (hw.secCtrlSize bank) (fun _ => 0xFF) e log := by
  obtain ⟨k, hk⟩ := h.entries
  refine ⟨k, hk.congr (fun i x p hp => (readEntry_cases hp).1) fun i x p _ hp => ?_⟩
  obtain ⟨-, hsize, hcongr, -⟩ := readEntry_cases hp
  exact hcongr _ fun o ho => h.phyMap hvalid o (Nat.lt_of_lt_of_le ho hsize)

lemma Programmed.parse_phyMap (hvalid : s.phyMapValid = true) :
    eepromParser hw bank .map s.phyMap = some (e, log) := by
  obtain ⟨k, hk⟩ := h.replays_phyMap hvalid
  exact eepromParser_of_replays hk fun hlt => (h.phyMap hvalid e hlt).trans h.phy_end

lemma Programmed.parse_mask :
    ∃ maskMap, eepromParser hw bank .mask s.phy = some (e, maskMap) ∧
      (s.phyMapValid = true → eepromParser hw bank .mask s.phyMap = some (e, maskMap)) := by
  obtain ⟨k, hk⟩ := h.entries
  obtain ⟨maskMap, hmask⟩ := hk.positions
    (r := readEntry (hw.isBt bank) (hw.phyMapSize bank) (hw.logMapSize bank) .mask s.phy)
    (fun i x p x' hp => (readEntry_cases hp).2.2.2 .mask x') fun _ => 0xFF
  refine ⟨maskMap, eepromParser_of_replays hmask fun _ => h.phy_end, fun hvalid => ?_⟩
  refine eepromParser_of_replays (hmask.congr (fun i x p hp => (readEntry_cases hp).1)
    fun i x p _ hp => ?_) fun hlt => (h.phyMap hvalid e hlt).trans h.phy_end
  obtain ⟨-, hsize, hcongr, -⟩ := readEntry_cases hp
  exact hcongr _ fun o ho => h.phyMap hvalid o (Nat.lt_of_lt_of_le ho hsize)

lemma Programmed.resume {phy' : ℕ → UInt8}
    (hagree : ∀ i < e, phy' i = s.phy i) :
    ∃ fuel, eepromParser hw bank .map phy' =
      parserLoop (hw.isBt bank) (hw.phyMapSize bank) (hw.logMapSize bank) .map phy' (fuel + 1) e
        log := by
  obtain ⟨k, hk⟩ := h.entries
  have hle := hk.add_le fun i x p hp => (readEntry_cases hp).1
  have hsize := hk.le_of_read fun i x p hp => (readEntry_cases hp).2.1
  have hread := hk.congr (fun i x p hp => (readEntry_cases hp).1)
    (r := readEntry (hw.isBt bank) (hw.phyMapSize bank) (hw.logMapSize bank) .map phy')
    fun i x p hp hread => (readEntry_cases hread).2.2.1 _ fun o ho =>
      hagree o (Nat.lt_of_lt_of_le ho hp)
  refine ⟨hw.phyMapSize bank - k, ?_⟩
  unfold eepromParser
  rw [show hw.phyMapSize bank + 1 = hw.phyMapSize bank - k + 1 + k by omega,
    hread.loop (f := parserLoop (hw.isBt bank) (hw.phyMapSize bank) (hw.logMapSize bank) .map phy')
      fun fuel i x p hp => parserLoop_succ_of_readEntry fuel hp]

end

/-- A bank whose fuse and coming cut are those of `s`. -/
structure SameFuse (s s' : BankState) : Prop where
  fuse : s'.fuse = s.fuse
  cut : s'.cut = s.cut

lemma SameFuse.refl (s : BankState) : SameFuse s s := ⟨rfl, rfl⟩

lemma SameFuse.phy (h : SameFuse s s') : s'.phy = s.phy := by
  funext i
  unfold BankState.phy
  rw [h.fuse]

lemma Programmed.readPhyMap (h : Programmed hw bank s e log) (ans : Answers) :
    Programmed hw bank (readPhyMap hw bank ans s).2 e log ∧
      SameFuse s (Efuse.readPhyMap hw bank ans s).2 ∧
      ((Efuse.readPhyMap hw bank ans s).1 = .success →
        (Efuse.readPhyMap hw bank ans s).2.phyMapValid = true) := by
  unfold Efuse.readPhyMap
  split
  · rename_i hvalid
    exact ⟨h, .refl s, fun _ => hvalid⟩
  split
  · exact ⟨h, .refl s, fun hret => (nomatch hret)⟩
  split
  · exact ⟨h, .refl s, fun hret => (nomatch hret)⟩
  · refine ⟨⟨h.entries, h.unused, fun _ i hi => if_pos hi, fun hlog => ?_⟩, ⟨rfl, rfl⟩, fun _ => rfl⟩
    obtain ⟨-, hmap, hend⟩ := h.logMap hlog
    exact ⟨rfl, hmap, hend⟩

lemma Programmed.readLogEfuseMap (h : Programmed hw bank s e log) (ans : Answers) :
    Programmed hw bank (readLogEfuseMap hw bank ans s).2 e log ∧
      SameFuse s (Efuse.readLogEfuseMap hw bank ans s).2 ∧
      ((Efuse.readLogEfuseMap hw bank ans s).1 = .success →
        (Efuse.readLogEfuseMap hw bank ans s).2.logMapValid = true) := by
  unfold Efuse.readLogEfuseMap
  split
  · rename_i hvalid
    exact ⟨h, .refl s, fun _ => hvalid⟩
  obtain ⟨hprog, hsame, hvalid⟩ := h.readPhyMap ans
  match hread : Efuse.readPhyMap hw bank ans s with
  | (.success, s') =>
    rw [hread] at hprog hsame hvalid
    dsimp only
    rw [hprog.parse_phyMap (hvalid rfl)]
    exact ⟨⟨hprog.entries, hprog.unused, hprog.phyMap, fun _ => ⟨hvalid rfl, rfl, rfl⟩⟩,
      ⟨hsame.fuse, hsame.cut⟩, fun _ => rfl⟩
  | (.efuseSize, s') | (.nptr, s') | (.verErr, s') | (.procBusy, s') | (.procErr, s')
  | (.sysSteErr, s') | (.bufAlloc, s') | (.efuseRead, s') | (.efuseParse, s')
  | (.efuseWrite, s') =>
    rw [hread] at hprog hsame
    exact ⟨hprog, hsame, fun hret => (nomatch hret)⟩

def burn (s : BankState) (off : ℕ) (bs : List UInt8) : BankState :=
  { s with
    fuse := fill s.fuse off (bs.take (burnt s.cut bs.length))
    phyMapValid := false
    logMapValid := false
    cut := cutAfter s.cut bs.length }

lemma Programmed.writeBytes (h : Programmed hw bank s e log) {bs : List UInt8} (hbs : bs ≠ []) :
    s.writeBytes cells e bs = (!fails s.cut bs.length, burn s e bs) := by
  obtain ⟨b, bs, rfl⟩ := exists_cons_of_ne_nil hbs
  exact writeBytes_cons h.unused

lemma burnt_le (cut : Option (ℕ × Bool)) (len : ℕ) : burnt cut len ≤ len := by
  unfold burnt
  split
  · exact Nat.le_refl _
  · rename_i n stored
    split
    · cases stored <;> simp only [Bool.toNat_false, Bool.toNat_true] <;> omega
    · exact Nat.le_refl _

lemma burnt_of_not_fails {cut : Option (ℕ × Bool)} {len : ℕ} (h : fails cut len = false) :
    burnt cut len = len := by
  match cut, h with
  | none, _ => rfl
  | some (n, stored), h => exact if_neg (of_decide_eq_false h)

section

variable (h : Programmed hw bank s e log)
include h

lemma Programmed.burn_phy (bs : List UInt8) (i : ℕ) :
    (burn s e bs).phy i =
      if i < e then s.phy i else (bs.take (burnt s.cut bs.length)).getD (i - e) 0xFF := by
  unfold BankState.phy burn fill
  dsimp only
  by_cases hi : i < e
  · rw [if_pos hi, if_neg fun hin => absurd hi (Nat.not_lt_of_le hin.1)]
  rw [if_neg hi]
  by_cases hin : i < e + (bs.take (burnt s.cut bs.length)).length
  · rw [if_pos ⟨Nat.le_of_not_lt hi, hin⟩]
    rfl
  · rw [if_neg fun h => hin h.2, h.unused i (Nat.le_of_not_lt hi),
      getD_eq_default _ _ (by omega)]
    rfl

lemma Programmed.burn_unused (bs : List UInt8) {i : ℕ}
    (hi : e + bs.length ≤ i) : (burn s e bs).fuse i = none := by
  have hlen := length_take_le (burnt s.cut bs.length) bs
  have hcut := burnt_le s.cut bs.length
  unfold burn fill
  dsimp only
  rw [length_take, if_neg (by omega)]
  exact h.unused i (by omega)

lemma Programmed.burn_zero {bs : List UInt8}
    (hzero : burnt s.cut bs.length = 0) : Programmed hw bank (burn s e bs) e log := by
  have hsame : (burn s e bs).fuse = s.fuse := by
    unfold burn
    dsimp only
    rw [hzero, take_zero, fill_nil]
  have hphy : (burn s e bs).phy = s.phy := by
    funext i
    unfold BankState.phy
    rw [hsame]
  refine ⟨?_, fun i hi => ?_, fun hvalid => ?_, fun hvalid => ?_⟩
  · rw [hphy]
    exact h.entries
  · rw [hsame]
    exact h.unused i hi
  · cases hvalid
  · cases hvalid

end

/-- The value of a byte of an entry of which `p` bytes got to the fuse. -/
def cutValue (p hdrLen : ℕ) (pre : UInt8) (data : List UInt8) (o : ℕ) : UInt8 :=
  if hdrLen + wordPos pre (o % 8) < p then data.getD (wordPos pre (o % 8)) 0xFF else 0xFF

lemma Programmed.burn_entry (h : Programmed hw bank s e log) {hdr data : List UInt8} {n : ℕ}
    {pre : UInt8} (hreads : hdrReads (hw.isBt bank) n pre hdr = true)
    (hn : n < blkCount (hw.isBt bank)) (hpos : 0 < pre.toNat) (hlt : pre.toNat < 16)
    (hlog : ∀ t < 4, wordBit pre t = true → 8 * n + 2 * t + 1 < hw.logMapSize bank)
    (hdata : data.length = 2 * wordsBelow pre 4)
    (hsize : e + hdr.length + data.length ≤ hw.phyMapSize bank)
    {p : ℕ} (hp : burnt s.cut (hdr ++ data).length = p) (hcut : hdr.length ≤ p) :
    Programmed hw bank (burn s e (hdr ++ data)) (e + hdr.length + data.length)
      (writeBlock n pre (cutValue p hdr.length pre data) log) := by
  obtain ⟨k, hk⟩ := h.entries
  have hall : p ≤ hdr.length + data.length := by
    rw [← hp, ← length_append]
    exact burnt_le _ _
  have hlen : ((hdr ++ data).take p).length = p := by
    rw [length_take, length_append]
    omega
  have hphy : ∀ i, (burn s e (hdr ++ data)).phy i =
      if i < e then s.phy i else ((hdr ++ data).take p).getD (i - e) 0xFF := by
    intro i
    rw [h.burn_phy, hp]
  have hhdr : ∀ k < hdr.length, (burn s e (hdr ++ data)).phy (e + k) = hdr.getD k 0 := by
    intro k hk
    rw [hphy, if_neg (by omega), Nat.add_sub_cancel_left, getD_eq_getElem _ _ (by omega),
      getElem_take, getElem_append_left hk, getD_eq_getElem _ _ hk]
  have hvalue : ∀ o, entryValue .map (burn s e (hdr ++ data)).phy (e + hdr.length) pre o =
      cutValue p hdr.length pre data o := by
    intro o
    unfold entryValue cutValue ParserCfg.value
    dsimp only
    rw [hphy, if_neg (by omega), Nat.add_assoc, Nat.add_sub_cancel_left]
    by_cases hin : hdr.length + wordPos pre (o % 8) < p
    · rw [if_pos hin, getD_eq_getElem _ _ (by omega), getElem_take,
        getElem_append_right (Nat.le_add_right _ _), getD_eq_getElem _ _ (by omega)]
      simp only [Nat.add_sub_cancel_left]
    · rw [if_neg hin, getD_eq_default _ _ (by omega)]
  refine ⟨⟨k + 1, .snoc (hk.congr (fun i x p hp => (readEntry_cases hp).1)
    fun i x p hp hread => ?_) ?_⟩, fun i hi => ?_, fun hvalid => (nomatch hvalid),
    fun hvalid => (nomatch hvalid)⟩
  · refine (readEntry_cases hread).2.2.1 _ fun o ho => ?_
    rw [hphy]
    exact if_pos (Nat.lt_of_lt_of_le ho hp)
  · rw [readEntry_of_hdr hreads hhdr hn hpos hlt hlog (by omega), hdata, funext hvalue]
  · exact h.burn_unused _ (by rw [length_append]; omega)

end Bank

section Fine

variable {ans : Answers} {a : Adapter}

structure Answers.Fine (ans : Answers) : Prop where
  cnvStart : ans.cnvStart = true
  cnvEnd : ans.cnvEnd = true
  alloc : ∀ b, ans.alloc b = true
  readHwEfuse : ans.readHwEfuse = true
  cut : ans.cut = none

def fineAnswers : Answers where
  cnvStart := true
  cnvEnd := true
  alloc := fun _ => true
  readHwEfuse := true
  heap := fun _ => 0xFF
  cut := none

lemma fineAnswers_fine : fineAnswers.Fine := ⟨rfl, rfl, fun _ => rfl, rfl, rfl⟩

lemma inState_of_fine (h : ans.Fine) (ha : a.sm = .idle) {m : EfuseState} (hm : m ≠ .idle)
    (proc : BankState → Ret × BankState) :
    a.inState .wifi m ans none proc =
      ((proc { a.wifi with cut := none }).1,
        { a with wifi := (proc { a.wifi with cut := none }).2 }) := by
  have hbusy : ¬a.sm ≠ .idle := not_not.2 ha
  have hstart : a.cnvEfuseState m ans.cnvStart = (.success, { a with sm := m }) := by
    rw [Adapter.cnvEfuseState, ha, if_neg hm.symm, if_neg fun h => h.2 rfl, h.cnvStart]
    rfl
  rw [Adapter.inState, if_neg hbusy, hstart]
  dsimp only
  rw [h.alloc, h.alloc, h.cnvEnd, h.cut]
  obtain ⟨sm, wifi, bt⟩ := a
  cases ha
  cases m with
  | idle => exact absurd rfl hm
  | phy => rfl
  | logMap => rfl

lemma readPhyMap_of_fine (hw : HwInfo) (hans : ans.Fine) (s : BankState) :
    (readPhyMap hw .wifi ans s).1 = .success := by
  unfold readPhyMap
  split
  · rfl
  rw [hans.alloc, hans.readHwEfuse]
  rfl

end Fine

end Efuse

end Rtl8831.Mac
