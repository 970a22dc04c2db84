import Rtl8831.Lib.Run
import Rtl8831.Mac.EfuseBlocks

/-!
# Programming and parsing are inverse

Each call leaves a bank programmed: with what was asked for if it succeeds, with
what it was if nothing gets to the fuse, and with the words up to the one being
written if a write fails behind the header of an entry.
-/

namespace Rtl8831.Mac

open Function

namespace Efuse

open Lib

section Call

variable {hw : HwInfo} {cells : Cells} {bank : Bank} {ans : Answers} {s : BankState} {e : ℕ}
  {log : ℕ → UInt8}

/-- What a call may leave of a bank.  `target` is the map asked for, `word` the
word being written where a write fails. -/
structure Leaves (hw : HwInfo) (bank : Bank) (s : BankState) (e : ℕ) (log target : ℕ → UInt8)
    (safe : Prop) (word : ℕ) (r : Ret × BankState) : Prop where
  done : r.1 = .success → ∃ e', Programmed hw bank r.2 e' target ∧
    (Tight hw bank s e → Tight hw bank r.2 e')
  cut : r.1 = .efuseWrite → safe → ∃ e' log', Programmed hw bank r.2 e' log' ∧
    ∀ o, o / 2 ≠ word → log' o = if o / 2 < word then target o else log o
  other : r.1 ≠ .success → r.1 ≠ .efuseWrite → Programmed hw bank r.2 e log

lemma Leaves.of_other {target : ℕ → UInt8} {safe : Prop} {word : ℕ} {r : Ret × BankState}
    (h : Programmed hw bank r.2 e log) (hdone : r.1 ≠ .success) (hcut : r.1 ≠ .efuseWrite) :
    Leaves hw bank s e log target safe word r :=
  ⟨fun hret => absurd hret hdone, fun hret => absurd hret hcut, fun _ _ => h⟩

lemma readPhyMap_ne_efuseWrite (hw : HwInfo) (bank : Bank) (ans : Answers) (s : BankState) :
    (readPhyMap hw bank ans s).1 ≠ .efuseWrite := by
  unfold readPhyMap
  repeat' split
  all_goals exact fun h => (nomatch h)

lemma readLogEfuseMap_ne_efuseWrite (hw : HwInfo) (bank : Bank) (ans : Answers)
    (s : BankState) : (readLogEfuseMap hw bank ans s).1 ≠ .efuseWrite := by
  unfold readLogEfuseMap
  have hphy := readPhyMap_ne_efuseWrite hw bank ans s
  split
  · exact fun h => (nomatch h)
  split
  · split <;> exact fun h => (nomatch h)
  · rename_i hread
    rw [hread] at hphy
    exact hphy

def bytePre (offset : ℕ) : UInt8 := 1 <<< UInt8.ofNat (offset % 8 / 2)

lemma bytePre_spec_of_fin : ∀ k : Fin 8,
    0 < (bytePre k).toNat ∧ (bytePre k).toNat < 16 ∧ wordsBelow (bytePre k) 4 = 1 ∧
      wordsBelow (bytePre k) (k / 2) = 0 ∧ ∀ t : Fin 4, wordBit (bytePre k) t = ((t : ℕ) = k / 2) := by
  decide

-- The low nibble is clear, so that adding `0x0F` is setting it.
lemma hdr_or_eq_add : ∀ k : Fin 8,
    (UInt8.ofNat ((k : ℕ) <<< 1) <<< 4) ||| (0x0F : UInt8) =
      (UInt8.ofNat ((k : ℕ) <<< 1) <<< 4) + 0x0F := by
  decide

variable {info : PgEfuseInfo} (offset : ℕ)

lemma bytePre_spec :
    0 < (bytePre offset).toNat ∧ (bytePre offset).toNat < 16 ∧ wordsBelow (bytePre offset) 4 = 1 ∧
      wordsBelow (bytePre offset) (offset % 8 / 2) = 0 ∧
      ∀ t < 4, wordBit (bytePre offset) t = true ↔ t = offset % 8 / 2 := by
  obtain ⟨hpos, hlt, hfour, hzero, hbit⟩ := bytePre_spec_of_fin ⟨offset % 8, by omega⟩
  have hpre : bytePre (offset % 8) = bytePre offset := by
    unfold bytePre
    rw [Nat.mod_mod]
  dsimp only at hpos hlt hfour hzero hbit
  rw [hpre] at hpos hlt hfour hzero hbit
  refine ⟨hpos, hlt, hfour, hzero, fun t ht => ?_⟩
  have h := hbit ⟨t, ht⟩
  dsimp only at h
  rw [h]

lemma logEfuseHdr_eq (isBt : Bool) (offset : ℕ) :
    logEfuseHdr isBt offset =
      pgEfuseHdr isBt (8 * (offset / 8)) (bytePre offset ^^^ 0x0F) := by
  have hblk : (8 * (offset / 8)) >>> 3 = offset >>> 3 := by
    simp only [Nat.shiftRight_eq_div_pow]
    omega
  have hword : (offset &&& 7) >>> 1 = offset % 8 / 2 := by
    rw [show (7 : ℕ) = 2 ^ 3 - 1 by decide, Nat.and_two_pow_sub_one_eq_mod,
      Nat.shiftRight_eq_div_pow]
  have hlow : (offset >>> 3) &&& 7 < 8 := by
    rw [show (7 : ℕ) = 2 ^ 3 - 1 by decide, Nat.and_two_pow_sub_one_eq_mod]
    exact Nat.mod_lt _ (by decide)
  have hsmall : 8 * (offset / 8) < bt1bEntrySize ↔ offset < bt1bEntrySize := by
    unfold bt1bEntrySize
    omega
  unfold logEfuseHdr pgEfuseHdr bytePre
  dsimp only
  rw [hblk, hword, hdr_or_eq_add ⟨_, hlow⟩]
  cases isBt with
  | false => rfl
  | true =>
    rw [if_pos rfl, if_pos rfl]
    exact if_congr hsmall.symm rfl rfl

lemma writeBlock_bytePre (val : ℕ → UInt8) :
    writeBlock (offset / 8) (bytePre offset) val log =
      fun o => if o / 2 = offset / 2 then val o else log o := by
  obtain ⟨-, -, -, -, hbit⟩ := bytePre_spec offset
  funext o
  unfold writeBlock
  refine if_congr ?_ rfl rfl
  rw [hbit _ (by omega)]
  omega

def ByteSafe (isBt : Bool) (offset : ℕ) (cut : Option (ℕ × Bool)) : Prop :=
  ∀ idx stored, cut = some (idx, stored) →
    idx + stored.toNat = 0 ∨ hdrLen isBt (offset / 8) ≤ idx + stored.toNat

lemma Programmed.byteEntry (h : Programmed hw bank s e log) {offset : ℕ} {word : List UInt8}
    (hoff : offset < hw.logMapSize bank) (hword : word.length = 2)
    (hroom : ¬hw.phyMapSize bank ≤ 4 + e) :
    let bytes := logEfuseHdr (hw.isBt bank) offset ++ word
    bytes.length = hdrLen (hw.isBt bank) (offset / 8) + 2 ∧
      (burnt s.cut bytes.length = 0 → Programmed hw bank (burn s e bytes) e log) ∧
      ∀ p, burnt s.cut bytes.length = p → hdrLen (hw.isBt bank) (offset / 8) ≤ p →
        Programmed hw bank (burn s e bytes) (e + bytes.length)
          fun o => if o / 2 = offset / 2 then
            (if hdrLen (hw.isBt bank) (offset / 8) + o % 2 < p then word.getD (o % 2) 0xFF else 0xFF)
            else log o := by
  intro bytes
  have hblk := logMapSize_le hw bank
  obtain ⟨hpos, hlt, hfour, hzero, hbit⟩ := bytePre_spec offset
  have heq := logEfuseHdr_eq (hw.isBt bank) offset
  have hreads : hdrReads (hw.isBt bank) (offset / 8) (bytePre offset)
      (logEfuseHdr (hw.isBt bank) offset) = true := by
    rw [heq]
    exact hdrReads_pgEfuseHdr (by omega) hpos hlt
  have hhdr := length_of_hdrReads hreads
  have hhdrLe : hdrLen (hw.isBt bank) (offset / 8) ≤ 2 := by
    unfold hdrLen
    split <;> omega
  have hlen : bytes.length = hdrLen (hw.isBt bank) (offset / 8) + 2 := by
    rw [List.length_append, hhdr, hword]
  refine ⟨hlen, fun hz => h.burn_zero hz, fun p hp hcut => ?_⟩
  have hentry := h.burn_entry hreads (by omega) hpos hlt
    (fun t ht htbit => by
      have heven : hw.logMapSize bank % 2 = 0 := by
        cases bank
        · exact hw.log_even
        · exact hw.btLog_even
      have ht' := (hbit t ht).1 htbit
      omega) (by rw [hword, hfour]) (by omega) hp (by omega)
  have hlog : (fun o => if o / 2 = offset / 2 then
      cutValue p (logEfuseHdr (hw.isBt bank) offset).length (bytePre offset) word o else log o) =
      fun o => if o / 2 = offset / 2 then
        (if hdrLen (hw.isBt bank) (offset / 8) + o % 2 < p then word.getD (o % 2) 0xFF else 0xFF)
        else log o := by
    funext o
    by_cases ho : o / 2 = offset / 2
    · rw [if_pos ho, if_pos ho]
      have hwordPos : wordPos (bytePre offset) (o % 8) = o % 2 := by
        unfold wordPos
        rw [show o % 8 / 2 = offset % 8 / 2 by omega, hzero]
        omega
      unfold cutValue
      rw [hwordPos, hhdr]
    · rw [if_neg ho, if_neg ho]
  rw [writeBlock_bytePre, hlog] at hentry
  have hend : e + (logEfuseHdr (hw.isBt bank) offset).length + word.length = e + bytes.length := by
    rw [List.length_append, Nat.add_assoc]
  rw [hend] at hentry
  exact hentry

lemma Tight.of_sameFuse {s' : BankState} (h : Tight hw bank s e) (hsame : SameFuse s s') :
    Tight hw bank s' e := by
  intro i hi hlt
  rw [hsame.fuse]
  exact h i hi hlt

lemma fails_iff {cut : Option (ℕ × Bool)} {len : ℕ} (h : fails cut len = true) :
    ∃ idx stored, cut = some (idx, stored) ∧ burnt cut len = idx + stored.toNat := by
  match cut, h with
  | none, h => cases h
  | some (idx, stored), h => exact ⟨idx, stored, rfl, if_pos (of_decide_eq_true h)⟩

lemma byteWord_spec {offset : ℕ} (value : UInt8) {map : ℕ → UInt8}
    (hmap : ∀ o, o / 2 = offset / 2 → map o = log o) :
    let word := if offset &&& 1 = 0 then [value, map (offset + 1)] else [map (offset - 1), value]
    word.length = 2 ∧ ∀ o, o / 2 = offset / 2 →
      word.getD (o % 2) 0xFF = update log offset value o := by
  intro word
  have hword : word =
      if offset % 2 = 0 then [value, map (offset + 1)] else [map (offset - 1), value] := by
    rw [← Nat.and_one_is_mod]
  rw [hword]
  by_cases heven : offset % 2 = 0
  · rw [if_pos heven]
    refine ⟨rfl, fun o ho => ?_⟩
    by_cases hsame : o = offset
    · rw [hsame, heven, update_self]
      rfl
    · have hodd : o = offset + 1 := by omega
      rw [update_of_ne hsame, ← hmap o ho, hodd, show (offset + 1) % 2 = 1 by omega]
      rfl
  · rw [if_neg heven]
    refine ⟨rfl, fun o ho => ?_⟩
    by_cases hsame : o = offset
    · rw [hsame, show offset % 2 = 1 by omega, update_self]
      rfl
    · have heq : o = offset - 1 := by omega
      rw [update_of_ne hsame, ← hmap o ho, heq, show (offset - 1) % 2 = 0 by omega]
      rfl

lemma Programmed.procWriteLogEfuse (h : Programmed hw bank s e log) (cells : Cells)
    (ans : Answers) {offset : ℕ} (hoff : offset < hw.logMapSize bank) (value : UInt8) :
    Leaves hw bank s e log (update log offset value)
      (ByteSafe (hw.isBt bank) offset s.cut) (offset / 2)
      (procWriteLogEfuse hw cells bank ans s offset value) := by
  obtain ⟨hprog, hsame, hvalid⟩ := h.readLogEfuseMap ans
  have hne := readLogEfuseMap_ne_efuseWrite hw bank ans s
  have hread : (if s.logMapValid then (Ret.success, s) else Efuse.readLogEfuseMap hw bank ans s) =
      Efuse.readLogEfuseMap hw bank ans s := by
    unfold Efuse.readLogEfuseMap
    split <;> rfl
  unfold Efuse.procWriteLogEfuse
  split
  · exact .of_other h (fun hret => (nomatch hret)) (fun hret => (nomatch hret))
  rw [hread]
  match hres : Efuse.readLogEfuseMap hw bank ans s with
  | (.success, s') =>
    rw [hres] at hprog hsame hvalid
    dsimp only at hprog hsame
    obtain ⟨hphy, hlog, hend⟩ := hprog.logMap (hvalid rfl)
    dsimp only
    rw [hlog, hend, ← hsame.cut]
    by_cases hval : log offset = value
    · rw [if_neg (by rw [if_pos hoff]; exact not_not.2 hval), ← hval,
        update_eq_self offset log]
      exact ⟨fun _ => ⟨e, hprog, fun ht => ht.of_sameFuse hsame⟩, fun hret => (nomatch hret),
        fun hret => absurd rfl hret⟩
    rw [if_pos (by rw [if_pos hoff]; exact hval)]
    by_cases hroom : hw.phyMapSize bank ≤ 4 + e
    · rw [if_pos hroom]
      exact .of_other hprog (fun hret => (nomatch hret)) (fun hret => (nomatch hret))
    rw [if_neg hroom]
    have hmap : ∀ o, o / 2 = offset / 2 →
        (if o < hw.logMapSize bank then log o else ans.heap o) = log o := by
      intro o ho
      have heven : hw.logMapSize bank % 2 = 0 := by
        cases bank
        · exact hw.log_even
        · exact hw.btLog_even
      exact if_pos (by omega)
    obtain ⟨hlen, hvalue⟩ := byteWord_spec value hmap
    generalize hword : (if offset &&& 1 = 0 then
      [value, if offset + 1 < hw.logMapSize bank then log (offset + 1) else ans.heap (offset + 1)]
      else [if offset - 1 < hw.logMapSize bank then log (offset - 1) else ans.heap (offset - 1),
        value]) = word at hlen hvalue ⊢
    obtain ⟨hbytes, hzero, hentry⟩ := hprog.byteEntry hoff hlen hroom
    have hnil : logEfuseHdr (hw.isBt bank) offset ++ word ≠ [] := by
      intro hnil
      rw [hnil, List.length_nil] at hbytes
      omega
    rw [hprog.writeBytes hnil]
    cases hfail : fails s'.cut (logEfuseHdr (hw.isBt bank) offset ++ word).length with
    | false =>
      have hfull := hentry _ (burnt_of_not_fails hfail) (by omega)
      have hlog' : (fun o => if o / 2 = offset / 2 then
          (if hdrLen (hw.isBt bank) (offset / 8) + o % 2 <
            (logEfuseHdr (hw.isBt bank) offset ++ word).length then word.getD (o % 2) 0xFF
            else 0xFF) else log o) = update log offset value := by
        funext o
        by_cases ho : o / 2 = offset / 2
        · rw [if_pos ho, if_pos (by omega), hvalue o ho]
        · rw [if_neg ho, update_of_ne fun heq => ho (congrArg (· / 2) heq)]
      rw [hlog'] at hfull
      exact ⟨fun _ => ⟨_, hfull, fun ht => burn_tight (ht.of_sameFuse hsame) hfail⟩,
        fun hret => (nomatch hret), fun hret => absurd rfl hret⟩
    | true =>
      obtain ⟨idx, stored, hcut, hburnt⟩ := fails_iff hfail
      refine ⟨fun hret => (nomatch hret), fun _ hsafe => ?_, fun _ hret => absurd rfl hret⟩
      have hout : ∀ o, o / 2 ≠ offset / 2 → update log offset value o = log o :=
        fun o ho => update_of_ne (fun heq => ho (congrArg (· / 2) heq)) _ _
      rcases hsafe idx stored hcut with hnone | hhdr
      · refine ⟨e, log, hzero (hburnt.trans hnone), fun o ho => ?_⟩
        rw [hout o ho, ite_self]
      · refine ⟨_, _, hentry _ hburnt hhdr, fun o ho => ?_⟩
        rw [hout o ho, ite_self, if_neg ho]
  | (.efuseWrite, s') =>
    rw [hres] at hne
    exact absurd rfl hne
  | (.efuseSize, s') | (.nptr, s') | (.verErr, s') | (.procBusy, s') | (.procErr, s')
  | (.sysSteErr, s') | (.bufAlloc, s') | (.efuseRead, s') | (.efuseParse, s') =>
    rw [hres] at hprog
    exact .of_other hprog (fun hret => (nomatch hret)) (fun hret => (nomatch hret))

def requested (info : PgEfuseInfo) (mask : ℕ → Bool) (log : ℕ → UInt8) (o : ℕ) : UInt8 :=
  if o < info.efuseMapSize ∧ mask o = true then info.efuseMap o else log o

def maskMapOf (hw : HwInfo) (bank : Bank) (phyMap : ℕ → UInt8) : ℕ → UInt8 :=
  match eepromParser hw bank .mask phyMap with
  | some (_, maskMap) => maskMap
  | none => fun _ => 0xFF

/-- Where the words that still have to be written are cut, for a call that
programs a map. -/
def pgCut (hw : HwInfo) (bank : Bank) (info : PgEfuseInfo) (log phyMap : ℕ → UInt8)
    (cut : Option (ℕ × Bool)) : Option Cut :=
  cutAt (hw.isBt bank) (updatedMask info log (maskMapOf hw bank phyMap)) (info.efuseMapSize / 8) 0
    cut

lemma writtenFrom_updatedMask (hline : info.efuseMapSize % 16 = 0)
    (maskMap : ℕ → UInt8) :
    writtenFrom 0 info (updatedMask info log maskMap) log =
      requested info (selected info.efuseMask) log := by
  funext o
  unfold writtenFrom requested
  by_cases ho : o < info.efuseMapSize
  · rw [selected_updatedMask hline ho]
    simp only [Nat.mul_zero, Nat.zero_le, ho, true_and]
    cases hsel : selected info.efuseMask o with
    | false => rfl
    | true =>
      rw [Bool.true_and]
      by_cases hsame : info.efuseMap (2 * (o / 2)) = log (2 * (o / 2)) ∧
          info.efuseMap (2 * (o / 2) + 1) = log (2 * (o / 2) + 1) ∧ maskMap (2 * (o / 2)) = 0
      · have hval : info.efuseMap o = log o := by
          rcases Nat.mod_two_eq_zero_or_one o with heven | hodd
          · rw [show o = 2 * (o / 2) by omega]
            exact hsame.1
          · rw [show o = 2 * (o / 2) + 1 by omega]
            exact hsame.2.1
        rw [hval, ite_self, ite_self]
      · rw [decide_eq_false hsame]
        rfl
  · rw [if_neg fun h => ho h.2.1, if_neg fun h => ho h.1]

lemma requested_of_updatedMask (hline : info.efuseMapSize % 16 = 0)
    (maskMap : ℕ → UInt8) {o : ℕ} (ho : o < info.efuseMapSize) :
    (if selected (updatedMask info log maskMap) o = true then info.efuseMap o else log o) =
      requested info (selected info.efuseMask) log o := by
  rw [← writtenFrom_updatedMask hline maskMap]
  unfold writtenFrom
  simp only [Nat.mul_zero, Nat.zero_le, ho, true_and]

lemma Programmed.updateEepromMask (h : Programmed hw bank s e log) (ans : Answers)
    (info : PgEfuseInfo) :
    (updateEepromMask hw bank ans s info).1 ≠ .efuseWrite ∧
      Programmed hw bank (updateEepromMask hw bank ans s info).2.1 e log ∧
      SameFuse s (Efuse.updateEepromMask hw bank ans s info).2.1 ∧
      ((Efuse.updateEepromMask hw bank ans s info).1 = .success →
        (Efuse.updateEepromMask hw bank ans s info).2.1.efuseEnd = e ∧
        (Efuse.updateEepromMask hw bank ans s info).2.2 =
          updatedMask info log (maskMapOf hw bank s.phy)) := by
  obtain ⟨hprog, hsame, hvalid⟩ := h.readLogEfuseMap ans
  have hne := readLogEfuseMap_ne_efuseWrite hw bank ans s
  unfold Efuse.updateEepromMask
  split
  · exact ⟨fun hret => (nomatch hret), h, .refl s, fun hret => (nomatch hret)⟩
  match hres : Efuse.readLogEfuseMap hw bank ans s with
  | (.success, s') =>
    rw [hres] at hprog hsame hvalid
    dsimp only at hprog hsame ⊢
    obtain ⟨hphy, hlog, hend⟩ := hprog.logMap (hvalid rfl)
    split
    · exact ⟨fun hret => (nomatch hret), hprog, hsame, fun hret => (nomatch hret)⟩
    obtain ⟨maskMap, hmask, hcopy⟩ := hprog.parse_mask
    rw [hsame.phy] at hmask
    have hmaskMap : maskMapOf hw bank s.phy = maskMap := by
      unfold maskMapOf
      rw [hmask]
    rw [hcopy hphy, hmaskMap]
    exact ⟨fun hret => (nomatch hret),
      ⟨hprog.entries, hprog.unused, hprog.phyMap, fun hv => ⟨hphy, hlog, rfl⟩⟩,
      ⟨hsame.fuse, hsame.cut⟩, fun _ => ⟨rfl, by rw [hlog]⟩⟩
  | (.efuseWrite, s') =>
    rw [hres] at hne
    exact absurd rfl hne
  | (.efuseSize, s') | (.nptr, s') | (.verErr, s') | (.procBusy, s') | (.procErr, s')
  | (.sysSteErr, s') | (.bufAlloc, s') | (.efuseRead, s') | (.efuseParse, s') =>
    rw [hres] at hprog hsame
    exact ⟨fun hret => (nomatch hret), hprog, hsame, fun hret => (nomatch hret)⟩

lemma Programmed.procPgEfuseByMap (h : Programmed hw bank s e log) (cells : Cells)
    (ans : Answers) {info : PgEfuseInfo} (hfit : Fits hw bank info) :
    Leaves hw bank s e log (requested info (selected info.efuseMask) log)
      (∀ c, pgCut hw bank info log s.phy s.cut = some c →
        c.Harmless (hw.isBt bank) (updatedMask info log (maskMapOf hw bank s.phy)) log)
      (((pgCut hw bank info log s.phy s.cut).map
        (Cut.word (hw.isBt bank) (updatedMask info log (maskMapOf hw bank s.phy)))).getD 0)
      (procPgEfuseByMap hw cells bank ans s info) := by
  obtain ⟨hne, hprog, hsame, hok⟩ := h.updateEepromMask ans info
  unfold Efuse.procPgEfuseByMap
  split
  · exact .of_other h (fun hret => (nomatch hret)) (fun hret => (nomatch hret))
  match hres : Efuse.updateEepromMask hw bank ans s info with
  | (.success, s', mask) =>
    rw [hres] at hprog hsame hok
    dsimp only at hprog hsame ⊢
    obtain ⟨hend, hmask⟩ := hok rfl
    dsimp only at hend hmask
    subst hmask
    have hline := hfit.line
    have hblocks : (info.efuseMapSize + 7) / 8 = info.efuseMapSize / 8 := by omega
    have hbytes : 8 * (0 + info.efuseMapSize / 8) = info.efuseMapSize := by omega
    by_cases hroom : hw.phyMapSize bank <
        pgNum (updatedMask info log (maskMapOf hw bank s.phy)) (info.efuseMapSize / 8) 0 + e
    · have hcheck : checkEfuseEnough hw bank s' info
          (updatedMask info log (maskMapOf hw bank s.phy)) = .efuseSize := by
        unfold checkEfuseEnough
        rw [hblocks, hend, if_pos hroom]
      rw [hcheck]
      exact .of_other hprog (fun hret => (nomatch hret)) (fun hret => (nomatch hret))
    have hcheck : checkEfuseEnough hw bank s' info
        (updatedMask info log (maskMapOf hw bank s.phy)) = .success := by
      unfold checkEfuseEnough
      rw [hblocks, hend, if_neg hroom]
    rw [hcheck]
    dsimp only
    rw [hblocks]
    have hspace : e + pgNum (updatedMask info log (maskMapOf hw bank s.phy))
        (info.efuseMapSize / 8) (8 * 0) ≤ hw.phyMapSize bank := by
      rw [Nat.mul_zero]
      omega
    unfold pgCut
    rw [← hsame.cut]
    match hcut : cutAt (hw.isBt bank) (updatedMask info log (maskMapOf hw bank s.phy))
        (info.efuseMapSize / 8) 0 s'.cut with
    | none =>
      obtain ⟨hret, e', hprog', htight⟩ :=
        hprog.program cells hfit hbytes hend hspace hcut
      rw [writtenFrom_updatedMask hline] at hprog'
      exact ⟨fun _ => ⟨e', hprog', fun ht => htight (ht.of_sameFuse hsame)⟩,
        fun hw' => absurd (hret.symm.trans hw') (fun h => (nomatch h)),
        fun hs => absurd hret hs⟩
    | some c =>
      have hc := cutAt_spec hcut
      have hword := c.word_lt (hw.isBt bank) (updatedMask info log (maskMapOf hw bank s.phy))
      obtain ⟨hret, hsafe⟩ := hprog.program_cut cells hfit hbytes hend hspace hcut
      refine ⟨fun hs => absurd (hret.symm.trans hs) (fun h => (nomatch h)), fun _ hharm => ?_,
        fun _ hw' => absurd hret hw'⟩
      obtain ⟨e', log', hprog', hlog'⟩ := hsafe (hharm c rfl)
      refine ⟨e', log', hprog', fun o ho => (hlog' o ho).trans ?_⟩
      simp only [Nat.mul_zero, Nat.zero_le, true_and, Option.map_some, Option.getD_some]
      by_cases hlt : o / 2 < c.word (hw.isBt bank)
          (updatedMask info log (maskMapOf hw bank s.phy))
      · rw [if_pos hlt, ← requested_of_updatedMask hline (maskMapOf hw bank s.phy) (by omega)]
        simp only [hlt, true_and]
      · rw [if_neg hlt, if_neg fun h => hlt h.1]
  | (.efuseWrite, s', mask) =>
    rw [hres] at hne
    exact absurd rfl hne
  | (.efuseSize, s', mask) | (.nptr, s', mask) | (.verErr, s', mask) | (.procBusy, s', mask)
  | (.procErr, s', mask) | (.sysSteErr, s', mask) | (.bufAlloc, s', mask)
  | (.efuseRead, s', mask) | (.efuseParse, s', mask) =>
    rw [hres] at hprog
    exact .of_other hprog (fun hret => (nomatch hret)) (fun hret => (nomatch hret))

end Call

section Calls

variable {hw : HwInfo} {cells : Cells} {a : Adapter} {c : Call} {s : BankState} {e : ℕ}
  {log : ℕ → UInt8} {k : Bank}

namespace Call

def bank : Call → Bank
  | .writeLog .. | .pgByMap .. => .wifi
  | .writeLogBt .. | .pgByMapBt .. => .bt

def ans : Call → Answers
  | .writeLog ans .. | .pgByMap ans .. | .writeLogBt ans .. | .pgByMapBt ans .. => ans

/-- The logical map that a call asks for: the byte, or the words of the mask
(with `part` all words of the map but `0xFFFF`). -/
def intended (log : ℕ → UInt8) : Call → ℕ → UInt8
  | .writeLog _ addr val | .writeLogBt _ addr val => update log addr val
  | .pgByMap _ info true _ =>
    requested info
      (fun o => !decide (info.efuseMap (2 * (o / 2)) = 0xFF ∧ info.efuseMap (2 * (o / 2) + 1) = 0xFF))
      log
  | .pgByMap _ info false _ | .pgByMapBt _ info =>
    requested info (selected info.efuseMask) log

def InRange (hw : HwInfo) : Call → Prop
  | .writeLogBt _ addr _ => addr < hw.btLogEfuseSize
  | _ => True

def Valid (hw : HwInfo) : Call → Prop
  | .writeLog _ addr _ => addr < hw.logEfuseSize
  | .writeLogBt _ addr _ => addr < hw.btLogEfuseSize
  | .pgByMap _ info _ isLimit =>
    Adapter.checkInfo info (if isLimit then hw.limitEfuseSize else hw.logEfuseSize) = .success
  | .pgByMapBt _ info => Adapter.checkInfo info hw.btLogEfuseSize = .success

def proc (hw : HwInfo) (cells : Cells) (c : Call) (s : BankState) : Ret × BankState :=
  match c with
  | .writeLog ans addr val => procWriteLogEfuse hw cells .wifi ans s addr val
  | .writeLogBt ans addr val => procWriteLogEfuse hw cells .bt ans s addr val
  | .pgByMap ans info part _ =>
    procPgEfuseByMap hw cells .wifi ans s (if part then adjustMask info else info)
  | .pgByMapBt ans info => procPgEfuseByMap hw cells .bt ans s info

end Call

@[simp] lemma bank_cnvEfuseState (a : Adapter) (dest : EfuseState) (ok : Bool) (k : Bank) :
    (a.cnvEfuseState dest ok).2.bank k = a.bank k := by
  unfold Adapter.cnvEfuseState
  split
  · rfl
  split
  · rfl
  · cases k <;> rfl

@[simp] lemma bank_setBank_self (a : Adapter) (k : Bank) (s : BankState) :
    (a.setBank k s).bank k = s := by
  cases k <;> rfl

lemma bank_setBank_of_ne {j : Bank} (h : j ≠ k) : (a.setBank k s).bank j = a.bank j := by
  cases j <;> cases k <;> first | rfl | exact absurd rfl h

lemma inState_cases {bank : Bank} {dest : EfuseState} {ans : Answers} {early : Option Ret}
    {proc : BankState → Ret × BankState} (hearly : early ≠ some .success) :
    ((a.inState bank dest ans early proc).1 ≠ .success ∧
        ∀ k, (a.inState bank dest ans early proc).2.bank k = a.bank k) ∨
      (early = none ∧
        (a.inState bank dest ans early proc).2.bank bank =
          (proc { a.bank bank with cut := ans.cut }).2 ∧
        (∀ k ≠ bank, (a.inState bank dest ans early proc).2.bank k = a.bank k) ∧
        ((a.inState bank dest ans early proc).1 = .success →
          (proc { a.bank bank with cut := ans.cut }).1 = .success)) := by
  unfold Adapter.inState
  by_cases hidle : a.sm ≠ .idle
  · rw [if_pos hidle]
    exact .inl ⟨fun h => (nomatch h), fun k => rfl⟩
  rw [if_neg hidle]
  have hbank := bank_cnvEfuseState a dest ans.cnvStart
  generalize a.cnvEfuseState dest ans.cnvStart = r at hbank
  obtain ⟨ret, b⟩ := r
  dsimp only at hbank
  by_cases hret : ret = .success
  · subst hret
    dsimp only
    cases early with
    | some ret => exact .inl ⟨fun h => hearly (congrArg some h), hbank⟩
    | none =>
      dsimp only
      by_cases hphy : ans.alloc .phyMap = false
      · rw [if_pos hphy]
        exact .inl ⟨fun h => (nomatch h), hbank⟩
      rw [if_neg hphy]
      by_cases hlog : ans.alloc .logMap = false
      · rw [if_pos hlog]
        exact .inl ⟨fun h => (nomatch h), hbank⟩
      rw [if_neg hlog, hbank bank]
      refine .inr ⟨rfl, ?_, fun k hk => ?_, fun hsucc => ?_⟩
      · simp
      · simp [bank_setBank_of_ne hk, hbank]
      · dsimp only at hsucc
        split at hsucc
        · rename_i hstat
          exact absurd hsucc hstat
        · exact hsucc
  · cases ret <;> first | exact absurd rfl hret | exact .inl ⟨fun h => (nomatch h), hbank⟩

variable {info : PgEfuseInfo}

lemma fits_of_checkInfo {size : ℕ} (bank : Bank)
    (h : Adapter.checkInfo info size = .success) (hsize : size ≤ hw.logMapSize bank)
    (hbt : decide (size = hw.btLogEfuseSize) = hw.isBt bank) :
    Fits hw bank info ∧ info.efuseMaskSize = info.efuseMapSize / 16 := by
  unfold Adapter.checkInfo at h
  split at h
  · cases h
  rename_i heq
  split at h
  · cases h
  rename_i hline
  split at h
  · cases h
  rename_i hmask
  have heq := not_not.1 heq
  have hmask := not_not.1 hmask
  rw [show (0x0F : ℕ) = 2 ^ 4 - 1 by decide, Nat.and_two_pow_sub_one_eq_mod] at hline
  rw [Nat.shiftRight_eq_div_pow] at hmask
  exact ⟨⟨by rw [heq]; exact hbt, by omega, by omega⟩, hmask⟩

lemma isBt_wifi (hw : HwInfo) : hw.isBt .wifi = false := decide_eq_false hw.log_ne_btLog

lemma call_cases (cells : Cells) (a : Adapter) (hr : c.InRange hw) :
    ((a.call hw cells c).1 ≠ .success ∧ ∀ k, (a.step hw cells c).bank k = a.bank k) ∨
      (c.Valid hw ∧
        (a.step hw cells c).bank c.bank =
          (c.proc hw cells { a.bank c.bank with cut := c.ans.cut }).2 ∧
        (∀ k ≠ c.bank, (a.step hw cells c).bank k = a.bank k) ∧
        ((a.call hw cells c).1 = .success →
          (c.proc hw cells { a.bank c.bank with cut := c.ans.cut }).1 = .success)) := by
  unfold Adapter.step
  cases c with
  | writeLog ans addr val =>
    dsimp only [Adapter.call]
    unfold Adapter.macWriteLogEfuse
    refine (inState_cases ?_).imp_right ?_
    · split <;> exact fun h => (nomatch h)
    · rintro ⟨hearly, hproc⟩
      refine ⟨?_, hproc⟩
      split at hearly
      · cases hearly
      · rename_i hlt
        exact Nat.lt_of_not_le hlt
  | writeLogBt ans addr val =>
    dsimp only [Adapter.call]
    unfold Adapter.macWriteLogEfuseBt
    split
    · exact .inl ⟨fun h => (nomatch h), fun k => rfl⟩
    · exact (inState_cases (Option.some_ne_none _).symm).imp_right fun h => ⟨hr, h.2⟩
  | pgByMap ans info part isLimit =>
    dsimp only [Adapter.call]
    unfold Adapter.macPgEfuseByMap
    match hcheck : Adapter.checkInfo info
        (if isLimit then hw.limitEfuseSize else hw.logEfuseSize) with
    | .success =>
      dsimp only
      match hver : compareVersion info hw.efuseVersionSize with
      | .success =>
        exact (inState_cases (Option.some_ne_none _).symm).imp_right fun h => ⟨hcheck, h.2⟩
      | .efuseSize | .nptr | .verErr | .procBusy | .procErr | .sysSteErr | .bufAlloc
      | .efuseRead | .efuseParse | .efuseWrite => exact .inl ⟨fun h => (nomatch h), fun k => rfl⟩
    | .efuseSize | .nptr | .verErr | .procBusy | .procErr | .sysSteErr | .bufAlloc
    | .efuseRead | .efuseParse | .efuseWrite => exact .inl ⟨fun h => (nomatch h), fun k => rfl⟩
  | pgByMapBt ans info =>
    dsimp only [Adapter.call]
    unfold Adapter.macPgEfuseByMapBt
    match hcheck : Adapter.checkInfo info hw.btLogEfuseSize with
    | .success => exact (inState_cases (Option.some_ne_none _).symm).imp_right fun h => ⟨hcheck, h.2⟩
    | .efuseSize | .nptr | .verErr | .procBusy | .procErr | .sysSteErr | .bufAlloc
    | .efuseRead | .efuseParse | .efuseWrite => exact .inl ⟨fun h => (nomatch h), fun k => rfl⟩

namespace Call

/-- How the writes of a call may be cut: behind the header of an entry, or before
it; and for a map, the words of the entry behind the one being written were
`0xFFFF`. -/
def Safe (hw : HwInfo) (log phyMap : ℕ → UInt8) : Call → Prop
  | .writeLog ans addr _ => ByteSafe (hw.isBt .wifi) addr ans.cut
  | .writeLogBt ans addr _ => ByteSafe (hw.isBt .bt) addr ans.cut
  | .pgByMap ans info part _ =>
    let info := if part then adjustMask info else info
    ∀ c, pgCut hw .wifi info log phyMap ans.cut = some c →
      c.Harmless (hw.isBt .wifi) (updatedMask info log (maskMapOf hw .wifi phyMap)) log
  | .pgByMapBt ans info =>
    ∀ c, pgCut hw .bt info log phyMap ans.cut = some c →
      c.Harmless (hw.isBt .bt) (updatedMask info log (maskMapOf hw .bt phyMap)) log

def word (hw : HwInfo) (log phyMap : ℕ → UInt8) : Call → ℕ
  | .writeLog _ addr _ | .writeLogBt _ addr _ => addr / 2
  | .pgByMap ans info part _ =>
    let info := if part then adjustMask info else info
    ((pgCut hw .wifi info log phyMap ans.cut).map
      (Cut.word (hw.isBt .wifi) (updatedMask info log (maskMapOf hw .wifi phyMap)))).getD 0
  | .pgByMapBt ans info =>
    ((pgCut hw .bt info log phyMap ans.cut).map
      (Cut.word (hw.isBt .bt) (updatedMask info log (maskMapOf hw .bt phyMap)))).getD 0

end Call

lemma requested_adjustMask (hmask : info.efuseMaskSize = info.efuseMapSize / 16)
    (hline : info.efuseMapSize % 16 = 0) :
    requested (adjustMask info) (selected (adjustMask info).efuseMask) log =
      requested info
        (fun o => !decide (info.efuseMap (2 * (o / 2)) = 0xFF ∧ info.efuseMap (2 * (o / 2) + 1) = 0xFF))
        log := by
  funext o
  unfold requested
  by_cases ho : o < info.efuseMapSize
  · rw [selected_adjustMask (by omega)]
    rfl
  · rw [if_neg fun h => ho h.1, if_neg fun h => ho h.1]

lemma Call.leaves (hv : c.Valid hw) (h : Programmed hw c.bank s e log)
    (hcut : s.cut = c.ans.cut) (cells : Cells) :
    Leaves hw c.bank s e log (c.intended log) (c.Safe hw log s.phy) (c.word hw log s.phy)
      (c.proc hw cells s) := by
  cases c with
  | writeLog ans addr val =>
    have hleaves := h.procWriteLogEfuse cells ans hv val
    rw [hcut] at hleaves
    exact hleaves
  | writeLogBt ans addr val =>
    have hleaves := h.procWriteLogEfuse cells ans hv val
    rw [hcut] at hleaves
    exact hleaves
  | pgByMap ans info part isLimit =>
    have hsize : (if isLimit then hw.limitEfuseSize else hw.logEfuseSize) ≤ hw.logMapSize .wifi := by
      cases isLimit
      · exact Nat.le_refl _
      · exact hw.limit_le
    have hbt : decide ((if isLimit then hw.limitEfuseSize else hw.logEfuseSize) =
        hw.btLogEfuseSize) = hw.isBt .wifi := by
      rw [isBt_wifi]
      cases isLimit
      · exact decide_eq_false hw.log_ne_btLog
      · exact decide_eq_false hw.limit_ne_btLog
    obtain ⟨hfit, hmask⟩ := fits_of_checkInfo .wifi hv hsize hbt
    cases part with
    | false =>
      have hleaves := h.procPgEfuseByMap cells ans hfit
      rw [hcut] at hleaves
      exact hleaves
    | true =>
      have hadjust : Fits hw .wifi (adjustMask info) := ⟨hfit.isBt, hfit.line, hfit.size⟩
      have hleaves := h.procPgEfuseByMap cells ans hadjust
      rw [hcut, requested_adjustMask hmask hfit.line] at hleaves
      exact hleaves
  | pgByMapBt ans info =>
    obtain ⟨hfit, -⟩ := fits_of_checkInfo .bt hv (Nat.le_refl _) rfl
    have hleaves := h.procPgEfuseByMap cells ans hfit
    rw [hcut] at hleaves
    exact hleaves

def Adapter.Blank (a : Adapter) : Prop :=
  ∀ k, (∀ i, (a.bank k).fuse i = none) ∧ (a.bank k).phyMapValid = false ∧
    (a.bank k).logMapValid = false

def FirstUnused (hw : HwInfo) (k : Bank) (s : BankState) (e : ℕ) : Prop :=
  Tight hw k s e ∧ ∀ i, e ≤ i → s.fuse i = none

lemma Programmed.of_blank (ha : a.Blank) (k : Bank) :
    Programmed hw k (a.bank k) (hw.secCtrlSize k) (fun _ => 0xFF) ∧
      Tight hw k (a.bank k) (hw.secCtrlSize k) := by
  obtain ⟨hfuse, hphy, hlog⟩ := ha k
  refine ⟨⟨⟨0, .nil _ _⟩, fun i _ => hfuse i, fun h => ?_, fun h => ?_⟩, fun i hi hlt => ?_⟩
  · rw [hphy] at h
    cases h
  · rw [hlog] at h
    cases h
  · exact absurd hlt (Nat.not_lt_of_le hi)

lemma Programmed.setCut (h : Programmed hw k s e log) (cut : Option (ℕ × Bool)) :
    Programmed hw k { s with cut := cut } e log :=
  ⟨h.entries, h.unused, h.phyMap, h.logMap⟩

def Succeeds (hw : HwInfo) (cells : Cells) (a : Adapter) (c : Call) : Prop :=
  (a.call hw cells c).1 = .success ∧ c.InRange hw

lemma Programmed.succeeds (hc : Succeeds hw cells a c)
    (h : Programmed hw k (a.bank k) e log) (htight : Tight hw k (a.bank k) e) :
    ∃ e', Programmed hw k ((a.step hw cells c).bank k) e'
        (if c.bank = k then c.intended log else log) ∧
      Tight hw k ((a.step hw cells c).bank k) e' := by
  obtain ⟨hret, hrange⟩ := hc
  rcases call_cases cells a hrange with ⟨hne, -⟩ | ⟨hv, hself, hother, hproc⟩
  · exact absurd hret hne
  by_cases hk : c.bank = k
  · subst hk
    obtain ⟨hdone, -, -⟩ := Call.leaves hv (h.setCut c.ans.cut) rfl cells
    rw [if_pos rfl, hself]
    obtain ⟨e', hprog, ht⟩ := hdone (hproc hret)
    exact ⟨e', hprog, ht htight⟩
  · rw [if_neg hk, hother k (Ne.symm hk)]
    exact ⟨e, h, htight⟩

/-- From blank fuses, after any calls that succeeded on addresses of their bank,
the next that succeeds is read back by the parser as the map before it with what
was asked for replaced, and the parser ends at the first byte not used. -/
theorem efuse_programming_inverse (ha : a.Blank) {cs : List Call}
    (h : Guarded (Adapter.step hw cells) (Succeeds hw cells) a (cs ++ [c])) (k : Bank) :
    ∃ e log e',
      eepromParser hw k .map ((run (Adapter.step hw cells) a cs).bank k).phy = some (e, log) ∧
      eepromParser hw k .map ((run (Adapter.step hw cells) a (cs ++ [c])).bank k).phy =
        some (e', if c.bank = k then c.intended log else log) ∧
      FirstUnused hw k ((run (Adapter.step hw cells) a (cs ++ [c])).bank k) e' := by
  obtain ⟨hcs, hc⟩ := h.split
  have hstep : ∀ b d, (∃ e log, Programmed hw k (b.bank k) e log ∧ Tight hw k (b.bank k) e) →
      Succeeds hw cells b d → ∃ e log, Programmed hw k ((b.step hw cells d).bank k) e log ∧
        Tight hw k ((b.step hw cells d).bank k) e := by
    rintro b d ⟨e, log, hprog, htight⟩ hd
    obtain ⟨e', hprog', htight'⟩ := hprog.succeeds hd htight
    exact ⟨e', _, hprog', htight'⟩
  have hinv := Guarded.invariant hstep ⟨_, _, Programmed.of_blank ha k⟩ hcs
  obtain ⟨e, log, hprog, htight⟩ := hinv
  obtain ⟨e', hprog', htight'⟩ := hprog.succeeds hc htight
  have hrun : run (Adapter.step hw cells) a (cs ++ [c]) =
      (run (Adapter.step hw cells) a cs).step hw cells c := by
    rw [run_append]
    rfl
  rw [hrun]
  exact ⟨e, log, e', hprog.parse, hprog'.parse, htight', hprog'.unused⟩

/-- A call whose writes, if they are cut, are cut harmlessly: on an address of
its bank, judged by the maps the fuse holds before it. -/
def CutSafe (hw : HwInfo) (a : Adapter) (c : Call) : Prop :=
  c.InRange hw ∧ ∀ e log,
    eepromParser hw c.bank .map (a.bank c.bank).phy = some (e, log) →
      c.Safe hw log (a.bank c.bank).phy

/-- Whatever stands behind `e` is read from its first byte as an entry. -/
def AtHeader (hw : HwInfo) (k : Bank) (phy : ℕ → UInt8) (e : ℕ) (log : ℕ → UInt8) : Prop :=
  ∀ phy' : ℕ → UInt8, (∀ i < e, phy' i = phy i) → ∃ fuel, eepromParser hw k .map phy' =
    parserLoop (hw.isBt k) (hw.phyMapSize k) (hw.logMapSize k) .map phy' (fuel + 1) e log

/-- What a call makes of the logical map of its bank: what it asked for if it
succeeds; else that, or nothing, or, if a write failed, what it asked for up to
the word being written. -/
def Survives (hw : HwInfo) (cells : Cells) (a : Adapter) (c : Call) (log log' : ℕ → UInt8) : Prop :=
  ((a.call hw cells c).1 = .success → log' = c.intended log) ∧
    (log' = log ∨ log' = c.intended log ∨
      (c.proc hw cells { a.bank c.bank with cut := c.ans.cut }).1 = .efuseWrite ∧
        ∀ o, o / 2 ≠ c.word hw log (a.bank c.bank).phy →
          log' o = if o / 2 < c.word hw log (a.bank c.bank).phy then c.intended log o else log o)

lemma Programmed.cutSafe (hc : CutSafe hw a c) (cells : Cells)
    (h : Programmed hw k (a.bank k) e log) :
    ∃ e' log', Programmed hw k ((a.step hw cells c).bank k) e' log' ∧
      (c.bank = k → Survives hw cells a c log log') ∧ (c.bank ≠ k → log' = log) := by
  obtain ⟨hrange, hsafe⟩ := hc
  rcases call_cases cells a hrange with ⟨hne, hsame⟩ | ⟨hv, hself, hother, hproc⟩
  · refine ⟨e, log, ?_, fun _ => ⟨fun hret => absurd hret hne, .inl rfl⟩, fun _ => rfl⟩
    rw [hsame k]
    exact h
  by_cases hk : c.bank = k
  · subst hk
    have hleaves := Call.leaves hv (h.setCut c.ans.cut) rfl cells
    rw [hself]
    by_cases hsucc : (c.proc hw cells { a.bank c.bank with cut := c.ans.cut }).1 = .success
    · obtain ⟨e', hprog, -⟩ := hleaves.done hsucc
      exact ⟨e', _, hprog, fun _ => ⟨fun _ => rfl, .inr (.inl rfl)⟩, fun hne => absurd rfl hne⟩
    by_cases hwrite : (c.proc hw cells { a.bank c.bank with cut := c.ans.cut }).1 = .efuseWrite
    · obtain ⟨e', log', hprog, hlog⟩ := hleaves.cut hwrite (hsafe e log h.parse)
      exact ⟨e', log', hprog,
        fun _ => ⟨fun hret => absurd (hproc hret) hsucc, .inr (.inr ⟨hwrite, hlog⟩)⟩,
        fun hne => absurd rfl hne⟩
    · exact ⟨e, log, hleaves.other hsucc hwrite,
        fun _ => ⟨fun hret => absurd (hproc hret) hsucc, .inl rfl⟩, fun hne => absurd rfl hne⟩
  · rw [hother k (Ne.symm hk)]
    exact ⟨e, log, h, fun hself => absurd hself hk, fun _ => rfl⟩

/-- From blank fuses, after any calls, whether they succeed or fail, that are cut
harmlessly if at all, the next one leaves fuses that parse, changes no byte
outside the word being written but to what was asked for, and what it asked for
is read back if it succeeds; the end found is where a header is read. -/
theorem efuse_programming_survives (ha : a.Blank) {cs : List Call}
    (h : Guarded (Adapter.step hw cells) (CutSafe hw) a (cs ++ [c])) (k : Bank) :
    ∃ e log e' log',
      eepromParser hw k .map ((run (Adapter.step hw cells) a cs).bank k).phy = some (e, log) ∧
      eepromParser hw k .map ((run (Adapter.step hw cells) a (cs ++ [c])).bank k).phy =
        some (e', log') ∧
      AtHeader hw k ((run (Adapter.step hw cells) a (cs ++ [c])).bank k).phy e' log' ∧
      (c.bank = k → Survives hw cells (run (Adapter.step hw cells) a cs) c log log') ∧
      (c.bank ≠ k → log' = log) := by
  obtain ⟨hcs, hc⟩ := h.split
  have hstep : ∀ b d, (∃ e log, Programmed hw k (b.bank k) e log) → CutSafe hw b d →
      ∃ e log, Programmed hw k ((b.step hw cells d).bank k) e log := by
    rintro b d ⟨e, log, hprog⟩ hd
    obtain ⟨e', log', hprog', -, -⟩ := hprog.cutSafe hd cells
    exact ⟨e', log', hprog'⟩
  obtain ⟨e, log, hprog⟩ :=
    Guarded.invariant hstep ⟨_, _, (Programmed.of_blank ha k).1⟩ hcs
  obtain ⟨e', log', hprog', hself, hother⟩ := hprog.cutSafe hc cells
  have hrun : run (Adapter.step hw cells) a (cs ++ [c]) =
      (run (Adapter.step hw cells) a cs).step hw cells c := by
    rw [run_append]
    rfl
  rw [hrun]
  exact ⟨e, log, e', log', hprog.parse, hprog'.parse, fun phy' hagree => hprog'.resume hagree,
    hself, hother⟩

end Calls

section Run

def blankBank : BankState where
  fuse := fun _ => none
  phyMap := fun _ => 0
  phyMapValid := false
  logMap := fun _ => 0
  logMapValid := false
  efuseEnd := 0
  cut := none

def blankAdapter : Adapter := ⟨.idle, blankBank, blankBank⟩

lemma blankAdapter_blank : blankAdapter.Blank := by
  intro k
  cases k <;> exact ⟨fun i => rfl, rfl, rfl⟩

def fuseCells : Cells := ⟨fun old value => old &&& value⟩

def answers (cut : Option (ℕ × Bool)) : Answers where
  cnvStart := true
  cnvEnd := true
  alloc := fun _ => true
  readHwEfuse := true
  heap := fun _ => 0xAA
  cut := cut

/-- A BT map with the word at `0x104` selected. -/
def oneWord : PgEfuseInfo where
  efuseMap := fun o => if o = 0x105 then 0x77 else 0x66
  efuseMapSize := 1024
  efuseMask := fun k => if k = 0x10 then 0x40 else 0
  efuseMaskSize := 64
  nullMap := false
  nullMask := false

set_option maxRecDepth 20000 in
theorem efuse_programming_inverse_oneWord :
    ∃ e log e',
      eepromParser mac8851b .bt .map ((run (Adapter.step mac8851b fuseCells) blankAdapter
        [.pgByMapBt (answers none) oneWord]).bank .bt).phy = some (e, log) ∧
      eepromParser mac8851b .bt .map ((run (Adapter.step mac8851b fuseCells) blankAdapter
        ([.pgByMapBt (answers none) oneWord] ++ [.writeLogBt (answers none) 5 0x34])).bank .bt).phy =
        some (e', if (Call.writeLogBt (answers none) 5 0x34).bank = .bt then
          (Call.writeLogBt (answers none) 5 0x34).intended log else log) ∧
      FirstUnused mac8851b .bt ((run (Adapter.step mac8851b fuseCells) blankAdapter
        ([.pgByMapBt (answers none) oneWord] ++ [.writeLogBt (answers none) 5 0x34])).bank .bt) e' := by
  have hrun : Guarded (Adapter.step mac8851b fuseCells) (Succeeds mac8851b fuseCells) blankAdapter
      ([.pgByMapBt (answers none) oneWord] ++ [.writeLogBt (answers none) 5 0x34]) := by
    refine ⟨⟨?_, trivial⟩, ⟨?_, ?_⟩, trivial⟩
    · decide
    · decide
    · exact (by decide : 5 < 1024)
  exact efuse_programming_inverse blankAdapter_blank hrun .bt

/-- An address behind the BT map is accepted, and its entry is that of another byte. -/
theorem write_log_efuse_bt_wraps :
    (blankAdapter.call mac8851b fuseCells (.writeLogBt (answers none) 1030 0x12)).1 = .success ∧
      (eepromParser mac8851b .bt .map (blankAdapter.bank .bt).phy).map (fun p => p.2 6) =
        some 0xFF ∧
      (eepromParser mac8851b .bt .map ((blankAdapter.step mac8851b fuseCells
        (.writeLogBt (answers none) 1030 0x12)).bank .bt).phy).map (fun p => p.2 6) =
        some 0x12 := by
  decide

theorem efuse_programming_survives_cut :
    ∃ e log e' log',
      eepromParser mac8851b .wifi .map ((run (Adapter.step mac8851b fuseCells) blankAdapter
        [.writeLog (answers (some (2, false))) 5 0x34]).bank .wifi).phy = some (e, log) ∧
      eepromParser mac8851b .wifi .map ((run (Adapter.step mac8851b fuseCells) blankAdapter
        ([.writeLog (answers (some (2, false))) 5 0x34] ++
          [.writeLog (answers none) 5 0x34])).bank .wifi).phy = some (e', log') ∧
      AtHeader mac8851b .wifi ((run (Adapter.step mac8851b fuseCells) blankAdapter
        ([.writeLog (answers (some (2, false))) 5 0x34] ++
          [.writeLog (answers none) 5 0x34])).bank .wifi).phy e' log' ∧
      ((Call.writeLog (answers none) 5 0x34).bank = .wifi →
        Survives mac8851b fuseCells (run (Adapter.step mac8851b fuseCells) blankAdapter
          [.writeLog (answers (some (2, false))) 5 0x34]) (.writeLog (answers none) 5 0x34) log
          log') ∧
      ((Call.writeLog (answers none) 5 0x34).bank ≠ .wifi → log' = log) := by
  have hrun : Guarded (Adapter.step mac8851b fuseCells) (CutSafe mac8851b) blankAdapter
      ([.writeLog (answers (some (2, false))) 5 0x34] ++ [.writeLog (answers none) 5 0x34]) := by
    refine ⟨⟨trivial, fun e log _ idx stored hcut => ?_⟩, ⟨trivial, fun e log _ idx stored hcut => ?_⟩,
      trivial⟩
    · cases hcut
      exact .inr (by decide)
    · cases hcut
  exact efuse_programming_survives blankAdapter_blank hrun .wifi

/-- After a cut behind the first header byte the next byte programmed is not
read back, though the call succeeds. -/
theorem lone_header_byte_swallows_entry :
    ((blankAdapter.step mac8851b fuseCells (.writeLog (answers (some (1, false))) 0 0x12)).call
        mac8851b fuseCells (.writeLog (answers none) 0 0x12)).1 = .success ∧
      (eepromParser mac8851b .wifi .map ((run (Adapter.step mac8851b fuseCells) blankAdapter
        [.writeLog (answers (some (1, false))) 0 0x12,
          .writeLog (answers none) 0 0x12]).bank .wifi).phy).map (fun p => p.2 0) = some 0xFF := by
  decide

end Run

end Efuse

end Rtl8831.Mac
