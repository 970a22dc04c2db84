import Rtl8831.Phl.RxWd

/-!
# Taking a bulk-in transfer apart

`phl_get_single_rx` walks over a transfer, one descriptor and its packet at a
time.  Each turn takes a `phl_rx` from the pool, has the HAL parse the descriptor
where the walk stands, and moves on by the aligned length of what was found.

The pool is a parameter: what the `i`-th query gives, if anything.  The copy of a
packet into a buffer of its own and the count of the packets that stay in the
transfer change neither the walk nor the place of a packet in the transfer.
-/

namespace Rtl8831.Phl.RxDeagg

open List

open RxWd (RxscEntry RMetaData Build)

/-- The `s32` with the low bits of `x`. -/
def toS32 (x : ℤ) : ℤ := (x + 2147483648) % 4294967296 - 2147483648

/-- The `u32` with the low bits of `x`. -/
def toU32 (x : ℤ) : ℕ := (x % 4294967296).toNat

/-- `_ALIGN(len, 8)` -/
def align8 (n : ℕ) : ℕ := (n + 7) / 8 * 8

inductive PhlStatus where
  | success
  | failure
  | resource
  deriving DecidableEq

structure Piece where
  desc : ℕ
  rx : RxWd.RxPkt

def Piece.stop (p : Piece) : ℕ := p.rx.virAddr + p.rx.length

/-- The locals of `phl_get_single_rx`; the list is that of `phl_rxhead`. -/
structure Walk where
  rxscEntry : RxscEntry
  pktBuf : ℕ
  transferLen : ℤ
  rxList : List Piece
  pstatus : PhlStatus

section Loop

variable (b : Build) (mem : ℕ → UInt8)

def alignOffset (pktBuf : ℕ) (rx : RxWd.RxPkt) : ℕ :=
  let pktOffset := rx.virAddr - pktBuf + rx.length
  let align := if b.usbRxAggregation then align8 pktOffset else pktOffset
  if b.csumOffloadRx ∧ rx.mdata.chksumOfldEn ≠ 0 then align + 8 else align

def turn (query : Option RxWd.RxPkt) (s : Walk) : Walk × Bool :=
  match query with
  | none => ({ s with pstatus := .resource }, false)
  | some phlRx =>
    match RxWd.halHandleRxBuffer b mem s.rxscEntry s.pktBuf (toU32 s.transferLen) phlRx with
    | (e, none) => ({ s with rxscEntry := e, pstatus := .failure }, false)
    | (e, some rx) =>
      let left := toS32 (s.transferLen - alignOffset b s.pktBuf rx)
      ({ rxscEntry := e
         pktBuf := s.pktBuf + alignOffset b s.pktBuf rx
         transferLen := left
         rxList := s.rxList ++ [⟨s.pktBuf, rx⟩]
         pstatus := .success }, decide (0 < left))

lemma turn_some (s : Walk) (phlRx : RxWd.RxPkt) :
    turn b mem (some phlRx) s =
      match RxWd.halHandleRxBuffer b mem s.rxscEntry s.pktBuf (toU32 s.transferLen) phlRx with
      | (e, none) => ({ s with rxscEntry := e, pstatus := .failure }, false)
      | (e, some rx) =>
        ({ rxscEntry := e
           pktBuf := s.pktBuf + alignOffset b s.pktBuf rx
           transferLen := toS32 (s.transferLen - alignOffset b s.pktBuf rx)
           rxList := s.rxList ++ [⟨s.pktBuf, rx⟩]
           pstatus := .success },
          decide (0 < toS32 (s.transferLen - alignOffset b s.pktBuf rx))) := rfl

def walk (query : ℕ → Option RxWd.RxPkt) : ℕ → ℕ → Walk → Option Walk
  | 0, _, _ => none
  | fuel + 1, i, s =>
    match turn b mem (query i) s with
    | (s, true) => walk query fuel (i + 1) s
    | (s, false) => some s

/-- `phl_get_single_rx` on a transfer of `len` bytes. -/
def phlGetSingleRx (query : ℕ → Option RxWd.RxPkt) (e : RxscEntry) (len : UInt32) (fuel : ℕ) :
    Option Walk :=
  walk b mem query fuel 0
    { rxscEntry := e
      pktBuf := 0
      transferLen := toS32 len.toNat
      rxList := []
      pstatus := .failure }

end Loop

section Descriptor

variable (mem : ℕ → UInt8) (desc : ℕ)

def head : RMetaData := RxWd.parseHead mem desc .cleared

def packetStart : ℕ := RxWd.pktStart desc (head mem desc)

def packetLen : ℕ := (head mem desc).pktlen

/-- The descriptor describes an empty packet, or one that reaches past `len`. -/
def Malformed (len : ℕ) : Prop :=
  packetLen mem desc = 0 ∨ len < packetStart mem desc + packetLen mem desc

end Descriptor

def headOf (m : RMetaData) : List ℕ :=
  [m.pktlen, m.shift, m.bbSel, m.macInfoVld, m.rpktType, m.drvInfoSize, m.longRxd]

lemma pktStart_congr {m m' : RMetaData} (desc : ℕ) (h : headOf m = headOf m') :
    RxWd.pktStart desc m = RxWd.pktStart desc m' ∧ m.pktlen = m'.pktlen ∧
      RxWd.descSize m = RxWd.descSize m' ∧ m.rpktType = m'.rpktType := by
  simp only [headOf, cons.injEq, and_true] at h
  obtain ⟨hlen, hshift, -, hvld, htype, hdrv, hlong⟩ := h
  have hsize : RxWd.descSize m = RxWd.descSize m' := by rw [RxWd.descSize, hlong, RxWd.descSize]
  refine ⟨?_, hlen, hsize, htype⟩
  rw [RxWd.pktStart, hshift, hdrv, hsize, hvld, htype, RxWd.pktStart]

lemma headOf_parseFull (mem : ℕ → UInt8) (desc : ℕ) (m : RMetaData) :
    headOf (RxWd.parseFull mem desc m) = headOf m := by
  rw [RxWd.parseFull]
  split_ifs
  · rfl
  · rfl

lemma headOf_halCheckRxscRdy (mem : ℕ → UInt8) (desc : ℕ) (e : RxscEntry) (m : RMetaData) :
    headOf (RxWd.halCheckRxscRdy mem desc e m).2.1 = headOf m := by
  rw [RxWd.halCheckRxscRdy]
  split_ifs
  · rfl
  · rfl

lemma halParsingRxWdDesc_spec (mem : ℕ → UInt8) (desc : ℕ) (rxsc : Bool) (e : RxscEntry)
    (m : RMetaData) {e' : RxscEntry} {m' : RMetaData} {ok : Bool}
    (h : RxWd.halParsingRxWdDesc mem desc rxsc e m = (e', m', ok)) :
    headOf m' = headOf (head mem desc) ∧
      (ok = false → m'.pktlen = 0) ∧
      (ok = true → m'.pktlen = 0 → rxsc = true ∧ m'.rpktType = RxWd.pktTWifi) := by
  have hfull : ∀ (e₁ : RxscEntry) (m₁ m₂ : RMetaData), headOf m₁ = headOf (head mem desc) →
      headOf m₂ = headOf m₁ → (e₁, m₂, decide (m₁.pktlen ≠ 0)) = (e', m', ok) →
      headOf m' = headOf (head mem desc) ∧ (ok = false → m'.pktlen = 0) ∧
        (ok = true → m'.pktlen = 0 → rxsc = true ∧ m'.rpktType = RxWd.pktTWifi) := by
    rintro e₁ m₁ m₂ h₁ h₂ heq
    obtain ⟨rfl, rfl, rfl⟩ : e₁ = e' ∧ m₂ = m' ∧ decide (m₁.pktlen ≠ 0) = ok := by
      simpa only [Prod.mk.injEq] using heq
    have hlen : m₂.pktlen = m₁.pktlen := (pktStart_congr desc h₂).2.1
    refine ⟨h₂.trans h₁, fun hok => ?_, fun hok hzero => ?_⟩
    · rw [hlen]
      exact not_not.1 (of_decide_eq_false hok)
    · exact absurd (hlen ▸ hzero) (of_decide_eq_true hok)
  rw [RxWd.halParsingRxWdDesc] at h
  dsimp only at h
  split_ifs at h with htype hshort
  · have hkeep := headOf_halCheckRxscRdy mem desc e
      (RxWd.parsePpdu mem desc (RxWd.parseHead mem desc m))
    rcases hcheck : RxWd.halCheckRxscRdy mem desc e
      (RxWd.parsePpdu mem desc (RxWd.parseHead mem desc m)) with ⟨e₁, m₁, hit⟩
    rw [hcheck] at h hkeep
    have hhead : headOf m₁ = headOf (head mem desc) := hkeep
    cases hit with
    | true =>
      obtain ⟨rfl, rfl, rfl⟩ : e₁ = e' ∧ m₁ = m' ∧ true = ok := by
        simpa only [Prod.mk.injEq] using h
      refine ⟨hhead, fun hok => absurd hok.symm Bool.false_ne_true, fun _ _ => ⟨hshort.1, ?_⟩⟩
      exact ((pktStart_congr desc hkeep).2.2.2).trans hshort.2.2
    | false => exact hfull e₁ m₁ _ hhead (headOf_parseFull mem desc m₁) h
  · exact hfull _ (RxWd.parsePpdu mem desc (RxWd.parseHead mem desc m)) _ rfl
      (headOf_parseFull mem desc _) h
  · exact hfull _ (RxWd.parseHead mem desc m) _ rfl rfl h

section Handle

variable {b : Build} {mem : ℕ → UInt8} {e e' : RxscEntry} {buf bufLen : ℕ} {rx rx' : RxWd.RxPkt}

lemma packetLen_lt (mem : ℕ → UInt8) (desc : ℕ) : packetLen mem desc < 16384 :=
  RxWd.leBitsTo4Byte_lt mem desc 0 14

lemma rxType_wifi (dfs : Bool) (old : RxWd.RxType) : RxWd.rxType dfs RxWd.pktTWifi old = .wifi :=
  rfl

lemma halHandleRxBuffer_some
    (h : RxWd.halHandleRxBuffer b mem e buf bufLen rx = (e', some rx')) :
    rx'.virAddr = packetStart mem buf ∧ rx'.length = packetLen mem buf ∧
      RxWd.descSize rx'.mdata = RxWd.descSize (head mem buf) ∧
      rx'.virAddr + rx'.length ≤ buf + bufLen ∧
      (rx'.length = 0 → b.rxscAmpdu = true ∧ rx'.type = .wifi) := by
  rw [RxWd.halHandleRxBuffer, RxWd.halParsingRxWd] at h
  rcases hparse : RxWd.halParsingRxWdDesc mem buf b.rxscAmpdu e rx.mdata with ⟨e₁, m, ok⟩
  obtain ⟨hhead, -, hempty⟩ := halParsingRxWdDesc_spec mem buf b.rxscAmpdu e rx.mdata hparse
  obtain ⟨hstart, hlen, hsize, -⟩ := pktStart_congr buf hhead
  have hmod : m.pktlen % 65536 = m.pktlen := by
    have hlt := packetLen_lt mem buf
    rw [packetLen, ← hlen] at hlt
    omega
  rw [hparse] at h
  cases ok with
  | false => exact absurd (Prod.mk.inj h).2 (Option.some_ne_none rx').symm
  | true =>
    dsimp only at h
    rw [hmod] at h
    split_ifs at h with hfit
    · exact absurd (Prod.mk.inj h).2 (Option.some_ne_none rx').symm
    · obtain rfl := Option.some.inj (Prod.mk.inj h).2
      refine ⟨hstart, hlen, hsize, Nat.le_of_not_lt hfit, fun hzero => ?_⟩
      obtain ⟨hrxsc, htype⟩ := hempty rfl hzero
      dsimp only
      rw [htype]
      exact ⟨hrxsc, rxType_wifi b.dfs rx.type⟩

lemma halHandleRxBuffer_none
    (h : RxWd.halHandleRxBuffer b mem e buf bufLen rx = (e', none)) :
    Malformed mem buf (buf + bufLen) := by
  rw [RxWd.halHandleRxBuffer, RxWd.halParsingRxWd] at h
  rcases hparse : RxWd.halParsingRxWdDesc mem buf b.rxscAmpdu e rx.mdata with ⟨e₁, m, ok⟩
  obtain ⟨hhead, hrefused, -⟩ := halParsingRxWdDesc_spec mem buf b.rxscAmpdu e rx.mdata hparse
  obtain ⟨hstart, hlen, -, -⟩ := pktStart_congr buf hhead
  rw [hparse] at h
  cases ok with
  | false => exact .inl (hlen.symm.trans (hrefused rfl))
  | true =>
    dsimp only at h
    split_ifs at h with hfit
    · refine .inr ?_
      rw [packetStart, packetLen, ← hstart, ← hlen]
      exact Nat.lt_of_lt_of_le hfit (Nat.add_le_add_left (Nat.mod_le _ _) _)
    · exact absurd (Prod.mk.inj h).2 (Option.some_ne_none _)

end Handle

lemma descSize_le_packetStart (mem : ℕ → UInt8) (desc : ℕ) :
    desc + RxWd.descSize (head mem desc) ≤ packetStart mem desc ∧
      packetStart mem desc ≤ desc + 98 := by
  have hshift : (head mem desc).shift < 4 := RxWd.leBitsTo4Byte_lt mem desc 14 2
  have hdrv : (head mem desc).drvInfoSize < 8 := RxWd.leBitsTo4Byte_lt mem desc 28 3
  have hsize : RxWd.descSize (head mem desc) = 16 ∨ RxWd.descSize (head mem desc) = 32 := by
    rw [RxWd.descSize]
    split_ifs
    · exact .inl rfl
    · exact .inr rfl
  rw [packetStart, RxWd.pktStart]
  split_ifs
  · omega
  · omega

/-- The packets found so far: each one is what its descriptor describes, lies behind it
and inside the transfer, and ends where the walk stands or before. -/
structure Found (b : Build) (mem : ℕ → UInt8) (len : ℕ) (s : Walk) : Prop where
  describes : ∀ p ∈ s.rxList, p.rx.virAddr = packetStart mem p.desc ∧
    p.rx.length = packetLen mem p.desc ∧
    RxWd.descSize p.rx.mdata = RxWd.descSize (head mem p.desc)
  behind : ∀ p ∈ s.rxList, p.desc + RxWd.descSize p.rx.mdata ≤ p.rx.virAddr
  inside : ∀ p ∈ s.rxList, p.stop ≤ len
  passed : ∀ p ∈ s.rxList, p.stop ≤ s.pktBuf
  apart : s.rxList.Pairwise fun p q => p.stop ≤ q.desc
  empty : ∀ p ∈ s.rxList, p.rx.length = 0 → b.rxscAmpdu = true ∧ p.rx.type = .wifi

structure Turning (b : Build) (mem : ℕ → UInt8) (len : ℕ) (s : Walk) : Prop
    extends Found b mem len s where
  left : toU32 s.transferLen = len - s.pktBuf
  le : s.pktBuf ≤ len

def Stopped (mem : ℕ → UInt8) (len : ℕ) (query : ℕ → Option RxWd.RxPkt) (s : Walk) : Prop :=
  match s.pstatus with
  | .success => len ≤ s.pktBuf ∨ 2147483648 ≤ len
  | .failure => Malformed mem s.pktBuf len
  | .resource => ∃ i, query i = none

section Walk

variable {b : Build} {mem : ℕ → UInt8} {len : ℕ} {s : Walk}

lemma toU32_toS32 (x : ℤ) : toU32 (toS32 x) = toU32 x := by
  unfold toU32 toS32
  omega

lemma le_align8 (n : ℕ) : n ≤ align8 n ∧ align8 n < n + 8 := by
  unfold align8
  omega

lemma alignOffset_bounds (buf : ℕ) (rx : RxWd.RxPkt) :
    rx.virAddr - buf + rx.length ≤ alignOffset b buf rx ∧
      alignOffset b buf rx < rx.virAddr - buf + rx.length + 16 := by
  have halign := le_align8 (rx.virAddr - buf + rx.length)
  unfold alignOffset
  dsimp only
  split_ifs
  all_goals omega

lemma Turning.found (h : Turning b mem len s) {e : RxscEntry} {rx rx₀ : RxWd.RxPkt}
    (hrx : RxWd.halHandleRxBuffer b mem s.rxscEntry s.pktBuf (toU32 s.transferLen) rx₀ =
      (e, some rx)) (left : ℤ) :
    s.pktBuf < rx.virAddr ∧ rx.virAddr + rx.length ≤ len ∧
      Found b mem len
        { rxscEntry := e
          pktBuf := s.pktBuf + alignOffset b s.pktBuf rx
          transferLen := left
          rxList := s.rxList ++ [⟨s.pktBuf, rx⟩]
          pstatus := .success } := by
  obtain ⟨hstart, hlength, hsize, hfit, hempty⟩ := halHandleRxBuffer_some hrx
  have hle := h.le
  rw [h.left] at hfit
  have hbehind := (descSize_le_packetStart mem s.pktBuf).1
  rw [← hstart, ← hsize] at hbehind
  have hpos : 0 < RxWd.descSize rx.mdata := by
    rw [RxWd.descSize]
    split_ifs <;> decide
  have hmove := (alignOffset_bounds s.pktBuf rx : _ ≤ alignOffset b s.pktBuf rx ∧ _).1
  have hmem : ∀ {p : Piece}, p ∈ s.rxList ++ [⟨s.pktBuf, rx⟩] →
      p ∈ s.rxList ∨ p = ⟨s.pktBuf, rx⟩ := fun hp =>
    (mem_append.1 hp).imp_right mem_singleton.1
  refine ⟨by omega, by omega, ⟨fun p hp => ?_, fun p hp => ?_, fun p hp => ?_, fun p hp => ?_, ?_,
    fun p hp hzero => ?_⟩⟩
  · rcases hmem hp with hp | rfl
    · exact h.describes p hp
    · exact ⟨hstart, hlength, hsize⟩
  · rcases hmem hp with hp | rfl
    · exact h.behind p hp
    · exact hbehind
  · rcases hmem hp with hp | rfl
    · exact h.inside p hp
    · dsimp only [Piece.stop]
      omega
  · rcases hmem hp with hp | rfl
    · exact Nat.le_add_right_of_le (h.passed p hp)
    · dsimp only [Piece.stop]
      omega
  · refine pairwise_append.2 ⟨h.apart, pairwise_singleton _ _, fun p hp q hq => ?_⟩
    rw [mem_singleton.1 hq]
    exact h.passed p hp
  · rcases hmem hp with hp | rfl
    · exact h.empty p hp hzero
    · exact hempty hzero

lemma turn_spec (h : Turning b mem len s) (hlen : len < 4294967296)
    {query : ℕ → Option RxWd.RxPkt} {i : ℕ} {s' : Walk} {more : Bool}
    (ht : turn b mem (query i) s = (s', more)) :
    Found b mem len s' ∧
      (more = true → Turning b mem len s' ∧ s.pktBuf < s'.pktBuf) ∧
      (more = false → Stopped mem len query s') := by
  have hle := h.le
  have hleft := h.left
  have hend : s.pktBuf + toU32 s.transferLen = len := by
    rw [hleft]
    omega
  cases hq : query i with
  | none =>
    rw [hq] at ht
    obtain ⟨rfl, rfl⟩ := Prod.mk.inj ht
    exact ⟨{ h.toFound with }, fun hf => absurd hf Bool.false_ne_true, fun _ => ⟨i, hq⟩⟩
  | some phlRx =>
    rw [hq, turn_some] at ht
    rcases hrx : RxWd.halHandleRxBuffer b mem s.rxscEntry s.pktBuf (toU32 s.transferLen) phlRx
      with ⟨e, _ | rx⟩
    · have hbad := halHandleRxBuffer_none hrx
      rw [hend] at hbad
      rw [hrx] at ht
      obtain ⟨rfl, rfl⟩ := Prod.mk.inj ht
      exact ⟨{ h.toFound with }, fun hf => absurd hf Bool.false_ne_true, fun _ => hbad⟩
    · obtain ⟨hpos, hfit, hfound⟩ := h.found hrx (toS32 (s.transferLen - alignOffset b s.pktBuf rx))
      obtain ⟨hlow, hhigh⟩ :=
        (alignOffset_bounds s.pktBuf rx : _ ≤ alignOffset b s.pktBuf rx ∧ _)
      rw [hrx] at ht
      obtain ⟨rfl, rfl⟩ := Prod.mk.inj ht
      refine ⟨hfound, fun hmore => ?_, fun hmore => ?_⟩
      · have hgt := of_decide_eq_true hmore
        rw [toS32] at hgt
        rw [toU32] at hleft
        refine ⟨{ hfound with left := ?_, le := ?_ }, ?_⟩
        · rw [toU32_toS32, toU32]
          dsimp only
          omega
        · dsimp only
          omega
        · dsimp only
          omega
      · have hgt := of_decide_eq_false hmore
        rw [toS32] at hgt
        rw [toU32] at hleft
        change _ ∨ _
        dsimp only
        omega

lemma walk_spec (hlen : len < 4294967296) {query : ℕ → Option RxWd.RxPkt} {fuel i : ℕ}
    (h : Turning b mem len s) (hfuel : len - s.pktBuf < fuel) :
    ∃ s', (∀ more, walk b mem query (fuel + more) i s = some s') ∧ Found b mem len s' ∧
      Stopped mem len query s' := by
  induction fuel generalizing i s with
  | zero => exact absurd hfuel (Nat.not_lt_zero _)
  | succ fuel ih =>
    rcases ht : turn b mem (query i) s with ⟨s₁, more⟩
    obtain ⟨hfound, hturn, hstop⟩ := turn_spec h hlen ht
    have hwalk : ∀ n, walk b mem query (fuel + 1 + n) i s =
        if more then walk b mem query (fuel + n) (i + 1) s₁ else some s₁ := fun n => by
      rw [Nat.add_right_comm, walk, ht]
      cases more <;> rfl
    cases more with
    | false => exact ⟨s₁, hwalk, hfound, hstop rfl⟩
    | true =>
      obtain ⟨hnext, hlt⟩ := hturn rfl
      have hle := hnext.le
      obtain ⟨s', hrun, hspec⟩ := ih (i := i + 1) hnext (by omega)
      exact ⟨s', fun n => (hwalk n).trans (hrun n), hspec⟩

end Walk

structure Before (p q : Piece) : Prop where
  desc : p.desc < q.desc
  pkt : p.rx.virAddr < q.rx.virAddr
  disjoint : p.stop ≤ q.desc

/-- What a walk over `len` bytes may leave behind. -/
structure Safe (b : Build) (mem : ℕ → UInt8) (len : ℕ) (query : ℕ → Option RxWd.RxPkt) (s : Walk) :
    Prop extends Found b mem len s where
  ordered : s.rxList.Pairwise Before
  stopped : Stopped mem len query s

/-- However a transfer is filled, the walk over it ends, and what it finds lies inside. -/
theorem usb_rx_deaggregation (b : Build) (mem : ℕ → UInt8) (query : ℕ → Option RxWd.RxPkt)
    (e : RxscEntry) (len : UInt32) :
    ∃ s, (∀ fuel, len.toNat < fuel → phlGetSingleRx b mem query e len fuel = some s) ∧
      Safe b mem len.toNat query s := by
  have hlen : len.toNat < 4294967296 := len.toNat_lt
  have hstart : Turning b mem len.toNat
      { rxscEntry := e, pktBuf := 0, transferLen := toS32 len.toNat, rxList := [],
        pstatus := .failure } :=
    { describes := fun _ hp => absurd hp not_mem_nil
      behind := fun _ hp => absurd hp not_mem_nil
      inside := fun _ hp => absurd hp not_mem_nil
      passed := fun _ hp => absurd hp not_mem_nil
      apart := List.Pairwise.nil
      empty := fun _ hp => absurd hp not_mem_nil
      left := by
        rw [toU32_toS32, toU32]
        dsimp only
        omega
      le := Nat.zero_le _ }
  obtain ⟨s, hrun, hfound, hstop⟩ := @walk_spec b mem len.toNat _ hlen query (len.toNat + 1) 0 hstart
    (Nat.lt_succ_self _)
  refine ⟨s, fun fuel hfuel => ?_, { hfound with ordered := ?_, stopped := hstop }⟩
  · obtain ⟨more, rfl⟩ := Nat.exists_eq_add_of_le hfuel
    exact hrun more
  · refine hfound.apart.imp_of_mem fun {p q} hp hq hpq => ?_
    have hp' := hfound.behind p hp
    have hq' := hfound.behind q hq
    have hpos : ∀ m, 16 ≤ RxWd.descSize m := fun m => by
      rw [RxWd.descSize]
      split_ifs <;> decide
    have hp16 := hpos p.rx.mdata
    have hq16 := hpos q.rx.mdata
    dsimp only [Piece.stop] at hpq
    exact ⟨by omega, by omega, hpq⟩

end Rtl8831.Phl.RxDeagg
