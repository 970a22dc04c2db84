import Rtl8831.Core.BrExtFrame
import Rtl8831.Lib.Run

/-!
# The address database over runs

The searches compare with a function that is true for equal strings as if it were `memcmp`, so an
entry matches every address but its own.  What the database should do it does only while the
chain in question holds no entry that counts.
-/

namespace Rtl8831.Core.Nat25

open Lib List Function
open Lib.Buckets (Sorted)

variable {Ptr : Type}

lemma nat25NetworkHash_lt (networkAddr : List UInt8) :
    nat25NetworkHash networkAddr < nat25HashSize := Nat.mod_lt _ (by decide)

def Hashed (s : BrExt Ptr) : Prop := Sorted (fun db => nat25NetworkHash db.networkAddr) s.nethash

def chain (s : BrExt Ptr) (networkAddr : List UInt8) : List (DbEntry Ptr) :=
  s.nethash (nat25NetworkHash networkAddr)

lemma Hashed.mem_chain {s : BrExt Ptr} (h : Hashed s) {db : DbEntry Ptr} (hdb : db ∈ entries s) :
    db ∈ chain s db.networkAddr := (h.mem_iff (nat25NetworkHash_lt _)).1 hdb

lemma mem_entries_of_chain {s : BrExt Ptr} {networkAddr : List UInt8} {db : DbEntry Ptr}
    (hdb : db ∈ chain s networkAddr) : db ∈ entries s :=
  Buckets.mem_contents.2 ⟨_, nat25NetworkHash_lt _, hdb⟩

section

variable [DecidableEq Ptr] {cfg : Config} {hz jiffies : UInt64} {s : BrExt Ptr}

/-! ### Chains -/

section

variable (h : Hashed s)
include h

lemma Hashed.writeEntry (ptr : Ptr) {f : DbEntry Ptr → DbEntry Ptr}
    (hf : ∀ db, (f db).networkAddr = db.networkAddr) : Hashed (writeEntry s ptr f) := by
  apply h.map
  intro db
  split_ifs
  · rw [hf]
  · rfl

lemma Hashed.insert (db : Option Ptr) (macAddr networkAddr : List UInt8) :
    Hashed (nat25DbNetworkInsert jiffies s db macAddr networkAddr) := by
  cases hfind : (s.nethash (nat25NetworkHash networkAddr)).find? (isMatch networkAddr) with
  | some ent =>
    simp only [nat25DbNetworkInsert, hfind]
    exact h.writeEntry _ fun _ => rfl
  | none =>
    simp only [nat25DbNetworkInsert, hfind]
    cases db with
    | none => exact h
    | some ptr => exact Sorted.update (x := ⟨ptr, 1, macAddr, jiffies, networkAddr⟩) h rfl .rfl

lemma Hashed.lookup (skb : Skb) (networkAddr : List UInt8) :
    Hashed (nat25DbNetworkLookupAndReplace hz jiffies s skb networkAddr).2.2 := by
  unfold nat25DbNetworkLookupAndReplace
  split
  · split_ifs
    · exact h
    · exact h.writeEntry _ fun _ => rfl
  · exact h

lemma Hashed.unlinkEntries {keep : DbEntry Ptr → Option (DbEntry Ptr)}
    (hkeep : ∀ f g, keep f = some g → g.networkAddr = f.networkAddr) :
    Hashed (unlinkEntries s keep) := by
  have hmap : Sorted (fun db => nat25NetworkHash db.networkAddr) fun i =>
      (s.nethash i).filterMap keep := h.filterMap fun f g hfg => by rw [hkeep f g hfg]
  unfold Nat25.unlinkEntries
  split_ifs <;> exact hmap

end

omit [DecidableEq Ptr] in
lemma expireEntry_some {f g : DbEntry Ptr} (h : expireEntry hz jiffies f = some g) :
    g.ptr = f.ptr ∧ g.macAddr = f.macAddr ∧ g.ageingTimer = f.ageingTimer ∧
      g.networkAddr = f.networkAddr := by
  unfold expireEntry at h
  split_ifs at h <;> cases h <;> exact ⟨rfl, rfl, rfl, rfl⟩

lemma Hashed.handleIp (h : Hashed s) (db : Option Ptr) (skb : Skb) (method : Method) :
    Hashed (nat25DbHandleIp cfg jiffies db s skb method).priv := by
  unfold nat25DbHandleIp
  by_cases hlen : skb.len ≤ skb.ipHlen
  · rw [if_pos hlen]
    exact h
  · rw [if_neg hlen]
    cases method with
    | check => exact h
    | insert =>
      dsimp only
      split_ifs
      · exact h
      · exact h.insert db _ _
    | lookup =>
      have hl := @Hashed.lookup _ _ cfg.hz jiffies _ h skb
        (nat25GenerateIpv4NetworkAddr skb.daddr)
      dsimp only
      split
      · rename_i heq
        rw [heq] at hl
        exact hl
      · rename_i heq
        rw [heq] at hl
        split_ifs <;> exact hl

variable {other : Method → BrExt Ptr → Skb → Outcome Ptr}

lemma nat25DbHandle_ip {skb : Skb} (hip : skb.protocol = ethPIp) (db : Option Ptr)
    (method : Method) :
    nat25DbHandle cfg jiffies db s skb other method =
      nat25DbHandleIp cfg jiffies db s skb method := if_pos hip

lemma Hashed.scdbUpdate (h : Hashed s) (skb : Skb) : Hashed (scdbUpdate jiffies s skb).2 := by
  unfold Nat25.scdbUpdate
  split_ifs
  · split
    · exact h
    · exact h.writeEntry _ fun _ => rfl
  · split
    · exact h.writeEntry _ fun _ => rfl
    · exact h
  · exact h

lemma Hashed.brClientTx (h : Hashed s) {skb : Skb} (hip : skb.protocol = ethPIp) (db : Option Ptr)
    (restore : Skb → Skb) (doNat25 : Bool) :
    Hashed (brClientTx cfg jiffies db s skb other restore doNat25).priv := by
  unfold Nat25.brClientTx
  rw [nat25DbHandle_ip hip]
  have hins := @Hashed.handleIp _ _ cfg jiffies _ h db skb .insert
  dsimp only
  split_ifs
  · exact hins
  · exact hins
  · exact hins
  · exact h

omit [DecidableEq Ptr] in
lemma Hashed.setBrIp (h : Hashed s) (skb : Skb) : Hashed (setBrIp s skb) := by
  unfold Nat25.setBrIp
  split_ifs <;> exact h

lemma Hashed.clientTx (h : Hashed s) {skb : Skb} (hip : (untag skb).1.protocol = ethPIp)
    (db : Option Ptr) : Hashed (rtwBrClientTx cfg jiffies db s skb other).priv := by
  unfold rtwBrClientTx
  split
  · exact h.writeEntry _ fun _ => rfl
  · exact ((h.setBrIp _).scdbUpdate _).brClientTx hip db _ _

lemma untag_fst (skb : Skb) :
    (untag skb).1 = if skb.protocol = ethP8021q then skb.stripVlan else skb := by
  unfold untag
  split_ifs <;> rfl

lemma Hashed.handleUntagged (h : Hashed s) {skb : Skb} (hip : skb.protocol = ethPIp)
    (db : Option Ptr) : Hashed (nat25HandleUntagged cfg jiffies db s skb other).priv := by
  unfold nat25HandleUntagged
  rw [nat25DbHandle_ip hip]
  have hlookup := @Hashed.handleIp _ _ cfg jiffies _ h db skb .lookup
  split_ifs <;> assumption

lemma Hashed.handleFrame (h : Hashed s) {skb : Skb} (hip : (untag skb).1.protocol = ethPIp)
    (db : Option Ptr) : Hashed (nat25HandleFrame cfg jiffies db s skb other).priv := by
  rw [untag_fst] at hip
  unfold nat25HandleFrame
  split_ifs with hmcast htag
  · exact h
  · rw [if_pos htag] at hip
    exact h.handleUntagged hip db
  · rw [if_neg htag] at hip
    exact h.handleUntagged hip db

/-! ### What the database should do -/

def Unique (s : BrExt Ptr) : Prop := ((entries s).map DbEntry.networkAddr).Nodup

def HasEntry (s : BrExt Ptr) (jiffies : UInt64) (macAddr networkAddr : List UInt8) : Prop :=
  ∃ db ∈ entries s, db.networkAddr = networkAddr ∧ db.macAddr = macAddr ∧ db.ageingTimer = jiffies

/-- `latest` gives the MAC address that was inserted last. -/
def LookupRight (hz jiffies : UInt64) (s : BrExt Ptr) (latest : List UInt8 → List UInt8)
    (skb : Skb) (networkAddr : List UInt8) (skb' : Skb) : Prop :=
  if ∃ db ∈ entries s, db.networkAddr = networkAddr ∧ nat25HasExpired hz jiffies db = false then
    skb' = skb.setDa (latest networkAddr)
  else skb' = skb

def Learns (skb : Skb) : Prop := skb.ipHlen < skb.len ∧ skb.saddr ≠ replicate 4 0

def Looks (cfg : Config) (s : BrExt Ptr) (skb : Skb) : Prop :=
  skb.isMcast = false ∧ skb.ipHlen < skb.len ∧ (cfg.nat25Disable → s.brIp ≠ skb.daddr)

instance (skb : Skb) : Decidable (Learns skb) := inferInstanceAs (Decidable (_ ∧ _))

structure Quiet (s : BrExt Ptr) (latest : List UInt8 → List UInt8) : Prop where
  hashed : Hashed s
  single : ∀ i, (s.nethash i).length ≤ 1
  latest : ∀ db ∈ entries s, latest db.networkAddr = db.macAddr ∧ db.macAddr.length = 6
  scdbEntry : s.scdbEntry = none
  scdbMac : s.scdbMac = replicate 6 0
  scdbIp : s.scdbIp = replicate 4 0

variable {latest : List UInt8 → List UInt8}

omit [DecidableEq Ptr] in
lemma Quiet.unique (h : Quiet s latest) : Unique s := by
  apply h.hashed.nodup_keys
  · intro x y hxy
    rw [hxy]
  · intro i
    have hone := h.single i
    match hi : s.nethash i with
    | [] => simp
    | [db] => simp
    | _ :: _ :: _ => simp [hi] at hone

omit [DecidableEq Ptr] in
lemma Quiet.congr (h : Quiet s latest) {s' : BrExt Ptr} (hnethash : s'.nethash = s.nethash)
    (hentry : s'.scdbEntry = s.scdbEntry) (hmac : s'.scdbMac = s.scdbMac)
    (hip : s'.scdbIp = s.scdbIp) : Quiet s' latest := by
  obtain ⟨nethash, scdbMac, scdbIp, scdbEntry, brMac, brIp⟩ := s
  obtain ⟨nethash', scdbMac', scdbIp', scdbEntry', brMac', brIp'⟩ := s'
  dsimp only at hnethash hentry hmac hip
  subst hnethash hentry hmac hip
  exact ⟨h.hashed, h.single, h.latest, h.scdbEntry, h.scdbMac, h.scdbIp⟩

/-! ### One call under the condition -/

lemma insert_of_empty (db : Option Ptr) (macAddr networkAddr : List UInt8)
    (h : chain s networkAddr = []) :
    nat25DbNetworkInsert jiffies s db macAddr networkAddr =
      match db with
      | none => s
      | some ptr =>
        networkHashLink s ⟨ptr, 1, macAddr, jiffies, networkAddr⟩
          (nat25NetworkHash networkAddr) := by
  unfold chain at h
  cases db <;> simp [nat25DbNetworkInsert, h]

lemma Quiet.insert (h : Quiet s latest) (db : Option Ptr) {macAddr networkAddr : List UInt8}
    (hempty : chain s networkAddr = []) (hmac : macAddr.length = 6) :
    Quiet (nat25DbNetworkInsert jiffies s db macAddr networkAddr)
      (update latest networkAddr macAddr) := by
  have hhashed := @Hashed.insert _ _ jiffies _ h.hashed db macAddr networkAddr
  rw [insert_of_empty db macAddr networkAddr hempty] at hhashed ⊢
  -- the address has no entry, so none of them is out of date
  have hother : ∀ ent ∈ entries s, update latest networkAddr macAddr ent.networkAddr =
      ent.macAddr ∧ ent.macAddr.length = 6 := by
    intro ent hent
    have hne : ent.networkAddr ≠ networkAddr := by
      rintro rfl
      have hchain := h.hashed.mem_chain hent
      rw [hempty] at hchain
      exact not_mem_nil hchain
    rw [update_of_ne hne]
    exact h.latest ent hent
  cases db with
  | none => exact ⟨h.hashed, h.single, hother, h.scdbEntry, h.scdbMac, h.scdbIp⟩
  | some ptr =>
    refine ⟨hhashed, fun i => ?_, fun ent hent => ?_, h.scdbEntry, h.scdbMac, h.scdbIp⟩
    · unfold chain at hempty
      change (update s.nethash _ _ i).length ≤ 1
      rcases eq_or_ne i (nat25NetworkHash networkAddr) with rfl | hne
      · rw [update_self, hempty]
        exact Nat.le_refl 1
      · rw [update_of_ne hne]
        exact h.single i
    · have hperm := @Buckets.contents_update _ _ s.nethash _ _
        (nat25NetworkHash_lt networkAddr) _ (List.Perm.refl
          (⟨ptr, 1, macAddr, jiffies, networkAddr⟩ :: s.nethash (nat25NetworkHash networkAddr)))
      rcases mem_cons.1 (hperm.mem_iff.1 hent) with rfl | hent
      · exact ⟨update_self _ _ _, hmac⟩
      · exact hother ent hent

lemma hasEntry_insert {ptr : Ptr} (macAddr networkAddr : List UInt8)
    (hempty : chain s networkAddr = []) :
    HasEntry (nat25DbNetworkInsert jiffies s (some ptr) macAddr networkAddr) jiffies macAddr
      networkAddr := by
  rw [insert_of_empty _ macAddr networkAddr hempty]
  refine ⟨⟨ptr, 1, macAddr, jiffies, networkAddr⟩, ?_, rfl, rfl, rfl⟩
  refine Buckets.mem_contents.2 ⟨_, nat25NetworkHash_lt networkAddr, ?_⟩
  simp [networkHashLink]

lemma lookup_of_expired (skb : Skb) (networkAddr : List UInt8)
    (h : ∀ db ∈ chain s networkAddr, nat25HasExpired hz jiffies db = true) :
    (nat25DbNetworkLookupAndReplace hz jiffies s skb networkAddr).2 = (skb, s) := by
  unfold nat25DbNetworkLookupAndReplace
  split
  · rename_i db hfind
    rw [if_pos (h db (mem_of_find?_eq_some hfind))]
  · rfl

lemma lookupRight_of_expired (hs : Hashed s) (skb : Skb) {networkAddr : List UInt8}
    (h : ∀ db ∈ chain s networkAddr, nat25HasExpired hz jiffies db = true) :
    LookupRight hz jiffies s latest skb networkAddr
      (nat25DbNetworkLookupAndReplace hz jiffies s skb networkAddr).2.1 := by
  rw [lookup_of_expired skb networkAddr h, LookupRight, if_neg]
  rintro ⟨db, hdb, rfl, hfresh⟩
  rw [h db (hs.mem_chain hdb)] at hfresh
  exact absurd hfresh (by decide)

lemma Quiet.unlinkEntries (h : Quiet s latest) {keep : DbEntry Ptr → Option (DbEntry Ptr)}
    (hkeep : ∀ f g, keep f = some g → g.networkAddr = f.networkAddr ∧ g.macAddr = f.macAddr) :
    Quiet (unlinkEntries s keep) latest := by
  have hquiet : Quiet { s with nethash := fun i => (s.nethash i).filterMap keep } latest := by
    refine ⟨h.hashed.filterMap fun f g hfg => by rw [(hkeep f g hfg).1], fun i => ?_, ?_,
      h.scdbEntry, h.scdbMac, h.scdbIp⟩
    · exact Nat.le_trans (length_filterMap_le keep (s.nethash i)) (h.single i)
    · intro g hg
      obtain ⟨i, hi, hg⟩ := Buckets.mem_contents.1 hg
      obtain ⟨f, hf, hfg⟩ := mem_filterMap.1 hg
      rw [(hkeep f g hfg).1, (hkeep f g hfg).2]
      exact h.latest f (Buckets.mem_contents.2 ⟨i, hi, hf⟩)
  unfold Nat25.unlinkEntries
  split_ifs
  · exact ⟨hquiet.hashed, hquiet.single, hquiet.latest, rfl, rfl, rfl⟩
  · exact hquiet

omit [DecidableEq Ptr] in
lemma scdbTx_quiet (h : Quiet s latest) (skb : Skb) : scdbTx cfg s skb = none := by
  unfold scdbTx
  split_ifs
  · exact h.scdbEntry
  · rfl

lemma scdbUpdate_quiet (h : Quiet s latest) {skb : Skb}
    (hsa : skb.sa = replicate 6 0 →
      ∀ db ∈ chain s (nat25GenerateIpv4NetworkAddr skb.saddr),
        db.networkAddr = nat25GenerateIpv4NetworkAddr skb.saddr) :
    scdbUpdate jiffies s skb = (true, s) := by
  have hentry := h.scdbEntry
  have hmac := h.scdbMac
  have hip := h.scdbIp
  unfold scdbUpdate
  split_ifs with hproto hcmp
  · have heq : s.scdbMac = skb.sa := of_decide_eq_true hcmp
    have hfind : scdbFindEntry s skb.saddr = none := by
      simp only [scdbFindEntry, find?_eq_none]
      intro db hdb
      simp [isMatch, rtwMemcmp, hsa (heq ▸ hmac) db hdb]
    rw [hfind]
    dsimp only
    rw [← hentry]
  · rw [hentry]
    dsimp only
    rw [← hmac, ← hip, ← hentry]
  · rfl

omit [DecidableEq Ptr] in
lemma setBrIp_quiet (h : Quiet s latest) (skb : Skb) : Quiet (setBrIp s skb) latest := by
  unfold setBrIp
  split_ifs
  · exact h.congr rfl rfl rfl rfl
  · exact h

omit [DecidableEq Ptr] in
lemma nethash_setBrIp (skb : Skb) : (setBrIp s skb).nethash = s.nethash := by
  unfold setBrIp
  split_ifs <;> rfl

omit [DecidableEq Ptr] in
lemma chain_setBrIp (skb : Skb) (networkAddr : List UInt8) :
    chain (setBrIp s skb) networkAddr = chain s networkAddr := by
  rw [chain, nethash_setBrIp, chain]

lemma rtwBrClientTx_quiet (h : Quiet s latest) {skb : Skb} (db : Option Ptr)
    (hsa : (untag skb).1.sa = replicate 6 0 →
      ∀ db ∈ chain s (nat25GenerateIpv4NetworkAddr (untag skb).1.saddr),
        db.networkAddr = nat25GenerateIpv4NetworkAddr (untag skb).1.saddr) :
    rtwBrClientTx cfg jiffies db s skb other = brClientTxDb cfg jiffies db s skb other := by
  have hquiet := setBrIp_quiet h (untag skb).1
  rw [← chain_setBrIp (untag skb).1] at hsa
  simp only [rtwBrClientTx, scdbTx_quiet h, scdbUpdate_quiet hquiet hsa]
  rfl

lemma nat25DbHandleIp_insert (db : Option Ptr) (skb : Skb) :
    (nat25DbHandleIp cfg jiffies db s skb .insert).priv =
        (if Learns skb then
          nat25DbNetworkInsert jiffies s db skb.sa (nat25GenerateIpv4NetworkAddr skb.saddr)
        else s) ∧
      (nat25DbHandleIp cfg jiffies db s skb .insert).ret ≠ -2 := by
  unfold nat25DbHandleIp
  by_cases hlen : skb.len ≤ skb.ipHlen
  · have hnot : ¬Learns skb := fun hl => absurd hl.1 (Nat.not_lt.2 hlen)
    rw [if_pos hlen, if_neg hnot]
    exact ⟨rfl, show (-1 : ℤ) ≠ -2 by decide⟩
  · rw [if_neg hlen]
    dsimp only
    by_cases hsaddr : skb.saddr = replicate 4 0
    · have hnot : ¬Learns skb := fun hl => hl.2 hsaddr
      rw [if_pos hsaddr, if_neg hnot]
      exact ⟨rfl, show (0 : ℤ) ≠ -2 by decide⟩
    · have hlearn : Learns skb := ⟨Nat.not_le.1 hlen, hsaddr⟩
      rw [if_neg hsaddr, if_pos hlearn]
      exact ⟨rfl, show (0 : ℤ) ≠ -2 by decide⟩

lemma brClientTxDb_priv {skb : Skb} (hip : (untag skb).1.protocol = ethPIp) (db : Option Ptr) :
    (brClientTxDb cfg jiffies db s skb other).priv =
      if Learns (untag skb).1 then
        nat25DbNetworkInsert jiffies (setBrIp s (untag skb).1) db (untag skb).1.sa
          (nat25GenerateIpv4NetworkAddr (untag skb).1.saddr)
      else setBrIp s (untag skb).1 := by
  obtain ⟨hpriv, hret⟩ := @nat25DbHandleIp_insert _ _ cfg jiffies
    (setBrIp s (untag skb).1) db (untag skb).1
  simp only [brClientTxDb, brClientTx, nat25DbHandle_ip hip, if_true, if_neg hret]
  rw [← hpriv]
  split_ifs <;> rfl

/-- The configuration without the shortcut of `nat25_handle_frame`. -/
def Config.noShortcut (cfg : Config) : Config := { cfg with nat25scDisable := true }

/-- The shortcut of `nat25_handle_frame` is off, or the destination is what it takes for its own. -/
def NoScdbRx (cfg : Config) (skb : Skb) : Prop :=
  cfg.nat25Disable = true ∨ cfg.nat25scDisable = true ∨ skb.daddr = replicate 4 0

section

variable (h : Quiet s latest)
include h

lemma nat25HandleUntagged_quiet {skb : Skb} (db : Option Ptr)
    (hsc : NoScdbRx cfg skb) :
    nat25HandleUntagged cfg jiffies db s skb other =
      nat25HandleUntagged cfg.noShortcut jiffies db s skb other := by
  unfold nat25HandleUntagged Config.noShortcut
  rcases hsc with hdisable | hdisable | hdaddr
  · simp only [hdisable]
    rfl
  · simp only [hdisable]
    rfl
  · have hcmp : rtwMemcmp s.scdbIp skb.daddr = true := by
      rw [hdaddr, h.scdbIp]
      exact decide_eq_true rfl
    simp only [hcmp, Bool.not_true, Bool.and_false, Bool.false_eq_true, if_false]
    rfl

lemma nat25HandleFrame_quiet {skb : Skb} (db : Option Ptr)
    (hsc : skb.isMcast = false → NoScdbRx cfg (untag skb).1) :
    nat25HandleFrame cfg jiffies db s skb other =
      nat25HandleFrame cfg.noShortcut jiffies db s skb other := by
  rw [untag_fst] at hsc
  unfold nat25HandleFrame
  split_ifs with hmcast htag
  · rfl
  · rw [if_pos htag] at hsc
    rw [nat25HandleUntagged_quiet h db (hsc (Bool.eq_false_iff.2 hmcast))]
  · rw [if_neg htag] at hsc
    rw [nat25HandleUntagged_quiet h db (hsc (Bool.eq_false_iff.2 hmcast))]

lemma Quiet.handleIp_lookup (db : Option Ptr) {skb : Skb}
    (hexp : skb.ipHlen < skb.len →
      ∀ db ∈ chain s (nat25GenerateIpv4NetworkAddr skb.daddr),
        nat25HasExpired cfg.hz jiffies db = true) :
    Quiet (nat25DbHandleIp cfg jiffies db s skb .lookup).priv latest := by
  unfold nat25DbHandleIp
  by_cases hlen : skb.len ≤ skb.ipHlen
  · rw [if_pos hlen]
    exact h
  · rw [if_neg hlen]
    have hsame := lookup_of_expired skb _ (hexp (Nat.not_le.1 hlen))
    dsimp only
    split
    · rename_i heq
      rw [heq] at hsame
      cases hsame
      exact h
    · rename_i heq
      rw [heq] at hsame
      cases hsame
      split_ifs
      · exact h
      · exact h.congr rfl rfl rfl rfl
      · exact h.congr rfl rfl rfl rfl

end

lemma rtwBrClientTx_other {skb : Skb} (hip : (untag skb).1.protocol ≠ ethPIp) (db : Option Ptr) :
    rtwBrClientTx cfg jiffies db s skb other = brClientTxDb cfg jiffies db s skb other := by
  have hproto : skb.protocol ≠ ethPIp := by
    intro heq
    have htag : skb.protocol ≠ ethP8021q := fun h => absurd (heq.symm.trans h) (by decide)
    rw [untag_fst, if_neg htag] at hip
    exact hip heq
  have htx : scdbTx cfg s skb = none := by
    simp [scdbTx, hproto]
  have hupdate : scdbUpdate jiffies (setBrIp s (untag skb).1) (untag skb).1 =
      (true, setBrIp s (untag skb).1) := by
    rw [scdbUpdate, if_neg hip]
  simp only [rtwBrClientTx, htx, hupdate]
  rfl

lemma nat25HandleFrame_other {skb : Skb} (hip : (untag skb).1.protocol ≠ ethPIp)
    (db : Option Ptr) :
    nat25HandleFrame cfg jiffies db s skb other =
      nat25HandleFrame cfg.noShortcut jiffies db s skb other := by
  have huntagged : ∀ skb : Skb, skb.protocol ≠ ethPIp →
      nat25HandleUntagged cfg jiffies db s skb other =
        nat25HandleUntagged cfg.noShortcut jiffies db s skb other := by
    intro skb hskb
    simp [nat25HandleUntagged, Config.noShortcut, hskb, nat25DbHandle]
  rw [untag_fst] at hip
  unfold nat25HandleFrame
  split_ifs with hmcast htag
  · rfl
  · rw [if_pos htag] at hip
    rw [huntagged _ hip]
  · rw [if_neg htag] at hip
    rw [huntagged _ hip]

lemma isMcast_untag (skb : Skb) : (untag skb).1.isMcast = skb.isMcast := by
  rw [untag_fst]
  split_ifs <;> rfl

lemma Quiet.handleUntagged (h : Quiet s latest) (db : Option Ptr) {skb : Skb}
    (hip : skb.protocol = ethPIp) (hmcast : skb.isMcast = false) (hsc : NoScdbRx cfg skb)
    (hexp : Looks cfg s skb → ∀ db ∈ chain s (nat25GenerateIpv4NetworkAddr skb.daddr),
      nat25HasExpired cfg.hz jiffies db = true) :
    Quiet (nat25HandleUntagged cfg jiffies db s skb other).priv latest := by
  rw [nat25HandleUntagged_quiet h db hsc]
  unfold nat25HandleUntagged Config.noShortcut
  rw [nat25DbHandle_ip hip]
  simp only [Bool.not_true, Bool.false_and, Bool.false_eq_true, if_false]
  by_cases hdisable : cfg.nat25Disable = true
  · simp only [hdisable, Bool.not_true, Bool.false_eq_true, if_false]
    split_ifs with hbr
    · apply h.handleIp_lookup
      intro hlen
      refine hexp ⟨hmcast, hlen, fun _ heq => ?_⟩
      rcases hbr with ⟨-, hcmp⟩ | ⟨harp, -⟩
      · simp [rtwMemcmp, heq] at hcmp
      · exact absurd (hip.symm.trans harp) (by decide)
    · exact h
  · simp only [hdisable, Bool.not_false, if_true]
    apply h.handleIp_lookup
    intro hlen
    exact hexp ⟨hmcast, hlen, fun hd => absurd hd hdisable⟩

lemma Quiet.handleFrame (h : Quiet s latest) (db : Option Ptr) {skb : Skb}
    (hip : (untag skb).1.protocol = ethPIp)
    (hsc : skb.isMcast = false → NoScdbRx cfg (untag skb).1)
    (hexp : Looks cfg s (untag skb).1 →
      ∀ db ∈ chain s (nat25GenerateIpv4NetworkAddr (untag skb).1.daddr),
        nat25HasExpired cfg.hz jiffies db = true) :
    Quiet (nat25HandleFrame cfg jiffies db s skb other).priv latest := by
  have huntag := isMcast_untag skb
  rw [untag_fst] at hip hsc hexp huntag
  unfold nat25HandleFrame
  split_ifs with hmcast htag
  · exact h
  · rw [if_pos htag] at hip hsc hexp huntag
    have hm := Bool.eq_false_iff.2 hmcast
    exact h.handleUntagged db hip (huntag.trans hm) (hsc hm) hexp
  · rw [if_neg htag] at hip hsc hexp
    have hm := Bool.eq_false_iff.2 hmcast
    exact h.handleUntagged db hip hm (hsc hm) hexp

/-! ### Runs -/

/-- The calls; those with a frame are for IP, and frames of the other protocols come down to
insertions and searches. -/
inductive DbOp (Ptr : Type) where
  | insert (db : Option Ptr) (macAddr networkAddr : List UInt8)
  | lookup (skb : Skb) (networkAddr : List UInt8)
  | expire
  | cleanup
  | clientTx (db : Option Ptr) (skb : Skb)
  | handleFrame (skb : Skb)

/-- The database with the MAC address that was last inserted for each network address. -/
abbrev Recorded (Ptr : Type) : Type := BrExt Ptr × (List UInt8 → List UInt8)

variable (cfg other)

def step (st : Recorded Ptr) (call : UInt64 × DbOp Ptr) : Recorded Ptr :=
  match call.2 with
  | .insert db macAddr networkAddr =>
    (nat25DbNetworkInsert call.1 st.1 db macAddr networkAddr,
      update st.2 networkAddr macAddr)
  | .lookup skb networkAddr =>
    ((nat25DbNetworkLookupAndReplace cfg.hz call.1 st.1 skb networkAddr).2.2, st.2)
  | .expire => (nat25DbExpire cfg.hz call.1 st.1, st.2)
  | .cleanup => (nat25DbCleanup st.1, st.2)
  | .clientTx db skb =>
    ((rtwBrClientTx cfg call.1 db st.1 skb other).priv,
      if Learns (untag skb).1 then
        update st.2 (nat25GenerateIpv4NetworkAddr (untag skb).1.saddr) (untag skb).1.sa
      else st.2)
  | .handleFrame skb => ((nat25HandleFrame cfg call.1 none st.1 skb other).priv, st.2)

def IpFrame (_ : Recorded Ptr) (call : UInt64 × DbOp Ptr) : Prop :=
  match call.2 with
  | .clientTx _ skb | .handleFrame skb => (untag skb).1.protocol = ethPIp
  | _ => True

def CallOk (st : Recorded Ptr) (call : UInt64 × DbOp Ptr) : Prop :=
  match call.2 with
  | .insert _ macAddr networkAddr => macAddr.length = 6 ∧ chain st.1 networkAddr = []
  | .lookup _ networkAddr =>
    ∀ db ∈ chain st.1 networkAddr, nat25HasExpired cfg.hz call.1 db = true
  | .clientTx _ skb =>
    let networkAddr := nat25GenerateIpv4NetworkAddr (untag skb).1.saddr
    (untag skb).1.protocol = ethPIp ∧ (Learns (untag skb).1 → chain st.1 networkAddr = []) ∧
      ((untag skb).1.sa = replicate 6 0 →
        ∀ db ∈ chain st.1 networkAddr, db.networkAddr = networkAddr)
  | .handleFrame skb =>
    (untag skb).1.protocol = ethPIp ∧ (skb.isMcast = false → NoScdbRx cfg (untag skb).1) ∧
      (Looks cfg st.1 (untag skb).1 →
        ∀ db ∈ chain st.1 (nat25GenerateIpv4NetworkAddr (untag skb).1.daddr),
          nat25HasExpired cfg.hz call.1 db = true)
  | _ => True

/-- What a call should do: insertions are found in the database, searches answer with the last of
them, only old entries go, and the shortcuts make no difference. -/
def CallRight (st : Recorded Ptr) (call : UInt64 × DbOp Ptr) : Prop :=
  let s' := (step cfg other st call).1
  match call.2 with
  | .insert db macAddr networkAddr => db ≠ none → HasEntry s' call.1 macAddr networkAddr
  | .lookup skb networkAddr =>
    LookupRight cfg.hz call.1 st.1 st.2 skb networkAddr
      (nat25DbNetworkLookupAndReplace cfg.hz call.1 st.1 skb networkAddr).2.1
  | .expire =>
    (∀ db ∈ entries st.1, nat25HasExpired cfg.hz call.1 db = false → db ∈ entries s') ∧
      ∀ db ∈ entries s', ∃ old ∈ entries st.1, db.networkAddr = old.networkAddr ∧
        db.macAddr = old.macAddr ∧ db.ageingTimer = old.ageingTimer
  | .cleanup => entries s' = []
  | .clientTx db skb =>
    rtwBrClientTx cfg call.1 db st.1 skb other = brClientTxDb cfg call.1 db st.1 skb other ∧
      (Learns (untag skb).1 → db ≠ none →
        HasEntry s' call.1 (untag skb).1.sa (nat25GenerateIpv4NetworkAddr (untag skb).1.saddr))
  | .handleFrame skb =>
    nat25HandleFrame cfg call.1 none st.1 skb other =
        nat25HandleFrame cfg.noShortcut call.1 none st.1 skb other ∧
      (Looks cfg st.1 (untag skb).1 →
        LookupRight cfg.hz call.1 st.1 st.2 (untag skb).1
          (nat25GenerateIpv4NetworkAddr (untag skb).1.daddr)
          (nat25DbNetworkLookupAndReplace cfg.hz call.1 st.1 (untag skb).1
            (nat25GenerateIpv4NetworkAddr (untag skb).1.daddr)).2.1)

variable {cfg other}

lemma step_hashed {st : Recorded Ptr} (h : Hashed st.1) {call : UInt64 × DbOp Ptr}
    (hip : IpFrame st call) : Hashed (step cfg other st call).1 := by
  obtain ⟨jiffies, op⟩ := call
  cases op with
  | insert db macAddr networkAddr => exact h.insert db macAddr networkAddr
  | lookup skb networkAddr => exact h.lookup skb networkAddr
  | expire => exact h.unlinkEntries fun f g hfg => (expireEntry_some hfg).2.2.2
  | cleanup => exact h.unlinkEntries fun f g hfg => by cases hfg
  | clientTx db skb => exact h.clientTx hip db
  | handleFrame skb => exact h.handleFrame hip none

lemma entries_unlinkEntries {keep : DbEntry Ptr → Option (DbEntry Ptr)} {db : DbEntry Ptr} :
    db ∈ entries (unlinkEntries s keep) ↔ ∃ old ∈ entries s, keep old = some db := by
  have hnethash : (unlinkEntries s keep).nethash = fun i => (s.nethash i).filterMap keep := by
    unfold unlinkEntries
    split_ifs <;> rfl
  unfold entries
  rw [hnethash]
  simp only [Buckets.mem_contents, mem_filterMap]
  constructor
  · rintro ⟨i, hi, old, hold, hkeep⟩
    exact ⟨old, ⟨i, hi, hold⟩, hkeep⟩
  · rintro ⟨old, ⟨i, hi, hold⟩, hkeep⟩
    exact ⟨i, hi, old, hold, hkeep⟩

lemma clientTx_right {st : Recorded Ptr} (h : Quiet st.1 st.2) {db : Option Ptr} {skb : Skb}
    (hok : CallOk cfg st (jiffies, .clientTx db skb)) :
    Quiet (step cfg other st (jiffies, .clientTx db skb)).1
        (step cfg other st (jiffies, .clientTx db skb)).2 ∧
      CallRight cfg other st (jiffies, .clientTx db skb) := by
  obtain ⟨hip, hempty, hsa⟩ := hok
  have hsame := @rtwBrClientTx_quiet _ _ cfg jiffies _ other _ h _ db hsa
  have hpriv := @brClientTxDb_priv _ _ cfg jiffies st.1 other _
    hip db
  have hquiet := setBrIp_quiet h (untag skb).1
  simp only [step, CallRight, hsame, hpriv]
  by_cases hlearn : Learns (untag skb).1
  · rw [if_pos hlearn, if_pos hlearn]
    have hchain : chain (setBrIp st.1 (untag skb).1)
        (nat25GenerateIpv4NetworkAddr (untag skb).1.saddr) = [] := by
      rw [chain_setBrIp]
      exact hempty hlearn
    refine ⟨hquiet.insert db hchain length_bytesAt, trivial, fun _ hdb => ?_⟩
    obtain ⟨ptr, rfl⟩ := Option.ne_none_iff_exists'.1 hdb
    exact hasEntry_insert _ _ hchain
  · rw [if_neg hlearn, if_neg hlearn]
    exact ⟨hquiet, trivial, fun hl => absurd hl hlearn⟩

lemma step_right {st : Recorded Ptr} (h : Quiet st.1 st.2) {call : UInt64 × DbOp Ptr}
    (hok : CallOk cfg st call) :
    Quiet (step cfg other st call).1 (step cfg other st call).2 ∧ CallRight cfg other st call := by
  obtain ⟨jiffies, op⟩ := call
  cases op with
  | insert db macAddr networkAddr =>
    obtain ⟨hmac, hempty⟩ := hok
    refine ⟨h.insert db hempty hmac, fun hdb => ?_⟩
    obtain ⟨ptr, rfl⟩ := Option.ne_none_iff_exists'.1 hdb
    exact hasEntry_insert _ _ hempty
  | lookup skb networkAddr =>
    refine ⟨?_, lookupRight_of_expired h.hashed skb hok⟩
    have hsame := lookup_of_expired skb networkAddr hok
    simp only [step, hsame]
    exact h
  | expire =>
    refine ⟨h.unlinkEntries fun f g hfg => ?_, fun db hdb hfresh => ?_, fun db hdb => ?_⟩
    · exact ⟨(expireEntry_some hfg).2.2.2, (expireEntry_some hfg).2.1⟩
    · refine entries_unlinkEntries.2 ⟨db, hdb, ?_⟩
      simp [expireEntry, hfresh]
    · obtain ⟨old, hold, hkeep⟩ := entries_unlinkEntries.1 hdb
      obtain ⟨-, hmac, htimer, haddr⟩ := expireEntry_some hkeep
      exact ⟨old, hold, haddr, hmac, htimer⟩
  | cleanup =>
    refine ⟨h.unlinkEntries (fun f g hfg => by cases hfg), ?_⟩
    refine eq_nil_iff_forall_not_mem.2 fun db hdb => ?_
    obtain ⟨old, -, hkeep⟩ := entries_unlinkEntries.1 hdb
    cases hkeep
  | clientTx db skb => exact clientTx_right h hok
  | handleFrame skb =>
    obtain ⟨hip, hsc, hexp⟩ := hok
    refine ⟨h.handleFrame none hip hsc hexp, nat25HandleFrame_quiet h none hsc, fun hlooks => ?_⟩
    exact lookupRight_of_expired h.hashed _ (hexp hlooks)

/-! ### The condition is exact -/

omit [DecidableEq Ptr] in
lemma Quiet.chain_cases (h : Quiet s latest) (networkAddr : List UInt8) :
    chain s networkAddr = [] ∨ ∃ db, chain s networkAddr = [db] := by
  have hone : (chain s networkAddr).length ≤ 1 := h.single _
  match hchain : chain s networkAddr with
  | [] => exact .inl rfl
  | [db] => exact .inr ⟨db, rfl⟩
  | _ :: _ :: _ => simp [hchain] at hone

lemma lookup_single {db : DbEntry Ptr} {networkAddr : List UInt8} (hchain : chain s networkAddr = [db])
    (hfresh : nat25HasExpired hz jiffies db = false) (skb : Skb) :
    (nat25DbNetworkLookupAndReplace hz jiffies s skb networkAddr).2.1 =
      if db.networkAddr = networkAddr then skb else skb.setDa db.macAddr := by
  unfold chain at hchain
  unfold nat25DbNetworkLookupAndReplace
  rw [hchain]
  by_cases heq : db.networkAddr = networkAddr
  · simp [isMatch, rtwMemcmp, heq]
  · simp [isMatch, rtwMemcmp, heq, hfresh]

lemma exists_setDa_ne {mac : List UInt8} (h : mac.length = 6) : ∃ skb : Skb, skb.setDa mac ≠ skb := by
  refine ⟨⟨fun _ => mac.getD 0 0 + 1, 0⟩, fun heq => ?_⟩
  have hbyte := congrFun (congrArg Skb.data heq) 0
  obtain ⟨b, rest, rfl⟩ := exists_cons_of_length_pos (by omega : 0 < mac.length)
  simp [Skb.setDa, writeBytes] at hbyte

lemma lookup_right_iff (h : Quiet s latest) (networkAddr : List UInt8) :
    (∀ skb, LookupRight hz jiffies s latest skb networkAddr
        (nat25DbNetworkLookupAndReplace hz jiffies s skb networkAddr).2.1) ↔
      ∀ db ∈ chain s networkAddr, nat25HasExpired hz jiffies db = true := by
  refine ⟨fun hright db hdb => ?_, fun hexp skb => lookupRight_of_expired h.hashed skb hexp⟩
  by_contra hfresh
  have hfresh := Bool.eq_false_iff.2 hfresh
  have hmem := mem_entries_of_chain hdb
  obtain hnil | ⟨db', hchain⟩ := h.chain_cases networkAddr
  · rw [hnil] at hdb
    cases hdb
  · obtain rfl : db = db' := by simpa [hchain] using hdb
    obtain ⟨hlatest, hmac⟩ := h.latest db hmem
    obtain ⟨skb, hskb⟩ := exists_setDa_ne hmac
    have hright := hright skb
    rw [lookup_single hchain hfresh, LookupRight] at hright
    by_cases heq : db.networkAddr = networkAddr
    · rw [if_pos ⟨db, hmem, heq, hfresh⟩, if_pos heq, ← heq, hlatest] at hright
      exact hskb hright.symm
    · rw [if_neg heq, if_neg] at hright
      · exact hskb hright
      · rintro ⟨other, hother, rfl, -⟩
        have hin := h.hashed.mem_chain hother
        rw [hchain, mem_singleton] at hin
        exact heq (hin ▸ rfl)

lemma insert_right_iff (h : Quiet s latest) (ptr : Ptr) {macAddr : List UInt8}
    (hmac : macAddr.length = 6) (networkAddr : List UInt8) :
    (HasEntry (nat25DbNetworkInsert jiffies s (some ptr) macAddr networkAddr) jiffies macAddr
          networkAddr ∧
        Unique (nat25DbNetworkInsert jiffies s (some ptr) macAddr networkAddr)) ↔
      chain s networkAddr = [] := by
  refine ⟨?_, fun hempty => ⟨hasEntry_insert _ _ hempty, (h.insert _ hempty hmac).unique⟩⟩
  rintro ⟨⟨ent, hent, haddr, -, -⟩, hunique⟩
  obtain hnil | ⟨db, hchain⟩ := h.chain_cases networkAddr
  · exact hnil
  have hhashed := @Hashed.insert _ _ jiffies _ h.hashed (some ptr) macAddr networkAddr
  have hmem := hhashed.mem_chain hent
  rw [haddr] at hmem
  unfold chain at hchain hmem
  exfalso
  by_cases heq : db.networkAddr = networkAddr
  · -- the entry is not found, and a second one is linked
    have hfind : [db].find? (isMatch networkAddr) = none := by simp [isMatch, rtwMemcmp, heq]
    simp only [nat25DbNetworkInsert, hchain, hfind] at hunique
    have hperm := (@Buckets.contents_update _ _ s.nethash _ _ (nat25NetworkHash_lt networkAddr) _
      (List.Perm.refl (⟨ptr, 1, macAddr, jiffies, networkAddr⟩ ::
        s.nethash (nat25NetworkHash networkAddr)))).map DbEntry.networkAddr
    have hnodup := hperm.nodup_iff.1 hunique
    have hdb : db ∈ entries s := @mem_entries_of_chain _ _ networkAddr _ (by
      rw [chain, hchain]
      exact mem_singleton_self db)
    rw [map_cons, nodup_cons] at hnodup
    exact hnodup.1 (mem_map.2 ⟨db, hdb, heq⟩)
  · -- the entry of another address is overwritten
    have hfind : [db].find? (isMatch networkAddr) = some db := by
      simp [isMatch, rtwMemcmp, heq]
    simp only [nat25DbNetworkInsert, hchain, hfind, writeEntry, map_cons, map_nil,
      mem_singleton, if_true] at hmem
    rw [hmem] at haddr
    exact heq haddr

variable (cfg other)

def init (brMac brIp : List UInt8) : Recorded Ptr :=
  (⟨fun _ => [], replicate 6 0, replicate 4 0, none, brMac, brIp⟩, fun _ => [])

omit [DecidableEq Ptr] in
lemma init_quiet (brMac brIp : List UInt8) :
    Quiet (@init Ptr brMac brIp).1 (@init Ptr brMac brIp).2 := by
  refine ⟨fun i db hdb => ?_, fun i => Nat.zero_le 1, fun db hdb => ?_, rfl, rfl, rfl⟩
  · cases hdb
  · simp [init, entries] at hdb

/-- In every run the entries are in the chains of their addresses.  In a run whose calls meet the
condition no address has two entries, each entry has the last MAC address, and every call is
right; and in the states reached insertions and searches are right only under the condition.
For frames of other protocols the shortcuts never make a difference. -/
theorem nat25_run (brMac brIp : List UInt8) (calls : List (UInt64 × DbOp Ptr)) :
    (Guarded (step cfg other) IpFrame (init brMac brIp) calls →
      Hashed (run (step cfg other) (init brMac brIp) calls).1) ∧
    (Guarded (step cfg other) (CallOk cfg) (init brMac brIp) calls →
      let st := run (step cfg other) (init brMac brIp) calls
      Unique st.1 ∧ (∀ db ∈ entries st.1, st.2 db.networkAddr = db.macAddr) ∧
      Guarded (step cfg other) (CallRight cfg other) (init brMac brIp) calls ∧
      (∀ jiffies ptr macAddr networkAddr, macAddr.length = 6 →
        (HasEntry (nat25DbNetworkInsert jiffies st.1 (some ptr) macAddr networkAddr) jiffies macAddr
              networkAddr ∧
            Unique (nat25DbNetworkInsert jiffies st.1 (some ptr) macAddr networkAddr) ↔
          CallOk cfg st (jiffies, .insert (some ptr) macAddr networkAddr))) ∧
      ∀ jiffies networkAddr,
        ((∀ skb, CallRight cfg other st (jiffies, .lookup skb networkAddr)) ↔
          ∀ skb, CallOk cfg st (jiffies, .lookup skb networkAddr))) ∧
    ∀ (s : BrExt Ptr) jiffies db skb, (untag skb).1.protocol ≠ ethPIp →
      rtwBrClientTx cfg jiffies db s skb other = brClientTxDb cfg jiffies db s skb other ∧
        nat25HandleFrame cfg jiffies db s skb other =
          nat25HandleFrame cfg.noShortcut jiffies db s skb other := by
  refine ⟨fun hip => ?_, fun h => ?_, fun s jiffies db skb hip =>
    ⟨rtwBrClientTx_other hip db, nat25HandleFrame_other hip db⟩⟩
  · exact @Guarded.invariant _ _ _ _ (fun st => Hashed st.1)
      (fun st call hst hcall => step_hashed hst hcall) _ _ (init_quiet brMac brIp).hashed hip
  · have hquiet := @Guarded.invariant _ _ _ _ (fun st => Quiet st.1 st.2)
      (fun st call hst hcall => (step_right hst hcall).1) _ _ (init_quiet brMac brIp) h
    refine ⟨hquiet.unique, fun db hdb => (hquiet.latest db hdb).1, ?_, ?_, ?_⟩
    · exact @Guarded.steps _ _ _ _ _ (fun st => Quiet st.1 st.2)
        (fun st call hst hcall => (step_right hst hcall).1)
        (fun st call hst hcall => (step_right hst hcall).2) _ _ (init_quiet brMac brIp) h
    · intro jiffies ptr macAddr networkAddr hmac
      rw [insert_right_iff hquiet ptr hmac]
      exact ⟨fun hempty => ⟨hmac, hempty⟩, And.right⟩
    · intro jiffies networkAddr
      exact (lookup_right_iff hquiet networkAddr).trans
        ⟨fun hexp _ => hexp, fun hexp => hexp ⟨fun _ => 0, 0⟩⟩

end

section

def bridgeConfig : Config := ⟨false, false, true, [2, 0, 0, 0, 0, 1], true, id, 1⟩

def hostAddr (n : UInt8) : List UInt8 := nat25GenerateIpv4NetworkAddr [10, 0, 0, n]

def hostMac (n : UInt8) : List UInt8 := [2, 0, 0, 0, 1, n]

def refuse : Method → BrExt ℕ → Skb → Outcome ℕ := fun _ s skb => ⟨-1, skb, s⟩

/-- Two hosts in different chains, the first of which has not been heard of for 400 s. -/
theorem nat25_run_twoHosts :
    let calls := [(0, DbOp.insert (some 0) (hostMac 1) (hostAddr 1)),
      (200, .insert (some 1) (hostMac 2) (hostAddr 2)), (400, .lookup ⟨fun _ => 0, 60⟩ (hostAddr 1))]
    Unique (run (step bridgeConfig refuse) (init (hostMac 9) [10, 0, 0, 9]) calls).1 ∧
      Guarded (step bridgeConfig refuse) (CallRight bridgeConfig refuse)
        (init (hostMac 9) [10, 0, 0, 9]) calls := by
  intro calls
  have hok : Guarded (step bridgeConfig refuse) (CallOk bridgeConfig)
      (init (hostMac 9) [10, 0, 0, 9]) calls := by
    refine ⟨⟨rfl, rfl⟩, ⟨rfl, by decide⟩, ?_, trivial⟩
    intro db hdb
    obtain rfl : db = ⟨0, 1, hostMac 1, 0, hostAddr 1⟩ := by
      have hone : chain (run (step bridgeConfig refuse) (init (hostMac 9) [10, 0, 0, 9])
          (calls.take 2)).1 (hostAddr 1) = [⟨0, 1, hostMac 1, 0, hostAddr 1⟩] := by decide
      exact mem_singleton.mp (hone ▸ hdb)
    decide
  have hrun := (nat25_run bridgeConfig refuse (hostMac 9) [10, 0, 0, 9] calls).2.1 hok
  exact ⟨hrun.1, hrun.2.2.1⟩

def hostPacket : Skb :=
  ⟨fun i => (replicate 12 0 ++ [8, 0, 0x45] ++ replicate 15 0 ++
    [10, 0, 0, 17] : List UInt8).getD i 0, 60⟩

/-- The entry of a host is not found for its address but for another one of the chain, a second
insertion makes a second entry, and the shortcut sends a frame to the zero address. -/
theorem nat25_inverted_comparison :
    let s := nat25DbNetworkInsert 0 (init (hostMac 9) [10, 0, 0, 9]).1 (some 0) (hostMac 1)
      (hostAddr 1)
    ¬LookupRight 1 0 s (fun _ => hostMac 1) hostPacket (hostAddr 1)
        (nat25DbNetworkLookupAndReplace 1 0 s hostPacket (hostAddr 1)).2.1 ∧
      ¬LookupRight 1 0 s (fun _ => hostMac 1) hostPacket (hostAddr 17)
        (nat25DbNetworkLookupAndReplace 1 0 s hostPacket (hostAddr 17)).2.1 ∧
      ¬Unique (nat25DbNetworkInsert 0 s (some 1) (hostMac 1) (hostAddr 1)) ∧
      nat25HandleFrame bridgeConfig 0 none s hostPacket refuse ≠
        nat25HandleFrame bridgeConfig.noShortcut 0 none s hostPacket refuse := by
  intro s
  refine ⟨fun h => ?_, fun h => ?_, ?_, fun h => ?_⟩
  · rw [LookupRight, if_pos (by decide)] at h
    exact absurd (congrArg (fun skb => Skb.data skb 0) h) (by decide)
  · rw [LookupRight, if_neg (by decide)] at h
    exact absurd (congrArg (fun skb => Skb.data skb 0) h) (by decide)
  · unfold Unique
    decide
  · exact absurd (congrArg (fun out => out.skb.data 0) h) (by decide)

end

end Rtl8831.Core.Nat25
