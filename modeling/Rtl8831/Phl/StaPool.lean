import Rtl8831.Phl.Macid

/-!
# The pool of stations

A station is taken from the free queue, given a macid and a TX ring and put on
the queue of its link; freeing it takes the way back.  The first station of a
link is that of the driver itself, which is only freed with its role.
-/

namespace Rtl8831.Phl

open Function

namespace StaPool

abbrev MacAddr := BitVec 48

def MacAddr.broadcast : MacAddr := BitVec.allOnes 48

def phlMaxStaNum : ℕ := 128

inductive RoleType
  | none
  | station
  | ap
  | vap
  | adhoc
  | adhocMaster
  | mesh
  | monitor
  | p2pDevice
  | p2pGc
  | p2pGo
  | tdls
  | nan
  deriving DecidableEq

structure Role where
  type : RoleType
  rlinkNum : ℕ
  macAddr : ℕ → MacAddr
  macAddr_ne : ∀ l, macAddr l ≠ MacAddr.broadcast

/-- The device and its roles; `mbssidVap` is `CONFIG_RTW_SUPPORT_MBSSID_VAP`. -/
structure Env where
  cap : Macid.DevCap
  role : ℕ → Role
  useOnetxring : Bool
  mbssidVap : Bool

/-- `struct phl_queue` of stations. -/
structure StaQueue where
  queue : List ℕ
  cnt : ℕ

def StaQueue.enqueue (q : StaQueue) (i : ℕ) : StaQueue := ⟨q.queue ++ [i], q.cnt + 1⟩

def StaQueue.dequeue (q : StaQueue) : Option (ℕ × StaQueue) :=
  match q.queue with
  | [] => none
  | i :: is => some (i, ⟨is, q.cnt - 1⟩)

/-- `phl_stainfo_queue_del` of a station that is on the queue. -/
def StaQueue.del (q : StaQueue) (i : ℕ) : StaQueue :=
  if q.cnt = 0 then q else ⟨q.queue.erase i, q.cnt - 1⟩

/-- The macids (with the role, the link and the kind of address of each
station), the addresses, the queues and the macids of the TX rings. -/
structure Pool where
  mac : Macid.State
  addr : ℕ → MacAddr
  mldAddr : ℕ → Option MacAddr
  active : ℕ → Bool
  free : StaQueue
  assoc : ℕ → ℕ → StaQueue
  rings : List ℕ

section

variable (e : Env)

def init : Pool where
  mac := Macid.init e.cap
  addr _ := 0
  mldAddr _ := none
  active _ := false
  free := ⟨List.range phlMaxStaNum, phlMaxStaNum⟩
  assoc _ _ := ⟨[], 0⟩
  rings := []

variable (p : Pool)

def setAddr (i : ℕ) (a : MacAddr) : Pool :=
  { p with
    addr := update p.addr i a
    mac := { p.mac with
      stas := update p.mac.stas i { p.mac.stas i with bmc := a = MacAddr.broadcast } } }

def setAssoc (r l : ℕ) (q : StaQueue) : Pool :=
  { p with assoc := update p.assoc r (update (p.assoc r) l q) }

/-- `_phl_self_stainfo_chk`: the answer and the address that it leaves. -/
def selfStainfoChk (r l : ℕ) (a : MacAddr) : Bool × MacAddr :=
  match (e.role r).type with
  | .station | .p2pGc => (true, (e.role r).macAddr l)
  | .ap | .mesh | .p2pGo | .tdls => ((e.role r).macAddr l = a, a)
  | .vap => (e.mbssidVap ∧ (e.role r).macAddr l = a, a)
  | _ => (false, a)

def phlFreeStainfoSw (i : ℕ) : Pool :=
  { p with
    rings := p.rings.erase (p.mac.stas i).macid
    mac := Macid.releaseStep e.cap p.mac i }

/-- The part of `__phl_free_stainfo_sw` behind the check of the self station. -/
def recycle (i : ℕ) : Pool :=
  let r := (p.mac.stas i).wrole
  let l := (p.mac.stas i).rlink
  let p := phlFreeStainfoSw e (setAssoc p r l ((p.assoc r l).del i)) i
  { p with free := p.free.enqueue i }

/-- The self station of a link, which `__phl_free_stainfo_sw` leaves alone. -/
def IsSelf (i : ℕ) : Prop :=
  p.addr i ≠ MacAddr.broadcast ∧
    (selfStainfoChk e (p.mac.stas i).wrole (p.mac.stas i).rlink (p.addr i)).1 = true

instance (i : ℕ) : Decidable (IsSelf e p i) := inferInstanceAs (Decidable (_ ∧ _))

/-- `_phl_self_stainfo_chk` of a station, with its effect. -/
def chkAddr (i : ℕ) : Pool :=
  setAddr p i (selfStainfoChk e (p.mac.stas i).wrole (p.mac.stas i).rlink (p.addr i)).2

def freeStainfoSw (i : ℕ) : Pool :=
  if IsSelf e p i then chkAddr e p i else recycle e p i

def freeStainfoHw (i : ℕ) : Pool :=
  if IsSelf e p i then chkAddr e p i
  else { p with active := update p.active i false }

def freeStainfo (i : ℕ) : Pool := freeStainfoSw e (freeStainfoHw e p i) i

def getStainfoByAddr (r l : ℕ) (a : MacAddr) : Option ℕ :=
  if a = MacAddr.broadcast then
    if e.cap.maxNum ≤ p.mac.ctl.wroleBmc r l then none
    else p.mac.ctl.sta (p.mac.ctl.wroleBmc r l)
  else (p.assoc r l).queue.find? fun i => p.addr i = a ∨ p.mldAddr i = some a

/-- Whether `phl_alloc_stainfo_sw` asks for the self station of the link. -/
def WantsSelf (r : ℕ) (a : MacAddr) : Prop :=
  ((e.role r).type = .station ∨ (e.role r).type = .p2pGc) ∧ a ≠ MacAddr.broadcast

instance (r : ℕ) (a : MacAddr) : Decidable (WantsSelf e r a) :=
  inferInstanceAs (Decidable (_ ∧ _))

def getStainfoSelf (r l : ℕ) : Option ℕ := (p.assoc r l).queue.head?

/-- `_phl_alloc_stainfo_sw`: the macid and, unless another one is used for all
stations, the TX ring; `ringOk` is the answer of its allocation. -/
def allocMacidRing (i r l : ℕ) (a : MacAddr) (req : Macid.Request) (ringOk : Bool) :
    Pool × Bool :=
  let mac := Macid.allocStep e.cap p.mac i r l (a = MacAddr.broadcast) req
  let macid := (mac.stas i).macid
  if macid = e.cap.maxNum then ({ p with mac := mac }, false)
  else if macid ≠ 0 ∧ e.useOnetxring then ({ p with mac := mac }, true)
  else if ringOk then ({ p with mac := mac, rings := p.rings ++ [macid] }, true)
  else ({ p with mac := Macid.releaseStep e.cap mac i }, false)

/-- The part of `phl_alloc_stainfo_sw` that makes a new station. -/
def newStainfo (r l : ℕ) (a : MacAddr) (req : Macid.Request) (ringOk : Bool) :
    Pool × Option ℕ :=
  match p.free.dequeue with
  | none => (p, none)
  | some (i, q) =>
    let p := { p with free := q, addr := update p.addr i a }
    let s := allocMacidRing e p i r l a req ringOk
    if s.2 then (setAssoc s.1 r l ((s.1.assoc r l).enqueue i), some i)
    else ({ s.1 with free := s.1.free.enqueue i }, none)

/-- The station that `phl_alloc_stainfo_sw` finds instead of a new one. -/
def lookup (r l : ℕ) (a : MacAddr) : Option ℕ :=
  if WantsSelf e r a then (getStainfoSelf p r l).or (getStainfoByAddr e p r l a)
  else getStainfoByAddr e p r l a

def phlAllocStainfoSw (r l : ℕ) (a : MacAddr) (req : Macid.Request) (ringOk : Bool) :
    Pool × Option ℕ :=
  match lookup e p r l a with
  | some i => (if WantsSelf e r a ∧ getStainfoSelf p r l = some i then setAddr p i a else p, some i)
  | none => newStainfo e p r l a req ringOk

/-- What `rtw_hal_add_sta_entry` and `phl_pkt_ofld_add_entry` answer. -/
inductive HwAnswer
  | ok
  | addFails
  | ofldFails
  deriving DecidableEq

def allocStainfo (r l : ℕ) (a : MacAddr) (req : Macid.Request) (ringOk : Bool) (hw : HwAnswer) :
    Pool × Option ℕ :=
  let s := phlAllocStainfoSw e p r l a req ringOk
  match s.2 with
  | none => s
  | some i =>
    if s.1.active i then s
    else
      match hw with
      | .ok => ({ s.1 with active := update s.1.active i true }, some i)
      | .addFails => (freeStainfoSw e s.1 i, none)
      | .ofldFails =>
        (freeStainfoSw e { s.1 with active := update s.1.active i true } i, none)

/-- One round of the loop of `phl_wifi_role_free_stainfo`. -/
def freeFirst (r l : ℕ) : Pool :=
  match (p.assoc r l).dequeue with
  | none => p
  | some (i, q) =>
    let p := { setAssoc p r l q with active := update p.active i false }
    let p := phlFreeStainfoSw e p i
    { p with free := p.free.enqueue i }

def wifiRoleFreeStainfo (r : ℕ) : Pool :=
  (List.range (e.role r).rlinkNum).foldl
    (fun p l => (fun p => freeFirst e p r l)^[(p.assoc r l).queue.length] p) p

end

/-- The calls, with the answers they get; `linkMld` is `_phl_link_mld_stainfo`. -/
inductive Event
  | allocSw (r l : ℕ) (a : MacAddr) (req : Macid.Request) (ringOk : Bool)
  | alloc (r l : ℕ) (a : MacAddr) (req : Macid.Request) (ringOk : Bool) (hw : HwAnswer)
  | free (i : ℕ)
  | roleFree (r : ℕ)
  | linkMld (i : ℕ) (a : MacAddr)

def step (e : Env) (p : Pool) : Event → Pool
  | .allocSw r l a req ringOk => (phlAllocStainfoSw e p r l a req ringOk).1
  | .alloc r l a req ringOk hw => (allocStainfo e p r l a req ringOk hw).1
  | .free i => freeStainfo e p i
  | .roleFree r => wifiRoleFreeStainfo e p r
  | .linkMld i a => { p with mldAddr := update p.mldAddr i (some a) }

end StaPool

end Rtl8831.Phl
