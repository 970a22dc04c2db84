import Rtl8831.Mac.H2cAgg

/-!
# What becomes of the commands and the buffers

An aggregate that is sent is never released, so the queue is handled as it should be only
as long as no aggregate is sent: the commands go out one by one, or the call fails and gives
back what is left.
-/

namespace Rtl8831.Mac.H2cAgg

open List

variable {ι : Type} {P : Platform ι} {p : H2cPkt ι} {xs ys zs rest : List (H2cPkt ι)}
  {a : Agg ι} {i : ι} {log : List (Event ι)}

inductive Splits : List UInt8 → List (H2cPkt ι) → Prop
  | nil : Splits [] []
  | cons (p : H2cPkt ι) (pad : List UInt8) {content : List UInt8} {g : List (H2cPkt ι)}
      (hpad : p.data.length + pad.length = align4Byte p.data.length) (h : Splits content g) :
      Splits (cpuToLe32 (align4Byte p.data.length) ++ (p.data ++ pad) ++ content) (p :: g)

def Event.Carries : Event ι → List (H2cPkt ι) → Prop
  | .sentNormal p, g => g = [p]
  | .sentAgg content, g => Splits content g
  | _, _ => False

def Event.isSent : Event ι → Bool
  | .sentNormal _ | .sentAgg _ => true
  | _ => false

def Event.isRelease [DecidableEq ι] (i : ι) : Event ι → Bool
  | .sentNormal p => decide (p.addr = i)
  | .released b => decide (b = .pkt i)
  | _ => false

/-- What is promised of a call: it returns; the commands of the queue are sent once and in
order, all of them if it succeeds; each packet, each node and each aggregate is released once;
aggregates fit in their buffers; and the queue is empty. -/
structure Preserved [DecidableEq ι] (q : Info ι) (r : Result ι) : Prop where
  returned : ∃ success, r.stop = .returned success
  sent : ∃ gs, List.Forall₂ Event.Carries (r.log.filter Event.isSent) gs ∧
    gs.flatten <+: q.queue ∧ (r.stop = .returned true → gs.flatten = q.queue)
  packets : ∀ p ∈ q.queue, r.log.countP (Event.isRelease p.addr) = 1
  nodes : ∀ p ∈ q.queue, r.log.count (.freedNode p.addr) = 1
  aggregates : ∀ i, r.log.count (.allocated i) = r.log.count (.released (.agg i))
  fits : ∀ content, .sentAgg content ∈ r.log → content.length ≤ h2cLongDataLen
  empty : r.queue = [] ∧ r.pktNum = 0

lemma len_le_align4Byte (len : ℕ) : len ≤ align4Byte len := by
  unfold align4Byte
  omega

@[simp] lemma subH2c_length (data : List UInt8) :
    (subH2c data).length = align4Byte data.length + h2cAggSubHdrLen := by
  have h := len_le_align4Byte data.length
  simp only [subH2c, cpuToLe32, length_append, length_cons, length_nil,
    length_replicate, h2cAggSubHdrLen]
  omega

structure Agg.Holds (a : Agg ι) (g : List (H2cPkt ι)) : Prop where
  data : a.data = g.flatMap fun p => subH2c p.data
  aggLen : a.aggLen = wdBodyLen + fwcmdHdrLen + a.data.length

variable {g : List (H2cPkt ι)} (q : List (H2cPkt ι)) (agg : Option (Agg ι)) {e : Event ι}

def Agg.HasRoom (a : Agg ι) (p : H2cPkt ι) : Prop :=
  a.aggLen + align4Byte p.data.length + h2cAggSubHdrLen < h2cLongDataLen

lemma Agg.new_holds (i : ι) : (Agg.new i).Holds [] := ⟨rfl, rfl⟩

lemma Agg.new_hasRoom (h : startsAgg p rest = true) : (Agg.new p.addr).HasRoom p := by
  cases rest with
  | nil => contradiction
  | cons next rest =>
    simp only [startsAgg, aggregatable, Bool.and_eq_true, decide_eq_true_eq] at h
    simp only [Agg.HasRoom, Agg.new]
    omega

lemma Agg.Holds.put (h : a.Holds g) (hroom : a.HasRoom p) :
    ∃ b, a.put p = some b ∧ b.first = a.first ∧ b.Holds (g ++ [p]) ∧
      b.data.length ≤ h2cLongDataLen := by
  have hlen := h.aggLen
  have hfit : a.data.length + (align4Byte p.data.length + h2cAggSubHdrLen) ≤ h2cLongDataLen := by
    simp only [Agg.HasRoom] at hroom
    omega
  refine ⟨_, if_pos hfit, rfl, ⟨?_, ?_⟩, ?_⟩
  · simp [h.data]
  · simp only [length_append, subH2c_length, hlen]
    omega
  · simpa using hfit

lemma hasRoom_of_not_closes (h : closes a (p :: rest) = false) : a.HasRoom p := by
  simpa [closes, Agg.HasRoom] using h

def copied (g : List (H2cPkt ι)) : List (Event ι) :=
  g.flatMap fun p => [.freedNode p.addr, .released (.pkt p.addr)]

lemma loop_cons (P : Platform ι) (p : H2cPkt ι) (rest : List (H2cPkt ι)) (agg : Option (Agg ι))
    (log : List (Event ι)) : loop P (p :: rest) agg log =
      match body P p rest agg log with
      | (.done, s) => loop P rest s.agg s.log
      | stop => stop := rfl

lemma loop_agg (rest : List (H2cPkt ι)) (hrec : P.recycles = true) {g : List (H2cPkt ι)} (h : a.Holds g)
    (hroom : a.HasRoom p) (log : List (Event ι)) :
    ∃ xs ys b, p :: rest = xs ++ ys ∧ xs ≠ [] ∧ b.first = a.first ∧ b.Holds (g ++ xs) ∧
      b.data.length ≤ h2cLongDataLen ∧
      loop P (p :: rest) (some a) log =
        if P.common a.first = true then
          loop P ys none (log ++ copied xs ++
            [.sentAgg (P.behind a.first (b.data.length - fwcmdHdrLen))])
        else (.failed, ⟨ys, some b, log ++ copied xs⟩) := by
  induction rest generalizing p a g log with
  | nil =>
    obtain ⟨b, hput, hfirst, hb, hlen⟩ := h.put hroom
    refine ⟨[p], [], b, rfl, by simp, hfirst, hb, hlen, ?_⟩
    simp only [loop, body, addSub, hput, hrec, closes, Platform.sendAgg, hfirst, if_true]
    cases P.common a.first <;> simp [copied]
  | cons next rest ih =>
    obtain ⟨b, hput, hfirst, hb, hlen⟩ := h.put hroom
    cases hclose : closes b (next :: rest) with
    | true =>
      refine ⟨[p], next :: rest, b, rfl, by simp, hfirst, hb, hlen, ?_⟩
      rw [loop_cons]
      simp only [body, addSub, hput, hrec, hclose, Platform.sendAgg, hfirst, if_true]
      cases P.common a.first <;> simp [copied]
    | false =>
      obtain ⟨xs, ys, c, hsplit, -, hcfirst, hc, hclen, hloop⟩ :=
        ih hb (hasRoom_of_not_closes hclose)
          (log ++ [.freedNode p.addr, .released (.pkt p.addr)])
      refine ⟨p :: xs, ys, c, by rw [hsplit]; rfl, by simp, hcfirst.trans hfirst, ?_, hclen, ?_⟩
      · simpa using hc
      · rw [loop_cons]
        simp only [body, addSub, hput, hrec, hclose, if_true, Bool.false_eq_true, if_false]
        rw [hloop, hfirst]
        simp [copied, append_assoc]

lemma loop_agg_crashed (rest : List (H2cPkt ι)) (hrec : P.recycles = false)
    {g : List (H2cPkt ι)} (h : a.Holds g)
    (hroom : a.HasRoom p) (log : List (Event ι)) :
    (loop P (p :: rest) (some a) log).1 = .crashed := by
  obtain ⟨b, hput, -⟩ := h.put hroom
  simp [loop, body, addSub, hput, hrec]

lemma loop_starts (hstart : startsAgg p rest = true) (halloc : P.alloc p.addr = true)
    (log : List (Event ι)) :
    loop P (p :: rest) none log =
      loop P (p :: rest) (some (.new p.addr)) (log ++ [.allocated p.addr]) := by
  simp [loop, body, hstart, halloc]

def SentAlone (P : Platform ι) : List (H2cPkt ι) → List (H2cPkt ι) → Prop
  | [], _ => True
  | p :: xs, zs =>
    startsAgg p (xs ++ zs) = false ∧ P.normal p.addr = .sent ∧ SentAlone P xs zs

def sentLog (xs : List (H2cPkt ι)) : List (Event ι) :=
  xs.flatMap fun p => [.sentNormal p, .freedNode p.addr]

lemma loop_sentAlone (h : SentAlone P xs zs) (log : List (Event ι)) :
    loop P (xs ++ zs) none log = loop P zs none (log ++ sentLog xs) := by
  induction xs generalizing log with
  | nil => simp [sentLog]
  | cons p xs ih =>
    obtain ⟨hstart, hsent, htail⟩ := h
    rw [cons_append, loop_cons]
    simp only [body, hstart, hsent, Bool.false_eq_true, if_false]
    rw [ih htail]
    simp [sentLog, append_assoc]

lemma exists_sentAlone (P : Platform ι) (q : List (H2cPkt ι)) :
    ∃ xs zs, q = xs ++ zs ∧ SentAlone P xs zs ∧
      (zs = [] ∨ ∃ p ys, zs = p :: ys ∧ (startsAgg p ys = true ∨ P.normal p.addr ≠ .sent)) := by
  induction q with
  | nil => exact ⟨[], [], rfl, trivial, .inl rfl⟩
  | cons p q ih =>
    by_cases hhere : startsAgg p q = true ∨ P.normal p.addr ≠ .sent
    · exact ⟨[], p :: q, rfl, trivial, .inr ⟨p, q, rfl, hhere⟩⟩
    · rw [not_or, not_not, Bool.not_eq_true] at hhere
      obtain ⟨xs, zs, rfl, halone, hrest⟩ := ih
      exact ⟨p :: xs, zs, rfl, ⟨hhere.1, hhere.2, halone⟩, hrest⟩

lemma loop_prefix (log : List (Event ι)) :
    ∃ evs, (loop P q agg log).2.log = log ++ evs ∧ ∀ j, .released (.agg j) ∉ evs := by
  induction q generalizing agg log with
  | nil => exact ⟨[], by simp [loop], by simp⟩
  | cons p q ih =>
    have hsub : ∀ a log, ∃ evs, (addSub P p q a log).2.log = log ++ evs ∧
        ∀ j, .released (.agg j) ∉ evs := by
      intro a log
      unfold addSub Platform.sendAgg
      split
      · exact ⟨[], by simp, by simp⟩
      · split_ifs <;> exact ⟨_, rfl, by simp⟩
    have hbody : ∃ evs, (body P p q agg log).2.log = log ++ evs ∧
        ∀ j, .released (.agg j) ∉ evs := by
      unfold body
      split
      · exact hsub _ _
      · split_ifs
        · obtain ⟨evs, hevs, hno⟩ := hsub (.new p.addr) (log ++ [.allocated p.addr])
          exact ⟨.allocated p.addr :: evs, by rw [hevs]; simp, by simpa using hno⟩
        · exact ⟨[], by simp, by simp⟩
        · split
          · exact ⟨_, rfl, by simp⟩
          · exact ⟨[], by simp, by simp⟩
          · exact ⟨_, rfl, by simp⟩
    obtain ⟨evs, hevs, hno⟩ := hbody
    rw [loop_cons]
    split
    · next s hs =>
        rw [hs] at hevs
        obtain ⟨evs', hevs', hno'⟩ := ih s.agg s.log
        refine ⟨evs ++ evs', by rw [hevs', hevs, append_assoc], fun j => ?_⟩
        rw [mem_append, not_or]
        exact ⟨hno j, hno' j⟩
    · exact ⟨evs, hevs, hno⟩

lemma loop_agg_mem (log : List (Event ι))
    {b : Agg ι} (h : (loop P q agg log).2.agg = some b) :
    b.first ∈ q.map H2cPkt.addr ∨ ∃ a, agg = some a ∧ b.first = a.first := by
  induction q generalizing agg log with
  | nil => exact .inr ⟨b, h, rfl⟩
  | cons p q ih =>
    have hsub : ∀ a log, ∀ c, (addSub P p q a log).2.agg = some c → c.first = a.first := by
      intro a log c hc
      unfold addSub Agg.put at hc
      grind
    have hbody : ∀ c, (body P p q agg log).2.agg = some c →
        c.first = p.addr ∨ ∃ a, agg = some a ∧ c.first = a.first := by
      intro c hc
      cases agg with
      | some a => exact .inr ⟨a, rfl, hsub _ _ c hc⟩
      | none =>
        simp only [body] at hc
        split_ifs at hc
        · exact .inl (hsub _ _ c hc)
        · revert hc
          cases P.normal p.addr <;> exact fun hc => by contradiction
    rw [loop_cons] at h
    split at h
    · next s hs =>
        rw [hs] at hbody
        rcases ih s.agg s.log h with hmem | ⟨a, ha, hfirst⟩
        · exact .inl (mem_cons_of_mem _ hmem)
        · rcases hbody a ha with hp | hagg
          · exact .inl (by simp [hfirst, hp])
          · obtain ⟨c, hc, hcfirst⟩ := hagg
            exact .inr ⟨c, hc, hfirst.trans hcfirst⟩
    · rcases hbody b h with hp | hagg
      · exact .inl (by simp [hp])
      · exact .inr hagg

lemma filter_isSent_sentLog (xs : List (H2cPkt ι)) :
    (sentLog xs).filter Event.isSent = xs.map .sentNormal := by
  induction xs with
  | nil => rfl
  | cons p xs ih =>
    rw [sentLog, flatMap_cons, filter_append, ← sentLog, ih]
    rfl

lemma forall₂_sentNormal (xs : List (H2cPkt ι)) :
    List.Forall₂ Event.Carries (xs.map .sentNormal) (xs.map fun p => [p]) := by
  induction xs with
  | nil => exact .nil
  | cons p xs ih => exact .cons rfl ih

lemma flatten_singletons (xs : List (H2cPkt ι)) : (xs.map fun p => [p]).flatten = xs := by
  induction xs with
  | nil => rfl
  | cons p xs ih => rw [map_cons, flatten_cons, ih, singleton_append]

lemma mem_flushLog (h : e ∈ flushLog xs) :
    (∃ i, e = .released (.pkt i)) ∨ ∃ i, e = .freedNode i := by
  simp only [flushLog, mem_flatMap, mem_cons, not_mem_nil, or_false] at h
  obtain ⟨p, -, rfl | rfl⟩ := h
  · exact .inl ⟨p.addr, rfl⟩
  · exact .inr ⟨p.addr, rfl⟩

lemma mem_copied (h : e ∈ copied xs) :
    (∃ i, e = .released (.pkt i)) ∨ ∃ i, e = .freedNode i := by
  simp only [copied, mem_flatMap, mem_cons, not_mem_nil, or_false] at h
  obtain ⟨p, -, rfl | rfl⟩ := h
  · exact .inr ⟨p.addr, rfl⟩
  · exact .inl ⟨p.addr, rfl⟩

section Counts

variable [DecidableEq ι]

lemma countP_flatMap_addr {c : Event ι → Bool} {f : H2cPkt ι → List (Event ι)}
    (h : ∀ p, (f p).countP c = if p.addr = i then 1 else 0) (xs : List (H2cPkt ι)) :
    (xs.flatMap f).countP c = (xs.map H2cPkt.addr).count i := by
  induction xs with
  | nil => rfl
  | cons p xs ih =>
    rw [flatMap_cons, countP_append, ih, h, map_cons, count_cons, Nat.add_comm]
    simp

lemma count_flatMap_eq_zero {e : Event ι} {f : H2cPkt ι → List (Event ι)}
    (h : ∀ p, e ∉ f p) : (xs.flatMap f).count e = 0 := by
  refine count_eq_zero_of_not_mem fun hmem => ?_
  obtain ⟨p, -, hp⟩ := mem_flatMap.1 hmem
  exact h p hp

lemma release_sentLog (xs : List (H2cPkt ι)) :
    (sentLog xs).countP (Event.isRelease i) = (xs.map H2cPkt.addr).count i :=
  countP_flatMap_addr (fun p => by simp [Event.isRelease, countP_cons]) xs

lemma release_copied (xs : List (H2cPkt ι)) :
    (copied xs).countP (Event.isRelease i) = (xs.map H2cPkt.addr).count i :=
  countP_flatMap_addr (fun p => by simp [Event.isRelease, countP_cons]) xs

lemma release_flushLog (xs : List (H2cPkt ι)) :
    (flushLog xs).countP (Event.isRelease i) = (xs.map H2cPkt.addr).count i :=
  countP_flatMap_addr (fun p => by simp [Event.isRelease, countP_cons]) xs

lemma freedNode_sentLog (xs : List (H2cPkt ι)) :
    (sentLog xs).count (.freedNode i) = (xs.map H2cPkt.addr).count i :=
  countP_flatMap_addr (fun p => by simp [countP_cons]) xs

lemma freedNode_copied (xs : List (H2cPkt ι)) :
    (copied xs).count (.freedNode i) = (xs.map H2cPkt.addr).count i :=
  countP_flatMap_addr (fun p => by simp [countP_cons]) xs

lemma freedNode_flushLog (xs : List (H2cPkt ι)) :
    (flushLog xs).count (.freedNode i) = (xs.map H2cPkt.addr).count i :=
  countP_flatMap_addr (fun p => by simp [countP_cons]) xs

lemma allocated_sentLog : (sentLog xs).count (.allocated i) = 0 :=
  count_flatMap_eq_zero fun p => by simp

lemma released_agg_sentLog : (sentLog xs).count (.released (.agg i)) = 0 :=
  count_flatMap_eq_zero fun p => by simp

lemma allocated_flushLog : (flushLog xs).count (.allocated i) = 0 :=
  count_flatMap_eq_zero fun p => by simp

lemma released_agg_flushLog : (flushLog xs).count (.released (.agg i)) = 0 :=
  count_flatMap_eq_zero fun p => by simp

lemma allocated_copied : (copied xs).count (.allocated i) = 0 :=
  count_flatMap_eq_zero fun p => by simp

lemma released_agg_copied : (copied xs).count (.released (.agg i)) = 0 :=
  count_flatMap_eq_zero fun p => by simp

variable {q : Info ι}

lemma preserved_of {evs : List (Event ι)} {success : Bool}
    (hq : q.queue = xs ++ ys) (hall : success = true → ys = [])
    (hsent : ∀ e ∈ evs, e.isSent = false)
    (hrel : ∀ i, evs.countP (Event.isRelease i) = (ys.map H2cPkt.addr).count i)
    (hnode : ∀ i, evs.count (.freedNode i) = (ys.map H2cPkt.addr).count i)
    (hagg : ∀ i, evs.count (.allocated i) = evs.count (.released (.agg i))) :
    Preserved q ⟨.returned success, [], 0, sentLog xs ++ evs⟩ := by
  have hone : ∀ p ∈ q.queue, ((xs ++ ys).map H2cPkt.addr).count p.addr = 1 := by
    intro p hp
    rw [← hq]
    exact count_eq_one_of_mem q.nodup (mem_map_of_mem hp)
  have hfilter : (sentLog xs ++ evs).filter Event.isSent = xs.map .sentNormal := by
    rw [filter_append, filter_isSent_sentLog, filter_eq_nil_iff.2, append_nil]
    intro e he
    simp [hsent e he]
  refine ⟨⟨success, rfl⟩, ⟨xs.map fun p => [p], ?_, ?_, ?_⟩, ?_, ?_, ?_, ?_, rfl, rfl⟩
  · dsimp only
    rw [hfilter]
    exact forall₂_sentNormal xs
  · rw [flatten_singletons, hq]
    exact prefix_append _ _
  · intro h
    rw [flatten_singletons, hq, hall (Stop.returned.inj h), append_nil]
  · intro p hp
    rw [← hone p hp, countP_append, release_sentLog, hrel, map_append, count_append]
  · intro p hp
    rw [← hone p hp, count_append, freedNode_sentLog, hnode, map_append,
      count_append]
  · intro i
    rw [count_append, count_append, hagg, allocated_sentLog, released_agg_sentLog]
  · intro content hc
    have hmem := mem_filter.2 ⟨hc, (rfl : (Event.sentAgg content).isSent = true)⟩
    rw [hfilter] at hmem
    simp at hmem

lemma preserved_flushed (hq : q.queue = xs ++ ys) :
    Preserved q ⟨.returned false, [], 0, sentLog xs ++ flushLog ys⟩ := by
  refine preserved_of hq (fun h => by contradiction) (fun e he => ?_)
    (fun i => release_flushLog ys) (fun i => freedNode_flushLog ys) fun i => ?_
  · rcases mem_flushLog he with ⟨i, rfl⟩ | ⟨i, rfl⟩ <;> rfl
  · rw [allocated_flushLog, released_agg_flushLog]

lemma preserved_unsent {g : List (H2cPkt ι)} (i : ι)
    (hq : q.queue = xs ++ (g ++ ys)) :
    Preserved q ⟨.returned false, [], 0,
      sentLog xs ++ (.allocated i :: (copied g ++ (flushLog ys ++ [.released (.agg i)])))⟩ := by
  refine preserved_of hq (fun h => by contradiction) ?_ ?_ ?_ ?_
  · intro e he
    simp only [mem_cons, mem_append, not_mem_nil, or_false] at he
    rcases he with rfl | h | h | rfl
    · rfl
    · rcases mem_copied h with ⟨i, rfl⟩ | ⟨i, rfl⟩ <;> rfl
    · rcases mem_flushLog h with ⟨i, rfl⟩ | ⟨i, rfl⟩ <;> rfl
    · rfl
  · intro j
    simp [countP_append, Event.isRelease, release_copied, release_flushLog]
  · intro j
    simp [count_append, freedNode_copied, freedNode_flushLog]
  · intro j
    simp [count_cons, count_append, allocated_copied, allocated_flushLog,
      released_agg_copied, released_agg_flushLog]

/-- All packets are sent alone; or a flush is possible, and the first packet that is not sent
alone cannot be sent and stays with the caller, or begins an aggregate that cannot be
allocated or cannot be sent. -/
def Accountable (P : Platform ι) (q : List (H2cPkt ι)) : Prop :=
  SentAlone P q [] ∨
    (P.recycles = true ∧ P.interrupted = true ∧
      ∃ xs p ys, q = xs ++ p :: ys ∧ SentAlone P xs (p :: ys) ∧
        if startsAgg p ys = true then P.alloc p.addr = false ∨ P.common p.addr = false
        else P.normal p.addr = .kept)

lemma preserved_of_accountable (h : Accountable P q.queue) :
    Preserved q (macH2cAggTx P q) := by
  rcases h with hall | ⟨hrec, hint, xs, p, ys, hq, halone, hcase⟩
  · have hloop := loop_sentAlone hall []
    rw [append_nil] at hloop
    have hresult : macH2cAggTx P q = ⟨.returned true, [], 0, sentLog q.queue ++ []⟩ := by
      simp [macH2cAggTx, hloop, loop]
    rw [hresult]
    exact preserved_of (append_nil _).symm (fun _ => rfl) (by simp) (fun _ => rfl)
      (fun _ => rfl) fun _ => rfl
  · have hloop := loop_sentAlone halone []
    rw [← hq, nil_append] at hloop
    cases hstart : startsAgg p ys with
    | false =>
      rw [hstart, if_neg (by decide)] at hcase
      have hresult : macH2cAggTx P q =
          ⟨.returned false, [], 0, sentLog xs ++ flushLog (p :: ys)⟩ := by
        simp [macH2cAggTx, hloop, loop, body, hstart, hcase, hrec, hint]
      rw [hresult]
      exact preserved_flushed hq
    | true =>
      rw [hstart, if_pos rfl] at hcase
      cases halloc : P.alloc p.addr with
      | false =>
        have hresult : macH2cAggTx P q =
            ⟨.returned false, [], 0, sentLog xs ++ flushLog (p :: ys)⟩ := by
          simp [macH2cAggTx, hloop, loop, body, hstart, halloc, hrec, hint]
        rw [hresult]
        exact preserved_flushed hq
      | true =>
        have hcommon : P.common p.addr = false := hcase.resolve_left (by simp [halloc])
        obtain ⟨g, zs, b, hsplit, -, hfirst, -, -, hagg⟩ :=
          loop_agg ys hrec (Agg.new_holds p.addr) (Agg.new_hasRoom hstart)
            (sentLog xs ++ [.allocated p.addr])
        have hfirst' : b.first = p.addr := hfirst
        have hresult : macH2cAggTx P q = ⟨.returned false, [], 0, sentLog xs ++
            (.allocated p.addr :: (copied g ++ (flushLog zs ++ [.released (.agg p.addr)])))⟩ := by
          rw [macH2cAggTx, hloop, loop_starts hstart halloc, hagg,
            if_neg (by simp [Agg.new, hcommon])]
          simp [hrec, hint, hfirst']
        rw [hresult]
        exact preserved_unsent p.addr (by rw [hq, hsplit])

lemma flushes_of_failed {s : State ι} (h : Preserved q (macH2cAggTx P q))
    (hloop : loop P q.queue none [] = (.failed, s)) :
    P.recycles = true ∧ P.interrupted = true ∧ (macH2cAggTx P q).log =
      s.log ++ flushLog s.queue ++ (s.agg.map fun a => .released (.agg a.first)).toList := by
  obtain ⟨success, hstop⟩ := h.returned
  simp only [macH2cAggTx, hloop] at hstop ⊢
  cases hint : P.interrupted with
  | false =>
    simp only [hint, Bool.false_eq_true, if_false] at hstop
    contradiction
  | true =>
    cases hrec : P.recycles with
    | false =>
      simp only [hint, hrec, Bool.false_eq_true, if_false, if_true] at hstop
      contradiction
    | true => simp

lemma not_preserved_recycled (hq : q.queue = xs ++ p :: ys)
    (hloop : loop P q.queue none [] =
      (.failed, ⟨p :: ys, none, sentLog xs ++ [.released (.pkt p.addr)]⟩)) :
    ¬ Preserved q (macH2cAggTx P q) := by
  intro h
  have hone := h.packets p (by simp [hq])
  rw [(flushes_of_failed h hloop).2.2] at hone
  simp [countP_append, release_flushLog, Event.isRelease] at hone
  omega

lemma not_preserved_sent {content : List UInt8}
    (hi : i ∉ zs.map H2cPkt.addr)
    (hloop : loop P q.queue none [] = loop P zs none
      (sentLog xs ++ [.allocated i] ++ copied ys ++ [.sentAgg content])) :
    ¬ Preserved q (macH2cAggTx P q) := by
  intro h
  obtain ⟨evs, hlog, hevs⟩ := loop_prefix (P := P) zs none
    (sentLog xs ++ [.allocated i] ++ copied ys ++ [.sentAgg content])
  have hcount := h.aggregates i
  have hnone : evs.count (.released (.agg i)) = 0 := count_eq_zero_of_not_mem (hevs i)
  obtain ⟨success, hstop⟩ := h.returned
  cases hend : loop P q.queue none [] with
  | mk exit s =>
    rw [← hloop, hend] at hlog
    dsimp only at hlog
    cases exit with
    | crashed =>
      simp only [macH2cAggTx, hend] at hstop
      contradiction
    | done =>
      simp only [macH2cAggTx, hend, hlog] at hcount
      simp [count_append, allocated_sentLog, released_agg_sentLog, allocated_copied,
        released_agg_copied, hnone] at hcount
    | failed =>
      have hlast : ((s.agg.map fun a => Event.released (.agg a.first)).toList).count
          (.released (.agg i)) = 0 := by
        refine count_eq_zero_of_not_mem fun hmem => ?_
        cases hb : s.agg with
        | none => simp [hb] at hmem
        | some b =>
          have hfirst := loop_agg_mem (P := P) zs none
            (sentLog xs ++ [.allocated i] ++ copied ys ++ [.sentAgg content]) (b := b)
            (by rw [← hloop, hend]; exact hb)
          simp only [hb, Option.map_some, Option.toList_some, mem_singleton,
            Event.released.injEq, Buf.agg.injEq] at hmem
          rcases hfirst with hin | ⟨a, ha, -⟩
          · exact hi (hmem ▸ hin)
          · contradiction
      rw [(flushes_of_failed h hend).2.2, hlog] at hcount
      simp [count_append, allocated_sentLog, released_agg_sentLog, allocated_copied,
        released_agg_copied, allocated_flushLog, released_agg_flushLog, hnone, hlast] at hcount

lemma accountable_of_preserved (h : Preserved q (macH2cAggTx P q)) :
    Accountable P q.queue := by
  obtain ⟨xs, zs, hq, halone, rfl | ⟨p, ys, rfl, hhere⟩⟩ := exists_sentAlone P q.queue
  · rw [append_nil] at hq
    exact .inl (hq ▸ halone)
  have hloop := loop_sentAlone halone []
  rw [← hq, nil_append] at hloop
  cases hstart : startsAgg p ys with
  | false =>
    cases hnormal : P.normal p.addr with
    | sent => simp [hstart, hnormal] at hhere
    | kept =>
      have hfailed : loop P q.queue none [] = (.failed, ⟨p :: ys, none, sentLog xs⟩) := by
        simp [hloop, loop, body, hstart, hnormal]
      obtain ⟨hrec, hint, -⟩ := flushes_of_failed h hfailed
      refine .inr ⟨hrec, hint, xs, p, ys, hq, halone, ?_⟩
      rwa [hstart, if_neg (by decide)]
    | recycled =>
      refine absurd h (not_preserved_recycled hq ?_)
      simp [hloop, loop, body, hstart, hnormal]
  | true =>
    cases halloc : P.alloc p.addr with
    | false =>
      have hfailed : loop P q.queue none [] = (.failed, ⟨p :: ys, none, sentLog xs⟩) := by
        simp [hloop, loop, body, hstart, halloc]
      obtain ⟨hrec, hint, -⟩ := flushes_of_failed h hfailed
      refine .inr ⟨hrec, hint, xs, p, ys, hq, halone, ?_⟩
      rw [hstart, if_pos rfl]
      exact .inl halloc
    | true =>
      rw [loop_starts hstart halloc] at hloop
      have hnew := @Agg.new_holds ι p.addr
      have hroom := Agg.new_hasRoom hstart
      cases hrec : P.recycles with
      | false =>
        obtain ⟨success, hstop⟩ := h.returned
        have hcrash := loop_agg_crashed ys hrec hnew hroom
          (sentLog xs ++ [.allocated p.addr])
        rw [← hloop] at hcrash
        unfold macH2cAggTx at hstop
        split at hstop
        · contradiction
        · next s hs =>
            rw [hs] at hcrash
            contradiction
        · next s hs =>
            rw [hs] at hcrash
            contradiction
      | true =>
        obtain ⟨g, zs, b, hsplit, hne, -, -, -, hagg⟩ :=
          loop_agg ys hrec hnew hroom (sentLog xs ++ [.allocated p.addr])
        rw [hagg] at hloop
        cases hcommon : P.common p.addr with
        | false =>
          rw [if_neg (by simp [Agg.new, hcommon])] at hloop
          obtain ⟨hrec, hint, -⟩ := flushes_of_failed h hloop
          refine .inr ⟨hrec, hint, xs, p, ys, hq, halone, ?_⟩
          rw [hstart, if_pos rfl]
          exact .inr hcommon
        | true =>
          rw [if_pos (by simp [Agg.new, hcommon])] at hloop
          refine absurd h (not_preserved_sent ?_ hloop)
          obtain ⟨p', g', rfl⟩ := exists_cons_of_ne_nil hne
          obtain ⟨rfl, rfl⟩ := List.cons.inj hsplit
          have hnodup := q.nodup
          rw [hq, map_append, nodup_append] at hnodup
          have htail := (nodup_cons.1 hnodup.2.1).1
          intro hmem
          obtain ⟨r, hr, haddr⟩ := mem_map.1 hmem
          exact htail (mem_map.2 ⟨r, mem_append_right g' hr, haddr⟩)

/-- A call keeps its promises exactly if no aggregate is sent, and if it fails, then in a way
that leaves the packet with the caller, with a platform that lets it flush. -/
theorem agg_tx_preserved_iff (P : Platform ι) (q : Info ι) :
    Preserved q (macH2cAggTx P q) ↔ Accountable P q.queue :=
  ⟨accountable_of_preserved, preserved_of_accountable⟩

end Counts

def goodPlatform : Platform ℕ where
  normal := fun _ => .sent
  alloc := fun _ => true
  common := fun _ => true
  behind := fun _ len => replicate len 0
  recycles := true
  interrupted := true

def twoCommands : Info ℕ where
  queue := [⟨0, replicate 8 1⟩, ⟨1, replicate 8 2⟩]
  nodup := by decide

/-- Two commands of eight bytes: the aggregate is sent, and never released. -/
theorem agg_tx_two_commands :
    (macH2cAggTx goodPlatform twoCommands).stop = .returned true ∧
      ¬ Preserved twoCommands (macH2cAggTx goodPlatform twoCommands) := by
  refine ⟨by decide, fun h => ?_⟩
  exact absurd (h.aggregates 0) (by decide)

end Rtl8831.Mac.H2cAgg
