import DecnetNsp.Control

/-!
# The two delivery engines

`dn_nsp_data` on the data subchannel, and `dn_nsp_otherdata` and `dn_nsp_linkservice`, which
share the other-data cursor. A segment is accepted only when `seq_next` finds it in sequence,
and the cursor moves only when the segment is queued or the link-service frame applied: that
point is marked by an `accept` event. `accepted` reads those marks back from a trace.
-/

namespace DecnetNsp

/-- `dn_queue_skb`. Unless `sk_filter` rejects the frame, it is refused, and counted in
`sk_drops`, when the memory the socket holds has reached `sk_rcvbuf` or `sk_rmem_schedule` finds
none. Otherwise `skb_set_owner_r` charges its `truesize` to the socket and it joins the queue,
`other_receive_queue` when `other`. -/
def dnQueueSkb (env : Env) (c : Conn) (skb : Skb) (other : Bool) : Conn × Bool × List Event :=
  if env.queue = .filtered then (c, false, [])
  else if c.skRcvbuf ≤ c.skRmemAlloc then ({ c with skDrops := c.skDrops + 1 }, false, [])
  else if env.queue = .noRmem then ({ c with skDrops := c.skDrops + 1 }, false, [])
  else
    (if other then
        { c with skRmemAlloc := c.skRmemAlloc + skb.truesize,
                 otherReceiveQueue := c.otherReceiveQueue ++ [skb] }
      else
        { c with skRmemAlloc := c.skRmemAlloc + skb.truesize,
                 skReceiveQueue := c.skReceiveQueue ++ [skb] },
      true, if !c.dead then [.dataReady] else [])

/-- The acknowledgment tail of `dn_nsp_data`: a queued segment with its delay bit set restarts a
pending delayed ack; any other outcome sends a data ack at once. -/
def dataAck (cfg : Config) (c : Conn) (ev : List Event) (queued : Bool) (segnum : UInt16) :
    Conn × List Event :=
  if queued && !sendack segnum then
    (if c.ackdelay ≠ 0 then { c with ackdelay := cfg.ackdelay } else c, ev)
  else (c, ev ++ [.sendDataAck])

/-- `dn_congested`, as `dn.h` (not in this repository) defines it: the socket holds more than
half of `sk_rcvbuf`. -/
def dnCongested (c : Conn) : Bool := c.skRcvbuf / 2 < c.skRmemAlloc

/-- The congestion check of `dn_nsp_data` on an in-sequence segment, then its acknowledgment. -/
def dataCongestion (cfg : Config) (segnum : UInt16) (queued : Bool) (c : Conn) (ev : List Event) :
    Conn × List Event :=
  if c.flowlocSw = dnSend ∧ dnCongested c then
    dataAck cfg { c with flowlocSw := dnDontsend } (ev ++ [.schedulePending .sw]) queued segnum
  else dataAck cfg c ev queued segnum

/-- The in-sequence branch of `dn_nsp_data` once `dn_queue_skb` has answered: the cursor moves
over a queued segment. -/
def dataQueued (cfg : Config) (segnum : UInt16) : Conn × Bool × List Event → Conn × List Event
  | (c, queued, ev) =>
    dataCongestion cfg segnum queued
      (if queued then { c with numdatRcv := seqAdd c.numdatRcv 1 } else c)
      (ev ++ if queued then [.accept .data segnum] else [])

/-- `dn_nsp_data`. -/
def dnNspData (cfg : Config) (env : Env) (c : Conn) (skb : Skb) : Conn × List Event :=
  match skb.data with
  | s0 :: s1 :: payload =>
    if seqNext c.numdatRcv (le16 s0 s1) then
      dataQueued cfg (le16 s0 s1)
        (dnQueueSkb env c { skb with segnum := le16 s0 s1, data := payload } false)
    else dataAck cfg c [] false (le16 s0 s1)
  | _ => (c, [])

/-- The in-sequence branch of `dn_nsp_otherdata` once `dn_queue_skb` has answered. -/
def othQueued (segnum : UInt16) : Conn × Bool × List Event → Conn × List Event
  | (c, true, ev) =>
    ({ c with numothRcv := seqAdd c.numothRcv 1, otherReport := 0 },
      ev ++ [.accept .otherData segnum, .sendOthAck])
  | (c, false, ev) => (c, ev ++ [.sendOthAck])

/-- `dn_nsp_otherdata`. Every segment long enough to carry its number is acknowledged. -/
def dnNspOtherdata (env : Env) (c : Conn) (skb : Skb) : Conn × List Event :=
  match skb.data with
  | s0 :: s1 :: payload =>
    if seqNext c.numothRcv (le16 s0 s1) then
      othQueued (le16 s0 s1)
        (dnQueueSkb env c { skb with segnum := le16 s0 s1, data := payload } true)
    else (c, [.sendOthAck])
  | _ => (c, [])

/-- The flow-control update of an accepted link-service frame, by its `lsflags` and `fcval`:
the connection, whether the owner is woken, and the calls made. -/
def lsUpdate (c : Conn) (lsflags fc : UInt8) : Conn × Bool × List Event :=
  if lsflags &&& 0x04 = 0 then
    if lsflags &&& 0x03 = dnNochange then
      if signedChar fc < 0 then
        if (0 - fc).toNat < c.flowremDat.toNat ∧ c.servicesRem &&& nspFcMask = nspFcScmc then
          ({ c with flowremDat := c.flowremDat - (0 - fc).toUInt16 }, false, [])
        else (c, false, [])
      else if 0 < signedChar fc then ({ c with flowremDat := c.flowremDat + fc.toUInt16 }, true, [])
      else (c, false, [])
    else if lsflags &&& 0x03 = dnDontsend then ({ c with flowremSw := dnDontsend }, false, [])
    else if lsflags &&& 0x03 = dnSend then ({ c with flowremSw := dnSend }, true, [.nspOutput])
    else (c, false, [])
  else if 0 < signedChar fc then ({ c with flowremOth := c.flowremOth + fc.toUInt16 }, true, [])
  else (c, false, [])

/-- An accepted link-service frame: the other-data cursor moves, then the update applies. -/
def lsAccept (segnum : UInt16) (u : Conn × Bool × List Event) : Conn × List Event :=
  (u.1, .accept .linkService segnum :: u.2.2 ++
    (if u.2.1 && !u.1.dead then [.stateChange] else []) ++ [.sendOthAck])

/-- `dn_nsp_linkservice`: exactly four bytes, segment number, `lsflags` with its top five bits
clear, and `fcval`. It shares the other-data cursor. -/
def dnNspLinkservice (c : Conn) (skb : Skb) : Conn × List Event :=
  match skb.data with
  | [s0, s1, lsflags, fc] =>
    if lsflags &&& 0xf8 ≠ 0 then (c, [])
    else if seqNext c.numothRcv (le16 s0 s1) then
      lsAccept (le16 s0 s1) (lsUpdate { c with numothRcv := seqAdd c.numothRcv 1 } lsflags fc)
    else (c, [.sendOthAck])
  | _ => (c, [])

theorem dnQueueSkb_spec (env : Env) (c : Conn) (skb : Skb) (other : Bool) :
    (∀ p, accepted p (dnQueueSkb env c skb other).2.2 = []) ∧
      (((dnQueueSkb env c skb other).2.1 = false ∧
          ∃ k, (dnQueueSkb env c skb other).1 = { c with skDrops := k }) ∨
        ((dnQueueSkb env c skb other).2.1 = true ∧
          (dnQueueSkb env c skb other).1 =
            if other then
              { c with skRmemAlloc := c.skRmemAlloc + skb.truesize,
                       otherReceiveQueue := c.otherReceiveQueue ++ [skb] }
            else
              { c with skRmemAlloc := c.skRmemAlloc + skb.truesize,
                       skReceiveQueue := c.skReceiveQueue ++ [skb] })) := by
  unfold dnQueueSkb
  split
  · exact ⟨fun _ => rfl, .inl ⟨rfl, _, rfl⟩⟩
  split
  · exact ⟨fun _ => rfl, .inl ⟨rfl, _, rfl⟩⟩
  split
  · exact ⟨fun _ => rfl, .inl ⟨rfl, _, rfl⟩⟩
  exact ⟨fun p => by dsimp only; split <;> rfl, .inr ⟨rfl, rfl⟩⟩

/-- The frame is queued exactly when both collaborators let it through and the socket holds
less than `sk_rcvbuf`. -/
theorem dnQueueSkb_queued (env : Env) (c : Conn) (skb : Skb) (other : Bool) :
    (dnQueueSkb env c skb other).2.1 = true ↔ env.queue = .ok ∧ c.skRmemAlloc < c.skRcvbuf := by
  unfold dnQueueSkb
  cases hq : env.queue <;> by_cases hm : c.skRcvbuf ≤ c.skRmemAlloc <;> simp [hq, hm]
  omega

theorem dataAck_frame (cfg : Config) (c : Conn) (ev : List Event) (q : Bool) (n : UInt16) :
    ∃ d, (dataAck cfg c ev q n).1 = { c with ackdelay := d } := by
  unfold dataAck; split_ifs <;> exact ⟨_, rfl⟩

@[simp] theorem accepted_dataAck (p : SegKind → Bool) (cfg : Config) (c : Conn)
    (ev : List Event) (q : Bool) (n : UInt16) :
    accepted p (dataAck cfg c ev q n).2 = accepted p ev := by
  unfold dataAck; split_ifs <;> simp [acceptOf]

theorem dataCongestion_frame (cfg : Config) (n : UInt16) (q : Bool) (c : Conn) (ev : List Event) :
    ∃ s d, (dataCongestion cfg n q c ev).1 = { c with flowlocSw := s, ackdelay := d } := by
  unfold dataCongestion
  split
  · obtain ⟨d, h⟩ := dataAck_frame cfg { c with flowlocSw := dnDontsend }
      (ev ++ [.schedulePending .sw]) q n
    exact ⟨_, _, h⟩
  · obtain ⟨d, h⟩ := dataAck_frame cfg c ev q n
    exact ⟨_, _, h⟩

@[simp] theorem accepted_dataCongestion (p : SegKind → Bool) (cfg : Config) (n : UInt16) (q : Bool)
    (c : Conn) (ev : List Event) : accepted p (dataCongestion cfg n q c ev).2 = accepted p ev := by
  unfold dataCongestion; split <;> simp [acceptOf]

theorem dataQueued_frame (cfg : Config) (n : UInt16) (c : Conn) (q : Bool) (ev : List Event) :
    ∃ s d, (dataQueued cfg n (c, q, ev)).1 =
      { c with numdatRcv := if q then seqAdd c.numdatRcv 1 else c.numdatRcv,
               flowlocSw := s, ackdelay := d } := by
  obtain ⟨s, d, h⟩ := dataCongestion_frame cfg n q
    (if q then { c with numdatRcv := seqAdd c.numdatRcv 1 } else c)
    (ev ++ if q then [.accept .data n] else [])
  refine ⟨s, d, h.trans ?_⟩
  split <;> rfl

@[simp] theorem accepted_dataQueued (p : SegKind → Bool) (cfg : Config) (n : UInt16) (c : Conn)
    (q : Bool) (ev : List Event) :
    accepted p (dataQueued cfg n (c, q, ev)).2 = accepted p ev ++ if q ∧ p .data then [n] else [] := by
  simp only [dataQueued, accepted_dataCongestion, accepted_append]
  split_ifs <;> simp_all [acceptOf]

theorem othQueued_frame (n : UInt16) (c : Conn) (q : Bool) (ev : List Event) :
    ∃ r, (othQueued n (c, q, ev)).1 =
      { c with numothRcv := if q then seqAdd c.numothRcv 1 else c.numothRcv, otherReport := r } := by
  cases q
  · exact ⟨_, rfl⟩
  · exact ⟨_, rfl⟩

@[simp] theorem accepted_othQueued (p : SegKind → Bool) (n : UInt16) (c : Conn) (q : Bool)
    (ev : List Event) :
    accepted p (othQueued n (c, q, ev)).2 =
      accepted p ev ++ if q ∧ p .otherData then [n] else [] := by
  cases q <;> simp [othQueued, acceptOf, apply_ite Option.toList]

theorem lsUpdate_frame (c : Conn) (lsflags fc : UInt8) :
    ∃ fd fo sw, (lsUpdate c lsflags fc).1 =
      { c with flowremDat := fd, flowremOth := fo, flowremSw := sw } := by
  have hite : ∀ {P : Prop} [Decidable P] {x y : Conn},
      (∃ fd fo sw, x = { c with flowremDat := fd, flowremOth := fo, flowremSw := sw }) →
      (∃ fd fo sw, y = { c with flowremDat := fd, flowremOth := fo, flowremSw := sw }) →
      ∃ fd fo sw, (if P then x else y) =
        { c with flowremDat := fd, flowremOth := fo, flowremSw := sw } :=
    fun hx hy => by split <;> assumption
  unfold lsUpdate
  simp only [apply_ite Prod.fst]
  repeat (first | apply hite | exact ⟨_, _, _, rfl⟩)

@[simp] theorem accepted_lsUpdate (p : SegKind → Bool) (c : Conn) (lsflags fc : UInt8) :
    accepted p (lsUpdate c lsflags fc).2.2 = [] := by
  unfold lsUpdate
  simp only [apply_ite Prod.snd, apply_ite (accepted p), accepted_nil]
  simp [acceptOf]

/-- An accepted link-service frame is accepted once, whatever its update does. -/
theorem accepted_lsAccept (p : SegKind → Bool) (n : UInt16) (c : Conn) (lsflags fc : UInt8) :
    accepted p (lsAccept n (lsUpdate c lsflags fc)).2 = if p .linkService then [n] else [] := by
  unfold lsAccept
  simp [acceptOf, apply_ite Option.toList, apply_ite (accepted p)]

theorem dnNspData_of_short (cfg : Config) (env : Env) (c : Conn) (skb : Skb)
    (h : skb.data.length < 2) : dnNspData cfg env c skb = (c, []) := by
  unfold dnNspData
  split
  next hd => rw [hd, List.length_cons, List.length_cons] at h; omega
  · rfl

theorem dnNspOtherdata_of_short (env : Env) (c : Conn) (skb : Skb) (h : skb.data.length < 2) :
    dnNspOtherdata env c skb = (c, []) := by
  unfold dnNspOtherdata
  split
  next hd => rw [hd, List.length_cons, List.length_cons] at h; omega
  · rfl

/-- A link-service body other than four bytes, or one with reserved `LSFLAGS` bits, is dropped. -/
theorem dnNspLinkservice_of_bad (c : Conn) (skb : Skb)
    (h : skb.data.length ≠ 4 ∨ skb.data.getD 2 0 &&& 0xf8 ≠ 0) : dnNspLinkservice c skb = (c, []) := by
  unfold dnNspLinkservice
  split
  next hd =>
    rw [hd] at h
    simp only [List.length_cons, List.length_nil, ne_eq, not_true_eq_false, List.getD_cons_succ,
      List.getD_cons_zero, false_or] at h
    rw [if_pos h]
  · rfl

theorem dnQueueSkb_ok (env : Env) (c : Conn) (skb : Skb) (hq : env.queue = .ok)
    (hm : c.skRmemAlloc < c.skRcvbuf) :
    dnQueueSkb env c skb false =
      ({ c with skRmemAlloc := c.skRmemAlloc + skb.truesize,
                skReceiveQueue := c.skReceiveQueue ++ [skb] }, true,
        if !c.dead then [.dataReady] else []) := by
  unfold dnQueueSkb
  rw [hq, if_neg (by decide), if_neg (by omega), if_neg (by decide)]
  rfl

/-- With the delay bit set and no delayed ack pending, the tail neither acks nor times. -/
theorem dataAck_delayed (cfg : Config) (c : Conn) (ev : List Event) {n : UInt16}
    (hs : sendack n = false) (hp : c.ackdelay = 0) : dataAck cfg c ev true n = (c, ev) := by
  simp [dataAck, hs, hp]

theorem dataCongestion_delayed (cfg : Config) (c : Conn) (ev : List Event)
    {n : UInt16} (hs : sendack n = false) (hp : c.ackdelay = 0) :
    ∃ s e, dataCongestion cfg n true c ev = ({ c with flowlocSw := s }, ev ++ e) ∧
      .sendDataAck ∉ e := by
  unfold dataCongestion
  split
  · rw [dataAck_delayed cfg { c with flowlocSw := dnDontsend } _ hs hp]
    exact ⟨_, _, rfl, by simp⟩
  · rw [dataAck_delayed cfg c ev hs hp]
    exact ⟨c.flowlocSw, [], by rw [List.append_nil], by simp⟩

/-- `dn_nsp_data` on an in-sequence segment with the delay bit set, queued while no delayed ack
is pending: the cursor moves on, no data ack is sent and `ackdelay` stays zero. -/
theorem dnNspData_delayed (cfg : Config) (env : Env) (c : Conn) (skb : Skb) {s0 s1 : UInt8}
    {payload : List UInt8} (hd : skb.data = s0 :: s1 :: payload)
    (hn : seqNext c.numdatRcv (le16 s0 s1)) (hs : sendack (le16 s0 s1) = false)
    (hq : env.queue = .ok) (hm : c.skRmemAlloc < c.skRcvbuf) (hp : c.ackdelay = 0) :
    (dnNspData cfg env c skb).1.numdatRcv = seqAdd c.numdatRcv 1 ∧
      (dnNspData cfg env c skb).1.ackdelay = 0 ∧ .sendDataAck ∉ (dnNspData cfg env c skb).2 := by
  unfold dnNspData
  rw [hd]
  dsimp only
  rw [if_pos hn, dnQueueSkb_ok env c _ hq hm]
  obtain ⟨s, e, h, he⟩ := dataCongestion_delayed cfg
    { c with skRmemAlloc := c.skRmemAlloc + skb.truesize,
             skReceiveQueue := c.skReceiveQueue ++ [{ skb with segnum := le16 s0 s1, data := payload }],
             numdatRcv := seqAdd c.numdatRcv 1 }
    ((if !c.dead then [.dataReady] else []) ++ [.accept .data (le16 s0 s1)]) hs hp
  refine ⟨?_, ?_, ?_⟩ <;> simp only [dataQueued, if_true, h]
  · exact hp
  · split <;> simp [he]

theorem dnNspData_frame (cfg : Config) (env : Env) (c : Conn) (skb : Skb) :
    ∃ k m q n s d, (dnNspData cfg env c skb).1 =
      { c with skDrops := k, skRmemAlloc := m, skReceiveQueue := q, numdatRcv := n, flowlocSw := s,
               ackdelay := d } := by
  unfold dnNspData
  split
  next s0 s1 payload _ =>
    split
    · obtain ⟨-, hv⟩ := dnQueueSkb_spec env c { skb with segnum := le16 s0 s1, data := payload } false
      generalize dnQueueSkb env c _ false = q at hv ⊢
      obtain ⟨c1, b, ev⟩ := q
      obtain ⟨s, d, h⟩ := dataQueued_frame cfg (le16 s0 s1) c1 b ev
      rw [h]
      rcases hv with ⟨-, k, rfl⟩ | ⟨-, rfl⟩ <;> exact ⟨_, _, _, _, _, _, rfl⟩
    · obtain ⟨d, h⟩ := dataAck_frame cfg c [] false (le16 s0 s1)
      exact ⟨_, _, _, _, _, _, h⟩
  · exact ⟨_, _, _, _, _, _, rfl⟩

theorem dnNspOtherdata_frame (env : Env) (c : Conn) (skb : Skb) :
    ∃ k m q n r, (dnNspOtherdata env c skb).1 =
      { c with skDrops := k, skRmemAlloc := m, otherReceiveQueue := q, numothRcv := n,
               otherReport := r } := by
  unfold dnNspOtherdata
  split
  next s0 s1 payload _ =>
    split
    · obtain ⟨-, hv⟩ := dnQueueSkb_spec env c { skb with segnum := le16 s0 s1, data := payload } true
      generalize dnQueueSkb env c _ true = q at hv ⊢
      obtain ⟨c1, b, ev⟩ := q
      obtain ⟨r, h⟩ := othQueued_frame (le16 s0 s1) c1 b ev
      rw [h]
      rcases hv with ⟨-, k, rfl⟩ | ⟨-, rfl⟩ <;> exact ⟨_, _, _, _, _, rfl⟩
    · exact ⟨_, _, _, _, _, rfl⟩
  · exact ⟨_, _, _, _, _, rfl⟩

theorem dnNspLinkservice_frame (c : Conn) (skb : Skb) :
    ∃ n fd fo sw, (dnNspLinkservice c skb).1 =
      { c with numothRcv := n, flowremDat := fd, flowremOth := fo, flowremSw := sw } := by
  unfold dnNspLinkservice
  split
  · split
    · exact ⟨_, _, _, _, rfl⟩
    · split
      · obtain ⟨fd, fo, sw, h⟩ := lsUpdate_frame { c with numothRcv := seqAdd c.numothRcv 1 } _ _
        exact ⟨_, _, _, _, h⟩
      · exact ⟨_, _, _, _, rfl⟩
  · exact ⟨_, _, _, _, rfl⟩

end DecnetNsp
