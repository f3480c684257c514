import DecnetNsp.Backlog

/-!
# What the control handlers never touch

`Bookkeeping` gathers the fields of a connection that no control handler, neither the promotion
of `DN_CC` nor the acknowledgment tail of `dn_nsp_data`, reads or writes: the other subchannel,
the acknowledgment cursors of our own segments, the remote flow control, the backoff and the
reception stamp, the drop count, and the receive memory, which of that tail only `dn_congested`
reads (`dataQueued_mapBook`). Whatever is done to them before a control handler runs
comes out unchanged after it (`controlHandler_mapBook`). The entry point's timer touch and the
other subchannel's frames are both such changes, so the runs at the entry point and the
noninterference of the two subchannels share these lemmas. A handler that commutes with every
such change keeps the bookkeeping itself (`Conn.book_eq_of_mapBook`).
-/

namespace DecnetNsp

/-- The fields no control handler reads or writes. -/
structure Bookkeeping where
  numothRcv : UInt16
  ackrcvDat : UInt16
  ackrcvOth : UInt16
  flowremDat : UInt16
  flowremOth : UInt16
  flowremSw : UInt8
  otherReport : Nat
  nspRxtshift : Nat
  stamp : Nat
  skDrops : Nat
  skRmemAlloc : Nat
  otherReceiveQueue : List Skb

/-- The bookkeeping of a connection. -/
def Conn.book (c : Conn) : Bookkeeping :=
  ⟨c.numothRcv, c.ackrcvDat, c.ackrcvOth, c.flowremDat, c.flowremOth, c.flowremSw, c.otherReport,
    c.nspRxtshift, c.stamp, c.skDrops, c.skRmemAlloc, c.otherReceiveQueue⟩

/-- The connection with `f` applied to its bookkeeping. -/
def Conn.mapBook (c : Conn) (f : Bookkeeping → Bookkeeping) : Conn :=
  { c with numothRcv := (f c.book).numothRcv, ackrcvDat := (f c.book).ackrcvDat,
           ackrcvOth := (f c.book).ackrcvOth, flowremDat := (f c.book).flowremDat,
           flowremOth := (f c.book).flowremOth, flowremSw := (f c.book).flowremSw,
           otherReport := (f c.book).otherReport, nspRxtshift := (f c.book).nspRxtshift,
           stamp := (f c.book).stamp, skDrops := (f c.book).skDrops,
           skRmemAlloc := (f c.book).skRmemAlloc, otherReceiveQueue := (f c.book).otherReceiveQueue }

@[simp] theorem Conn.mapBook_state (c : Conn) (f : Bookkeeping → Bookkeeping) :
    (c.mapBook f).state = c.state := rfl

@[simp] theorem Conn.book_mapBook (c : Conn) (f : Bookkeeping → Bookkeeping) :
    (c.mapBook f).book = f c.book := rfl

theorem Conn.mapBook_book (c : Conn) : c.mapBook (fun _ => c.book) = c := rfl

/-- A handler that commutes with setting the bookkeeping to its own value keeps the bookkeeping. -/
theorem Conn.book_eq_of_mapBook (H : Conn → Conn) (c : Conn)
    (h : H (c.mapBook fun _ => c.book) = (H c).mapBook fun _ => c.book) : (H c).book = c.book := by
  rw [Conn.mapBook_book] at h
  rw [h, Conn.book_mapBook]

section MapBook

variable (f : Bookkeeping → Bookkeeping)

theorem ccPromote_mapBook (cfg : Config) (c : Conn) (skb : Skb) :
    ccPromote cfg (c.mapBook f) skb = (ccPromote cfg c skb).map (·.mapBook f) id := by
  unfold ccPromote; simp only [apply_ite (Prod.map _ id)]; rfl

theorem dnNspConnInit_mapBook (c : Conn) (skb : Skb) :
    dnNspConnInit (c.mapBook f) skb = (dnNspConnInit c skb).map (·.mapBook f) id := by
  unfold dnNspConnInit; simp only [apply_ite (Prod.map _ id)]; rfl

theorem dnNspConnConf_mapBook (cfg : Config) (c : Conn) (skb : Skb) :
    dnNspConnConf cfg (c.mapBook f) skb = (dnNspConnConf cfg c skb).map (·.mapBook f) id := by
  unfold dnNspConnConf; split
  · simp only [apply_ite (Prod.map _ id)]; rfl
  · rfl

theorem dnNspConnAck_mapBook (cfg : Config) (c : Conn) :
    dnNspConnAck cfg (c.mapBook f) = (dnNspConnAck cfg c).mapBook f := by
  unfold dnNspConnAck; simp only [apply_ite (Conn.mapBook · f)]; rfl

theorem dnNspDiscInit_mapBook (env : Env) (c : Conn) (skb : Skb) :
    dnNspDiscInit env (c.mapBook f) skb = (dnNspDiscInit env c skb).map (·.mapBook f) id := by
  unfold dnNspDiscInit discNotify discInitState; dsimp only [Conn.mapBook]
  split
  · split <;> rfl
  · rfl

theorem discConfState_mapBook (reason : UInt16) (c : Conn) :
    discConfState reason (c.mapBook f) = (discConfState reason c).mapBook f := by
  unfold discConfState
  simp only [Conn.mapBook_state]
  split <;> (try simp only [apply_ite (Conn.mapBook · f)]) <;> rfl

theorem dnNspDiscConf_mapBook (env : Env) (c : Conn) (skb : Skb) :
    dnNspDiscConf env (c.mapBook f) skb = (dnNspDiscConf env c skb).map (·.mapBook f) id := by
  unfold dnNspDiscConf; split
  · exact congrArg (discNotify env) (discConfState_mapBook f _ { c with skState := .close })
  · rfl

theorem dnReturnedConnInit_mapBook (c : Conn) :
    dnReturnedConnInit (c.mapBook f) = (dnReturnedConnInit c).map (·.mapBook f) id := by
  unfold dnReturnedConnInit; simp only [apply_ite (Prod.map _ id)]; rfl

theorem controlHandler_mapBook (cfg : Config) (env : Env) (c : Conn) (skb : Skb) :
    controlHandler cfg env (c.mapBook f) skb = (controlHandler cfg env c skb).map (·.mapBook f) id := by
  unfold controlHandler
  simp only [apply_ite (Prod.map _ id), dnNspConnInit_mapBook, dnNspConnConf_mapBook,
    dnNspDiscInit_mapBook, dnNspDiscConf_mapBook]
  rfl

theorem dataAck_mapBook (cfg : Config) (c : Conn) (ev : List Event) (q : Bool) (n : UInt16) :
    dataAck cfg (c.mapBook f) ev q n = (dataAck cfg c ev q n).map (·.mapBook f) id := by
  unfold dataAck; simp only [apply_ite (Prod.map _ id), Prod.map_apply, apply_ite (Conn.mapBook · f)]; rfl

theorem dataCongestion_mapBook (cfg : Config) (n : UInt16) (q : Bool) (c : Conn) (ev : List Event)
    (hc : dnCongested (c.mapBook f) = dnCongested c) :
    dataCongestion cfg n q (c.mapBook f) ev = (dataCongestion cfg n q c ev).map (·.mapBook f) id := by
  unfold dataCongestion
  by_cases h : c.flowlocSw = dnSend ∧ dnCongested c
  · rw [if_pos (show (c.mapBook f).flowlocSw = dnSend ∧ dnCongested (c.mapBook f) by rw [hc]; exact h),
      if_pos h]
    exact dataAck_mapBook f cfg { c with flowlocSw := dnDontsend } _ q n
  · rw [if_neg (show ¬((c.mapBook f).flowlocSw = dnSend ∧ dnCongested (c.mapBook f)) by rw [hc]; exact h),
      if_neg h]
    exact dataAck_mapBook f cfg c ev q n

/-- The in-sequence tail of `dn_nsp_data` once `dn_queue_skb` has answered, when the change keeps
`dn_congested`. -/
theorem dataQueued_mapBook (cfg : Config) (segnum : UInt16) (q : Conn × Bool × List Event)
    (hc : dnCongested (q.1.mapBook f) = dnCongested q.1) :
    dataQueued cfg segnum (q.map (·.mapBook f) id) = (dataQueued cfg segnum q).map (·.mapBook f) id := by
  obtain ⟨c, b, ev⟩ := q
  cases b
  · exact dataCongestion_mapBook f cfg segnum false c _ hc
  · exact dataCongestion_mapBook f cfg segnum true { c with numdatRcv := seqAdd c.numdatRcv 1 } _ hc

theorem lsAccept_mapBook (segnum : UInt16) (u : Conn × Bool × List Event) :
    lsAccept segnum (u.map (·.mapBook f) id) = (lsAccept segnum u).map (·.mapBook f) id := rfl

end MapBook

end DecnetNsp
