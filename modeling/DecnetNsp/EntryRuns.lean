import DecnetNsp.Bookkeeping
import DecnetNsp.Calls
import DecnetNsp.Delivery
import DecnetNsp.Lifecycle

/-!
# Runs at the entry point

Frames arrive at `dn_nsp_rx_packet`. For the connection a frame is for, it does one of three
things: nothing, `dn_returned_conn_init`, or the `got_it` path, which resets the backoff
`nsp_rxtshift`, stamps the reception and hands the frame to `dn_nsp_backlog_rcv` unless
`sk_receive_skb` drops it, counting a drop in `sk_drops` when its queues are full. No handler reads
the backoff, the stamp or the drop count (`step_touched`), so a run of arrivals does to the
connection what the run of `dn_nsp_backlog_rcv` over the inputs it hands on does, apart from the
backoff and the stamp and with the drops counted on the way added, and accepts the same segments
(`rxRun_refines`). Its events are that run's events in the same order,
with only the entry point's own calls added (`rxRun_trace_refines`). What holds over every run of
the backlog holds at the entry point (`rxRun_in_order_coupled`). A listening socket stays in
`DN_O` and never has its route switched (`listeners_keep_their_route`).
-/

namespace DecnetNsp

/-- The connection with its backoff and its reception stamp set, as `got_it` sets them. -/
def Conn.stamped (c : Conn) (shift jiffies : Nat) : Conn :=
  { c with nspRxtshift := shift, stamp := jiffies }

/-- The connection as the entry point leaves it around the backlog: the backoff and the stamp
set, and `drops` more frames counted in `sk_drops`. -/
def Conn.touched (c : Conn) (shift jiffies drops : Nat) : Conn :=
  { c with nspRxtshift := shift, stamp := jiffies, skDrops := c.skDrops + drops }

@[simp] theorem Conn.touched_state (c : Conn) (n j k : Nat) : (c.touched n j k).state = c.state := rfl

theorem Conn.touched_self (c : Conn) : c.touched c.nspRxtshift c.stamp 0 = c := rfl

theorem Conn.touched_touched (c : Conn) (n j k n' j' k' : Nat) :
    (c.touched n j k).touched n' j' k' = c.touched n' j' (k + k') := by
  simp only [Conn.touched, Nat.add_assoc]

/-- The backoff and the reception stamp set to `shift` and `jiffies`, and `drops` more drops. -/
def touchBook (shift jiffies drops : Nat) (b : Bookkeeping) : Bookkeeping :=
  { b with nspRxtshift := shift, stamp := jiffies, skDrops := b.skDrops + drops }

section Touched

variable (n j k : Nat)

theorem dnAck_touched (env : Env) (c : Conn) (ack : UInt16) :
    dnAck env (c.mapBook (touchBook n j k)) ack = (dnAck env c ack).map (·.mapBook (touchBook n j k)) id := by
  unfold dnAck; simp only [apply_ite (Prod.map _ id)]; rfl

theorem ackField_touched (env : Env) (c : Conn) (oth : Bool) (ack : UInt16) :
    ackField env (c.mapBook (touchBook n j k)) oth ack =
      (ackField env c oth ack).map (·.mapBook (touchBook n j k)) id := by
  unfold ackField; split
  · exact dnAck_touched n j k env c _
  · rfl

theorem dnProcessAck_touched (env : Env) (c : Conn) (oth : Bool) (d : List UInt8) :
    dnProcessAck env (c.mapBook (touchBook n j k)) oth d =
      { dnProcessAck env c oth d with conn := (dnProcessAck env c oth d).conn.mapBook (touchBook n j k) } := by
  unfold dnProcessAck
  split
  · split
    · rfl
    · simp only [ackField_touched]
      split
      · split
        · rfl
        · simp only [Prod.map_fst, ackField_touched]; rfl
      · rfl
  · rfl

theorem dnQueueSkb_touched (env : Env) (c : Conn) (skb : Skb) (other : Bool) :
    dnQueueSkb env (c.mapBook (touchBook n j k)) skb other =
      (dnQueueSkb env c skb other).map (·.mapBook (touchBook n j k)) id := by
  have hdrop : { c.mapBook (touchBook n j k) with skDrops := (c.mapBook (touchBook n j k)).skDrops + 1 } =
      { c with skDrops := c.skDrops + 1 }.mapBook (touchBook n j k) := by
    show { c.mapBook (touchBook n j k) with skDrops := c.skDrops + k + 1 } =
      { c.mapBook (touchBook n j k) with skDrops := c.skDrops + 1 + k }
    rw [Nat.add_right_comm]
  unfold dnQueueSkb
  cases other <;> simp only [apply_ite (Prod.map _ id), hdrop] <;> rfl

@[simp] theorem dnCongested_touched (c : Conn) : dnCongested (c.mapBook (touchBook n j k)) = dnCongested c :=
  rfl

theorem dnNspData_touched (cfg : Config) (env : Env) (c : Conn) (skb : Skb) :
    dnNspData cfg env (c.mapBook (touchBook n j k)) skb =
      (dnNspData cfg env c skb).map (·.mapBook (touchBook n j k)) id := by
  unfold dnNspData; split
  · simp only [dnQueueSkb_touched, dataQueued_mapBook, dataAck_mapBook, dnCongested_touched,
      apply_ite (Prod.map _ id)]
    rfl
  · rfl

theorem othQueued_touched (segnum : UInt16) (q : Conn × Bool × List Event) :
    othQueued segnum (q.map (·.mapBook (touchBook n j k)) id) =
      (othQueued segnum q).map (·.mapBook (touchBook n j k)) id := by
  obtain ⟨c, b, ev⟩ := q
  cases b <;> rfl

theorem dnNspOtherdata_touched (env : Env) (c : Conn) (skb : Skb) :
    dnNspOtherdata env (c.mapBook (touchBook n j k)) skb =
      (dnNspOtherdata env c skb).map (·.mapBook (touchBook n j k)) id := by
  unfold dnNspOtherdata; split
  · simp only [dnQueueSkb_touched, othQueued_touched, apply_ite (Prod.map _ id)]; rfl
  · rfl

theorem lsUpdate_touched (c : Conn) (lsflags fc : UInt8) :
    lsUpdate (c.mapBook (touchBook n j k)) lsflags fc =
      (lsUpdate c lsflags fc).map (·.mapBook (touchBook n j k)) id := by
  unfold lsUpdate; simp only [apply_ite (Prod.map _ id)]; rfl

theorem dnNspLinkservice_touched (c : Conn) (skb : Skb) :
    dnNspLinkservice (c.mapBook (touchBook n j k)) skb =
      (dnNspLinkservice c skb).map (·.mapBook (touchBook n j k)) id := by
  unfold dnNspLinkservice; split
  · simp only [apply_ite (Prod.map _ id)]
    exact congrArg (ite _ _) (congrArg (ite _ · _)
      ((congrArg (lsAccept _) (lsUpdate_touched n j k { c with numothRcv := seqAdd c.numothRcv 1 } _ _)).trans
        (lsAccept_mapBook _ _ _)))
  · rfl

theorem dataHandler_touched (cfg : Config) (env : Env) (c : Conn) (skb : Skb) :
    dataHandler cfg env (c.mapBook (touchBook n j k)) skb =
      (dataHandler cfg env c skb).map (·.mapBook (touchBook n j k)) id := by
  unfold dataHandler
  simp only [dnNspLinkservice_touched, dnNspOtherdata_touched, dnNspData_touched,
    apply_ite (Prod.map _ id)]

theorem dataPath_touched (cfg : Config) (env : Env) (c : Conn) (skb : Skb) :
    dataPath cfg env (c.mapBook (touchBook n j k)) skb =
      (dataPath cfg env c skb).map (·.mapBook (touchBook n j k)) id := by
  unfold dataPath
  simp only [ccPromote_mapBook, Prod.map_fst, Prod.map_snd, dnProcessAck_touched, dataHandler_touched,
    apply_ite (Prod.map _ id)]
  rfl

theorem dnNspBacklogRcv_touched (cfg : Config) (env : Env) (c : Conn) (skb : Skb) :
    dnNspBacklogRcv cfg env (c.mapBook (touchBook n j k)) skb =
      (dnNspBacklogRcv cfg env c skb).map (·.mapBook (touchBook n j k)) id := by
  unfold dnNspBacklogRcv
  simp only [controlHandler_mapBook, dnNspConnAck_mapBook, dataPath_touched,
    apply_ite (Prod.map _ id)]
  rfl

theorem step_touched (cfg : Config) (c : Conn) (i : Input) :
    step cfg (c.touched n j k) i = (step cfg c i).map (·.touched n j k) id := by
  cases i with
  | backlog env skb => exact dnNspBacklogRcv_touched n j k cfg env c skb
  | returnedConnInit => exact dnReturnedConnInit_mapBook (touchBook n j k) c

theorem run_touched (cfg : Config) (c : Conn) (is : List Input) :
    run cfg (c.touched n j k) is = (run cfg c is).map (·.touched n j k) id := by
  induction is generalizing c with
  | nil => rfl
  | cons i is ih => simp only [run_cons, step_touched, Prod.map_fst, Prod.map_snd, ih]; rfl

end Touched

/-- A frame arriving at `dn_nsp_rx_packet`, with what the socket tables and the stack answer for
it and what the collaborators of `dn_nsp_backlog_rcv` decide. -/
structure Arrival where
  rx : RxEnv
  env : Env
  frame : RawFrame

/-- What `got_it` hands to `dn_nsp_backlog_rcv`: the frame, unless `skb_linearize` fails on a
frame that is not a data segment or `sk_receive_skb` drops it. -/
def gotItInput (rx : RxEnv) (env : Env) (skb : Skb) : List Input :=
  if skb.nspFlags &&& ~~~0x60 ≠ 0 ∧ rx.linearizeFails then []
  else if rx.receiveDrops then [] else [.backlog env skb]

/-- What `got_it` counts in `sk_drops`: one for a frame `sk_receive_skb` drops on full queues. -/
def gotItDrops (rx : RxEnv) (skb : Skb) : Nat :=
  if skb.nspFlags &&& ~~~0x60 ≠ 0 ∧ rx.linearizeFails then 0
  else if rx.receiveDrops then (if rx.receiveFull then 1 else 0) else 0

/-- The inputs one arrival hands to the connection. -/
def rxInput (user : UsernameParser) (a : Arrival) : List Input :=
  match (dnNspRxPacket user a.frame).1 with
  | .returned _ _ => if a.rx.returnedFound then [.returnedConnInit] else []
  | .listener skb | .bySkb skb => if a.rx.found then gotItInput a.rx a.env skb else []
  | .drop | .rejected _ _ => []

/-- The drops one arrival counts at the entry point. -/
def rxDrop (user : UsernameParser) (a : Arrival) : Nat :=
  match (dnNspRxPacket user a.frame).1 with
  | .listener skb | .bySkb skb => if a.rx.found then gotItDrops a.rx skb else 0
  | .returned _ _ | .drop | .rejected _ _ => 0

/-- The inputs a run of arrivals hands to the connection, in order. -/
def rxInputs (user : UsernameParser) (as : List Arrival) : List Input := as.flatMap (rxInput user)

/-- The drops a run of arrivals counts at the entry point. -/
def rxDrops (user : UsernameParser) (as : List Arrival) : Nat := (as.map (rxDrop user)).sum

/-- A run at the entry point: the connection after the arrivals, and every event, in order. -/
def rxRun (cfg : Config) (user : UsernameParser) (c : Conn) : List Arrival → Conn × List Event
  | [] => (c, [])
  | a :: as =>
    let r := rxConn cfg user a.rx a.env c a.frame
    let r' := rxRun cfg user r.1 as
    (r'.1, r.2 ++ r'.2)

/-- `got_it` is the backlog run over what it hands on, with the backoff reset, the stamp set and
its drop counted, and adds at most `dst_set` to its events. -/
theorem gotIt_refines (cfg : Config) (rx : RxEnv) (env : Env) (c : Conn) (skb : Skb) :
    (gotIt cfg rx env c skb).1 =
        (run cfg c (gotItInput rx env skb)).1.touched 0 rx.jiffies (gotItDrops rx skb) ∧
      (gotIt cfg rx env c skb).2.filter (fun e => !e.entryOnly) =
        (run cfg c (gotItInput rx env skb)).2 := by
  unfold gotIt gotItInput gotItDrops
  have hdst : (if rx.newRoute ∧ c.state = .run then [Event.dstSet] else []).filter
      (fun e => !e.entryOnly) = [] := by
    split <;> rfl
  split
  · exact ⟨rfl, hdst⟩
  split
  · exact ⟨rfl, hdst⟩
  · have h := dnNspBacklogRcv_touched 0 rx.jiffies 0 cfg env c skb
    refine ⟨congrArg Prod.fst h, ?_⟩
    rw [List.filter_append, hdst, List.nil_append]
    exact (congrArg (·.2.filter fun e => !e.entryOnly) h).trans
      ((calls_step cfg c (.backlog env skb)).filter_entryOnly.trans (List.append_nil _).symm)

/-- One arrival is the backlog run over the inputs it hands on, up to the backoff and the stamp
and with its drops counted, and makes that run's calls and the entry point's own. -/
theorem rxConn_refines (cfg : Config) (user : UsernameParser) (c : Conn) (a : Arrival) :
    ∃ n j, (rxConn cfg user a.rx a.env c a.frame).1 =
        (run cfg c (rxInput user a)).1.touched n j (rxDrop user a) ∧
      (rxConn cfg user a.rx a.env c a.frame).2.filter (fun e => !e.entryOnly) =
        (run cfg c (rxInput user a)).2 := by
  have hgot (skb : Skb) := gotIt_refines cfg a.rx a.env c skb
  have hsent (evs : List Event) (h : evs.filter (fun e => !e.entryOnly) = []) :
      ∃ n j, c = (run cfg c []).1.touched n j 0 ∧
        evs.filter (fun e => !e.entryOnly) = (run cfg c []).2 :=
    ⟨_, _, (Conn.touched_self c).symm, h⟩
  unfold rxConn rxInput rxDrop
  generalize (dnNspRxPacket user a.frame).1 = r
  cases r with
  | drop => exact hsent [] rfl
  | returned =>
    dsimp only; split
    · exact ⟨_, _, (Conn.touched_self _).symm,
        ((calls_dnReturnedConnInit c).mono (by decide)).filter_entryOnly.trans
          (List.append_nil _).symm⟩
    · exact hsent [] rfl
  | listener skb | bySkb skb =>
    dsimp only; split
    · exact ⟨_, _, (hgot skb).1, (hgot skb).2⟩
    · exact hsent _ (filter_entryOnly_dnNspNoSocket ..)
  | rejected skb e =>
    exact hsent _ (by rw [List.filter_append, filter_entryOnly_dnNspNoSocket]; split <;> rfl)

/-- A run of arrivals is the backlog run over the inputs it hands on, up to the backoff and the
stamp and with its drops counted, with the entry point's own calls added to its events. -/
theorem rxRun_trace (cfg : Config) (user : UsernameParser) (as : List Arrival) (c : Conn) :
    ∃ n j, (rxRun cfg user c as).1 = (run cfg c (rxInputs user as)).1.touched n j (rxDrops user as) ∧
      (rxRun cfg user c as).2.filter (fun e => !e.entryOnly) = (run cfg c (rxInputs user as)).2 := by
  induction as generalizing c with
  | nil => exact ⟨_, _, (Conn.touched_self c).symm, rfl⟩
  | cons a as ih =>
    obtain ⟨n, j, h1, h2⟩ := rxConn_refines cfg user c a
    obtain ⟨n', j', h1', h2'⟩ := ih (rxConn cfg user a.rx a.env c a.frame).1
    have hrun := run_touched n j (rxDrop user a) cfg (run cfg c (rxInput user a)).1 (rxInputs user as)
    rw [h1, hrun] at h1' h2'
    have hin : rxInputs user (a :: as) = rxInput user a ++ rxInputs user as := List.flatMap_cons ..
    have hdrops : rxDrops user (a :: as) = rxDrop user a + rxDrops user as := List.sum_cons
    refine ⟨n', j', ?_, ?_⟩
    · show (rxRun cfg user (rxConn cfg user a.rx a.env c a.frame).1 as).1 = _
      rw [h1, h1', hin, hdrops, run_append, Prod.map_fst, Conn.touched_touched]
    · show ((rxConn cfg user a.rx a.env c a.frame).2 ++
        (rxRun cfg user (rxConn cfg user a.rx a.env c a.frame).1 as).2).filter _ = _
      rw [List.filter_append, h2, h1, h2', hin, run_append]; rfl

/-- Every run of arrivals at `dn_nsp_rx_packet` does to the connection what the run of
`dn_nsp_backlog_rcv` and `dn_returned_conn_init` over the inputs it hands on does, apart from the
backoff and the reception stamp and with `sk_drops` raised by the drops counted at the entry
point, and accepts the same segments in the same order. -/
theorem rxRun_refines (cfg : Config) (user : UsernameParser) (c : Conn) (as : List Arrival) :
    (rxRun cfg user c as).1 = (run cfg c (rxInputs user as)).1.touched
        (rxRun cfg user c as).1.nspRxtshift (rxRun cfg user c as).1.stamp (rxDrops user as) ∧
      ∀ p, accepted p (rxRun cfg user c as).2 = accepted p (run cfg c (rxInputs user as)).2 := by
  obtain ⟨n, j, h1, h2⟩ := rxRun_trace cfg user as c
  exact ⟨h1.trans (by rw [h1]; rfl), fun p => by rw [← h2, accepted_filter_entryOnly]⟩

/-- Every run of arrivals at `dn_nsp_rx_packet` makes the calls of the run of
`dn_nsp_backlog_rcv` and `dn_returned_conn_init` over the inputs it hands on, in the same order,
and besides them only `dst_set`, the martian log and `dn_nsp_return_disc`. -/
theorem rxRun_trace_refines (cfg : Config) (user : UsernameParser) (c : Conn) (as : List Arrival) :
    (rxRun cfg user c as).2.filter (fun e => !e.entryOnly) = (run cfg c (rxInputs user as)).2 :=
  (rxRun_trace cfg user as c).elim fun _ h => h.elim fun _ h => h.2

/-- In-order delivery reads nothing the timers touch, and only the accepted segments of a trace. -/
theorem InOrder.of_touched {ch : Subchannel} {c0 c : Conn} {evs evs' : List Event}
    (h : InOrder ch c0 c evs) (n j k : Nat) (ha : ∀ p, accepted p evs' = accepted p evs) :
    InOrder ch c0 (c.touched n j k) evs' := by
  have hq : ch.queue (c.touched n j k) = ch.queue c := by cases ch <;> rfl
  have hc : ch.cursor (c.touched n j k) = ch.cursor c := by cases ch <;> rfl
  obtain ⟨hqueue, hcons, hcur⟩ := h
  exact ⟨by rw [hq, ha]; exact hqueue, by rw [ha]; exact hcons, by rw [hc, ha]; exact hcur⟩

/-- Every run of arrivals at `dn_nsp_rx_packet`, whatever the socket lookups, the routing, the
linearization and `sk_receive_skb` answer, delivers in order on both subchannels and keeps
`scp->state` and `sk->sk_state` coupled. -/
theorem rxRun_in_order_coupled (cfg : Config) (user : UsernameParser) (c : Conn) (as : List Arrival)
    (hd : c.numdatRcv.toNat < 4096) (ho : c.numothRcv.toNat < 4096) (hc : Coupled c.life) :
    InOrder .data c (rxRun cfg user c as).1 (rxRun cfg user c as).2 ∧
      InOrder .other c (rxRun cfg user c as).1 (rxRun cfg user c as).2 ∧
      Coupled (rxRun cfg user c as).1.life := by
  obtain ⟨n, j, hconn, htrace⟩ := rxRun_trace cfg user as c
  have hacc (p : SegKind → Bool) : accepted p (rxRun cfg user c as).2 =
      accepted p (run cfg c (rxInputs user as)).2 := by
    rw [← htrace, accepted_filter_entryOnly]
  have hin (ch : Subchannel) (h0 : (ch.cursor c).toNat < 4096) :
      InOrder ch c (rxRun cfg user c as).1 (rxRun cfg user c as).2 := by
    rw [hconn]
    exact (by simpa using (InOrder.start ch c h0).run cfg (rxInputs user as) :
      InOrder ch c (run cfg c (rxInputs user as)).1 (run cfg c (rxInputs user as)).2).of_touched _ _ _ hacc
  refine ⟨hin .data hd, hin .other ho, ?_⟩
  rw [hconn]
  exact run_invariant cfg (fun c => Coupled c.life) (fun c i h => (step_life cfg c i).coupled h) c hc _

/-- From port `0x0102` to port `0x0304`: data segment 0, other-data segment 0 and a
disconnect-initiate, each found by its ports and kept by `sk_receive_skb`. -/
def sampleArrivals : List Arrival :=
  [⟨sampleRxEnv, sampleEnv, ⟨sampleRtFlags, [0x60, 0x04, 0x03, 0x02, 0x01, 0x00, 0x00, 0x41], fun _ => 0, 512⟩⟩,
    ⟨sampleRxEnv, sampleEnv, ⟨sampleRtFlags, [0x30, 0x04, 0x03, 0x02, 0x01, 0x00, 0x00, 0x42], fun _ => 0, 512⟩⟩,
    ⟨sampleRxEnv, sampleEnv, ⟨sampleRtFlags, [0x38, 0x04, 0x03, 0x02, 0x01, 42, 0], fun _ => 0, 512⟩⟩]

/-- A connection in `DN_CC` runs, accepts one segment on each subchannel and is ended. -/
theorem ccConn_rxRun_in_order_coupled :
    (ccConn.numdatRcv.toNat < 4096 ∧ ccConn.numothRcv.toNat < 4096 ∧ Coupled ccConn.life) ∧
      (InOrder .data ccConn (rxRun sampleConfig noUsernames ccConn sampleArrivals).1
          (rxRun sampleConfig noUsernames ccConn sampleArrivals).2 ∧
        InOrder .other ccConn (rxRun sampleConfig noUsernames ccConn sampleArrivals).1
          (rxRun sampleConfig noUsernames ccConn sampleArrivals).2 ∧
        Coupled (rxRun sampleConfig noUsernames ccConn sampleArrivals).1.life) ∧
      accepted Subchannel.data.moves (rxRun sampleConfig noUsernames ccConn sampleArrivals).2 = [0] ∧
      accepted Subchannel.other.moves (rxRun sampleConfig noUsernames ccConn sampleArrivals).2 = [0] ∧
      (rxRun sampleConfig noUsernames ccConn sampleArrivals).1.life = (.dn, .close) :=
  ⟨⟨by decide, by decide, by decide⟩,
    rxRun_in_order_coupled sampleConfig noUsernames ccConn sampleArrivals (by decide) (by decide) (by decide),
    by decide, by decide, by decide⟩

/-- No handler moves a connection out of `DN_O`. -/
theorem LifeStep.keeps_listening {l l' : DnState × TcpState} (h : LifeStep l l') (hl : l.1 = .o) :
    l'.1 = .o := by
  cases h with
  | stay => exact hl
  | establish s ss hs => rcases hs with rfl | rfl | rfl <;> cases hl
  | discInit s ss => dsimp only at hl ⊢; rw [hl]; rfl
  | discConf r s ss => dsimp only at hl ⊢; rw [hl]; rfl
  | connAck | returned => cases hl

theorem run_listening (cfg : Config) (c : Conn) (is : List Input) (hl : c.state = .o) :
    (run cfg c is).1.state = .o :=
  run_invariant cfg (fun c => c.state = .o) (fun c i h => (step_life cfg c i).keeps_listening h) c hl is

/-- The entry point calls `__sk_dst_set` only for a connection in `DN_RUN`. -/
theorem rxConn_no_dstSet (cfg : Config) (user : UsernameParser) (rx : RxEnv) (env : Env) (c : Conn)
    (f : RawFrame) (hs : c.state ≠ .run) :
    (rxConn cfg user rx env c f).2.filter (fun e => e.call == .dstSet) = [] := by
  have hno : ¬(rx.newRoute ∧ c.state = .run) := fun h => hs h.2
  have hgot (skb : Skb) : (gotIt cfg rx env c skb).2.filter (fun e => e.call == .dstSet) = [] := by
    unfold gotIt
    rw [if_neg hno]
    split
    · rfl
    split
    · rfl
    · exact (calls_step cfg _ (.backlog env skb)).filter_eq_nil (by decide)
  have hns (skb : Skb) (r : UInt16) :
      (dnNspNoSocket skb r).filter (fun e => e.call == .dstSet) = [] :=
    (calls_dnNspNoSocket skb r).filter_eq_nil (by decide)
  unfold rxConn
  split
  · rfl
  · split
    · exact (calls_dnReturnedConnInit c).filter_eq_nil (by decide)
    · rfl
  · split
    · exact hgot _
    · exact hns _ _
  · rw [List.filter_append, hns, List.append_nil]; split <;> rfl
  · split
    · exact hgot _
    · exact hns _ _

/-- A listening socket stays listening whatever arrives, and its route is never switched:
`got_it` takes a new route only in `DN_RUN`, and no handler moves `scp->state` out of `DN_O`. -/
theorem listeners_keep_their_route (cfg : Config) (user : UsernameParser) (c : Conn)
    (as : List Arrival) (hl : c.state = .o) :
    (rxRun cfg user c as).1.state = .o ∧
      (rxRun cfg user c as).2.filter (fun e => e.call == .dstSet) = [] := by
  induction as generalizing c with
  | nil => exact ⟨hl, rfl⟩
  | cons a as ih =>
    obtain ⟨n, j, h, -⟩ := rxConn_refines cfg user c a
    have ha : (rxConn cfg user a.rx a.env c a.frame).1.state = .o := by
      rw [h, Conn.touched_state]; exact run_listening cfg c _ hl
    obtain ⟨hs, hd⟩ := ih _ ha
    refine ⟨hs, ?_⟩
    show ((rxConn cfg user a.rx a.env c a.frame).2 ++ (rxRun cfg user _ as).2).filter _ = []
    rw [List.filter_append, rxConn_no_dstSet cfg user a.rx a.env c a.frame (by rw [hl]; decide), hd]
    rfl

/-- A listening socket with every counter zero. -/
def listenConn : Conn := { ccConn with state := .o, skState := .listen }

/-- Lookups that find the connection, on a route other than the one it caches. -/
def newRouteRxEnv : RxEnv := { sampleRxEnv with newRoute := true }

theorem listenConn_keeps_its_route :
    listenConn.state = .o ∧
      (rxRun sampleConfig noUsernames listenConn [⟨newRouteRxEnv, sampleEnv, sampleConnConf⟩]).1.state = .o ∧
        (rxRun sampleConfig noUsernames listenConn [⟨newRouteRxEnv, sampleEnv, sampleConnConf⟩]).2.filter
          (fun e => e.call == .dstSet) = [] :=
  ⟨rfl, listeners_keep_their_route _ _ _ _ rfl⟩

end DecnetNsp
