import DecnetNsp.Data

/-!
# `dn_nsp_backlog_rcv` and runs of a connection

The per-connection receive routine: control frames go to their handler; everything else may
first promote a `DN_CC` connection to `DN_RUN`, has its piggy-backed acknowledgments read by
`dn_process_ack`, and then, in `DN_RUN` only, goes to the link-service, other-data or data
handler. A run is a list of inputs to one connection, each a frame for `dn_nsp_backlog_rcv` or
the return of our connect-initiate (`dn_returned_conn_init`). What holds of each handler holds
of every input (`step_cases`), and what every input preserves holds after every run
(`run_invariant`).
-/

namespace DecnetNsp

/-- The CC-to-RUN promotion of `dn_nsp_backlog_rcv`: a data or ack frame on a live `DN_CC`
connection establishes it, with the segment-size fallback of `dn_nsp_conn_conf`. -/
def ccPromote (cfg : Config) (c : Conn) (skb : Skb) : Conn × List Event :=
  if c.state = .cc ∧ c.dead = false then
    ({ c with
        state := .run
        skState := .established
        segsizeRem :=
          if skb.rtFlags.short || !skb.rtFlags.ie then cfg.segbufSegsize else c.segsizeRem },
      [.stateChange])
  else (c, [])

theorem ccPromote_frame (cfg : Config) (c : Conn) (skb : Skb) :
    ∃ s ss sz, (ccPromote cfg c skb).1 = { c with state := s, skState := ss, segsizeRem := sz } := by
  unfold ccPromote; split <;> exact ⟨_, _, _, rfl⟩

@[simp] theorem accepted_ccPromote (p : SegKind → Bool) (cfg : Config) (c : Conn) (skb : Skb) :
    accepted p (ccPromote cfg c skb).2 = [] := by
  unfold ccPromote; split <;> rfl

theorem ccPromote_life (cfg : Config) (c : Conn) (skb : Skb) :
    LifeStep c.life (ccPromote cfg c skb).1.life := by
  unfold ccPromote; split
  next h => exact .establish _ _ (.inr (.inr h.1))
  next => exact .stay _

theorem ccPromote_life_cases (cfg : Config) (c : Conn) (skb : Skb) :
    (ccPromote cfg c skb).1.life = c.life ∨
      c.state = .cc ∧ (ccPromote cfg c skb).1.life = (.run, .established) := by
  unfold ccPromote; split
  next h => exact .inr ⟨h.1, rfl⟩
  next => exact .inl rfl

theorem ccPromote_of_ne_cc (cfg : Config) (c : Conn) (skb : Skb) (h : c.state ≠ .cc) :
    ccPromote cfg c skb = (c, []) := by
  unfold ccPromote; rw [if_neg (fun h' => h h'.1)]

/-- The data-class handlers, chosen by the exact flag byte. -/
def dataHandler (cfg : Config) (env : Env) (c : Conn) (skb : Skb) : Conn × List Event :=
  if skb.nspFlags = 0x10 then dnNspLinkservice c skb
  else if skb.nspFlags = 0x30 then dnNspOtherdata env c skb
  else dnNspData cfg env c skb

/-- The control handlers, chosen by the three subtype bits. -/
def controlHandler (cfg : Config) (env : Env) (c : Conn) (skb : Skb) : Conn × List Event :=
  let t := skb.nspFlags &&& 0x70
  if t = 0x10 ∨ t = 0x60 then dnNspConnInit c skb
  else if t = 0x20 then dnNspConnConf cfg c skb
  else if t = 0x30 then dnNspDiscInit env c skb
  else if t = 0x40 then dnNspDiscConf env c skb
  else (c, [])

theorem dataHandler_frame (cfg : Config) (env : Env) (c : Conn) (skb : Skb) :
    ∃ k m q q' n n' s d r fd fo sw, (dataHandler cfg env c skb).1 =
      { c with skDrops := k, skRmemAlloc := m, skReceiveQueue := q, otherReceiveQueue := q',
               numdatRcv := n, numothRcv := n', flowlocSw := s, ackdelay := d, otherReport := r,
               flowremDat := fd, flowremOth := fo, flowremSw := sw } := by
  unfold dataHandler
  split
  · obtain ⟨n, fd, fo, sw, h⟩ := dnNspLinkservice_frame c skb
    exact ⟨_, _, _, _, _, _, _, _, _, _, _, _, h⟩
  · split
    · obtain ⟨k, m, q, n, r, h⟩ := dnNspOtherdata_frame env c skb
      exact ⟨_, _, _, _, _, _, _, _, _, _, _, _, h⟩
    · obtain ⟨k, m, q, n, s, d, h⟩ := dnNspData_frame cfg env c skb
      exact ⟨_, _, _, _, _, _, _, _, _, _, _, _, h⟩

/-- The `other` flag `dn_nsp_backlog_rcv` passes to `dn_process_ack`: set unless the subtype
bits `0x1c` are clear or the frame is a data acknowledgment. -/
def ackOther (flags : UInt8) : Bool := !(flags &&& 0x1c = 0 || flags = 0x04)

/-- A body handed to the data-class handlers that is too short for its type, or a link-service
body with reserved bits, changes nothing. -/
theorem dataHandler_of_bad (cfg : Config) (env : Env) (c : Conn) (skb : Skb)
    (h : skb.nspFlags = 0x10 ∧ (skb.data.length ≠ 4 ∨ skb.data.getD 2 0 &&& 0xf8 ≠ 0) ∨
      skb.nspFlags ≠ 0x10 ∧ skb.data.length < 2) :
    (dataHandler cfg env c skb).1 = c := by
  unfold dataHandler
  rcases h with ⟨hf, h⟩ | ⟨hf, h⟩
  · rw [if_pos hf, dnNspLinkservice_of_bad c skb h]
  · rw [if_neg hf]
    split
    · rw [dnNspOtherdata_of_short env c skb h]
    · rw [dnNspData_of_short cfg env c skb h]

/-- What a non-control frame other than a connect-ack does: the promotion, the acks, and
the data-class handler when the frame carries data and the connection runs. -/
def dataPath (cfg : Config) (env : Env) (c : Conn) (skb : Skb) : Conn × List Event :=
  let p := ccPromote cfg c skb
  let a := dnProcessAck env p.1 (ackOther skb.nspFlags) skb.data
  if skb.nspFlags &&& 0x0c = 0 ∧ a.conn.state = .run then
    let h := dataHandler cfg env a.conn { skb with data := a.data }
    (h.1, p.2 ++ a.events ++ h.2)
  else (a.conn, p.2 ++ a.events)

/-- `dn_nsp_backlog_rcv`. -/
def dnNspBacklogRcv (cfg : Config) (env : Env) (c : Conn) (skb : Skb) : Conn × List Event :=
  if skb.rtFlags.rts then (c, [])
  else if skb.nspFlags &&& 0x0c = 0x08 then controlHandler cfg env c skb
  else if skb.nspFlags = 0x24 then (dnNspConnAck cfg c, [])
  else dataPath cfg env c skb

theorem dnNspBacklogRcv_data (cfg : Config) (env : Env) (c : Conn) (skb : Skb) {s0 s1 : UInt8}
    {payload : List UInt8} (hrun : c.state = .run) (hr : skb.rtFlags.rts = false)
    (hf : skb.nspFlags &&& 0x0c = 0 ∧ skb.nspFlags ≠ 0x10 ∧ skb.nspFlags ≠ 0x30)
    (hd : skb.data = s0 :: s1 :: payload) (hseg : le16 s0 s1 &&& 0x8000 = 0) :
    dnNspBacklogRcv cfg env c skb = dnNspData cfg env c skb := by
  have h24 : skb.nspFlags ≠ 0x24 := fun h => by rw [h] at hf; exact absurd hf.1 (by decide)
  have hctl : skb.nspFlags &&& 0x0c ≠ 0x08 := by rw [hf.1]; decide
  unfold dnNspBacklogRcv dataPath
  rw [if_neg (by simp [hr]), if_neg hctl, if_neg h24,
    ccPromote_of_ne_cc cfg c skb (by rw [hrun]; decide)]
  dsimp only
  rw [hd, dnProcessAck_of_not_ack env c _ hseg, if_pos ⟨hf.1, hrun⟩]
  simp only [dataHandler, hf.2.1, hf.2.2, if_false, List.nil_append, ← hd]

/-- The ack words `dn_nsp_backlog_rcv` hands to `dn_ack` for a frame: none for a returned
frame, a control frame or a connect-ack, and otherwise the ack fields `dn_process_ack` reads. -/
def frameAcks (skb : Skb) : List UInt16 :=
  if skb.rtFlags.rts then []
  else if skb.nspFlags &&& 0x0c = 0x08 then []
  else if skb.nspFlags = 0x24 then []
  else ackFields (ackOther skb.nspFlags) skb.data

/-- An input to one connection. -/
inductive Input where
  | backlog (env : Env) (skb : Skb)
  | returnedConnInit

def step (cfg : Config) (c : Conn) : Input → Conn × List Event
  | .backlog env skb => dnNspBacklogRcv cfg env c skb
  | .returnedConnInit => dnReturnedConnInit c

/-- A run: the connection after the inputs, and every event, in order. -/
def run (cfg : Config) (c : Conn) : List Input → Conn × List Event
  | [] => (c, [])
  | i :: is => let r := run cfg (step cfg c i).1 is; (r.1, (step cfg c i).2 ++ r.2)

@[simp] theorem run_nil (cfg : Config) (c : Conn) : run cfg c [] = (c, []) := rfl

theorem run_cons (cfg : Config) (c : Conn) (i : Input) (is : List Input) :
    run cfg c (i :: is) =
      ((run cfg (step cfg c i).1 is).1, (step cfg c i).2 ++ (run cfg (step cfg c i).1 is).2) := rfl

theorem run_append (cfg : Config) (c : Conn) (is js : List Input) :
    run cfg c (is ++ js) =
      ((run cfg (run cfg c is).1 js).1, (run cfg c is).2 ++ (run cfg (run cfg c is).1 js).2) := by
  induction is generalizing c with
  | nil => rfl
  | cons i is ih => simp [run_cons, ih]

/-- Package an invariant once: what every input preserves holds after every run. -/
theorem run_invariant (cfg : Config) (P : Conn → Prop)
    (hstep : ∀ c i, P c → P (step cfg c i).1) (c : Conn) (hc : P c) (is : List Input) :
    P (run cfg c is).1 := by
  induction is generalizing c with
  | nil => exact hc
  | cons i is ih => exact ih _ (hstep c i hc)

/-- The control handlers' dispatch, packaged once: what holds of each handler and of an
unknown subtype holds of `controlHandler`. -/
theorem controlHandler_cases (P : Conn × List Event → Prop) (cfg : Config) (env : Env) (c : Conn)
    (skb : Skb) (hinit : P (dnNspConnInit c skb)) (hconf : P (dnNspConnConf cfg c skb))
    (hdi : P (dnNspDiscInit env c skb)) (hdc : P (dnNspDiscConf env c skb)) (hnone : P (c, [])) :
    P (controlHandler cfg env c skb) := by
  unfold controlHandler
  dsimp only
  split_ifs <;> assumption

/-- Package the dispatch once: what holds of `dn_returned_conn_init`, of a returned frame, of
every control handler, of `dn_nsp_conn_ack` and of the data path holds of every input. -/
theorem step_cases (P : Conn × List Event → Prop) (cfg : Config) (c : Conn) (i : Input)
    (hret : P (dnReturnedConnInit c)) (hrts : P (c, []))
    (hctl : ∀ env skb, skb.nspFlags &&& 0x0c = 0x08 → P (controlHandler cfg env c skb))
    (hack : P (dnNspConnAck cfg c, [])) (hdata : ∀ env skb, P (dataPath cfg env c skb)) :
    P (step cfg c i) := by
  cases i with
  | returnedConnInit => exact hret
  | backlog env skb =>
    show P (dnNspBacklogRcv cfg env c skb)
    unfold dnNspBacklogRcv
    by_cases hr : skb.rtFlags.rts = true
    · rw [if_pos hr]; exact hrts
    rw [if_neg hr]
    by_cases hc : skb.nspFlags &&& 0x0c = 0x08
    · rw [if_pos hc]; exact hctl env skb hc
    rw [if_neg hc]
    by_cases h24 : skb.nspFlags = 0x24
    · rw [if_pos h24]; exact hack
    rw [if_neg h24]; exact hdata env skb

/-- 1500-byte segment buffers, an 11-byte data header, a window of 32 for peers without flow
control, a 60 s outgoing timer, and `HZ` 100. -/
def sampleConfig : Config := ⟨false, 1500, 11, 32, 60, 100⟩

/-- Collaborators that let every frame through to its queue, free no window, and arm the
destruction timer for 5 ticks. -/
def sampleEnv : Env := ⟨.ok, fun _ _ => false, 5⟩

/-- Routing flags of a frame that was not returned, received on Ethernet in long format. -/
def sampleRtFlags : RtFlags := ⟨false, true, false⟩

/-- A disconnect-initiate from port `0x0102` to port `0x0304`, reason 42 and no optional data. -/
def sampleDiscInit : Skb := ⟨nspDiscinit, sampleRtFlags, 0x0102, 0x0304, 0, [42, 0], 512⟩

def sampleDataAck : Skb := ⟨0x04, sampleRtFlags, 0x0102, 0x0304, 0, [], 512⟩

/-- Data segment `n` from port `0x0102` to port `0x0304`: one byte, a whole message. -/
def sampleDataSeg (n : UInt8) : Skb := ⟨0x60, sampleRtFlags, 0x0102, 0x0304, 0, [n, 0, 0x41], 512⟩

def sampleOtherSeg (n : UInt8) : Skb := ⟨0x30, sampleRtFlags, 0x0102, 0x0304, 0, [n, 0, 0x42], 512⟩

/-- Link-service frame `n`, which changes nothing of the flow control. -/
def sampleLinkService (n : UInt8) : Skb := ⟨0x10, sampleRtFlags, 0x0102, 0x0304, 0, [n, 0, 0, 0], 512⟩

def OptdataDn.empty : OptdataDn := ⟨0, 0, fun _ => some 0⟩

/-- A live connection in `DN_CC` on a socket in `TCP_SYN_RECV`, with every counter zero, both
queues empty and a receive buffer of 16 KiB. -/
def ccConn : Conn where
  state := .cc
  skState := .synRecv
  sockState := .connected
  dead := false
  skErr := 0
  skShutdown := 0
  addrrem := 0x0102
  servicesRem := 0
  infoRem := 0
  segsizeRem := 1000
  maxWindow := 0
  persist := 0
  persistFxn := .outbound
  conntimer := 0
  conndataIn := .empty
  discdataIn := .empty
  numdatRcv := 0
  numothRcv := 0
  ackrcvDat := 0
  ackrcvOth := 0
  flowremDat := 0
  flowremOth := 0
  flowremSw := dnSend
  flowlocSw := dnSend
  otherReport := 0
  ackdelay := 0
  nspRxtshift := 0
  stamp := 0
  skDrops := 0
  skRmemAlloc := 0
  skRcvbuf := 16384
  skReceiveQueue := []
  otherReceiveQueue := []
  skAckBacklog := 0
  skMaxAckBacklog := 0

def runConn : Conn := { ccConn with state := .run, skState := .established }

end DecnetNsp
