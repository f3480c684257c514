import DecnetNsp.Acknowledgment
import DecnetNsp.Receive

/-!
# Malformed frames

What a frame that is malformed for its message type does to the connection it reaches. No
handler takes anything from it: the receive cursors, the flow-control fields, the peer's port and
optional data and both receive queues stay as they were. It is not without effect, though. On
the data path the CC-to-RUN promotion and the piggy-backed acknowledgments come before any
handler looks at the body ("both data and ack frames can kick a CC socket into RUN"), and a
returned connect-initiate of 4 bytes or more still ends a connection waiting in `DN_CI`. Both
happen exactly when their trigger is there (`malformed_frame_effect`).

Two kinds of frame are left out, on which the code does not do what it means to. A frame of 3
or 4 bytes keeps its header, whose flag byte and destination port `dn_process_ack` then reads as
an ack field (`short_frame_header_read_as_acks`), and the reserved data-class flag bytes `0x50`
and `0x70` reach `dn_nsp_data`, which queues them as data (`reserved_flags_reach_dn_nsp_data`).
-/

namespace DecnetNsp

/-- The flag bytes of the NSP messages: data segments, link service,
other data, the data, other-data and connect acknowledgments, and the connect-initiate,
retransmitted connect-initiate, connect-confirm, disconnect-initiate and disconnect-confirm. -/
def nspMessageTypes : List UInt8 :=
  [0x00, 0x20, 0x40, 0x60, 0x10, 0x30, 0x04, 0x14, 0x24, 0x18, 0x68, 0x28, 0x38, 0x48]

/-- The shortest frame of a message type, its 5-byte header and fixed
fields. A connect-ack is 3 bytes; link service, connect-initiate and connect-confirm carry 4
bytes past the header, every other message 2 (its segment number, ack number or reason). -/
def minFrameLength (b : UInt8) : Nat :=
  if b = 0x24 then 3
  else if b = 0x10 ∨ b = 0x18 ∨ b = 0x68 ∨ b = 0x28 then 9
  else 7

/-- A frame with flag byte `b` and bytes `d` is malformed for its type.
Its flag byte is no NSP message type; or it is too short for its type; or it is a data or
other-data frame whose body after the ack fields has no segment number; or it is a link-service
frame whose body is not 4 bytes or sets reserved `LSFLAGS` bits (the top five). -/
def Malformed (b : UInt8) (d : List UInt8) : Prop :=
  b ∉ nspMessageTypes ∨ d.length < minFrameLength b ∨
    (b ∈ [0x00, 0x20, 0x40, 0x60, 0x30] ∧ (ackSkip (d.drop 5)).length < 2) ∨
    (b = 0x10 ∧ ((ackSkip (d.drop 5)).length ≠ 4 ∨ (ackSkip (d.drop 5)).getD 2 0 &&& 0xf8 ≠ 0))

instance (b : UInt8) (d : List UInt8) : Decidable (Malformed b d) :=
  inferInstanceAs (Decidable (_ ∨ _ ∨ _ ∨ _))

theorem malformed_iff_short {b : UInt8} {d : List UInt8} (hb : b ∈ nspMessageTypes)
    (hd : b ∉ [0x00, 0x20, 0x40, 0x60, 0x30]) (h10 : b ≠ 0x10) :
    Malformed b d ↔ d.length < minFrameLength b :=
  ⟨fun h => by
    rcases h with h | h | ⟨h, -⟩ | ⟨h, -⟩ <;>
      first | exact absurd hb h | exact h | exact absurd h hd | exact absurd h h10,
   fun h => .inr (.inl h)⟩

theorem not_malformed_connInit {b : UInt8} {d : List UInt8} (hb : b = 0x18 ∨ b = 0x68)
    (hl : 9 ≤ d.length) : ¬ Malformed b d := by
  rcases hb with rfl | rfl <;> rw [malformed_iff_short (by decide) (by decide) (by decide)] <;>
    exact Nat.not_lt.2 hl

theorem not_malformed_connAck {d : List UInt8} (hl : 3 ≤ d.length) : ¬ Malformed 0x24 d := by
  rw [malformed_iff_short (by decide) (by decide) (by decide)]; exact Nat.not_lt.2 hl

/-- A malformed connect-confirm or disconnect is too short for the fields past its header. -/
theorem malformed_control {b : UInt8} {d : List UInt8} (hb : b = 0x28 ∨ b = 0x38 ∨ b = 0x48)
    (hm : Malformed b d) :
    b = 0x28 ∧ (d.drop 5).length < 4 ∨ (b = 0x38 ∨ b = 0x48) ∧ (d.drop 5).length < 2 := by
  rw [List.length_drop]
  rcases hb with rfl | rfl | rfl <;> rw [malformed_iff_short (by decide) (by decide) (by decide)] at hm
  · exact .inl ⟨rfl, by change d.length < 9 at hm; omega⟩
  · exact .inr ⟨.inl rfl, by change d.length < 7 at hm; omega⟩
  · exact .inr ⟨.inr rfl, by change d.length < 7 at hm; omega⟩

/-- A malformed data-class frame, other than the reserved flag bytes, has a body after its ack
fields that its handler drops. -/
theorem malformed_dataClass {b : UInt8} {d : List UInt8} (h83 : b &&& 0x83 = 0)
    (h0c : b &&& 0x0c = 0) (hx : b ≠ 0x50 ∧ b ≠ 0x70) (hm : Malformed b d) :
    b = 0x10 ∧ ((ackSkip (d.drop 5)).length ≠ 4 ∨ (ackSkip (d.drop 5)).getD 2 0 &&& 0xf8 ≠ 0) ∨
      b ≠ 0x10 ∧ (ackSkip (d.drop 5)).length < 2 := by
  have hs := ackSkip_length_le (d.drop 5)
  rw [List.length_drop] at hs
  have hb := dataClass_flags b h83 h0c
  have hmem : b ∈ nspMessageTypes := by
    rcases hb with rfl | rfl | rfl | rfl | rfl | rfl | rfl | rfl
    all_goals first | decide | exact absurd rfl hx.1 | exact absurd rfl hx.2
  have hmin : minFrameLength b = if b = 0x10 then 9 else 7 := by
    rcases hb with rfl | rfl | rfl | rfl | rfl | rfl | rfl | rfl <;> rfl
  rcases hm with h | h | ⟨hd, h⟩ | ⟨rfl, h⟩
  · exact absurd hmem h
  · by_cases h10 : b = 0x10
    · rw [if_pos h10] at hmin; exact .inl ⟨h10, .inl (by omega)⟩
    · rw [if_neg h10] at hmin; exact .inr ⟨h10, by omega⟩
  · exact .inr ⟨fun h10 => absurd (h10 ▸ hd) (by decide), h⟩
  · exact .inl ⟨rfl, h⟩

/-- What the connection has taken in from its peer, apart from its lifecycle and its ack
cursors: the receive cursors, the flow-control fields, the peer's port and optional data, and
both receive queues. -/
structure Received where
  numdatRcv : UInt16
  numothRcv : UInt16
  flowremDat : UInt16
  flowremOth : UInt16
  flowremSw : UInt8
  flowlocSw : UInt8
  maxWindow : Nat
  addrrem : UInt16
  conndataIn : OptdataDn
  discdataIn : OptdataDn
  skReceiveQueue : List Skb
  otherReceiveQueue : List Skb

def Conn.received (c : Conn) : Received :=
  ⟨c.numdatRcv, c.numothRcv, c.flowremDat, c.flowremOth, c.flowremSw, c.flowlocSw, c.maxWindow,
    c.addrrem, c.conndataIn, c.discdataIn, c.skReceiveQueue, c.otherReceiveQueue⟩

/-- The frame reaches the data path of `dn_nsp_backlog_rcv` for the connection: it is not
returned, passes the flag filter of `dn_nsp_rx_packet` with 3 bytes or more, is neither a control
frame nor a connect-ack, finds the connection by its ports, and `got_it` keeps it. -/
def ReachesDataPath (rx : RxEnv) (f : RawFrame) : Prop :=
  f.rtFlags.rts = false ∧ f.byte 0 &&& 0x83 = 0 ∧ f.byte 0 &&& 0x0c ≠ 0x08 ∧ f.byte 0 ≠ 0x24 ∧
    3 ≤ f.data.length ∧ rx.found = true ∧ ¬(f.byte 0 &&& ~~~0x60 ≠ 0 ∧ rx.linearizeFails = true) ∧
    rx.receiveDrops = false

instance (rx : RxEnv) (f : RawFrame) : Decidable (ReachesDataPath rx f) :=
  inferInstanceAs (Decidable (_ ∧ _ ∧ _ ∧ _ ∧ _ ∧ _ ∧ _ ∧ _))

/-- What a malformed frame whose ack fields are `acks` does to the connection `c`, leaving `c'`.
Nothing it has received changes. The lifecycle moves from `DN_CC` to `DN_RUN` exactly when the
frame `reaches` the data path of a live connection in `DN_CC`, from `DN_CI` to `DN_NC` exactly
when it is our connect-initiate `returned` to a connection in `DN_CI`, and otherwise not at all.
The ack cursors end where `dn_ack` leaves them over `acks` when the frame reaches the data path,
and otherwise stay. -/
structure MalformedEffect (env : Env) (reaches returned : Prop) [Decidable reaches]
    [Decidable returned] (acks : List UInt16) (c c' : Conn) : Prop where
  received : c'.received = c.received
  life : c'.life =
    if reaches ∧ c.state = .cc ∧ c.dead = false then (.run, .established)
    else if returned ∧ c.state = .ci then (.nc, .close) else c.life
  cursors : ∀ oth, ackrcv oth c' = ackrcv oth (if reaches then ackAll env c acks else c)

namespace MalformedEffect

variable {env : Env} {reaches returned : Prop} [Decidable reaches] [Decidable returned]
  {acks : List UInt16} {c c' : Conn}

theorem of_quiet (hr : ¬reaches) (hu : ¬returned) (h : c'.received = c.received)
    (hl : c'.life = c.life) (hc : ∀ oth, ackrcv oth c' = ackrcv oth c) :
    MalformedEffect env reaches returned acks c c' :=
  ⟨h, by rw [if_neg fun h' => hr h'.1, if_neg fun h' => hu h'.1, hl], fun oth => by rw [if_neg hr, hc]⟩

theorem of_touch (hr : ¬reaches) (hu : ¬returned) (n s k : Nat) :
    MalformedEffect env reaches returned acks c
      { c with nspRxtshift := n, stamp := s, skDrops := k } :=
  of_quiet hr hu rfl rfl fun oth => by cases oth <;> rfl

end MalformedEffect

/-- A frame for `dn_nsp_backlog_rcv`, neither returned nor a connect-ack, whose body its handler
drops: a connect-confirm under 4 bytes, a disconnect under 2, or a data-class body that, after
the ack fields, is too short for its handler or a bad link-service body. -/
structure HandlerDrops (skb : Skb) : Prop where
  notReturned : skb.rtFlags.rts = false
  notConnAck : skb.nspFlags ≠ 0x24
  control : skb.nspFlags &&& 0x0c = 0x08 → skb.nspFlags = 0x28 ∧ skb.data.length < 4 ∨
    (skb.nspFlags = 0x38 ∨ skb.nspFlags = 0x48) ∧ skb.data.length < 2
  data : skb.nspFlags &&& 0x0c = 0 →
    skb.nspFlags = 0x10 ∧ ((ackSkip skb.data).length ≠ 4 ∨ (ackSkip skb.data).getD 2 0 &&& 0xf8 ≠ 0) ∨
      skb.nspFlags ≠ 0x10 ∧ (ackSkip skb.data).length < 2

theorem controlHandler_of_short (cfg : Config) (env : Env) (c : Conn) (skb : Skb)
    (h : skb.nspFlags = 0x28 ∧ skb.data.length < 4 ∨
      (skb.nspFlags = 0x38 ∨ skb.nspFlags = 0x48) ∧ skb.data.length < 2) :
    controlHandler cfg env c skb = (c, []) := by
  unfold controlHandler
  dsimp only
  rcases h with ⟨hf, hl⟩ | ⟨hf | hf, hl⟩ <;> rw [hf]
  · rw [if_neg (by decide), if_pos (by decide), dnNspConnConf_of_short cfg c skb hl]
  · rw [if_neg (by decide), if_neg (by decide), if_pos (by decide), dnNspDiscInit_of_short env c skb hl]
  · rw [if_neg (by decide), if_neg (by decide), if_neg (by decide), if_pos (by decide),
      dnNspDiscConf_of_short env c skb hl]

theorem dataPath_received (cfg : Config) (env : Env) (c : Conn) (skb : Skb) (h : HandlerDrops skb) :
    (dataPath cfg env c skb).1.received = c.received := by
  have ha : (dnProcessAck env (ccPromote cfg c skb).1 (ackOther skb.nspFlags) skb.data).conn.received =
      c.received := by
    obtain ⟨_, _, _, hp⟩ := ccPromote_frame cfg c skb
    obtain ⟨_, _, he⟩ := dnProcessAck_frame env (ccPromote cfg c skb).1 (ackOther skb.nspFlags) skb.data
    rw [he, hp]; rfl
  unfold dataPath
  dsimp only
  split
  next hd => rw [dataHandler_of_bad cfg env _ _ (by rw [dnProcessAck_data]; exact h.data hd.1)]; exact ha
  next => exact ha

theorem ccPromote_life_eq (cfg : Config) (c : Conn) (skb : Skb) :
    (ccPromote cfg c skb).1.life =
      if c.state = .cc ∧ c.dead = false then (.run, .established) else c.life := by
  unfold ccPromote; split <;> rfl

/-- `dn_nsp_backlog_rcv` on a frame whose body its handler drops: a control frame changes
nothing, and any other frame is promoted and has its acks read. -/
theorem dnNspBacklogRcv_malformed (cfg : Config) (env : Env) (c : Conn) (skb : Skb)
    (h : HandlerDrops skb) :
    (dnNspBacklogRcv cfg env c skb).1.received = c.received ∧
      (dnNspBacklogRcv cfg env c skb).1.life =
        (if skb.nspFlags &&& 0x0c ≠ 0x08 ∧ c.state = .cc ∧ c.dead = false then (.run, .established)
          else c.life) ∧
      ∀ oth, ackrcv oth (dnNspBacklogRcv cfg env c skb).1 =
        ackrcv oth (if skb.nspFlags &&& 0x0c ≠ 0x08 then
          ackAll env c (ackFields (ackOther skb.nspFlags) skb.data) else c) := by
  unfold dnNspBacklogRcv
  rw [if_neg (by simp [h.notReturned])]
  by_cases hc : skb.nspFlags &&& 0x0c = 0x08
  · rw [if_pos hc, controlHandler_of_short cfg env c skb (h.control hc),
      if_neg fun h' => h'.1 hc, if_neg (not_not.2 hc)]
    exact ⟨rfl, rfl, fun _ => rfl⟩
  · rw [if_neg hc, if_neg h.notConnAck, if_pos hc, dataPath_life_eq, ccPromote_life_eq]
    exact ⟨dataPath_received cfg env c skb h, by simp only [ne_eq, hc, not_false_eq_true, true_and],
      dataPath_ackrcv cfg env c skb⟩

theorem gotIt_malformed (cfg : Config) (rx : RxEnv) (env : Env) (c : Conn) (skb : Skb)
    {reaches returned : Prop} [Decidable reaches] [Decidable returned] (h : HandlerDrops skb)
    (hu : ¬returned) (hreach : reaches ↔ ¬(skb.nspFlags &&& ~~~0x60 ≠ 0 ∧ rx.linearizeFails = true) ∧
      rx.receiveDrops = false ∧ skb.nspFlags &&& 0x0c ≠ 0x08) :
    MalformedEffect env reaches returned (ackFields (ackOther skb.nspFlags) skb.data) c
      (gotIt cfg rx env c skb).1 := by
  unfold gotIt
  by_cases hlin : skb.nspFlags &&& ~~~0x60 ≠ 0 ∧ rx.linearizeFails = true
  · rw [if_pos hlin]
    exact .of_touch (fun hr => (hreach.1 hr).1 hlin) hu _ _ c.skDrops
  rw [if_neg hlin]
  by_cases hd : rx.receiveDrops = true
  · rw [if_pos hd]
    exact .of_touch (fun hr => by rw [(hreach.1 hr).2.1] at hd; cases hd) hu _ _ _
  rw [if_neg hd]
  obtain ⟨h1, h2, h3⟩ := dnNspBacklogRcv_malformed cfg env
    { c with nspRxtshift := 0, stamp := rx.jiffies } skb h
  have hiff : reaches ↔ skb.nspFlags &&& 0x0c ≠ 0x08 :=
    ⟨fun hr => (hreach.1 hr).2.2, fun hc => hreach.2 ⟨hlin, by simpa using hd, hc⟩⟩
  refine ⟨h1, ?_, fun oth => ?_⟩
  · rw [h2]; simp only [hiff, hu, false_and, if_false]; rfl
  · rw [h3]
    by_cases hr : reaches
    · rw [if_pos hr, if_pos (hiff.1 hr)]
      exact ackAll_ackrcv_congr env _ (fun b => by cases b <;> rfl) oth
    · rw [if_neg hr, if_neg (mt hiff.2 hr)]; cases oth <;> rfl

theorem dnNspRxPacket_dataClass (user : UsernameParser) (f : RawFrame) (hr : f.rtFlags.rts = false)
    (h83 : f.byte 0 &&& 0x83 = 0) (hc : f.byte 0 &&& 0x0c ≠ 0x08) (hl : 3 ≤ f.data.length) :
    (dnNspRxPacket user f).1 = .bySkb ⟨f.byte 0, f.rtFlags,
      if f.data.length < 5 then 0 else f.word 3, f.word 1, 0,
      if f.data.length < 5 then f.data else f.data.drop 5, f.truesize⟩ := by
  unfold dnNspRxPacket
  rw [if_neg (by omega), if_neg (not_not.2 h83), if_neg fun h => hc h.1, if_neg fun h => hc h.1,
    hr, if_neg Bool.false_ne_true, if_neg (by omega)]
  by_cases hl5 : f.data.length < 5 <;> simp only [hl5, if_true, if_false]

theorem not_reachesDataPath {user : UsernameParser} {rx : RxEnv} {f : RawFrame} {r : RxResult}
    (h : (dnNspRxPacket user f).1 = r) (hr : ∀ skb, r ≠ .bySkb skb) : ¬ReachesDataPath rx f :=
  fun ⟨hrt, h83, hc, _, hl, _⟩ => hr _ (h.symm.trans (dnNspRxPacket_dataClass user f hrt h83 hc hl))

/-- A malformed frame of fewer than 3 or at least 5 bytes, whose flag byte is not `0x50` or
`0x70`, changes nothing the connection has received. It takes a live connection in `DN_CC` to
`DN_RUN` exactly when it reaches the data path, and a connection in `DN_CI` to `DN_NC` exactly
when it is our connect-initiate coming back; otherwise the lifecycle stays. Its ack cursors move
exactly as `dn_ack` over the ack fields that follow its header, when it reaches the data path. -/
theorem malformed_frame_effect (cfg : Config) (user : UsernameParser) (rx : RxEnv) (env : Env)
    (c : Conn) (f : RawFrame) (hm : Malformed (f.byte 0) f.data)
    (hlen : f.data.length < 3 ∨ 5 ≤ f.data.length) (hx : f.byte 0 ≠ 0x50 ∧ f.byte 0 ≠ 0x70) :
    MalformedEffect env (ReachesDataPath rx f) (ReturnedToConn rx f)
      (ackFields (ackOther (f.byte 0)) (f.data.drop 5)) c (rxConn cfg user rx env c f).1 := by
  rcases dnNspRxPacket_cases user f with
    h | ⟨hr, _, _, h⟩ | ⟨-, hci, hl, -, h⟩ | ⟨hr, _, _, h⟩ | ⟨hr, hl, h83, hctl, h⟩
  · have hu : ¬ReturnedToConn rx f := fun hu => by
      rw [dnNspRxPacket_of_rts user f hu.1, if_pos ⟨hu.2.1, hu.2.2.1⟩] at h; cases h
    simp only [rxConn, h]
    exact .of_quiet (not_reachesDataPath h nofun) hu rfl rfl fun _ => rfl
  · have hn : ¬ReachesDataPath rx f := fun h' => Bool.noConfusion (hr.symm.trans h'.1)
    rw [rxConn_conn_of_rts cfg user rx env c f hr]
    by_cases hu : ReturnedToConn rx f ∧ c.state = .ci
    · rw [if_pos hu]
      exact ⟨rfl, by rw [if_neg fun h' => hn h'.1, if_pos hu]; rfl,
        fun oth => by rw [if_neg hn]; cases oth <;> rfl⟩
    · rw [if_neg hu]
      exact ⟨rfl, by rw [if_neg fun h' => hn h'.1, if_neg hu], fun oth => by rw [if_neg hn]⟩
  · exact absurd hm (not_malformed_connInit hci hl)
  · have hu : ¬ReturnedToConn rx f := fun h' => Bool.noConfusion (hr.symm.trans h'.1)
    simp only [rxConn, h]
    exact .of_quiet (not_reachesDataPath h nofun) hu rfl rfl fun _ => rfl
  · have hl5 : ¬ f.data.length < 5 := by omega
    have hu : ¬ReturnedToConn rx f := fun h' => Bool.noConfusion (hr.symm.trans h'.1)
    simp only [rxConn, h, hl5, if_false]
    split
    next hf =>
      have h24 : f.byte 0 ≠ 0x24 := fun h24 => not_malformed_connAck (by omega) (h24 ▸ hm)
      refine gotIt_malformed cfg rx env c ⟨f.byte 0, f.rtFlags, f.word 3, f.word 1, 0, f.data.drop 5,
        f.truesize⟩ ⟨hr, h24, fun hc => malformed_control (hctl hc) hm,
        fun h0c => malformed_dataClass h83 h0c hx hm⟩ hu ?_
      unfold ReachesDataPath
      exact ⟨fun ⟨_, _, hc, _, _, _, hlin, hd⟩ => ⟨hlin, hd, hc⟩,
        fun ⟨hlin, hd, hc⟩ => ⟨hr, h83, hc, h24, by omega, hf, hlin, hd⟩⟩
    next hf =>
      exact .of_quiet (fun h' => hf h'.2.2.2.2.2.1) hu rfl rfl fun _ => rfl

/-- A data segment cut to its header: flags `0x00`, to port `0x0304` from port `0x0102`, and no
segment number. -/
def sampleHeaderOnly : RawFrame := ⟨sampleRtFlags, [0x00, 0x04, 0x03, 0x02, 0x01], fun _ => 0, 512⟩

theorem header_only_frame_effect :
    Malformed (sampleHeaderOnly.byte 0) sampleHeaderOnly.data ∧
      (sampleHeaderOnly.data.length < 3 ∨ 5 ≤ sampleHeaderOnly.data.length) ∧
      (sampleHeaderOnly.byte 0 ≠ 0x50 ∧ sampleHeaderOnly.byte 0 ≠ 0x70) ∧
      MalformedEffect sampleEnv (ReachesDataPath sampleRxEnv sampleHeaderOnly)
        (ReturnedToConn sampleRxEnv sampleHeaderOnly)
        (ackFields (ackOther (sampleHeaderOnly.byte 0)) (sampleHeaderOnly.data.drop 5)) ccConn
        (rxConn sampleConfig noUsernames sampleRxEnv sampleEnv ccConn sampleHeaderOnly).1 :=
  ⟨by decide, by decide, by decide, malformed_frame_effect sampleConfig noUsernames sampleRxEnv
    sampleEnv ccConn sampleHeaderOnly (by decide) (by decide) (by decide)⟩

/-- The frame is malformed, and still takes the connection in `DN_CC` to `DN_RUN`. -/
theorem header_only_frame_promotes_cc :
    Malformed (sampleHeaderOnly.byte 0) sampleHeaderOnly.data ∧ ccConn.life = (.cc, .synRecv) ∧
      (rxConn sampleConfig noUsernames sampleRxEnv sampleEnv ccConn sampleHeaderOnly).1.life =
        (.run, .established) := by
  decide

/-- A data acknowledgment cut to 4 bytes, to port `0x0080`. -/
def sampleShortAck : RawFrame := ⟨sampleRtFlags, [0x04, 0x80, 0x00, 0x00], fun _ => 0, 512⟩

/-- It carries no ack field after a header, yet its flag byte and the low byte of its
destination port are read as the ack word `0x8004`, which moves the data ack cursor to 4. -/
theorem short_ack_moves_cursor :
    Malformed (sampleShortAck.byte 0) sampleShortAck.data ∧ runConn.ackrcvDat = 0 ∧
      (rxConn sampleConfig noUsernames sampleRxEnv sampleEnv runConn sampleShortAck).1.ackrcvDat = 4 := by
  decide

/-- A frame with the reserved flag byte `0x50` carrying data segment 0 and one byte. -/
def sampleReserved : RawFrame :=
  ⟨sampleRtFlags, [0x50, 0x04, 0x03, 0x02, 0x01, 0x00, 0x00, 0x41], fun _ => 0, 512⟩

/-- The frame is malformed, its flag byte being no NSP message type, and still joins
`sk_receive_queue` of a running connection. -/
theorem reserved_frame_queued :
    Malformed (sampleReserved.byte 0) sampleReserved.data ∧ runConn.skReceiveQueue = [] ∧
      (rxConn sampleConfig noUsernames sampleRxEnv sampleEnv runConn sampleReserved).1.skReceiveQueue.length = 1 := by
  decide

end DecnetNsp
