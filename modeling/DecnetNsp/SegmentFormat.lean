import DecnetNsp.Acknowledgment
import DecnetNsp.EntryRuns

/-!
# Segments from the wire to the receive queue

A data or other-data segment as the peer encodes it: the flag byte, the destination and source
ports, up to two ack fields, the segment number, and the payload, every word little-endian
(§6). Received through `dn_nsp_rx_packet`, `got_it`, `dn_nsp_backlog_rcv`, `dn_process_ack` and
`dn_nsp_data` or `dn_nsp_otherdata`, it is decoded as it was encoded: its subchannel's queue gains
exactly the segment, with its ports, its number and its payload, when the number is the one
expected and the queue admits it, and the ack cursors move as `dn_ack` moves them over its ack
fields (`segment_round_trip`).
-/

namespace DecnetNsp

def loByte (w : UInt16) : UInt8 := UInt8.ofNat (w.toNat % 256)

def hiByte (w : UInt16) : UInt8 := UInt8.ofNat (w.toNat / 256)

/-- A 16-bit field on the wire, low byte first. -/
def le16Bytes (w : UInt16) : List UInt8 := [loByte w, hiByte w]

@[simp] theorem le16_loByte_hiByte (w : UInt16) : le16 (loByte w) (hiByte w) = w := by
  apply UInt16.toNat.inj
  have hw := toNat_lt w
  rw [le16_toNat]
  change w.toNat % 256 % 256 + 256 * (w.toNat / 256 % 256) = w.toNat
  omega

/-- A data segment (flags `0x00`, `0x20`, `0x40` or `0x60`, with its
begin and end of message bits) or an other-data segment (`0x30`), well formed: at most two ack
fields, each with its present bit, and a segment number with bit 15 clear. -/
structure SegmentMsg where
  flags : UInt8
  dstPort : UInt16
  srcPort : UInt16
  acks : List UInt16
  segnum : UInt16
  payload : List UInt8
  flags_segment : flags = 0x30 ∨ flags &&& 0x9f = 0
  acks_length : acks.length ≤ 2
  acks_present : ∀ w ∈ acks, w &&& 0x8000 ≠ 0
  segnum_clear : segnum &&& 0x8000 = 0

namespace SegmentMsg

/-- The body past the 5-byte header: the ack fields, the segment number, the payload. -/
def body (m : SegmentMsg) : List UInt8 := m.acks.flatMap le16Bytes ++ le16Bytes m.segnum ++ m.payload

def bytes (m : SegmentMsg) : List UInt8 :=
  m.flags :: le16Bytes m.dstPort ++ le16Bytes m.srcPort ++ m.body

def subchannel (m : SegmentMsg) : Subchannel := if m.flags = 0x30 then .other else .data

/-- The segment as its receive queue holds it, in a buffer of `truesize` bytes. -/
def skb (m : SegmentMsg) (rt : RtFlags) (truesize : Nat) : Skb :=
  ⟨m.flags, rt, m.srcPort, m.dstPort, m.segnum, m.payload, truesize⟩

def ackWords (m : SegmentMsg) : List UInt16 := m.acks.flatMap (ackWord (m.flags == 0x30))

end SegmentMsg

theorem segment_flags (b : UInt8) (h : b = 0x30 ∨ b &&& 0x9f = 0) :
    b &&& 0x83 = 0 ∧ b &&& 0x0c = 0 ∧ b ≠ 0x10 ∧ b ≠ 0x24 ∧ ackOther b = (b == 0x30) ∧
      (b &&& ~~~0x60 ≠ 0 → b = 0x30) := by
  rcases h with rfl | h
  · decide
  · revert h; obtain ⟨v⟩ := b; revert v; decide

/-- `dn_process_ack` reads back exactly the ack fields in front of a segment number. -/
theorem ackFields_encoded (oth : Bool) (ws : List UInt16) (hl : ws.length ≤ 2)
    (hp : ∀ w ∈ ws, w &&& 0x8000 ≠ 0) {s : UInt16} (hs : s &&& 0x8000 = 0) (payload : List UInt8) :
    ackFields oth (ws.flatMap le16Bytes ++ le16Bytes s ++ payload) = ws.flatMap (ackWord oth) ∧
      ackSkip (ws.flatMap le16Bytes ++ le16Bytes s ++ payload) = le16Bytes s ++ payload := by
  match ws, hl with
  | [], _ => simp [le16Bytes, ackFields, ackSkip, hs]
  | [a], _ =>
    have ha := hp a (by simp)
    simp [le16Bytes, ackFields, ackSkip, ha, hs]
  | [a, b], _ =>
    have ha := hp a (by simp)
    have hb := hp b (by simp)
    simp [le16Bytes, ackFields, ackSkip, ha, hb]

/-- `dn_nsp_rx_packet` hands an encoded segment on for its socket, with its ports and its body. -/
theorem dnNspRxPacket_segment (user : UsernameParser) (m : SegmentMsg) (rt : RtFlags)
    (beyond : Nat → UInt8) (ts : Nat) (hrt : rt.rts = false) :
    (dnNspRxPacket user ⟨rt, m.bytes, beyond, ts⟩).1 =
      .bySkb ⟨m.flags, rt, m.srcPort, m.dstPort, 0, m.body, ts⟩ := by
  obtain ⟨h83, h0c, -⟩ := segment_flags m.flags m.flags_segment
  have hlen : m.bytes.length = m.body.length + 5 := by simp [SegmentMsg.bytes, le16Bytes]
  have hb0 : (RawFrame.mk rt m.bytes beyond ts).byte 0 = m.flags := rfl
  have hw1 : (RawFrame.mk rt m.bytes beyond ts).word 1 = m.dstPort := le16_loByte_hiByte _
  have hw3 : (RawFrame.mk rt m.bytes beyond ts).word 3 = m.srcPort := le16_loByte_hiByte _
  have hdrop : m.bytes.drop 5 = m.body := rfl
  have hctl : ¬ (m.flags &&& 0x0c = 0x08) := by rw [h0c]; decide
  unfold dnNspRxPacket
  simp only [hlen, hb0, hw1, hw3, hdrop, h83, hctl, hrt, false_and, if_false, ne_eq, not_true_eq_false,
    Bool.false_eq_true, show ¬ (m.body.length + 5 < 2) by omega, show ¬ (m.body.length + 5 < 3) by omega,
    show ¬ (m.body.length + 5 < 5) by omega]

/-- `dn_queue_skb` appends the frame to the queue it is given exactly when both collaborators let
it through and the socket holds less receive memory than `sk_rcvbuf`. -/
theorem dnQueueSkb_queue (env : Env) (c : Conn) (skb : Skb) (other : Bool) (ch : Subchannel) :
    ch.queue (dnQueueSkb env c skb other).1 = ch.queue c ++
      if (ch = .other ↔ other = true) ∧ env.queue = .ok ∧ c.skRmemAlloc < c.skRcvbuf then [skb]
      else [] := by
  have hiff := dnQueueSkb_queued env c skb other
  rcases (dnQueueSkb_spec env c skb other).2 with ⟨hq, k, h⟩ | ⟨hq, h⟩
  · rw [h, if_neg fun h' => by rw [hiff.2 h'.2] at hq; cases hq]
    cases ch <;> simp [Subchannel.queue]
  · rw [h]
    cases other <;> cases ch <;> simp [Subchannel.queue, hiff.1 hq]

theorem dataQueued_queue (cfg : Config) (n : UInt16) (q : Conn × Bool × List Event) (ch : Subchannel) :
    ch.queue (dataQueued cfg n q).1 = ch.queue q.1 := by
  obtain ⟨c, b, ev⟩ := q
  obtain ⟨s, d, h⟩ := dataQueued_frame cfg n c b ev
  rw [h]; cases ch <;> rfl

theorem othQueued_queue (n : UInt16) (q : Conn × Bool × List Event) (ch : Subchannel) :
    ch.queue (othQueued n q).1 = ch.queue q.1 := by
  obtain ⟨c, b, ev⟩ := q
  obtain ⟨r, h⟩ := othQueued_frame n c b ev
  rw [h]; cases ch <;> rfl

/-- `dn_nsp_data` on a body led by segment number `s` queues the rest under `s` exactly when `s`
is expected and `dn_queue_skb` admits it; the other-data queue is left alone. -/
theorem dnNspData_queue (cfg : Config) (env : Env) (c : Conn) (skb : Skb) {s : UInt16}
    {payload : List UInt8} (hd : skb.data = le16Bytes s ++ payload) (ch : Subchannel) :
    ch.queue (dnNspData cfg env c skb).1 = ch.queue c ++
      if ch = .data ∧ seqNext c.numdatRcv s ∧ env.queue = .ok ∧ c.skRmemAlloc < c.skRcvbuf then
        [{ skb with segnum := s, data := payload }]
      else [] := by
  unfold dnNspData
  rw [hd]
  simp only [le16Bytes, List.cons_append, le16_loByte_hiByte]
  split
  next hn => rw [dataQueued_queue, dnQueueSkb_queue]; cases ch <;> simp [hn]
  next hn =>
    obtain ⟨d', h'⟩ := dataAck_frame cfg c [] false s
    rw [h']
    cases ch <;> simp [Subchannel.queue, hn]

theorem dnNspOtherdata_queue (env : Env) (c : Conn) (skb : Skb) {s : UInt16}
    {payload : List UInt8} (hd : skb.data = le16Bytes s ++ payload) (ch : Subchannel) :
    ch.queue (dnNspOtherdata env c skb).1 = ch.queue c ++
      if ch = .other ∧ seqNext c.numothRcv s ∧ env.queue = .ok ∧ c.skRmemAlloc < c.skRcvbuf then
        [{ skb with segnum := s, data := payload }]
      else [] := by
  unfold dnNspOtherdata
  rw [hd]
  simp only [le16Bytes, List.cons_append, le16_loByte_hiByte]
  split
  next hn => rw [othQueued_queue, dnQueueSkb_queue]; cases ch <;> simp [hn]
  next hn => cases ch <;> simp [Subchannel.queue, hn]

theorem dnProcessAck_ccPromote_untouched (cfg : Config) (env : Env) (c : Conn) (skb : Skb) (oth : Bool)
    (ch : Subchannel) : ch.Untouched c (dnProcessAck env (ccPromote cfg c skb).1 oth skb.data).conn := by
  obtain ⟨d, o, ha⟩ := dnProcessAck_frame env (ccPromote cfg c skb).1 oth skb.data
  obtain ⟨s, ss, sz, hp⟩ := ccPromote_frame cfg c skb
  rw [ha, hp]; cases ch <;> exact ⟨rfl, rfl⟩

theorem dnProcessAck_ccPromote_rmem (cfg : Config) (env : Env) (c : Conn) (skb : Skb) (oth : Bool)
    (d : List UInt8) :
    (dnProcessAck env (ccPromote cfg c skb).1 oth d).conn.skRmemAlloc = c.skRmemAlloc ∧
      (dnProcessAck env (ccPromote cfg c skb).1 oth d).conn.skRcvbuf = c.skRcvbuf := by
  obtain ⟨_, _, ha⟩ := dnProcessAck_frame env (ccPromote cfg c skb).1 oth d
  obtain ⟨_, _, _, hp⟩ := ccPromote_frame cfg c skb
  rw [ha, hp]; exact ⟨rfl, rfl⟩

theorem ccPromote_state_run (cfg : Config) (c : Conn) (skb : Skb)
    (h : c.state = .run ∨ c.state = .cc ∧ c.dead = false) : (ccPromote cfg c skb).1.state = .run := by
  unfold ccPromote
  split
  · rfl
  · next hcc => exact h.resolve_right hcc

/-- A data-class frame on a connection that runs once promoted goes, past its ack fields, to the
data-class handler. -/
theorem dataPath_of_run (cfg : Config) (env : Env) (c : Conn) (skb : Skb) (h0c : skb.nspFlags &&& 0x0c = 0)
    (hrun : (ccPromote cfg c skb).1.state = .run) :
    (dataPath cfg env c skb).1 =
      (dataHandler cfg env (dnProcessAck env (ccPromote cfg c skb).1 (ackOther skb.nspFlags) skb.data).conn
        { skb with data := ackSkip skb.data }).1 := by
  have hs : (dnProcessAck env (ccPromote cfg c skb).1 (ackOther skb.nspFlags) skb.data).conn.state = .run :=
    (congrArg Prod.fst (dnProcessAck_life env _ _ _)).trans hrun
  unfold dataPath
  rw [if_pos ⟨h0c, hs⟩, dnProcessAck_data]

/-- A segment encoded by the peer and received for a running connection (or a live one in
`DN_CC`, which it promotes), not returned, not dropped by `sk_receive_skb` and, for other data,
linearized: the queue of its subchannel gains exactly the segment, with its ports, its number and
its payload, when its number is the one expected and `dn_queue_skb` admits it, and otherwise
nothing; the other queue is left alone; and the ack cursors end where `dn_ack` leaves them over
the segment's ACK fields. -/
theorem segment_round_trip (cfg : Config) (user : UsernameParser) (rx : RxEnv) (env : Env)
    (c : Conn) (m : SegmentMsg) (rt : RtFlags) (beyond : Nat → UInt8) (ts : Nat)
    (hrt : rt.rts = false) (hfound : rx.found = true) (hkept : rx.receiveDrops = false)
    (hlin : m.flags = 0x30 → rx.linearizeFails = false)
    (hlive : c.state = .run ∨ c.state = .cc ∧ c.dead = false) :
    (∀ ch : Subchannel, ch.queue (rxConn cfg user rx env c ⟨rt, m.bytes, beyond, ts⟩).1 = ch.queue c ++
      if ch = m.subchannel ∧ seqNext (ch.cursor c) m.segnum ∧ env.queue = .ok ∧
          c.skRmemAlloc < c.skRcvbuf then [m.skb rt ts]
      else []) ∧
    ∀ oth, ackrcv oth (rxConn cfg user rx env c ⟨rt, m.bytes, beyond, ts⟩).1 =
      ackrcv oth (ackAll env c m.ackWords) := by
  obtain ⟨-, h0c, h10, h24, hoth, hlinflag⟩ := segment_flags m.flags m.flags_segment
  obtain ⟨hfields, hskip⟩ :=
    ackFields_encoded (ackOther m.flags) m.acks m.acks_length m.acks_present m.segnum_clear m.payload
  have hctl : ¬ (m.flags &&& 0x0c = 0x08) := by rw [h0c]; decide
  have hkeep : ¬ (m.flags &&& ~~~0x60 ≠ 0 ∧ rx.linearizeFails) := fun ⟨hf, hl⟩ => by
    rw [hlin (hlinflag hf)] at hl; cases hl
  have hrx : (rxConn cfg user rx env c ⟨rt, m.bytes, beyond, ts⟩).1 =
      (dnNspBacklogRcv cfg env (c.stamped 0 rx.jiffies) ⟨m.flags, rt, m.srcPort, m.dstPort, 0, m.body, ts⟩).1 := by
    unfold rxConn
    rw [dnNspRxPacket_segment user m rt beyond ts hrt]
    simp only [hfound, if_true, gotIt]
    rw [if_neg hkeep, hkept, if_neg Bool.false_ne_true]; rfl
  rw [dnNspBacklogRcv_dataPath _ _ _ _ hrt hctl h24] at hrx
  refine ⟨fun ch => ?_, fun oth => ?_⟩
  · have hu (ch : Subchannel) : ch.Untouched c (dnProcessAck env (ccPromote cfg (c.stamped 0 rx.jiffies)
        ⟨m.flags, rt, m.srcPort, m.dstPort, 0, m.body, ts⟩).1 (ackOther m.flags) m.body).conn :=
      (show ch.Untouched c (c.stamped 0 rx.jiffies) by cases ch <;> exact ⟨rfl, rfl⟩).trans
        (dnProcessAck_ccPromote_untouched ..)
    rw [hrx, dataPath_of_run cfg env (c.stamped 0 rx.jiffies) ⟨m.flags, rt, m.srcPort, m.dstPort, 0, m.body, ts⟩
      h0c (ccPromote_state_run _ _ _ hlive)]
    simp only [dataHandler, h10, if_false, SegmentMsg.subchannel]
    have hoc := (hu .other).1
    have hdc := (hu .data).1
    simp only [Subchannel.cursor] at hoc hdc
    obtain ⟨hrm, hrb⟩ := dnProcessAck_ccPromote_rmem cfg env (c.stamped 0 rx.jiffies)
      ⟨m.flags, rt, m.srcPort, m.dstPort, 0, m.body, ts⟩ (ackOther m.flags) m.body
    by_cases h30 : m.flags = 0x30
    · rw [if_pos h30, dnNspOtherdata_queue env _ _ (show ackSkip m.body = _ from hskip), (hu ch).2, hoc, hrm, hrb]
      cases ch <;> simp [h30, Subchannel.cursor, SegmentMsg.skb, Conn.stamped]
    · rw [if_neg h30, dnNspData_queue cfg env _ _ (show ackSkip m.body = _ from hskip), (hu ch).2, hdc, hrm, hrb]
      cases ch <;> simp [h30, Subchannel.cursor, SegmentMsg.skb, Conn.stamped]
  · have hacks : frameAcks ⟨m.flags, rt, m.srcPort, m.dstPort, 0, m.body, ts⟩ = m.ackWords := by
      simp only [frameAcks, hrt, hctl, h24, Bool.false_eq_true, if_false]
      rw [SegmentMsg.body, hfields, hoth]; rfl
    rw [hrx, ← dnNspBacklogRcv_dataPath _ _ _ _ hrt hctl h24, dnNspBacklogRcv_ackrcv, hacks]
    exact ackAll_ackrcv_congr env m.ackWords (fun b => by cases b <;> rfl) oth

/-- Data segment 0 from port `0x0102` to port `0x0304`, acknowledging our segment 1 and carrying
one byte. -/
def sampleSegment : SegmentMsg :=
  ⟨0x00, 0x0304, 0x0102, [0x8001], 0, [0x41], .inr (by decide), by decide, by decide, by decide⟩

theorem sampleSegment_round_trip :
    (sampleRtFlags.rts = false ∧ sampleRxEnv.found = true ∧ sampleRxEnv.receiveDrops = false ∧
      (sampleSegment.flags = 0x30 → sampleRxEnv.linearizeFails = false) ∧
      (runConn.state = .run ∨ runConn.state = .cc ∧ runConn.dead = false)) ∧
    ((∀ ch : Subchannel, ch.queue (rxConn sampleConfig noUsernames sampleRxEnv sampleEnv runConn
        ⟨sampleRtFlags, sampleSegment.bytes, fun _ => 0, 512⟩).1 = ch.queue runConn ++
        if ch = sampleSegment.subchannel ∧ seqNext (ch.cursor runConn) sampleSegment.segnum ∧
          sampleEnv.queue = .ok ∧ runConn.skRmemAlloc < runConn.skRcvbuf then
          [sampleSegment.skb sampleRtFlags 512]
        else []) ∧
      ∀ oth, ackrcv oth (rxConn sampleConfig noUsernames sampleRxEnv sampleEnv runConn
        ⟨sampleRtFlags, sampleSegment.bytes, fun _ => 0, 512⟩).1 =
          ackrcv oth (ackAll sampleEnv runConn sampleSegment.ackWords)) :=
  ⟨⟨rfl, rfl, rfl, fun _ => rfl, .inl rfl⟩,
    segment_round_trip sampleConfig noUsernames sampleRxEnv sampleEnv runConn sampleSegment sampleRtFlags _ _
      rfl rfl rfl (fun _ => rfl) (.inl rfl)⟩

end DecnetNsp
