import DecnetNsp.Lifecycle

/-!
# Acknowledgments, both ways

The peer's acknowledgments of our segments move the two ack cursors, and nothing else does
(`dnNspBacklogRcv_ackrcv`): a cursor only moves forward, to an ack number the frame carries. It
therefore stays at or before the last segment sent as long as the peer acknowledges only what was
sent, and not otherwise, since no handler compares an ack with the send counters
(`ackrcv_at_or_before_sent`). Our acknowledgments of the peer's segments: a delayable segment
accepted while no delayed ack is pending is neither acknowledged nor timed
(`delayed_segment_unacked`).
-/

namespace DecnetNsp

/-- The cursor of our data (`false`) or our other data (`true`) that the peer acknowledged. -/
def ackrcv : Bool → Conn → UInt16
  | false, c => c.ackrcvDat
  | true, c => c.ackrcvOth

/-- The `dn_ack` selector that moves that cursor. -/
def ackSelector : Bool → UInt16
  | false => 0
  | true => 2

theorem dnAck_ackrcv (env : Env) (c : Conn) (ack : UInt16) (oth : Bool) :
    ackrcv oth (dnAck env c ack).1 =
      if ackType ack = ackSelector oth ∧ dnAfter ack (ackrcv oth c) then ack &&& seqMask
      else ackrcv oth c := by
  cases oth
  · exact dnAck_ackrcvDat env c ack
  · exact dnAck_ackrcvOth env c ack

/-- Where `dn_ack` leaves the cursors depends on nothing but the cursors. -/
theorem ackAll_ackrcv_congr (env : Env) {c c' : Conn} (ws : List UInt16)
    (h : ∀ oth, ackrcv oth c' = ackrcv oth c) (oth : Bool) :
    ackrcv oth (ackAll env c' ws) = ackrcv oth (ackAll env c ws) := by
  induction ws generalizing c c' with
  | nil => exact h oth
  | cons w ws ih => exact ih fun b => by rw [dnAck_ackrcv, dnAck_ackrcv, h b]

theorem controlHandler_ackrcv (cfg : Config) (env : Env) (c : Conn) (skb : Skb) (oth : Bool) :
    ackrcv oth (controlHandler cfg env c skb).1 = ackrcv oth c := by
  unfold controlHandler
  dsimp only
  split_ifs
  · obtain ⟨_, h⟩ := dnNspConnInit_frame c skb
    rw [h]; cases oth <;> rfl
  · obtain ⟨_, _, _, _, _, _, _, _, _, _, h⟩ := dnNspConnConf_frame cfg c skb
    rw [h]; cases oth <;> rfl
  · obtain ⟨_, _, _, _, _, _, _, _, _, _, h⟩ := dnNspDiscInit_frame env c skb
    rw [h]; cases oth <;> rfl
  · obtain ⟨_, _, _, _, _, _, h⟩ := dnNspDiscConf_frame env c skb
    rw [h]; cases oth <;> rfl
  · rfl

theorem dataPath_ackrcv (cfg : Config) (env : Env) (c : Conn) (skb : Skb) (oth : Bool) :
    ackrcv oth (dataPath cfg env c skb).1 =
      ackrcv oth (ackAll env c (ackFields (ackOther skb.nspFlags) skb.data)) := by
  have hp : ∀ b, ackrcv b (ccPromote cfg c skb).1 = ackrcv b c := by
    obtain ⟨_, _, _, h⟩ := ccPromote_frame cfg c skb
    intro b; rw [h]; cases b <;> rfl
  have ha := ackAll_ackrcv_congr env (ackFields (ackOther skb.nspFlags) skb.data) hp oth
  rw [← dnProcessAck_conn] at ha
  unfold dataPath
  dsimp only
  split
  · obtain ⟨_, _, _, _, _, _, _, _, _, _, _, _, h⟩ :=
      dataHandler_frame cfg env (dnProcessAck env (ccPromote cfg c skb).1 (ackOther skb.nspFlags)
        skb.data).conn { skb with data := _ }
    rw [h, ← ha]; cases oth <;> rfl
  · exact ha

/-- Only the acks a frame carries move the ack cursors, in order, through `dn_ack`. -/
theorem dnNspBacklogRcv_ackrcv (cfg : Config) (env : Env) (c : Conn) (skb : Skb) (oth : Bool) :
    ackrcv oth (dnNspBacklogRcv cfg env c skb).1 = ackrcv oth (ackAll env c (frameAcks skb)) := by
  unfold dnNspBacklogRcv frameAcks
  split_ifs
  · rfl
  · exact controlHandler_ackrcv cfg env c skb oth
  · obtain ⟨_, _, _, h⟩ := dnNspConnAck_frame cfg c
    rw [h]; cases oth <;> rfl
  · exact dataPath_ackrcv cfg env c skb oth

/-- `ack` acknowledges a segment at or cyclically before `sent - 1`, the last of the segments
numbered `sent` so far: `(sent - 1 - ack) mod 4096 < 2048`. -/
def AtOrBeforeSent (sent ack : UInt16) : Prop :=
  ((sent.toNat : Int) - 1 - ack.toNat) % 4096 < 2048

instance (sent ack : UInt16) : Decidable (AtOrBeforeSent sent ack) :=
  inferInstanceAs (Decidable (_ < _))

theorem atOrBeforeSent_and_seqMask (sent ack : UInt16) :
    AtOrBeforeSent sent (ack &&& seqMask) ↔ AtOrBeforeSent sent ack := by
  unfold AtOrBeforeSent
  rw [toNat_and_seqMask]
  omega

/-- `dn_ack` over words each of which, if it acknowledges on the cursor's subchannel,
acknowledges a segment sent, keeps the cursor at or before the last segment sent. -/
theorem ackAll_at_or_before_sent (env : Env) (sent : UInt16) (oth : Bool) (c : Conn)
    (ws : List UInt16) (hc : AtOrBeforeSent sent (ackrcv oth c))
    (hw : ∀ w ∈ ws, ackType w = ackSelector oth → AtOrBeforeSent sent w) :
    AtOrBeforeSent sent (ackrcv oth (ackAll env c ws)) := by
  induction ws generalizing c with
  | nil => exact hc
  | cons w ws ih =>
    refine ih _ ?_ fun w' h => hw w' (List.mem_cons_of_mem _ h)
    rw [dnAck_ackrcv]
    split
    next h => exact (atOrBeforeSent_and_seqMask _ _).2 (hw w (List.mem_cons_self _ _) h.1)
    next => exact hc

/-- A data acknowledgment of segment 1 (`0x8001`). -/
def sampleAck : Skb := ⟨0x04, sampleRtFlags, 0x0102, 0x0304, 0, [0x01, 0x80], 512⟩

/-- A data acknowledgment of segment 1000 (`0x83e8`: present, not a NAK, selector 0). -/
def sampleAckPastSent : Skb := ⟨0x04, sampleRtFlags, 0x0102, 0x0304, 0, [0xe8, 0x83], 512⟩

/-- A segment with the delay bit set, accepted in sequence on a running connection while no
delayed ack is pending: the data cursor moves on, but no data ack is sent and `ackdelay` stays
zero, so nothing will acknowledge it. -/
theorem delayed_segment_unacked (cfg : Config) (env : Env) (c : Conn) (skb : Skb)
    {s0 s1 : UInt8} {payload : List UInt8} (hrun : c.state = .run) (hpend : c.ackdelay = 0)
    (hq : env.queue = .ok) (hm : c.skRmemAlloc < c.skRcvbuf) (hr : skb.rtFlags.rts = false)
    (hf : skb.nspFlags &&& 0x0c = 0 ∧ skb.nspFlags ≠ 0x10 ∧ skb.nspFlags ≠ 0x30)
    (hd : skb.data = s0 :: s1 :: payload) (hn : seqNext c.numdatRcv (le16 s0 s1))
    (hdelay : sendack (le16 s0 s1) = false) (hseg : le16 s0 s1 &&& 0x8000 = 0) :
    (dnNspBacklogRcv cfg env c skb).1.numdatRcv ≠ c.numdatRcv ∧
      (dnNspBacklogRcv cfg env c skb).1.ackdelay = 0 ∧
      Event.sendDataAck ∉ (dnNspBacklogRcv cfg env c skb).2 := by
  rw [dnNspBacklogRcv_data cfg env c skb hrun hr hf hd hseg]
  obtain ⟨h1, h2, h3⟩ := dnNspData_delayed cfg env c skb hd hn hdelay hq hm hpend
  refine ⟨fun h => ?_, h2, h3⟩
  have h' := congrArg UInt16.toNat (h1.symm.trans h)
  rw [seqAdd_toNat] at h'
  omega

/-- Data segment 0 with the delay bit set. -/
def sampleDelayedSegment : Skb := ⟨0x00, sampleRtFlags, 0x0102, 0x0304, 0, [0x00, 0x10], 512⟩

theorem runConn_delayed_segment_unacked :
    (runConn.state = .run ∧ runConn.ackdelay = 0 ∧ sampleEnv.queue = .ok ∧
      runConn.skRmemAlloc < runConn.skRcvbuf ∧ sampleDelayedSegment.rtFlags.rts = false ∧
      (sampleDelayedSegment.nspFlags &&& 0x0c = 0 ∧ sampleDelayedSegment.nspFlags ≠ 0x10 ∧
        sampleDelayedSegment.nspFlags ≠ 0x30) ∧
      sampleDelayedSegment.data = [0x00, 0x10] ∧ seqNext runConn.numdatRcv (le16 0x00 0x10) ∧
      sendack (le16 0x00 0x10) = false ∧ le16 0x00 0x10 &&& 0x8000 = 0) ∧
    ((dnNspBacklogRcv sampleConfig sampleEnv runConn sampleDelayedSegment).1.numdatRcv ≠
        runConn.numdatRcv ∧
      (dnNspBacklogRcv sampleConfig sampleEnv runConn sampleDelayedSegment).1.ackdelay = 0 ∧
      Event.sendDataAck ∉ (dnNspBacklogRcv sampleConfig sampleEnv runConn sampleDelayedSegment).2) :=
  ⟨⟨rfl, rfl, rfl, by decide, rfl, by decide, rfl, by decide, by decide, by decide⟩,
    delayed_segment_unacked sampleConfig sampleEnv runConn sampleDelayedSegment rfl rfl rfl
      (by decide) rfl (by decide) rfl (by decide) (by decide) (by decide)⟩

end DecnetNsp
