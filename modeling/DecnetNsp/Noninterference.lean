import DecnetNsp.Bookkeeping
import DecnetNsp.RunInvariants

/-!
# The other subchannel never interferes with the data subchannel

Other-data and link-service frames travel on their own subchannel, with their own cursor
`numoth_rcv` and queue, and carry the remote flow control and acknowledgments of our own
segments. `OtherSide` is everything such a frame may change, the receive memory its queued
segments are charged included (`step_isOther`). It is part of the `Bookkeeping` no control
handler touches, and the data handlers only update it on their own terms while the memory stays
within half of `sk_rcvbuf`, below what `dn_queue_skb` and `dn_congested` test (`step_setOther`).
So removing every other-data and link-service frame from a run whose receive memory ends within
that budget changes nothing else, and in particular not what the data subchannel delivers
(`other_subchannel_never_interferes`). Beyond it the two subchannels share the memory, and an
other-data segment can make the data segment after it congest the socket
(`other_data_congests_data`). The connection must not be in `DN_CC` either: there any frame of
the data class promotes it to `DN_RUN`, and a disconnect-initiate then ends it, where without that
frame the disconnect-initiate leaves `DN_CC` in place.

On that subchannel only an in-sequence link-service frame moves the remote flow control: a run
that accepts none leaves `flowrem_dat`, `flowrem_oth` and `flowrem_sw` as they were and never
calls `dn_nsp_output` (`remote_flow_moves_only_on_link_service`). Unlike data segments, whose
acknowledgment may be delayed, every segment the other subchannel accepts is acknowledged before
the next one is accepted, within the same frame (`other_segments_acked_at_once`).
-/

namespace DecnetNsp

/-- What an other-data or link-service frame may change: the other subchannel's cursor, queue
and `other_report`, the acknowledgment cursors of our own segments, the remote flow control, the
drop count and the receive memory. -/
structure OtherSide where
  numothRcv : UInt16
  ackrcvDat : UInt16
  ackrcvOth : UInt16
  flowremDat : UInt16
  flowremOth : UInt16
  flowremSw : UInt8
  otherReport : Nat
  skDrops : Nat
  skRmemAlloc : Nat
  otherReceiveQueue : List Skb

/-- The connection with its other side replaced. -/
def Conn.setOther (c : Conn) (o : OtherSide) : Conn :=
  { c with numothRcv := o.numothRcv, ackrcvDat := o.ackrcvDat, ackrcvOth := o.ackrcvOth,
           flowremDat := o.flowremDat, flowremOth := o.flowremOth, flowremSw := o.flowremSw,
           otherReport := o.otherReport, skDrops := o.skDrops, skRmemAlloc := o.skRmemAlloc,
           otherReceiveQueue := o.otherReceiveQueue }

def Conn.otherSide (c : Conn) : OtherSide :=
  ⟨c.numothRcv, c.ackrcvDat, c.ackrcvOth, c.flowremDat, c.flowremOth, c.flowremSw, c.otherReport,
    c.skDrops, c.skRmemAlloc, c.otherReceiveQueue⟩

theorem Conn.setOther_otherSide (c : Conn) : c.setOther c.otherSide = c := rfl

@[simp] theorem Conn.setOther_state (c : Conn) (o : OtherSide) : (c.setOther o).state = c.state := rfl

@[simp] theorem Conn.setOther_numdatRcv (c : Conn) (o : OtherSide) :
    (c.setOther o).numdatRcv = c.numdatRcv := rfl

@[simp] theorem Conn.setOther_dead (c : Conn) (o : OtherSide) : (c.setOther o).dead = c.dead := rfl

@[simp] theorem Conn.setOther_skRmemAlloc (c : Conn) (o : OtherSide) :
    (c.setOther o).skRmemAlloc = o.skRmemAlloc := rfl

@[simp] theorem Conn.setOther_skRcvbuf (c : Conn) (o : OtherSide) :
    (c.setOther o).skRcvbuf = c.skRcvbuf := rfl

@[simp] theorem Conn.setOther_setOther (c : Conn) (o o' : OtherSide) :
    (c.setOther o).setOther o' = c.setOther o' := rfl

/-- The other side `o` in place of the one in the bookkeeping. -/
def OtherSide.set (o : OtherSide) (b : Bookkeeping) : Bookkeeping :=
  { b with numothRcv := o.numothRcv, ackrcvDat := o.ackrcvDat, ackrcvOth := o.ackrcvOth,
           flowremDat := o.flowremDat, flowremOth := o.flowremOth, flowremSw := o.flowremSw,
           otherReport := o.otherReport, skDrops := o.skDrops, skRmemAlloc := o.skRmemAlloc,
           otherReceiveQueue := o.otherReceiveQueue }

theorem Conn.setOther_eq_mapBook (c : Conn) (o : OtherSide) : c.setOther o = c.mapBook o.set := rfl

theorem Conn.rmem_of_book {c c' : Conn} (h : c'.book = c.book) : c'.skRmemAlloc = c.skRmemAlloc :=
  congrArg Bookkeeping.skRmemAlloc h

theorem dnCongested_of_le {c : Conn} (h : c.skRmemAlloc ≤ c.skRcvbuf / 2) : dnCongested c = false :=
  decide_eq_false (Nat.not_lt.2 h)

/-- `dn_congested` answers alike with the other side `o` in place while the memory there is within
half of `sk_rcvbuf` and at least what it is without it. -/
theorem dnCongested_setOther {c : Conn} {o : OtherSide} (hle : c.skRmemAlloc ≤ o.skRmemAlloc)
    (hb : o.skRmemAlloc ≤ c.skRcvbuf / 2) : dnCongested (c.mapBook o.set) = dnCongested c := by
  have h : dnCongested (c.mapBook o.set) = false := dnCongested_of_le hb
  rw [h, dnCongested_of_le (hle.trans hb)]

theorem dnQueueSkb_mem (env : Env) (c : Conn) (skb : Skb) (other : Bool) :
    c.skRmemAlloc ≤ (dnQueueSkb env c skb other).1.skRmemAlloc ∧
      (dnQueueSkb env c skb other).1.skRcvbuf = c.skRcvbuf := by
  rcases (dnQueueSkb_spec env c skb other).2 with ⟨-, k, h⟩ | ⟨-, h⟩ <;> rw [h]
  · exact ⟨le_rfl, rfl⟩
  · cases other <;> simp

theorem dataQueued_rmem (cfg : Config) (n : UInt16) (q : Conn × Bool × List Event) :
    (dataQueued cfg n q).1.skRmemAlloc = q.1.skRmemAlloc := by
  obtain ⟨c, b, ev⟩ := q
  obtain ⟨_, _, h⟩ := dataQueued_frame cfg n c b ev
  rw [h]

section SetOther

variable (o : OtherSide)

/-- `dn_queue_skb` decides alike on a data segment with the other side `o` in place, while the
memory there is within half of `sk_rcvbuf` and at least what it is without it. -/
theorem dnQueueSkb_setOther (env : Env) (c : Conn) (skb : Skb) (hle : c.skRmemAlloc ≤ o.skRmemAlloc)
    (hb : o.skRmemAlloc ≤ c.skRcvbuf / 2) :
    ∃ o', dnQueueSkb env (c.setOther o) skb false = (dnQueueSkb env c skb false).map (·.setOther o') id ∧
      (dnQueueSkb env c skb false).1.skRmemAlloc ≤ o'.skRmemAlloc := by
  have hfull : c.skRcvbuf ≤ o.skRmemAlloc ↔ c.skRcvbuf ≤ c.skRmemAlloc := by omega
  unfold dnQueueSkb
  simp only [Conn.setOther_skRmemAlloc, Conn.setOther_skRcvbuf, Conn.setOther_dead, hfull,
    Bool.false_eq_true, if_false]
  by_cases hq : env.queue = .filtered
  · rw [if_pos hq, if_pos hq]; exact ⟨o, rfl, hle⟩
  rw [if_neg hq, if_neg hq]
  by_cases hm : c.skRcvbuf ≤ c.skRmemAlloc
  · rw [if_pos hm, if_pos hm]; exact ⟨{ o with skDrops := o.skDrops + 1 }, rfl, hle⟩
  rw [if_neg hm, if_neg hm]
  by_cases hr : env.queue = .noRmem
  · rw [if_pos hr, if_pos hr]; exact ⟨{ o with skDrops := o.skDrops + 1 }, rfl, hle⟩
  rw [if_neg hr, if_neg hr]
  exact ⟨{ o with skRmemAlloc := o.skRmemAlloc + skb.truesize }, rfl, by simp [hle]⟩

/-- `dn_nsp_data` with the other side `o` in place does what it does without it, while the memory
there ends within half of `sk_rcvbuf`. -/
theorem dnNspData_setOther (cfg : Config) (env : Env) (c : Conn) (skb : Skb)
    (hle : c.skRmemAlloc ≤ o.skRmemAlloc)
    (hb : (dnNspData cfg env (c.setOther o) skb).1.skRmemAlloc ≤ c.skRcvbuf / 2) :
    ∃ o', dnNspData cfg env (c.setOther o) skb = (dnNspData cfg env c skb).map (·.setOther o') id ∧
      (dnNspData cfg env c skb).1.skRmemAlloc ≤ o'.skRmemAlloc := by
  unfold dnNspData at hb ⊢
  split
  next s0 s1 payload hd =>
    simp only [hd, Conn.setOther_numdatRcv] at hb
    simp only [Conn.setOther_numdatRcv]
    by_cases h : seqNext c.numdatRcv (le16 s0 s1)
    · simp only [h, if_true, dataQueued_rmem] at hb ⊢
      obtain ⟨o₁, hq, hle₁⟩ := dnQueueSkb_setOther o env c { skb with segnum := le16 s0 s1, data := payload }
        hle ((dnQueueSkb_mem ..).1.trans hb)
      rw [hq] at hb ⊢
      have hr := (dnQueueSkb_mem env c { skb with segnum := le16 s0 s1, data := payload } false).2
      exact ⟨o₁, dataQueued_mapBook o₁.set cfg _ _ (dnCongested_setOther hle₁ (by rw [hr]; simpa using hb)),
        hle₁⟩
    · simp only [h, Bool.false_eq_true, if_false]
      obtain ⟨_, hf⟩ := dataAck_frame cfg c [] false (le16 s0 s1)
      exact ⟨o, dataAck_mapBook o.set cfg c [] false _, by rw [hf]; exact hle⟩
  · exact ⟨o, rfl, hle⟩

theorem dnProcessAck_setOther (env : Env) (c : Conn) (oth : Bool) (d : List UInt8) :
    ∃ o', (dnProcessAck env (c.setOther o) oth d).conn = (dnProcessAck env c oth d).conn.setOther o' ∧
      o'.skRmemAlloc = o.skRmemAlloc ∧
      (dnProcessAck env (c.setOther o) oth d).data = (dnProcessAck env c oth d).data := by
  obtain ⟨x, y, h⟩ := dnProcessAck_frame env (c.setOther o) oth d
  obtain ⟨_, _, h'⟩ := dnProcessAck_frame env c oth d
  exact ⟨{ o with ackrcvDat := x, ackrcvOth := y }, by rw [h, h']; rfl, rfl,
    by rw [dnProcessAck_data, dnProcessAck_data]⟩

theorem dataPath_setOther (cfg : Config) (env : Env) (c : Conn) (skb : Skb)
    (hls : skb.nspFlags ≠ 0x10) (hod : skb.nspFlags ≠ 0x30) (hle : c.skRmemAlloc ≤ o.skRmemAlloc)
    (hb : (dataPath cfg env (c.setOther o) skb).1.skRmemAlloc ≤ c.skRcvbuf / 2) :
    ∃ o', (dataPath cfg env (c.setOther o) skb).1 = (dataPath cfg env c skb).1.setOther o' ∧
      (dataPath cfg env c skb).1.skRmemAlloc ≤ o'.skRmemAlloc ∧
      ∀ p, accepted p (dataPath cfg env (c.setOther o) skb).2 = accepted p (dataPath cfg env c skb).2 := by
  obtain ⟨hm, hr⟩ : (dnProcessAck env (ccPromote cfg c skb).1 (ackOther skb.nspFlags) skb.data).conn.skRmemAlloc =
      c.skRmemAlloc ∧
      (dnProcessAck env (ccPromote cfg c skb).1 (ackOther skb.nspFlags) skb.data).conn.skRcvbuf = c.skRcvbuf := by
    obtain ⟨_, _, hp⟩ := dnProcessAck_frame env (ccPromote cfg c skb).1 (ackOther skb.nspFlags) skb.data
    obtain ⟨_, _, _, hc⟩ := ccPromote_frame cfg c skb
    rw [hp, hc]; exact ⟨rfl, rfl⟩
  unfold dataPath at hb ⊢
  rw [Conn.setOther_eq_mapBook, ccPromote_mapBook] at hb ⊢
  simp only [Prod.map_fst, Prod.map_snd, id, ← Conn.setOther_eq_mapBook] at hb ⊢
  obtain ⟨o₁, h₁, ho₁, hd⟩ := dnProcessAck_setOther o env (ccPromote cfg c skb).1 (ackOther skb.nspFlags) skb.data
  rw [h₁, hd, Conn.setOther_state] at hb ⊢
  by_cases hrun : skb.nspFlags &&& 0x0c = 0 ∧
      (dnProcessAck env (ccPromote cfg c skb).1 (ackOther skb.nspFlags) skb.data).conn.state = .run
  · simp only [if_pos hrun, dataHandler, if_neg hls, if_neg hod] at hb ⊢
    obtain ⟨o₂, h₂, hle₂⟩ := dnNspData_setOther o₁ cfg env _ _ (by rw [hm, ho₁]; exact hle) (by rw [hr]; exact hb)
    rw [h₂]
    exact ⟨o₂, rfl, hle₂, fun p => by simp⟩
  · simp only [if_neg hrun]
    exact ⟨o₁, rfl, by rw [hm, ho₁]; exact hle, fun p => by simp⟩

end SetOther

/-- An other-data or link-service frame, for the other subchannel. -/
def Input.isOther : Input → Bool
  | .backlog _ skb => skb.nspFlags == 0x10 || skb.nspFlags == 0x30
  | .returnedConnInit => false

/-- Any other input does the same with the other side `o` in place as without it, while the
memory there is at least what it is without it and ends within half of `sk_rcvbuf`. -/
theorem step_setOther (cfg : Config) (o : OtherSide) (c : Conn) (i : Input) (hi : i.isOther = false)
    (hle : c.skRmemAlloc ≤ o.skRmemAlloc)
    (hb : (step cfg (c.setOther o) i).1.skRmemAlloc ≤ c.skRcvbuf / 2) :
    ∃ o', (step cfg (c.setOther o) i).1 = (step cfg c i).1.setOther o' ∧
      (step cfg c i).1.skRmemAlloc ≤ o'.skRmemAlloc ∧
      ∀ p, accepted p (step cfg (c.setOther o) i).2 = accepted p (step cfg c i).2 := by
  cases i with
  | returnedConnInit =>
    have hm : (dnReturnedConnInit c).1.skRmemAlloc = c.skRmemAlloc :=
      Conn.rmem_of_book (Conn.book_eq_of_mapBook (fun c => (dnReturnedConnInit c).1) c
        (congrArg Prod.fst (dnReturnedConnInit_mapBook _ c)))
    exact ⟨o, congrArg Prod.fst (dnReturnedConnInit_mapBook o.set c), hm.le.trans hle, fun p => by
      simp only [step, Conn.setOther_eq_mapBook, dnReturnedConnInit_mapBook, Prod.map_snd, id]⟩
  | backlog env skb =>
    simp only [Input.isOther, Bool.or_eq_false_iff, beq_eq_false_iff_ne] at hi
    show ∃ o', (dnNspBacklogRcv cfg env (c.setOther o) skb).1 = (dnNspBacklogRcv cfg env c skb).1.setOther o' ∧
      (dnNspBacklogRcv cfg env c skb).1.skRmemAlloc ≤ o'.skRmemAlloc ∧
      ∀ p, accepted p (dnNspBacklogRcv cfg env (c.setOther o) skb).2 = accepted p (dnNspBacklogRcv cfg env c skb).2
    change (dnNspBacklogRcv cfg env (c.setOther o) skb).1.skRmemAlloc ≤ c.skRcvbuf / 2 at hb
    unfold dnNspBacklogRcv at hb ⊢
    by_cases hr : skb.rtFlags.rts = true
    · simp only [if_pos hr]; exact ⟨o, rfl, hle, fun _ => trivial⟩
    by_cases hc : skb.nspFlags &&& 0x0c = 0x08
    · have hm : (controlHandler cfg env c skb).1.skRmemAlloc = c.skRmemAlloc :=
        Conn.rmem_of_book (Conn.book_eq_of_mapBook (fun c => (controlHandler cfg env c skb).1) c
          (congrArg Prod.fst (controlHandler_mapBook _ cfg env c skb)))
      simp only [if_neg hr, if_pos hc, Conn.setOther_eq_mapBook, controlHandler_mapBook, Prod.map_fst,
        Prod.map_snd, id]
      exact ⟨o, rfl, hm.le.trans hle, fun _ => trivial⟩
    by_cases ha : skb.nspFlags = 0x24
    · have hm : (dnNspConnAck cfg c).skRmemAlloc = c.skRmemAlloc :=
        Conn.rmem_of_book (Conn.book_eq_of_mapBook (dnNspConnAck cfg) c (dnNspConnAck_mapBook _ cfg c))
      simp only [if_neg hr, if_neg hc, if_pos ha, Conn.setOther_eq_mapBook, dnNspConnAck_mapBook]
      exact ⟨o, rfl, hm.le.trans hle, fun _ => trivial⟩
    simp only [if_neg hr, if_neg hc, if_neg ha] at hb ⊢
    exact dataPath_setOther o cfg env c skb hi.1 hi.2 hle hb

theorem accepted_dnNspLinkservice (p : SegKind → Bool) (c : Conn) (skb : Skb)
    (hp : p .linkService = false) : accepted p (dnNspLinkservice c skb).2 = [] := by
  unfold dnNspLinkservice
  split
  · split
    · rfl
    · split
      · rw [accepted_lsAccept, hp]; rfl
      · rfl
  · rfl

theorem accepted_dnNspOtherdata (p : SegKind → Bool) (env : Env) (c : Conn) (skb : Skb)
    (hp : p .otherData = false) : accepted p (dnNspOtherdata env c skb).2 = [] := by
  unfold dnNspOtherdata
  split
  · split
    · obtain ⟨hq, -⟩ := dnQueueSkb_spec env c { skb with segnum := le16 _ _, data := _ } true
      generalize dnQueueSkb env c _ true = q at hq ⊢
      obtain ⟨c₁, b, ev⟩ := q
      simp [accepted_othQueued, hq p, hp]
    · rfl
  · rfl

/-- On a connection not in `DN_CC`, an other-data or link-service frame changes only the other
side, and accepts no data segment. -/
theorem step_isOther (cfg : Config) (c : Conn) (i : Input) (hi : i.isOther = true)
    (hcc : c.state ≠ .cc) :
    ∃ o, (step cfg c i).1 = c.setOther o ∧ accepted (· == .data) (step cfg c i).2 = [] := by
  cases i with
  | returnedConnInit => cases hi
  | backlog env skb =>
    simp only [Input.isOther, Bool.or_eq_true, beq_iff_eq] at hi
    show ∃ o, (dnNspBacklogRcv cfg env c skb).1 = c.setOther o ∧
      accepted (· == .data) (dnNspBacklogRcv cfg env c skb).2 = []
    unfold dnNspBacklogRcv
    by_cases hr : skb.rtFlags.rts = true
    · simp only [if_pos hr]; exact ⟨c.otherSide, rfl, rfl⟩
    have hc : ¬skb.nspFlags &&& 0x0c = 0x08 := by rcases hi with h | h <;> rw [h] <;> decide
    have ha : skb.nspFlags ≠ 0x24 := by rcases hi with h | h <;> rw [h] <;> decide
    simp only [if_neg hr, if_neg hc, if_neg ha]
    unfold dataPath
    simp only [ccPromote_of_ne_cc cfg c skb hcc, List.nil_append]
    obtain ⟨x, y, h₁⟩ := dnProcessAck_frame env c (ackOther skb.nspFlags) skb.data
    split
    · rcases hi with h | h
      · obtain ⟨n, fd, fo, sw, h₂⟩ := dnNspLinkservice_frame
          (dnProcessAck env c (ackOther skb.nspFlags) skb.data).conn
          { skb with data := (dnProcessAck env c (ackOther skb.nspFlags) skb.data).data }
        simp only [dataHandler, if_pos h]
        refine ⟨⟨n, x, y, fd, fo, sw, c.otherReport, c.skDrops, c.skRmemAlloc, c.otherReceiveQueue⟩,
          by rw [h₂, h₁]; rfl, ?_⟩
        rw [accepted_append, accepted_dnProcessAck, accepted_dnNspLinkservice _ _ _ rfl]; rfl
      · obtain ⟨k, m, q, n, r, h₂⟩ := dnNspOtherdata_frame env
          (dnProcessAck env c (ackOther skb.nspFlags) skb.data).conn
          { skb with data := (dnProcessAck env c (ackOther skb.nspFlags) skb.data).data }
        simp only [dataHandler, if_neg (show skb.nspFlags ≠ 0x10 by rw [h]; decide), if_pos h]
        refine ⟨⟨n, x, y, c.flowremDat, c.flowremOth, c.flowremSw, r, k, m, q⟩, by rw [h₂, h₁]; rfl, ?_⟩
        rw [accepted_append, accepted_dnProcessAck, accepted_dnNspOtherdata _ _ _ _ rfl]; rfl
    · exact ⟨⟨c.numothRcv, x, y, c.flowremDat, c.flowremOth, c.flowremSw, c.otherReport, c.skDrops,
        c.skRmemAlloc, c.otherReceiveQueue⟩, h₁, accepted_dnProcessAck ..⟩

theorem discConfNext_ne_cc (reason : UInt16) (s : DnState) : discConfNext reason s ≠ .cc := by
  cases s <;> simp only [discConfNext] <;> (try split_ifs) <;> decide

/-- No handler puts a connection into `DN_CC`. -/
theorem LifeStep.ne_cc {l l' : DnState × TcpState} (h : LifeStep l l') (hcc : l.1 ≠ .cc) :
    l'.1 ≠ .cc := by
  cases h with
  | stay => exact hcc
  | establish | connAck | returned => exact fun h => nomatch h
  | discInit s ss => exact fun h => hcc (by cases s <;> first | rfl | cases h)
  | discConf r s ss => exact discConfNext_ne_cc r s

theorem run_rmem_le (cfg : Config) (c : Conn) (is : List Input) :
    c.skRmemAlloc ≤ (run cfg c is).1.skRmemAlloc := by
  induction is generalizing c with
  | nil => exact le_rfl
  | cons i is ih => exact (step_memStep cfg c i).rmem_le.trans (ih _)

/-- Other-data and link-service frames never interfere with the data subchannel while the receive
memory stays within half of `sk_rcvbuf`: from a connection not in `DN_CC`, a run whose memory ends
within that budget leaves every field outside `OtherSide` as the same run without those frames
does, and accepts the same data segments in the same order. -/
theorem other_subchannel_never_interferes (cfg : Config) (c : Conn) (is : List Input)
    (hcc : c.state ≠ .cc) (hmem : (run cfg c is).1.skRmemAlloc ≤ c.skRcvbuf / 2) :
    (∃ o, (run cfg c is).1 = (run cfg c (is.filter fun i => !i.isOther)).1.setOther o) ∧
      accepted (· == .data) (run cfg c is).2 =
        accepted (· == .data) (run cfg c (is.filter fun i => !i.isOther)).2 := by
  suffices h : ∀ c o, c.state ≠ .cc → c.skRmemAlloc ≤ o.skRmemAlloc →
      (run cfg (c.setOther o) is).1.skRmemAlloc ≤ c.skRcvbuf / 2 →
      (∃ o', (run cfg (c.setOther o) is).1 = (run cfg c (is.filter fun i => !i.isOther)).1.setOther o') ∧
        accepted (· == .data) (run cfg (c.setOther o) is).2 =
          accepted (· == .data) (run cfg c (is.filter fun i => !i.isOther)).2 from
    h c c.otherSide hcc le_rfl hmem
  clear hcc hmem
  induction is with
  | nil => exact fun c o _ _ _ => ⟨⟨o, rfl⟩, rfl⟩
  | cons i is ih =>
    intro c o hcc hle hb
    rw [run_cons] at hb
    have hstep := (run_rmem_le cfg _ is).trans hb
    cases hi : i.isOther
    · -- both runs take the frame
      obtain ⟨o', h₁, hle', h₂⟩ := step_setOther cfg o c i hi hle hstep
      have hbuf : (step cfg c i).1.skRcvbuf = c.skRcvbuf := (step_memStep cfg c i).rcvbuf_eq
      obtain ⟨⟨o'', h₃⟩, h₄⟩ := ih (step cfg c i).1 o' ((step_life cfg c i).ne_cc hcc) hle'
        (by rw [hbuf, ← h₁]; exact hb)
      rw [List.filter_cons_of_pos (by simp [hi]), run_cons, run_cons, h₁]
      exact ⟨⟨o'', h₃⟩, by rw [accepted_append, accepted_append, h₂, h₄]⟩
    · -- only the whole run takes it, and it changes only the other side
      obtain ⟨o', h₁, h₂⟩ := step_isOther cfg (c.setOther o) i hi hcc
      have hle' : c.skRmemAlloc ≤ o'.skRmemAlloc :=
        hle.trans ((step_memStep cfg (c.setOther o) i).rmem_le.trans (by rw [h₁]; exact le_rfl))
      obtain ⟨h₃, h₄⟩ := ih c o' hcc hle' (by rw [← Conn.setOther_setOther c o o', ← h₁]; exact hb)
      rw [List.filter_cons_of_neg (by simp [hi]), run_cons, h₁, Conn.setOther_setOther]
      exact ⟨h₃, by rw [accepted_append, h₂, List.nil_append, h₄]⟩

/-- Data segments 0 and 1 on a running connection, with other-data segment 0 and link-service
frame 1 between them. -/
def mixedRun : List Input :=
  [.backlog sampleEnv (sampleDataSeg 0), .backlog sampleEnv (sampleOtherSeg 0),
    .backlog sampleEnv (sampleLinkService 1), .backlog sampleEnv (sampleDataSeg 1)]

theorem runConn_other_subchannel_never_interferes :
    (runConn.state ≠ .cc ∧ (run sampleConfig runConn mixedRun).1.skRmemAlloc ≤ runConn.skRcvbuf / 2) ∧
      ((∃ o, (run sampleConfig runConn mixedRun).1 =
          (run sampleConfig runConn (mixedRun.filter fun i => !i.isOther)).1.setOther o) ∧
        accepted (· == .data) (run sampleConfig runConn mixedRun).2 =
          accepted (· == .data) (run sampleConfig runConn (mixedRun.filter fun i => !i.isOther)).2) :=
  ⟨⟨by decide, by decide⟩, other_subchannel_never_interferes sampleConfig runConn mixedRun (by decide) (by decide)⟩

/-- A running connection with a receive buffer of 1 KiB. -/
def smallBufConn : Conn := { runConn with skRcvbuf := 1024 }

/-- Beyond the budget the subchannels share the memory: an other-data segment charged 512 bytes
makes the data segment after it congest the socket, which closes the local flow switch, where
the data segment alone leaves it open. -/
theorem other_data_congests_data :
    smallBufConn.state ≠ .cc ∧
      (run sampleConfig smallBufConn
          [.backlog sampleEnv (sampleOtherSeg 0), .backlog sampleEnv (sampleDataSeg 0)]).1.flowlocSw =
        dnDontsend ∧
      (run sampleConfig smallBufConn
          ([.backlog sampleEnv (sampleOtherSeg 0), .backlog sampleEnv (sampleDataSeg 0)].filter
            fun i => !i.isOther)).1.flowlocSw = dnSend := by
  decide

/-- The remote flow control: `flowrem_dat`, `flowrem_oth` and `flowrem_sw`. -/
def Conn.remoteFlow (c : Conn) : UInt16 × UInt16 × UInt8 := (c.flowremDat, c.flowremOth, c.flowremSw)

theorem Conn.remoteFlow_of_book {c c' : Conn} (h : c'.book = c.book) : c'.remoteFlow = c.remoteFlow :=
  congrArg (fun b : Bookkeeping => (b.flowremDat, b.flowremOth, b.flowremSw)) h

/-- Without accepting its frame, `dn_nsp_linkservice` leaves the connection as it was and at most
acknowledges. -/
theorem dnNspLinkservice_cases (c : Conn) (skb : Skb) :
    ((dnNspLinkservice c skb).1 = c ∧ Calls [.sendOthAck] (dnNspLinkservice c skb).2) ∨
      ∃ s rest, (dnNspLinkservice c skb).2 = .accept .linkService s :: rest := by
  unfold dnNspLinkservice
  split
  · split
    · exact .inl ⟨rfl, .nil⟩
    · split
      · exact .inr ⟨_, _, rfl⟩
      · exact .inl ⟨rfl, by simp [Event.call]⟩
  · exact .inl ⟨rfl, .nil⟩

/-- What a handler does when it accepts no link-service frame: keep the remote flow control and
make no call of `dn_nsp_output`. -/
def RemoteFlowKept (c : Conn) (r : Conn × List Event) : Prop :=
  r.1.remoteFlow = c.remoteFlow ∧ r.2.filter (fun e => e.call == .nspOutput) = []

theorem dataHandler_remoteFlow (cfg : Config) (env : Env) (c : Conn) (skb : Skb)
    (h : accepted (· == .linkService) (dataHandler cfg env c skb).2 = []) :
    RemoteFlowKept c (dataHandler cfg env c skb) := by
  unfold dataHandler at h ⊢
  by_cases h10 : skb.nspFlags = 0x10
  · rw [if_pos h10] at h ⊢
    rcases dnNspLinkservice_cases c skb with ⟨hc, hcalls⟩ | ⟨s, rest, he⟩
    · exact ⟨by rw [hc], hcalls.filter_eq_nil (by decide)⟩
    · simp [he, acceptOf] at h
  rw [if_neg h10]
  by_cases h30 : skb.nspFlags = 0x30
  · rw [if_pos h30]
    obtain ⟨_, _, _, _, _, hf⟩ := dnNspOtherdata_frame env c skb
    exact ⟨by rw [hf]; rfl, (calls_dnNspOtherdata env c skb).filter_eq_nil (by decide)⟩
  · rw [if_neg h30]
    obtain ⟨_, _, _, _, _, _, hf⟩ := dnNspData_frame cfg env c skb
    exact ⟨by rw [hf]; rfl, (calls_dnNspData cfg env c skb).filter_eq_nil (by decide)⟩

theorem dataPath_remoteFlow (cfg : Config) (env : Env) (c : Conn) (skb : Skb)
    (h : accepted (· == .linkService) (dataPath cfg env c skb).2 = []) :
    RemoteFlowKept c (dataPath cfg env c skb) := by
  have ha : (dnProcessAck env (ccPromote cfg c skb).1 (ackOther skb.nspFlags) skb.data).conn.remoteFlow =
      c.remoteFlow := by
    obtain ⟨_, _, hp⟩ := dnProcessAck_frame env (ccPromote cfg c skb).1 (ackOther skb.nspFlags) skb.data
    obtain ⟨_, _, _, hc⟩ := ccPromote_frame cfg c skb
    rw [hp, hc]; rfl
  have hpa : ((ccPromote cfg c skb).2 ++
      (dnProcessAck env (ccPromote cfg c skb).1 (ackOther skb.nspFlags) skb.data).events).filter
        (fun e => e.call == .nspOutput) = [] := by
    rw [List.filter_append, (calls_ccPromote cfg c skb).filter_eq_nil (by decide),
      (calls_dnProcessAck _ _ _ _).filter_eq_nil (by decide)]; rfl
  unfold dataPath at h ⊢
  dsimp only at h ⊢
  split
  next hd =>
    rw [if_pos hd, accepted_append, List.append_eq_nil] at h
    obtain ⟨hk, hno⟩ := dataHandler_remoteFlow cfg env _ _ h.2
    exact ⟨hk.trans ha, by rw [List.filter_append, hpa, hno]; rfl⟩
  next => exact ⟨ha, hpa⟩

/-- An input that accepts no link-service frame keeps the remote flow control and does not call
`dn_nsp_output`. -/
theorem step_remoteFlow (cfg : Config) (c : Conn) (i : Input)
    (h : accepted (· == .linkService) (step cfg c i).2 = []) : RemoteFlowKept c (step cfg c i) := by
  revert h
  exact step_cases (fun r => accepted (· == .linkService) r.2 = [] → RemoteFlowKept c r) cfg c i
    (fun _ => ⟨Conn.remoteFlow_of_book (Conn.book_eq_of_mapBook (fun c => (dnReturnedConnInit c).1) c
        (congrArg Prod.fst (dnReturnedConnInit_mapBook _ c))),
      (calls_dnReturnedConnInit c).filter_eq_nil (by decide)⟩)
    (fun _ => ⟨rfl, rfl⟩)
    (fun env skb _ _ => ⟨Conn.remoteFlow_of_book (Conn.book_eq_of_mapBook
        (fun c => (controlHandler cfg env c skb).1) c (congrArg Prod.fst (controlHandler_mapBook _ cfg env c skb))),
      (calls_controlHandler cfg env c skb).filter_eq_nil (by decide)⟩)
    (fun _ => ⟨Conn.remoteFlow_of_book (Conn.book_eq_of_mapBook (dnNspConnAck cfg) c
        (dnNspConnAck_mapBook _ cfg c)), rfl⟩)
    (fun env skb => dataPath_remoteFlow cfg env c skb)

/-- Over every run that accepts no link-service frame, `flowrem_dat`, `flowrem_oth` and
`flowrem_sw` end as they started and `dn_nsp_output` is never called: only an in-sequence
link-service frame moves the remote flow control or resumes sending. -/
theorem remote_flow_moves_only_on_link_service (cfg : Config) (c : Conn) (is : List Input)
    (h : accepted (· == .linkService) (run cfg c is).2 = []) :
    (run cfg c is).1.remoteFlow = c.remoteFlow ∧
      (run cfg c is).2.filter (fun e => e.call == .nspOutput) = [] := by
  induction is generalizing c with
  | nil => exact ⟨rfl, rfl⟩
  | cons i is ih =>
    rw [run_cons, accepted_append, List.append_eq_nil] at h
    obtain ⟨hs, hso⟩ := step_remoteFlow cfg c i h.1
    obtain ⟨hr, hro⟩ := ih _ h.2
    exact ⟨hr.trans hs, by rw [run_cons, List.filter_append, hso, hro]; rfl⟩

/-- A resume-sending request for other-data segment 5, which a fresh connection does not expect. -/
def sampleStaleResume : Skb := ⟨0x10, sampleRtFlags, 0x0102, 0x0304, 0, [0x05, 0x00, 0x02, 0x00], 512⟩

theorem runConn_remote_flow_moves_only_on_link_service :
    accepted (· == .linkService)
        (run sampleConfig runConn [.backlog sampleEnv sampleDataAck, .backlog sampleEnv sampleStaleResume]).2 = [] ∧
      (run sampleConfig runConn [.backlog sampleEnv sampleDataAck, .backlog sampleEnv sampleStaleResume]).1.remoteFlow =
          runConn.remoteFlow ∧
        (run sampleConfig runConn [.backlog sampleEnv sampleDataAck, .backlog sampleEnv sampleStaleResume]).2.filter
          (fun e => e.call == .nspOutput) = [] :=
  ⟨by decide, remote_flow_moves_only_on_link_service _ _ _ (by decide)⟩

/-- Scans a trace for the acknowledgments of the other subchannel. `pending` says that an
other-data or link-service segment has been accepted and `dn_nsp_send_oth_ack` has not answered
it yet; accepting another one while one is pending, or ending with one pending, fails. -/
def othAcked (pending : Bool) : List Event → Bool
  | [] => !pending
  | .accept k _ :: evs => if k = .data then othAcked pending evs else !pending && othAcked true evs
  | .sendOthAck :: evs => othAcked false evs
  | _ :: evs => othAcked pending evs

example : othAcked false [.accept .otherData 1, .accept .linkService 2, .sendOthAck] = false := rfl

example : othAcked false [.sendOthAck, .accept .otherData 1, .accept .data 1] = false := rfl

/-- A stretch that accepts nothing on the other subchannel leaves nothing pending. -/
theorem othAcked_append_false {evs : List Event} (h : accepted (· != .data) evs = [])
    (rest : List Event) : othAcked false (evs ++ rest) = othAcked false rest := by
  induction evs with
  | nil => rfl
  | cons e evs ih =>
    rw [accepted_cons, List.append_eq_nil] at h
    cases e
    case accept k n => cases k <;> first | exact ih h.2 | simp [acceptOf] at h
    all_goals exact ih h.2

theorem othAcked_of_accepted {evs : List Event} (h : accepted (· != .data) evs = []) :
    othAcked false evs = true := by
  simpa using othAcked_append_false h []

/-- A stretch of calls other than accepting a segment or acknowledging other data keeps what is
pending. -/
theorem othAcked_append_of_calls {S : List Call} {evs : List Event} (h : Calls S evs)
    (ha : Call.accept ∉ S) (hs : Call.sendOthAck ∉ S) (p : Bool) (rest : List Event) :
    othAcked p (evs ++ rest) = othAcked p rest := by
  induction evs with
  | nil => rfl
  | cons e evs ih =>
    obtain ⟨he, ht⟩ := Calls.cons_iff.1 h
    cases e <;> first | exact absurd he ha | exact absurd he hs | exact ih ht

/-- A trace that leaves nothing pending can be followed by any other. -/
theorem othAcked_append {a : List Event} (b : List Event) (h : othAcked false a = true) :
    othAcked false (a ++ b) = othAcked false b := by
  suffices ∀ p, othAcked p a = true → othAcked p (a ++ b) = othAcked false b from this false h
  clear h
  induction a with
  | nil => intro p hp; cases p <;> first | rfl | cases hp
  | cons e a ih =>
    intro p hp
    cases e
    case accept k n =>
      by_cases hk : k = .data
      · simp only [othAcked, List.cons_append, if_pos hk] at hp ⊢; exact ih p hp
      · simp only [othAcked, List.cons_append, List.append_eq, if_neg hk, Bool.and_eq_true] at hp ⊢
        rw [ih true hp.2, hp.1, Bool.true_and]
    case sendOthAck => exact ih false hp
    all_goals exact ih p hp

theorem othAcked_dnNspData (cfg : Config) (env : Env) (c : Conn) (skb : Skb) :
    othAcked false (dnNspData cfg env c skb).2 = true := by
  apply othAcked_of_accepted
  unfold dnNspData
  split
  · split
    · obtain ⟨hq, -⟩ := dnQueueSkb_spec env c { skb with segnum := le16 _ _, data := _ } false
      generalize dnQueueSkb env c _ false = q at hq ⊢
      obtain ⟨c₁, b, ev⟩ := q
      simp [accepted_dataQueued, hq]
    · simp
  · rfl

/-- `dn_nsp_otherdata` acknowledges every segment long enough to carry its number, right after
accepting it if it does. -/
theorem othAcked_dnNspOtherdata (env : Env) (c : Conn) (skb : Skb) :
    othAcked false (dnNspOtherdata env c skb).2 = true := by
  unfold dnNspOtherdata
  split
  · split
    · obtain ⟨hq, -⟩ := dnQueueSkb_spec env c { skb with segnum := le16 _ _, data := _ } true
      generalize dnQueueSkb env c _ true = q at hq ⊢
      obtain ⟨c₁, b, ev⟩ := q
      dsimp only at hq
      cases b
      · show othAcked false (ev ++ [.sendOthAck]) = true
        rw [othAcked_append_false (hq _)]; rfl
      · show othAcked false (ev ++ [.accept .otherData _, .sendOthAck]) = true
        rw [othAcked_append_false (hq _)]; rfl
    · rfl
  · rfl

/-- `dn_nsp_linkservice` acknowledges a frame it accepts after its flow-control update. -/
theorem othAcked_dnNspLinkservice (c : Conn) (skb : Skb) :
    othAcked false (dnNspLinkservice c skb).2 = true := by
  unfold dnNspLinkservice
  split
  · split
    · rfl
    · split
      · simp only [lsAccept, List.cons_append, List.append_assoc]
        show (!false && othAcked true (_ ++ (_ ++ [.sendOthAck]))) = true
        rw [othAcked_append_of_calls (calls_lsUpdate _ _ _) (by decide) (by decide)]
        split <;> rfl
      · rfl
  · rfl

theorem step_othAcked (cfg : Config) (c : Conn) (i : Input) : othAcked false (step cfg c i).2 = true := by
  refine step_cases (fun r => othAcked false r.2 = true) cfg c i
    (othAcked_of_accepted (accepted_dnReturnedConnInit _ c)) rfl (fun env skb _ => ?_) rfl
    (fun env skb => ?_)
  · simpa using othAcked_append_of_calls (calls_controlHandler cfg env c skb) (by decide) (by decide)
      false []
  have hpa : accepted (· != .data) ((ccPromote cfg c skb).2 ++
      (dnProcessAck env (ccPromote cfg c skb).1 (ackOther skb.nspFlags) skb.data).events) = [] := by
    simp
  show othAcked false (dataPath cfg env c skb).2 = true
  unfold dataPath
  dsimp only
  split
  · rw [othAcked_append _ (othAcked_of_accepted hpa)]
    unfold dataHandler
    split
    · exact othAcked_dnNspLinkservice _ _
    · split
      · exact othAcked_dnNspOtherdata _ _ _
      · exact othAcked_dnNspData _ _ _ _
  · exact othAcked_of_accepted hpa

/-- Over every run, each segment accepted on the other subchannel, other data or link service,
is acknowledged by `dn_nsp_send_oth_ack` before the next one is accepted and before its frame is done:
the other subchannel never batches or delays its acknowledgments. -/
theorem other_segments_acked_at_once (cfg : Config) (c : Conn) (is : List Input) :
    othAcked false (run cfg c is).2 = true := by
  induction is generalizing c with
  | nil => rfl
  | cons i is ih => rw [run_cons, othAcked_append _ (step_othAcked cfg c i)]; exact ih _

end DecnetNsp
