import DecnetNsp.Backlog

/-!
# In-order delivery on each subchannel

A connection receives on two subchannels, each with its own cursor: data segments on
`numdat_rcv`, and other-data segments together with link-service frames on `numoth_rcv`.
`Delivers` says what one input may do to a subchannel and `step_delivers` shows every input
does only that; `InOrder` says what a whole run has done, and follows by induction over the
run. Queued segments are read off the queues; link-service frames, which queue nothing, off
the `accept` marks of the trace.
-/

namespace DecnetNsp

/-- The two receive subchannels. -/
inductive Subchannel where
  | data | other
  deriving DecidableEq, Repr

namespace Subchannel

/-- The subchannel's cursor, the number `seq_next` expects next. -/
def cursor : Subchannel → Conn → UInt16
  | data, c => c.numdatRcv
  | other, c => c.numothRcv

/-- The queue its segments join. -/
def queue : Subchannel → Conn → List Skb
  | data, c => c.skReceiveQueue
  | other, c => c.otherReceiveQueue

/-- Which frames of that queue are its segments: a listener's `sk_receive_queue` also takes
connect-initiates, whose flags are control flags. -/
def entry : Subchannel → Skb → Bool
  | data, skb => skb.nspFlags &&& 0x0c == 0
  | other, _ => true

/-- The handlers whose acceptance moves the cursor: `dn_nsp_data` for data, and
`dn_nsp_otherdata` and `dn_nsp_linkservice` for other data. -/
def moves : Subchannel → SegKind → Bool
  | data, .data | other, .otherData | other, .linkService => true
  | _, _ => false

/-- The handlers whose accepted segments are queued. -/
def queues : Subchannel → SegKind → Bool
  | data, .data | other, .otherData => true
  | _, _ => false

/-- The cursor and the queue are as they were. -/
def Untouched (ch : Subchannel) (c c' : Conn) : Prop :=
  ch.cursor c' = ch.cursor c ∧ ch.queue c' = ch.queue c

theorem Untouched.rfl {ch : Subchannel} {c : Conn} : ch.Untouched c c := ⟨Eq.refl _, Eq.refl _⟩

theorem Untouched.trans {ch : Subchannel} {c c' c'' : Conn} (h : ch.Untouched c c')
    (h' : ch.Untouched c' c'') : ch.Untouched c c'' :=
  ⟨h'.1.trans h.1, h'.2.trans h.2⟩

/-- Every queued segment is one that moves the cursor. -/
theorem accepted_queues_nil (ch : Subchannel) (evs : List Event)
    (h : accepted ch.moves evs = []) : accepted ch.queues evs = [] := by
  induction evs with
  | nil => rfl
  | cons e evs ih =>
    simp only [accepted_cons, List.append_eq_nil] at h ⊢
    refine ⟨?_, ih h.2⟩
    cases e with
    | accept k n => cases ch <;> cases k <;> simp_all [acceptOf, moves, queues]
    | _ => rfl

end Subchannel

/-- What one input may do to a subchannel. Its queue grows by exactly the segments accepted
for it, and its cursor either stays, with nothing accepted, or moves on by one over the one
segment accepted, which `seq_next` found in sequence. -/
structure Delivers (ch : Subchannel) (c c' : Conn) (evs : List Event) : Prop where
  queue : ∃ A, ch.queue c' = ch.queue c ++ A ∧
    (A.filter ch.entry).map Skb.segnum = accepted ch.queues evs
  cursor : (accepted ch.moves evs = [] ∧ ch.cursor c' = ch.cursor c) ∨
    ∃ n, seqNext (ch.cursor c) n ∧ accepted ch.moves evs = [n] ∧
      ch.cursor c' = seqAdd (ch.cursor c) 1

namespace Delivers

variable {ch : Subchannel} {c c' c'' : Conn} {evs evs' : List Event}

/-- An input that leaves the subchannel alone and accepts nothing on it. -/
theorem of_untouched (h : ch.Untouched c c') (hm : accepted ch.moves evs = []) :
    Delivers ch c c' evs :=
  ⟨⟨[], by rw [h.2, List.append_nil], by rw [Subchannel.accepted_queues_nil ch evs hm]; rfl⟩,
    .inl ⟨hm, h.1⟩⟩

/-- A prefix that leaves the subchannel alone changes nothing. -/
theorem after_untouched (h : ch.Untouched c c') (hm : accepted ch.moves evs = [])
    (hd : Delivers ch c' c'' evs') : Delivers ch c c'' (evs ++ evs') := by
  obtain ⟨A, hA, hf⟩ := hd.queue
  refine ⟨⟨A, by rw [hA, h.2], ?_⟩, ?_⟩
  · rw [accepted_append, Subchannel.accepted_queues_nil ch evs hm, hf, List.nil_append]
  · rw [accepted_append, hm, List.nil_append, ← h.1]
    exact hd.cursor

end Delivers

theorem dataQueued_delivers (cfg : Config) (env : Env) (c : Conn) (skb : Skb) (n : UInt16)
    (hn : seqNext c.numdatRcv n) (hs : skb.segnum = n) (hf : skb.nspFlags &&& 0x0c = 0)
    (ch : Subchannel) :
    Delivers ch c (dataQueued cfg n (dnQueueSkb env c skb false)).1
      (dataQueued cfg n (dnQueueSkb env c skb false)).2 := by
  obtain ⟨hq, hv⟩ := dnQueueSkb_spec env c skb false
  generalize dnQueueSkb env c skb false = q at hq hv ⊢
  obtain ⟨c1, b, ev⟩ := q
  dsimp only at hq hv
  have he (p : SegKind → Bool) :
      accepted p (dataQueued cfg n (c1, b, ev)).2 = if b ∧ p .data then [n] else [] := by
    rw [accepted_dataQueued, hq p, List.nil_append]
  obtain ⟨s, d, h⟩ := dataQueued_frame cfg n c1 b ev
  rw [h]
  rcases hv with ⟨rfl, k, rfl⟩ | ⟨rfl, rfl⟩
  · exact .of_untouched (by cases ch <;> exact ⟨rfl, rfl⟩) (by rw [he]; rfl)
  · cases ch
    · exact ⟨⟨[skb], rfl, by simp [he, hq, Subchannel.entry, Subchannel.queues, hf, hs]⟩,
        .inr ⟨n, hn, by simp [he, hq, Subchannel.moves], rfl⟩⟩
    · exact .of_untouched ⟨rfl, rfl⟩ (by rw [he]; rfl)

theorem dnNspData_delivers (cfg : Config) (env : Env) (c : Conn) (skb : Skb)
    (hf : skb.nspFlags &&& 0x0c = 0) (ch : Subchannel) :
    Delivers ch c (dnNspData cfg env c skb).1 (dnNspData cfg env c skb).2 := by
  unfold dnNspData
  split
  next s0 s1 payload _ =>
    split
    next hn =>
      exact dataQueued_delivers cfg env c { skb with segnum := le16 s0 s1, data := payload } _ hn
        rfl hf ch
    next =>
      obtain ⟨d, h⟩ := dataAck_frame cfg c [] false (le16 s0 s1)
      exact .of_untouched (by rw [h]; cases ch <;> exact ⟨rfl, rfl⟩) (by simp)
  next => exact .of_untouched .rfl rfl

theorem othQueued_delivers (env : Env) (c : Conn) (skb : Skb) (n : UInt16)
    (hn : seqNext c.numothRcv n) (hs : skb.segnum = n) (ch : Subchannel) :
    Delivers ch c (othQueued n (dnQueueSkb env c skb true)).1
      (othQueued n (dnQueueSkb env c skb true)).2 := by
  obtain ⟨hq, hv⟩ := dnQueueSkb_spec env c skb true
  generalize dnQueueSkb env c skb true = q at hq hv ⊢
  obtain ⟨c1, b, ev⟩ := q
  dsimp only at hq hv
  have he (p : SegKind → Bool) :
      accepted p (othQueued n (c1, b, ev)).2 = if b ∧ p .otherData then [n] else [] := by
    rw [accepted_othQueued, hq p, List.nil_append]
  obtain ⟨r, h⟩ := othQueued_frame n c1 b ev
  rw [h]
  rcases hv with ⟨rfl, k, rfl⟩ | ⟨rfl, rfl⟩
  · exact .of_untouched (by cases ch <;> exact ⟨rfl, rfl⟩) (by rw [he]; rfl)
  · cases ch
    · exact .of_untouched ⟨rfl, rfl⟩ (by rw [he]; rfl)
    · exact ⟨⟨[skb], rfl, by simp [he, hq, Subchannel.entry, Subchannel.queues, hs]⟩,
        .inr ⟨n, hn, by simp [he, hq, Subchannel.moves], rfl⟩⟩

theorem dnNspOtherdata_delivers (env : Env) (c : Conn) (skb : Skb) (ch : Subchannel) :
    Delivers ch c (dnNspOtherdata env c skb).1 (dnNspOtherdata env c skb).2 := by
  unfold dnNspOtherdata
  split
  next s0 s1 payload _ =>
    split
    next hn =>
      exact othQueued_delivers env c { skb with segnum := le16 s0 s1, data := payload } _ hn rfl ch
    next => exact .of_untouched .rfl rfl
  next => exact .of_untouched .rfl rfl

theorem dnNspLinkservice_delivers (c : Conn) (skb : Skb) (ch : Subchannel) :
    Delivers ch c (dnNspLinkservice c skb).1 (dnNspLinkservice c skb).2 := by
  unfold dnNspLinkservice
  split
  next _ s0 s1 lsflags fc _ =>
    split
    next => exact .of_untouched .rfl rfl
    next =>
      split
      next hn =>
        have he := fun p => accepted_lsAccept p (le16 s0 s1)
          { c with numothRcv := seqAdd c.numothRcv 1 } lsflags fc
        obtain ⟨fd, fo, sw, h⟩ := lsUpdate_frame { c with numothRcv := seqAdd c.numothRcv 1 } lsflags fc
        show Delivers ch c (lsUpdate _ lsflags fc).1 _
        rw [h]
        cases ch
        · exact .of_untouched ⟨rfl, rfl⟩ (by rw [he]; rfl)
        · exact ⟨⟨[], (List.append_nil _).symm, by rw [he]; rfl⟩, .inr ⟨_, hn, by rw [he]; rfl, rfl⟩⟩
      next => exact .of_untouched .rfl rfl
  next => exact .of_untouched .rfl rfl

theorem dataHandler_delivers (cfg : Config) (env : Env) (c : Conn) (skb : Skb)
    (hf : skb.nspFlags &&& 0x0c = 0) (ch : Subchannel) :
    Delivers ch c (dataHandler cfg env c skb).1 (dataHandler cfg env c skb).2 := by
  unfold dataHandler
  split
  · exact dnNspLinkservice_delivers c skb ch
  · split
    · exact dnNspOtherdata_delivers env c skb ch
    · exact dnNspData_delivers cfg env c skb hf ch

theorem dataPath_delivers (cfg : Config) (env : Env) (c : Conn) (skb : Skb) (ch : Subchannel) :
    Delivers ch c (dataPath cfg env c skb).1 (dataPath cfg env c skb).2 := by
  have hp : ch.Untouched c (ccPromote cfg c skb).1 := by
    obtain ⟨s, ss, sz, h⟩ := ccPromote_frame cfg c skb
    rw [h]; cases ch <;> exact ⟨rfl, rfl⟩
  have ha (oth : Bool) :
      ch.Untouched c (dnProcessAck env (ccPromote cfg c skb).1 oth skb.data).conn := by
    obtain ⟨d, o, h⟩ := dnProcessAck_frame env (ccPromote cfg c skb).1 oth skb.data
    rw [h]; exact hp.trans (by cases ch <;> exact ⟨rfl, rfl⟩)
  unfold dataPath
  dsimp only
  split
  next hf =>
    refine .after_untouched (ha _) (by simp) (dataHandler_delivers cfg env _ _ ?_ ch)
    exact hf.1
  next => exact .of_untouched (ha _) (by simp)

theorem dnNspConnInit_delivers (c : Conn) (skb : Skb) (hf : skb.nspFlags &&& 0x0c = 0x08)
    (ch : Subchannel) : Delivers ch c (dnNspConnInit c skb).1 (dnNspConnInit c skb).2 := by
  obtain ⟨b, h⟩ := dnNspConnInit_frame c skb
  have hq : accepted ch.queues (dnNspConnInit c skb).2 = [] := accepted_dnNspConnInit ..
  refine ⟨?_, .inl ⟨accepted_dnNspConnInit .., by rw [h]; cases ch <;> rfl⟩⟩
  rw [hq, h]
  cases ch
  · refine ⟨if skAcceptqIsFull c then [] else [skb], by split <;> simp [Subchannel.queue], ?_⟩
    split <;> simp [Subchannel.entry, hf]
  · exact ⟨[], by simp [Subchannel.queue], rfl⟩

theorem controlHandler_delivers (cfg : Config) (env : Env) (c : Conn) (skb : Skb)
    (hf : skb.nspFlags &&& 0x0c = 0x08) (ch : Subchannel) :
    Delivers ch c (controlHandler cfg env c skb).1 (controlHandler cfg env c skb).2 := by
  unfold controlHandler
  dsimp only
  split_ifs
  · exact dnNspConnInit_delivers c skb hf ch
  · obtain ⟨_, _, _, _, _, _, _, _, _, _, h⟩ := dnNspConnConf_frame cfg c skb
    exact .of_untouched (by rw [h]; cases ch <;> exact ⟨rfl, rfl⟩) (by simp)
  · obtain ⟨_, _, _, _, _, _, _, _, _, _, h⟩ := dnNspDiscInit_frame env c skb
    exact .of_untouched (by rw [h]; cases ch <;> exact ⟨rfl, rfl⟩) (by simp)
  · obtain ⟨_, _, _, _, _, _, h⟩ := dnNspDiscConf_frame env c skb
    exact .of_untouched (by rw [h]; cases ch <;> exact ⟨rfl, rfl⟩) (by simp)
  · exact .of_untouched .rfl rfl

/-- Every input, on either subchannel. -/
theorem step_delivers (cfg : Config) (c : Conn) (i : Input) (ch : Subchannel) :
    Delivers ch c (step cfg c i).1 (step cfg c i).2 := by
  cases i with
  | returnedConnInit =>
    obtain ⟨s, ss, e, h⟩ := dnReturnedConnInit_frame c
    exact .of_untouched (by rw [step, h]; cases ch <;> exact ⟨rfl, rfl⟩) (by simp [step])
  | backlog env skb =>
    show Delivers ch c (dnNspBacklogRcv cfg env c skb).1 (dnNspBacklogRcv cfg env c skb).2
    unfold dnNspBacklogRcv
    split_ifs with hr hc
    · exact .of_untouched .rfl rfl
    · exact controlHandler_delivers cfg env c skb hc ch
    · obtain ⟨s, p, t, h⟩ := dnNspConnAck_frame cfg c
      exact .of_untouched (by rw [h]; cases ch <;> exact ⟨rfl, rfl⟩) rfl
    · exact dataPath_delivers cfg env c skb ch

/-- What a run has done to a subchannel since connection `c0`. Its queue has grown by frames
whose segments are exactly those accepted for it; the numbers accepted on it run on, modulo
4096, from the first cursor with no gap and no repeat; and the cursor has moved on by as many. -/
structure InOrder (ch : Subchannel) (c0 c : Conn) (evs : List Event) : Prop where
  queue : ∃ A, ch.queue c = ch.queue c0 ++ A ∧
    (A.filter ch.entry).map Skb.segnum = accepted ch.queues evs
  consecutive : (accepted ch.moves evs).map (fun n => n.toNat % 4096) =
    (List.range (accepted ch.moves evs).length).map fun i => ((ch.cursor c0).toNat + i) % 4096
  cursor : (ch.cursor c).toNat = ((ch.cursor c0).toNat + (accepted ch.moves evs).length) % 4096

namespace InOrder

variable {ch : Subchannel} {c0 c c' : Conn} {evs evs' : List Event}

theorem start (ch : Subchannel) (c0 : Conn) (h : (ch.cursor c0).toNat < 4096) :
    InOrder ch c0 c0 [] :=
  ⟨⟨[], by simp, rfl⟩, rfl, by simpa using (Nat.mod_eq_of_lt h).symm⟩

theorem step (h : InOrder ch c0 c evs) (hd : Delivers ch c c' evs') :
    InOrder ch c0 c' (evs ++ evs') := by
  obtain ⟨A, hA, hf⟩ := h.queue
  obtain ⟨A', hA', hf'⟩ := hd.queue
  have hq : ∃ A, ch.queue c' = ch.queue c0 ++ A ∧
      (A.filter ch.entry).map Skb.segnum = accepted ch.queues (evs ++ evs') :=
    ⟨A ++ A', by rw [hA', hA, List.append_assoc], by
      rw [List.filter_append, List.map_append, hf, hf', accepted_append]⟩
  refine ⟨hq, ?_, ?_⟩ <;> rw [accepted_append]
  all_goals rcases hd.cursor with ⟨hm, hc⟩ | ⟨n, hn, hm, hc⟩
  · rw [hm, List.append_nil]; exact h.consecutive
  · have hn' : n.toNat % 4096 = ((ch.cursor c0).toNat + (accepted ch.moves evs).length) % 4096 := by
      rw [(seqNext_iff _ _).1 hn, h.cursor, Nat.mod_mod]
    simp only [hm, List.length_append, List.length_singleton, List.range_succ, List.map_append,
      h.consecutive]
    simp [hn']
  · rw [hm, List.append_nil, hc]; exact h.cursor
  · rw [hc, seqAdd_toNat, h.cursor, hm, List.length_append, List.length_singleton]
    omega

/-- What every input does, a whole run does. -/
theorem run (h : InOrder ch c0 c evs) (cfg : Config) (is : List Input) :
    InOrder ch c0 (DecnetNsp.run cfg c is).1 (evs ++ (DecnetNsp.run cfg c is).2) := by
  induction is generalizing c evs with
  | nil => simpa using h
  | cons i is ih =>
    rw [run_cons, ← List.append_assoc]
    exact ih (h.step (step_delivers cfg c i ch))

end InOrder

theorem subchannels_deliver_in_order (cfg : Config) (c : Conn) (is : List Input)
    (hd : c.numdatRcv.toNat < 4096) (ho : c.numothRcv.toNat < 4096) :
    InOrder .data c (run cfg c is).1 (run cfg c is).2 ∧
      InOrder .other c (run cfg c is).1 (run cfg c is).2 := by
  constructor
  · simpa using (InOrder.start .data c hd).run cfg is
  · simpa using (InOrder.start .other c ho).run cfg is

/-- Data segments 0 and 1 with other-data segment 0 and link-service frame 1 between them. -/
def deliveryRun : List Input :=
  [.backlog sampleEnv (sampleDataSeg 0), .backlog sampleEnv (sampleOtherSeg 0),
    .backlog sampleEnv (sampleLinkService 1), .backlog sampleEnv (sampleDataSeg 1)]

/-- The first segment takes the connection from `DN_CC` to `DN_RUN`, and each subchannel accepts
its two segments. -/
theorem ccConn_subchannels_in_order :
    ccConn.numdatRcv.toNat < 4096 ∧ ccConn.numothRcv.toNat < 4096 ∧
      (InOrder .data ccConn (run sampleConfig ccConn deliveryRun).1 (run sampleConfig ccConn deliveryRun).2 ∧
        InOrder .other ccConn (run sampleConfig ccConn deliveryRun).1
          (run sampleConfig ccConn deliveryRun).2) ∧
      accepted Subchannel.data.moves (run sampleConfig ccConn deliveryRun).2 = [0, 1] ∧
      accepted Subchannel.other.moves (run sampleConfig ccConn deliveryRun).2 = [0, 1] :=
  ⟨by decide, by decide, subchannels_deliver_in_order sampleConfig ccConn deliveryRun (by decide) (by decide),
    by decide, by decide⟩

end DecnetNsp
