import DecnetNsp.Calls
import DecnetNsp.Delivery
import DecnetNsp.Lifecycle

/-!
# What the receive path never does, over whole runs

Eight invariants of every run of `dn_nsp_backlog_rcv` and `dn_returned_conn_init`, each from what
one input may do. Only `dn_nsp_data` touches `flowloc_sw` and `ackdelay` (`step_dataOnly`). The
local flow switch is never reopened: it only goes from `DN_SEND` to `DN_DONTSEND`, and then
`DN_PEND_SW` is scheduled (`local_flow_never_reopened`). No delayed data acknowledgment is ever
armed: `ackdelay` is only restarted while one is pending (`ackdelay_never_armed`). A closed socket
has its destruction timer, unless its connect-initiate came back, and the timer once installed
stays (`closed_connections_reaped`). A connection that has ended accepts nothing more on either
subchannel (`ended_delivers_nothing`). Every handler keeps `scp->state` or moves it to a later
phase, so a state the receive path leaves is never entered again (`left_states_never_reentered`).
`sk_ack_backlog` counts the connect-initiates appended to `sk_receive_queue`, and a full accept
queue takes none (`accept_backlog_counts_queued_connects`). `sk_rmem_alloc` is charged exactly
the `truesize` of what `dn_queue_skb` queues on either receive queue
(`receive_memory_charges_queued_frames`). A socket flagged `SOCK_DEAD` is
never handed data and is woken only by the connect-initiates `dn_nsp_conn_init` queues, the one
wake-up of this file without the flag's guard (`dead_sockets_woken_only_by_connects`).
-/

namespace DecnetNsp

/-- What the receive path may do to `flowloc_sw` between `c` and `c'`, with the calls `evs`:
nothing, or close it from `DN_SEND` and ask `dn_nsp_schedule_pending` for `DN_PEND_SW`. -/
def LocalFlow (c c' : Conn) (evs : List Event) : Prop :=
  c'.flowlocSw = c.flowlocSw ∨ c.flowlocSw = dnSend ∧ c'.flowlocSw = dnDontsend ∧ .schedulePending .sw ∈ evs

/-- What the receive path may do to `ackdelay` between `c` and `c'`: nothing, or restart it to
`ACKDELAY` while it is pending. -/
def AckDelay (cfg : Config) (c c' : Conn) : Prop :=
  c'.ackdelay = c.ackdelay ∨ c.ackdelay ≠ 0 ∧ c'.ackdelay = cfg.ackdelay

section Compose

variable {cfg : Config} {c c₁ c' c'' : Conn} {evs evs' : List Event}

theorem LocalFlow.congr_left (h₁ : c₁.flowlocSw = c.flowlocSw) (h : LocalFlow c₁ c' evs) :
    LocalFlow c c' evs := by
  unfold LocalFlow at h ⊢; rw [← h₁]; exact h

theorem LocalFlow.append_left (pre : List Event) (h : LocalFlow c c' evs) :
    LocalFlow c c' (pre ++ evs) :=
  h.imp_right fun ⟨h1, h2, h3⟩ => ⟨h1, h2, List.mem_append_right _ h3⟩

theorem LocalFlow.trans (h : LocalFlow c c' evs) (h' : LocalFlow c' c'' evs') :
    LocalFlow c c'' (evs ++ evs') := by
  rcases h with h | ⟨h1, h2, h3⟩ <;> rcases h' with h' | ⟨h1', h2', h3'⟩
  · exact .inl (h'.trans h)
  · exact .inr ⟨h ▸ h1', h2', List.mem_append_right _ h3'⟩
  · exact .inr ⟨h1, h'.trans h2, List.mem_append_left _ h3⟩
  · exact absurd (h2.symm.trans h1') (by decide)

theorem AckDelay.congr_left (h₁ : c₁.ackdelay = c.ackdelay) (h : AckDelay cfg c₁ c') :
    AckDelay cfg c c' := by
  unfold AckDelay at h ⊢; rw [← h₁]; exact h

theorem AckDelay.trans (h : AckDelay cfg c c') (h' : AckDelay cfg c' c'') : AckDelay cfg c c'' := by
  rcases h with h | ⟨h1, h2⟩ <;> rcases h' with h' | ⟨h1', h2'⟩
  · exact .inl (h'.trans h)
  · exact .inr ⟨h ▸ h1', h2'⟩
  · exact .inr ⟨h1, h'.trans h2⟩
  · exact .inr ⟨h1, h2'⟩

end Compose

theorem dataAck_localFlow (cfg : Config) (c : Conn) (ev : List Event) (q : Bool) (n : UInt16) :
    (dataAck cfg c ev q n).1.flowlocSw = c.flowlocSw ∧ ∃ e, (dataAck cfg c ev q n).2 = ev ++ e := by
  unfold dataAck
  split
  · exact ⟨by split <;> rfl, [], (List.append_nil _).symm⟩
  · exact ⟨rfl, _, rfl⟩

theorem dataAck_ackDelay (cfg : Config) (c : Conn) (ev : List Event) (q : Bool) (n : UInt16) :
    AckDelay cfg c (dataAck cfg c ev q n).1 := by
  unfold dataAck
  split
  · split
    next h => exact .inr ⟨h, rfl⟩
    next => exact .inl rfl
  · exact .inl rfl

theorem dataQueued_spec (cfg : Config) (n : UInt16) (c : Conn) (q : Bool) (ev : List Event) :
    LocalFlow c (dataQueued cfg n (c, q, ev)).1 (dataQueued cfg n (c, q, ev)).2 ∧
      AckDelay cfg c (dataQueued cfg n (c, q, ev)).1 := by
  have hc : ∀ (c₁ : Conn) (ev' : List Event), c₁.flowlocSw = c.flowlocSw → c₁.ackdelay = c.ackdelay →
      LocalFlow c (dataCongestion cfg n q c₁ ev').1 (dataCongestion cfg n q c₁ ev').2 ∧
        AckDelay cfg c (dataCongestion cfg n q c₁ ev').1 := by
    intro c₁ ev' hf hd
    unfold dataCongestion
    split
    next h =>
      obtain ⟨hf', e, he⟩ := dataAck_localFlow cfg { c₁ with flowlocSw := dnDontsend } (ev' ++ [.schedulePending .sw]) q n
      exact ⟨.inr ⟨hf ▸ h.1, hf', by rw [he]; simp⟩, (dataAck_ackDelay ..).congr_left hd⟩
    next =>
      exact ⟨.inl ((dataAck_localFlow ..).1.trans hf), (dataAck_ackDelay ..).congr_left hd⟩
  exact hc _ _ (by split <;> rfl) (by split <;> rfl)

/-- `dn_nsp_data` only closes the local flow switch, scheduling `DN_PEND_SW`, and only restarts a
pending delayed ack. -/
theorem dnNspData_spec (cfg : Config) (env : Env) (c : Conn) (skb : Skb) :
    LocalFlow c (dnNspData cfg env c skb).1 (dnNspData cfg env c skb).2 ∧
      AckDelay cfg c (dnNspData cfg env c skb).1 := by
  unfold dnNspData
  split
  next s0 s1 payload _ =>
    split
    · obtain ⟨-, hv⟩ := dnQueueSkb_spec env c { skb with segnum := le16 s0 s1, data := payload } false
      generalize dnQueueSkb env c _ false = q at hv ⊢
      obtain ⟨c₁, b, ev⟩ := q
      have h₁ : c₁.flowlocSw = c.flowlocSw ∧ c₁.ackdelay = c.ackdelay := by
        rcases hv with ⟨-, k, rfl⟩ | ⟨-, rfl⟩
        · exact ⟨rfl, rfl⟩
        · split <;> exact ⟨rfl, rfl⟩
      obtain ⟨hl, ha⟩ := dataQueued_spec cfg (le16 s0 s1) c₁ b ev
      exact ⟨hl.congr_left h₁.1, ha.congr_left h₁.2⟩
    · exact ⟨.inl (dataAck_localFlow ..).1, dataAck_ackDelay ..⟩
  · exact ⟨.inl rfl, .inl rfl⟩

/-- The fields only `dn_nsp_data` writes. -/
def DataOnlyKept (c c' : Conn) : Prop := c'.flowlocSw = c.flowlocSw ∧ c'.ackdelay = c.ackdelay

theorem DataOnlyKept.trans {c c' c'' : Conn} (h : DataOnlyKept c c') (h' : DataOnlyKept c' c'') :
    DataOnlyKept c c'' :=
  ⟨h'.1.trans h.1, h'.2.trans h.2⟩

theorem controlHandler_dataOnly (cfg : Config) (env : Env) (c : Conn) (skb : Skb) :
    DataOnlyKept c (controlHandler cfg env c skb).1 := by
  refine controlHandler_cases (fun r => DataOnlyKept c r.1) cfg env c skb ?_ ?_ ?_ ?_ ⟨rfl, rfl⟩ <;>
    dsimp only
  · obtain ⟨_, h⟩ := dnNspConnInit_frame c skb; rw [h]; exact ⟨rfl, rfl⟩
  · obtain ⟨_, _, _, _, _, _, _, _, _, _, h⟩ := dnNspConnConf_frame cfg c skb; rw [h]; exact ⟨rfl, rfl⟩
  · obtain ⟨_, _, _, _, _, _, _, _, _, _, h⟩ := dnNspDiscInit_frame env c skb; rw [h]; exact ⟨rfl, rfl⟩
  · obtain ⟨_, _, _, _, _, _, h⟩ := dnNspDiscConf_frame env c skb; rw [h]; exact ⟨rfl, rfl⟩

theorem dataPath_dataOnly (cfg : Config) (env : Env) (c : Conn) (skb : Skb) :
    DataOnlyKept c (dataPath cfg env c skb).1 ∨ ∃ env' c₁ skb' pre, DataOnlyKept c c₁ ∧
      (dataPath cfg env c skb).1 = (dnNspData cfg env' c₁ skb').1 ∧
      (dataPath cfg env c skb).2 = pre ++ (dnNspData cfg env' c₁ skb').2 := by
  -- the promotion and the acknowledgments keep both fields
  have ha : DataOnlyKept c (dnProcessAck env (ccPromote cfg c skb).1 (ackOther skb.nspFlags) skb.data).conn := by
    obtain ⟨_, _, hp⟩ := dnProcessAck_frame env (ccPromote cfg c skb).1 (ackOther skb.nspFlags) skb.data
    obtain ⟨_, _, _, hc⟩ := ccPromote_frame cfg c skb
    rw [hp, hc]; exact ⟨rfl, rfl⟩
  unfold dataPath dataHandler
  dsimp only
  split
  · split
    · obtain ⟨_, _, _, _, h⟩ := dnNspLinkservice_frame
        (dnProcessAck env (ccPromote cfg c skb).1 (ackOther skb.nspFlags) skb.data).conn
        { skb with data := (dnProcessAck env (ccPromote cfg c skb).1 (ackOther skb.nspFlags) skb.data).data }
      exact .inl (ha.trans (by rw [h]; exact ⟨rfl, rfl⟩))
    · split
      · obtain ⟨_, _, _, _, _, h⟩ := dnNspOtherdata_frame env
          (dnProcessAck env (ccPromote cfg c skb).1 (ackOther skb.nspFlags) skb.data).conn
          { skb with data := (dnProcessAck env (ccPromote cfg c skb).1 (ackOther skb.nspFlags) skb.data).data }
        exact .inl (ha.trans (by rw [h]; exact ⟨rfl, rfl⟩))
      · exact .inr ⟨env, _, _, _, ha, rfl, rfl⟩
  · exact .inl ha

/-- Only `dn_nsp_data` touches `flowloc_sw` and `ackdelay`: every input leaves them alone, or does
to them, with the same calls at the end of its trace, what `dn_nsp_data` does on a connection
that still has them. -/
theorem step_dataOnly (cfg : Config) (c : Conn) (i : Input) :
    DataOnlyKept c (step cfg c i).1 ∨ ∃ env c₁ skb pre, DataOnlyKept c c₁ ∧
      (step cfg c i).1 = (dnNspData cfg env c₁ skb).1 ∧ (step cfg c i).2 = pre ++ (dnNspData cfg env c₁ skb).2 := by
  refine step_cases (fun r => DataOnlyKept c r.1 ∨ ∃ env c₁ skb pre, DataOnlyKept c c₁ ∧
      r.1 = (dnNspData cfg env c₁ skb).1 ∧ r.2 = pre ++ (dnNspData cfg env c₁ skb).2) cfg c i ?_
    (.inl ⟨rfl, rfl⟩) (fun env skb _ => .inl (controlHandler_dataOnly cfg env c skb)) ?_
    (fun env skb => dataPath_dataOnly cfg env c skb)
  · obtain ⟨_, _, _, h⟩ := dnReturnedConnInit_frame c
    exact .inl (by rw [h]; exact ⟨rfl, rfl⟩)
  · obtain ⟨_, _, _, h⟩ := dnNspConnAck_frame cfg c
    exact .inl (by rw [h]; exact ⟨rfl, rfl⟩)

/-- Over every run, `flowloc_sw` is left alone, or it went from `DN_SEND` to `DN_DONTSEND` and
`DN_PEND_SW` was scheduled: the receive path never reopens the local flow switch. -/
theorem local_flow_never_reopened (cfg : Config) (c : Conn) (is : List Input) :
    LocalFlow c (run cfg c is).1 (run cfg c is).2 := by
  induction is generalizing c with
  | nil => exact .inl rfl
  | cons i is ih =>
    rw [run_cons]
    refine LocalFlow.trans ?_ (ih _)
    rcases step_dataOnly cfg c i with h | ⟨env, c₁, skb, pre, h₁, hc, he⟩
    · exact .inl h.1
    · rw [hc, he]; exact ((dnNspData_spec cfg env c₁ skb).1.congr_left h₁.1).append_left pre

/-- Over every run, `ackdelay` is left alone, or it was pending and restarted to `ACKDELAY`: the
receive path never arms a delayed data acknowledgment. -/
theorem ackdelay_never_armed (cfg : Config) (c : Conn) (is : List Input) :
    AckDelay cfg c (run cfg c is).1 := by
  induction is generalizing c with
  | nil => exact .inl rfl
  | cons i is ih =>
    refine AckDelay.trans ?_ (ih _)
    rcases step_dataOnly cfg c i with h | ⟨env, c₁, skb, pre, h₁, hc, -⟩
    · exact .inl h.2
    · rw [hc]; exact (dnNspData_spec cfg env c₁ skb).2.congr_left h₁.2

/-- A closed socket has its destruction timer armed, unless its connect-initiate came back and
left it in `DN_NC`. -/
def Reaped (c : Conn) : Prop := c.skState = .close → c.state = .nc ∨ c.persistFxn = .dnDestroyTimer

/-- What one input may do to the destruction timer: keep `Reaped`, and leave `persist_fxn` or
install `dn_destroy_timer`. -/
structure ReapStep (c c' : Conn) : Prop where
  reaped : Reaped c → Reaped c'
  timer : c'.persistFxn = c.persistFxn ∨ c'.persistFxn = .dnDestroyTimer

namespace ReapStep

variable {c c' c'' : Conn}

theorem of_eq (hs : c'.state = c.state) (hss : c'.skState = c.skState)
    (hp : c'.persistFxn = c.persistFxn) : ReapStep c c' :=
  ⟨fun h hc => by rw [hs, hp]; exact h (hss ▸ hc), .inl hp⟩

theorem of_established (hss : c'.skState = .established) (hp : c'.persistFxn = c.persistFxn) :
    ReapStep c c' :=
  ⟨fun _ hc => absurd (hss.symm.trans hc) (by decide), .inl hp⟩

theorem of_destroy (hp : c'.persistFxn = .dnDestroyTimer) : ReapStep c c' :=
  ⟨fun _ _ => .inr hp, .inr hp⟩

theorem trans (h : ReapStep c c') (h' : ReapStep c' c'') : ReapStep c c'' :=
  ⟨h'.reaped ∘ h.reaped, h'.timer.elim (fun e => e ▸ h.timer) .inr⟩

end ReapStep

theorem controlHandler_reapStep (cfg : Config) (env : Env) (c : Conn) (skb : Skb) :
    ReapStep c (controlHandler cfg env c skb).1 := by
  refine controlHandler_cases (fun r => ReapStep c r.1) cfg env c skb ?_ ?_ ?_ ?_ (.of_eq rfl rfl rfl) <;>
    dsimp only
  · obtain ⟨_, h⟩ := dnNspConnInit_frame c skb; rw [h]; exact .of_eq rfl rfl rfl
  · unfold dnNspConnConf
    split
    · split
      · exact .of_established rfl rfl
      · exact .of_eq rfl rfl rfl
    · exact .of_eq rfl rfl rfl
  · unfold dnNspDiscInit; split
    · exact .of_destroy rfl
    · exact .of_eq rfl rfl rfl
  · unfold dnNspDiscConf; split
    · exact .of_destroy rfl
    · exact .of_eq rfl rfl rfl

theorem dataPath_reapStep (cfg : Config) (env : Env) (c : Conn) (skb : Skb) :
    ReapStep c (dataPath cfg env c skb).1 := by
  have hp : ReapStep c (ccPromote cfg c skb).1 := by
    unfold ccPromote; split
    · exact .of_established rfl rfl
    · exact .of_eq rfl rfl rfl
  obtain ⟨_, _, ha⟩ := dnProcessAck_frame env (ccPromote cfg c skb).1 (ackOther skb.nspFlags) skb.data
  refine hp.trans ?_
  unfold dataPath
  dsimp only
  split
  · obtain ⟨_, _, _, _, _, _, _, _, _, _, _, _, h⟩ := dataHandler_frame cfg env
      (dnProcessAck env (ccPromote cfg c skb).1 (ackOther skb.nspFlags) skb.data).conn
      { skb with data := (dnProcessAck env (ccPromote cfg c skb).1 (ackOther skb.nspFlags) skb.data).data }
    rw [h, ha]; exact .of_eq rfl rfl rfl
  · rw [ha]; exact .of_eq rfl rfl rfl

theorem step_reapStep (cfg : Config) (c : Conn) (i : Input) : ReapStep c (step cfg c i).1 := by
  refine step_cases (fun r => ReapStep c r.1) cfg c i ?_ (.of_eq rfl rfl rfl)
    (fun env skb _ => controlHandler_reapStep cfg env c skb) ?_
    (fun env skb => dataPath_reapStep cfg env c skb)
  · show ReapStep c (dnReturnedConnInit c).1
    unfold dnReturnedConnInit; split
    · exact ⟨fun _ _ => .inl rfl, .inl rfl⟩
    · exact .of_eq rfl rfl rfl
  · show ReapStep c (dnNspConnAck cfg c)
    unfold dnNspConnAck; split
    next h => exact ⟨fun hr hc => .inr ((hr hc).resolve_left (by rw [h]; decide)), .inl rfl⟩
    next => exact .of_eq rfl rfl rfl

theorem run_reapStep (cfg : Config) (c : Conn) (is : List Input) : ReapStep c (run cfg c is).1 := by
  induction is generalizing c with
  | nil => exact .of_eq rfl rfl rfl
  | cons i is ih => exact (step_reapStep cfg c i).trans (ih _)

/-- Over every run from a connection whose closed socket has its destruction timer, every closed
socket still has it, unless its connect-initiate came back; and `dn_destroy_timer`, once
installed, is never replaced. -/
theorem closed_connections_reaped (cfg : Config) (c : Conn) (is : List Input) (h : Reaped c) :
    Reaped (run cfg c is).1 ∧
      (c.persistFxn = .dnDestroyTimer → (run cfg c is).1.persistFxn = .dnDestroyTimer) :=
  ⟨(run_reapStep cfg c is).reaped h, fun hp => (run_reapStep cfg c is).timer.elim (·.trans hp) id⟩

theorem ccConn_closed_connections_reaped :
    Reaped ccConn ∧ (Reaped (run sampleConfig ccConn [.backlog sampleEnv sampleDiscInit]).1 ∧
      (ccConn.persistFxn = .dnDestroyTimer →
        (run sampleConfig ccConn [.backlog sampleEnv sampleDiscInit]).1.persistFxn = .dnDestroyTimer)) :=
  ⟨(fun h => nomatch h), closed_connections_reaped sampleConfig ccConn _ (fun h => nomatch h)⟩

/-- No input moves `scp->state` out of a state in which the connection has ended. -/
theorem LifeStep.state_of_ended {l l' : DnState × TcpState} (h : LifeStep l l') (he : l.1.ended) :
    l'.1 = l.1 := by
  cases h with
  | stay => rfl
  | establish s ss hs => rcases hs with rfl | rfl | rfl <;> cases he
  | discInit s ss => exact discInitNext_of_ended he
  | discConf r s ss => exact discConfNext_of_ended r he
  | connAck | returned => cases he

@[simp] theorem accepted_controlHandler (p : SegKind → Bool) (cfg : Config) (env : Env) (c : Conn)
    (skb : Skb) : accepted p (controlHandler cfg env c skb).2 = [] := by
  simp only [controlHandler, apply_ite Prod.snd, apply_ite (accepted p), accepted_dnNspConnInit,
    accepted_dnNspConnConf, accepted_dnNspDiscInit, accepted_dnNspDiscConf, accepted_nil, ite_self]

/-- An input to a connection that has ended accepts no segment. -/
theorem step_accepted_of_ended (cfg : Config) (c : Conn) (i : Input) (he : c.state.ended)
    (p : SegKind → Bool) : accepted p (step cfg c i).2 = [] := by
  refine step_cases (fun r => accepted p r.2 = []) cfg c i (accepted_dnReturnedConnInit p c) rfl
    (fun env skb _ => accepted_controlHandler ..) rfl (fun env skb => ?_)
  have hcc : c.state ≠ .cc := fun h => by rw [h] at he; cases he
  have hs : (dnProcessAck env c (ackOther skb.nspFlags) skb.data).conn.state = c.state :=
    congrArg Prod.fst (dnProcessAck_life ..)
  show accepted p (dataPath cfg env c skb).2 = []
  unfold dataPath
  rw [ccPromote_of_ne_cc cfg c skb hcc]
  dsimp only
  rw [if_neg fun h => by rw [hs.symm.trans h.2] at he; cases he]
  simp

/-- Over every run from a connection that has ended, `scp->state` stays, no segment is accepted
on either subchannel, both receive cursors stay, and no segment joins either receive queue. -/
theorem ended_delivers_nothing (cfg : Config) (c : Conn) (is : List Input) (he : c.state.ended) :
    (run cfg c is).1.state = c.state ∧ (∀ p, accepted p (run cfg c is).2 = []) ∧
      ∀ ch : Subchannel, ch.cursor (run cfg c is).1 = ch.cursor c ∧
        ∃ A, ch.queue (run cfg c is).1 = ch.queue c ++ A ∧ A.filter ch.entry = [] := by
  induction is generalizing c with
  | nil => exact ⟨rfl, fun _ => rfl, fun _ => ⟨rfl, [], by simp, rfl⟩⟩
  | cons i is ih =>
    have hs : (step cfg c i).1.state = c.state := (step_life cfg c i).state_of_ended he
    obtain ⟨h1, h2, h3⟩ := ih (step cfg c i).1 (hs ▸ he)
    have ha := step_accepted_of_ended cfg c i he
    refine ⟨h1.trans hs, fun p => by rw [run_cons, accepted_append, ha, h2]; rfl, fun ch => ?_⟩
    have hd := step_delivers cfg c i ch
    obtain ⟨A, hA, hf⟩ := hd.queue
    obtain ⟨hc, B, hB, hfB⟩ := h3 ch
    have hcur : ch.cursor (step cfg c i).1 = ch.cursor c := by
      rcases hd.cursor with ⟨-, h⟩ | ⟨n, -, hm, -⟩
      · exact h
      · rw [ha] at hm; cases hm
    refine ⟨hc.trans hcur, A ++ B, by rw [run_cons]; simp only [hB, hA, List.append_assoc], ?_⟩
    rw [List.filter_append, hfB, List.append_nil]
    exact List.map_eq_nil_iff.1 (hf.trans (ha _))

/-- A connection whose disconnect has been confirmed. -/
def cnConn : Conn := { ccConn with state := .cn, skState := .close }

theorem cnConn_delivers_nothing :
    cnConn.state.ended ∧ ((run sampleConfig cnConn [.backlog sampleEnv sampleDataAck]).1.state = cnConn.state ∧
      (∀ p, accepted p (run sampleConfig cnConn [.backlog sampleEnv sampleDataAck]).2 = []) ∧
      ∀ ch : Subchannel, ch.cursor (run sampleConfig cnConn [.backlog sampleEnv sampleDataAck]).1 = ch.cursor cnConn ∧
        ∃ A, ch.queue (run sampleConfig cnConn [.backlog sampleEnv sampleDataAck]).1 = ch.queue cnConn ++ A ∧
          A.filter ch.entry = []) :=
  ⟨rfl, ended_delivers_nothing sampleConfig cnConn _ rfl⟩

/-- How far a connection has come: connecting (or in a state the receive path never moves),
acknowledged or accepted, running or disconnecting, over. -/
def DnState.phase : DnState → Nat
  | .ci | .o | .cr | .cl => 0
  | .cd | .cc => 1
  | .run | .di | .dr => 2
  | .rj | .nr | .nc | .dn | .dic | .drc | .cn => 3

theorem discInitNext_phase (s : DnState) : discInitNext s = s ∨ s.phase < (discInitNext s).phase := by
  cases s <;> decide

theorem discConfNext_phase (reason : UInt16) (s : DnState) :
    discConfNext reason s = s ∨ s.phase < (discConfNext reason s).phase := by
  cases s <;> simp only [discConfNext] <;> (try split_ifs) <;> decide

/-- Every handler keeps `scp->state` or moves it to a later phase. -/
theorem LifeStep.phase_lt {l l' : DnState × TcpState} (h : LifeStep l l') :
    l'.1 = l.1 ∨ l.1.phase < l'.1.phase := by
  cases h with
  | stay => exact .inl rfl
  | establish s ss hs => rcases hs with rfl | rfl | rfl <;> exact .inr (by dsimp only; decide)
  | discInit s ss => exact discInitNext_phase s
  | discConf r s ss => exact discConfNext_phase r s
  | connAck | returned => exact .inr (by dsimp only; decide)

theorem step_phase (cfg : Config) (c : Conn) (i : Input) :
    (step cfg c i).1.state = c.state ∨ c.state.phase < (step cfg c i).1.state.phase :=
  (step_life cfg c i).phase_lt

/-- Over every run `scp->state` stays or ends in a later phase. -/
theorem run_phase (cfg : Config) (c : Conn) (is : List Input) :
    (run cfg c is).1.state = c.state ∨ c.state.phase < (run cfg c is).1.state.phase := by
  induction is generalizing c with
  | nil => exact .inl rfl
  | cons i is ih =>
    show (run cfg (step cfg c i).1 is).1.state = c.state ∨
      c.state.phase < (run cfg (step cfg c i).1 is).1.state.phase
    rcases step_phase cfg c i with h | h <;> rcases ih (step cfg c i).1 with h' | h'
    · exact .inl (h'.trans h)
    · exact .inr (h ▸ h')
    · exact .inr (h'.symm ▸ h)
    · exact .inr (h.trans h')

/-- A state the receive path moves a connection out of is never entered again, whatever frames
follow: no run goes back from running to connecting, or from a disconnect to running. -/
theorem left_states_never_reentered (cfg : Config) (c : Conn) (is js : List Input)
    (hleft : (run cfg c is).1.state ≠ c.state) :
    (run cfg (run cfg c is).1 js).1.state ≠ c.state := by
  have h1 := (run_phase cfg c is).resolve_left hleft
  intro h
  rcases run_phase cfg (run cfg c is).1 js with h2 | h2
  · exact hleft (h2.symm.trans h)
  · rw [h] at h2; omega

/-- A connection in `DN_CC` promoted by a data acknowledgment is not put back into `DN_CC` by a
disconnect-initiate. -/
theorem ccConn_left_state_never_reentered :
    (run sampleConfig ccConn [.backlog sampleEnv sampleDataAck]).1.state ≠ ccConn.state ∧
      (run sampleConfig (run sampleConfig ccConn [.backlog sampleEnv sampleDataAck]).1
        [.backlog sampleEnv sampleDiscInit]).1.state ≠ ccConn.state :=
  ⟨by decide, left_states_never_reentered _ _ _ _ (by decide)⟩

/-- A frame with control flags. Of these only a connect-initiate, queued by `dn_nsp_conn_init`,
ever joins `sk_receive_queue`. -/
def Skb.isControl (skb : Skb) : Bool := skb.nspFlags &&& 0x0c == 0x08

/-- What one input may do to a listener's accept queue: append to `sk_receive_queue`, count in
`sk_ack_backlog` exactly the connect-initiates appended, append none while `sk_acceptq_is_full`,
and leave `sk_max_ack_backlog` alone. -/
structure AcceptStep (c c' : Conn) : Prop where
  appended : ∃ A, c'.skReceiveQueue = c.skReceiveQueue ++ A ∧
    c'.skAckBacklog = c.skAckBacklog + A.countP Skb.isControl ∧
    (skAcceptqIsFull c → A.countP Skb.isControl = 0)
  max_eq : c'.skMaxAckBacklog = c.skMaxAckBacklog

namespace AcceptStep

variable {c c' c'' : Conn}

theorem of_eq (hq : c'.skReceiveQueue = c.skReceiveQueue) (hb : c'.skAckBacklog = c.skAckBacklog)
    (hm : c'.skMaxAckBacklog = c.skMaxAckBacklog) : AcceptStep c c' :=
  ⟨⟨[], by rw [hq, List.append_nil], by rw [hb]; rfl, fun _ => rfl⟩, hm⟩

/-- A full queue stays full: the backlog does not shrink and its limit does not move. -/
theorem trans (h : AcceptStep c c') (h' : AcceptStep c' c'') : AcceptStep c c'' := by
  obtain ⟨⟨A, hq, hb, hf⟩, hm⟩ := h
  obtain ⟨⟨A', hq', hb', hf'⟩, hm'⟩ := h'
  refine ⟨⟨A ++ A', by rw [hq', hq, List.append_assoc],
    by rw [hb', hb, List.countP_append, Nat.add_assoc], fun hfull => ?_⟩, hm'.trans hm⟩
  have h0 := hf hfull
  have hfull' : skAcceptqIsFull c' := by
    simp only [skAcceptqIsFull, decide_eq_true_eq] at hfull ⊢; omega
  rw [List.countP_append, h0, hf' hfull']

end AcceptStep

theorem dnNspConnInit_acceptStep (c : Conn) (skb : Skb) (hf : skb.isControl) :
    AcceptStep c (dnNspConnInit c skb).1 := by
  unfold dnNspConnInit
  split
  · exact .of_eq rfl rfl rfl
  next hfull => exact ⟨⟨[skb], rfl, by simp [hf], fun h => absurd h hfull⟩, rfl⟩

theorem controlHandler_acceptStep (cfg : Config) (env : Env) (c : Conn) (skb : Skb)
    (hf : skb.isControl) : AcceptStep c (controlHandler cfg env c skb).1 := by
  refine controlHandler_cases (fun r => AcceptStep c r.1) cfg env c skb
    (dnNspConnInit_acceptStep c skb hf) ?_ ?_ ?_ (.of_eq rfl rfl rfl) <;> dsimp only
  · obtain ⟨_, _, _, _, _, _, _, _, _, _, h⟩ := dnNspConnConf_frame cfg c skb
    rw [h]; exact .of_eq rfl rfl rfl
  · obtain ⟨_, _, _, _, _, _, _, _, _, _, h⟩ := dnNspDiscInit_frame env c skb
    rw [h]; exact .of_eq rfl rfl rfl
  · obtain ⟨_, _, _, _, _, _, h⟩ := dnNspDiscConf_frame env c skb
    rw [h]; exact .of_eq rfl rfl rfl

/-- `dn_nsp_data` appends at most the segment, which has data flags. -/
theorem dnNspData_acceptStep (cfg : Config) (env : Env) (c : Conn) (skb : Skb)
    (hf : skb.nspFlags &&& 0x0c = 0) : AcceptStep c (dnNspData cfg env c skb).1 := by
  unfold dnNspData
  split
  next s0 s1 payload _ =>
    split
    · obtain ⟨-, hv⟩ := dnQueueSkb_spec env c { skb with segnum := le16 s0 s1, data := payload } false
      generalize dnQueueSkb env c _ false = q at hv ⊢
      obtain ⟨c1, b, ev⟩ := q
      obtain ⟨s, d, h⟩ := dataQueued_frame cfg (le16 s0 s1) c1 b ev
      rw [h]
      rcases hv with ⟨-, k, rfl⟩ | ⟨-, rfl⟩
      · exact .of_eq rfl rfl rfl
      · exact ⟨⟨_, rfl, by simp [Skb.isControl, hf], fun _ => by simp [Skb.isControl, hf]⟩, rfl⟩
    · obtain ⟨d, h⟩ := dataAck_frame cfg c [] false (le16 s0 s1)
      rw [h]; exact .of_eq rfl rfl rfl
  · exact .of_eq rfl rfl rfl

theorem dataHandler_acceptStep (cfg : Config) (env : Env) (c : Conn) (skb : Skb)
    (hf : skb.nspFlags &&& 0x0c = 0) : AcceptStep c (dataHandler cfg env c skb).1 := by
  unfold dataHandler
  split
  · obtain ⟨_, _, _, _, h⟩ := dnNspLinkservice_frame c skb
    rw [h]; exact .of_eq rfl rfl rfl
  · split
    · obtain ⟨_, _, _, _, _, h⟩ := dnNspOtherdata_frame env c skb
      rw [h]; exact .of_eq rfl rfl rfl
    · exact dnNspData_acceptStep cfg env c skb hf

theorem dataPath_acceptStep (cfg : Config) (env : Env) (c : Conn) (skb : Skb) :
    AcceptStep c (dataPath cfg env c skb).1 := by
  have ha : AcceptStep c (dnProcessAck env (ccPromote cfg c skb).1 (ackOther skb.nspFlags) skb.data).conn := by
    obtain ⟨_, _, hp⟩ := dnProcessAck_frame env (ccPromote cfg c skb).1 (ackOther skb.nspFlags) skb.data
    obtain ⟨_, _, _, hc⟩ := ccPromote_frame cfg c skb
    rw [hp, hc]; exact .of_eq rfl rfl rfl
  unfold dataPath
  dsimp only
  split
  next hd => exact ha.trans (dataHandler_acceptStep cfg env _ _ hd.1)
  next => exact ha

theorem step_acceptStep (cfg : Config) (c : Conn) (i : Input) : AcceptStep c (step cfg c i).1 := by
  refine step_cases (fun r => AcceptStep c r.1) cfg c i ?_ (.of_eq rfl rfl rfl)
    (fun env skb hc => controlHandler_acceptStep cfg env c skb (beq_iff_eq.2 hc)) ?_
    (fun env skb => dataPath_acceptStep cfg env c skb)
  · obtain ⟨_, _, _, h⟩ := dnReturnedConnInit_frame c
    show AcceptStep c (dnReturnedConnInit c).1
    rw [h]; exact .of_eq rfl rfl rfl
  · obtain ⟨_, _, _, h⟩ := dnNspConnAck_frame cfg c
    show AcceptStep c (dnNspConnAck cfg c)
    rw [h]; exact .of_eq rfl rfl rfl

/-- Over every run, `sk_receive_queue` only grows at its end, `sk_ack_backlog` grows by exactly
the connect-initiates appended to it, a full accept queue takes none, and `sk_max_ack_backlog`
never moves: the backlog counts the connections the receive path has left waiting for `accept`. -/
theorem accept_backlog_counts_queued_connects (cfg : Config) (c : Conn) (is : List Input) :
    AcceptStep c (run cfg c is).1 := by
  induction is generalizing c with
  | nil => exact .of_eq rfl rfl rfl
  | cons i is ih => exact (step_acceptStep cfg c i).trans (ih _)

/-- What one input may do to the receive memory: `sk_rmem_alloc` is charged the `truesize` of every
frame `dn_queue_skb` appends to a receive queue, not that of a connect-initiate
`dn_nsp_conn_init` appends, and `sk_rcvbuf` stays. -/
structure MemStep (c c' : Conn) : Prop where
  charged : ∃ A B, c'.skReceiveQueue = c.skReceiveQueue ++ A ∧
    c'.otherReceiveQueue = c.otherReceiveQueue ++ B ∧
    c'.skRmemAlloc = c.skRmemAlloc + ((A.filter fun skb => !skb.isControl).map Skb.truesize).sum +
      (B.map Skb.truesize).sum
  rcvbuf_eq : c'.skRcvbuf = c.skRcvbuf

namespace MemStep

variable {c c' c'' : Conn}

theorem of_eq (hq : c'.skReceiveQueue = c.skReceiveQueue) (ho : c'.otherReceiveQueue = c.otherReceiveQueue)
    (hm : c'.skRmemAlloc = c.skRmemAlloc) (hb : c'.skRcvbuf = c.skRcvbuf) : MemStep c c' :=
  ⟨⟨[], [], by rw [hq, List.append_nil], by rw [ho, List.append_nil], by rw [hm]; rfl⟩, hb⟩

theorem trans (h : MemStep c c') (h' : MemStep c' c'') : MemStep c c'' := by
  obtain ⟨⟨A, B, hq, ho, hm⟩, hb⟩ := h
  obtain ⟨⟨A', B', hq', ho', hm'⟩, hb'⟩ := h'
  refine ⟨⟨A ++ A', B ++ B', by rw [hq', hq, List.append_assoc], by rw [ho', ho, List.append_assoc],
    ?_⟩, hb'.trans hb⟩
  simp only [hm', hm, List.filter_append, List.map_append, List.sum_append]
  omega

/-- The receive memory never shrinks on the receive path. -/
theorem rmem_le (h : MemStep c c') : c.skRmemAlloc ≤ c'.skRmemAlloc := by
  obtain ⟨⟨_, _, _, _, hm⟩, _⟩ := h
  omega

end MemStep

/-- `dn_queue_skb` charges what it queues. -/
theorem dnQueueSkb_memStep (env : Env) (c : Conn) (skb : Skb) (other : Bool)
    (hf : skb.isControl = false) : MemStep c (dnQueueSkb env c skb other).1 := by
  rcases (dnQueueSkb_spec env c skb other).2 with ⟨-, k, h⟩ | ⟨-, h⟩ <;> rw [h]
  · exact .of_eq rfl rfl rfl rfl
  · cases other
    · exact ⟨⟨[skb], [], rfl, (List.append_nil _).symm, by simp [hf]⟩, rfl⟩
    · exact ⟨⟨[], [skb], (List.append_nil _).symm, rfl, by simp⟩, rfl⟩

theorem dnNspConnInit_memStep (c : Conn) (skb : Skb) (hf : skb.isControl) :
    MemStep c (dnNspConnInit c skb).1 := by
  unfold dnNspConnInit
  split
  · exact .of_eq rfl rfl rfl rfl
  · exact ⟨⟨[skb], [], rfl, (List.append_nil _).symm, by simp [hf]⟩, rfl⟩

theorem controlHandler_memStep (cfg : Config) (env : Env) (c : Conn) (skb : Skb)
    (hf : skb.isControl) : MemStep c (controlHandler cfg env c skb).1 := by
  refine controlHandler_cases (fun r => MemStep c r.1) cfg env c skb
    (dnNspConnInit_memStep c skb hf) ?_ ?_ ?_ (.of_eq rfl rfl rfl rfl) <;> dsimp only
  · obtain ⟨_, _, _, _, _, _, _, _, _, _, h⟩ := dnNspConnConf_frame cfg c skb
    rw [h]; exact .of_eq rfl rfl rfl rfl
  · obtain ⟨_, _, _, _, _, _, _, _, _, _, h⟩ := dnNspDiscInit_frame env c skb
    rw [h]; exact .of_eq rfl rfl rfl rfl
  · obtain ⟨_, _, _, _, _, _, h⟩ := dnNspDiscConf_frame env c skb
    rw [h]; exact .of_eq rfl rfl rfl rfl

theorem dnNspData_memStep (cfg : Config) (env : Env) (c : Conn) (skb : Skb)
    (hf : skb.nspFlags &&& 0x0c = 0) : MemStep c (dnNspData cfg env c skb).1 := by
  unfold dnNspData
  split
  next s0 s1 payload _ =>
    split
    · have h := dnQueueSkb_memStep env c { skb with segnum := le16 s0 s1, data := payload } false
        (by simp [Skb.isControl, hf])
      generalize dnQueueSkb env c _ false = q at h ⊢
      obtain ⟨c1, b, ev⟩ := q
      obtain ⟨s, d, h'⟩ := dataQueued_frame cfg (le16 s0 s1) c1 b ev
      rw [h']; exact h.trans (.of_eq rfl rfl rfl rfl)
    · obtain ⟨d, h⟩ := dataAck_frame cfg c [] false (le16 s0 s1)
      rw [h]; exact .of_eq rfl rfl rfl rfl
  · exact .of_eq rfl rfl rfl rfl

theorem dnNspOtherdata_memStep (env : Env) (c : Conn) (skb : Skb)
    (hf : skb.nspFlags &&& 0x0c = 0) : MemStep c (dnNspOtherdata env c skb).1 := by
  unfold dnNspOtherdata
  split
  next s0 s1 payload _ =>
    split
    · have h := dnQueueSkb_memStep env c { skb with segnum := le16 s0 s1, data := payload } true
        (by simp [Skb.isControl, hf])
      generalize dnQueueSkb env c _ true = q at h ⊢
      obtain ⟨c1, b, ev⟩ := q
      obtain ⟨r, h'⟩ := othQueued_frame (le16 s0 s1) c1 b ev
      rw [h']; exact h.trans (.of_eq rfl rfl rfl rfl)
    · exact .of_eq rfl rfl rfl rfl
  · exact .of_eq rfl rfl rfl rfl

theorem dataPath_memStep (cfg : Config) (env : Env) (c : Conn) (skb : Skb) :
    MemStep c (dataPath cfg env c skb).1 := by
  have ha : MemStep c (dnProcessAck env (ccPromote cfg c skb).1 (ackOther skb.nspFlags) skb.data).conn := by
    obtain ⟨_, _, hp⟩ := dnProcessAck_frame env (ccPromote cfg c skb).1 (ackOther skb.nspFlags) skb.data
    obtain ⟨_, _, _, hc⟩ := ccPromote_frame cfg c skb
    rw [hp, hc]; exact .of_eq rfl rfl rfl rfl
  unfold dataPath
  dsimp only
  split
  next hd =>
    refine ha.trans ?_
    unfold dataHandler
    split
    · obtain ⟨_, _, _, _, h⟩ := dnNspLinkservice_frame
        (dnProcessAck env (ccPromote cfg c skb).1 (ackOther skb.nspFlags) skb.data).conn
        { skb with data := (dnProcessAck env (ccPromote cfg c skb).1 (ackOther skb.nspFlags) skb.data).data }
      rw [h]; exact .of_eq rfl rfl rfl rfl
    · split
      · exact dnNspOtherdata_memStep env _ _ hd.1
      · exact dnNspData_memStep cfg env _ _ hd.1
  next => exact ha

theorem step_memStep (cfg : Config) (c : Conn) (i : Input) : MemStep c (step cfg c i).1 := by
  refine step_cases (fun r => MemStep c r.1) cfg c i ?_ (.of_eq rfl rfl rfl rfl)
    (fun env skb hc => controlHandler_memStep cfg env c skb (beq_iff_eq.2 hc)) ?_
    (fun env skb => dataPath_memStep cfg env c skb)
  · obtain ⟨_, _, _, h⟩ := dnReturnedConnInit_frame c
    show MemStep c (dnReturnedConnInit c).1
    rw [h]; exact .of_eq rfl rfl rfl rfl
  · obtain ⟨_, _, _, h⟩ := dnNspConnAck_frame cfg c
    show MemStep c (dnNspConnAck cfg c)
    rw [h]; exact .of_eq rfl rfl rfl rfl

/-- Over every run, `sk_rmem_alloc` grows by exactly the `truesize` of the frames `dn_queue_skb`
appended: the data-class frames that join `sk_receive_queue` and every frame that joins
`other_receive_queue`. The connect-initiates `dn_nsp_conn_init` queues are not charged, and
`sk_rcvbuf` never moves. -/
theorem receive_memory_charges_queued_frames (cfg : Config) (c : Conn) (is : List Input) :
    MemStep c (run cfg c is).1 := by
  induction is generalizing c with
  | nil => exact .of_eq rfl rfl rfl rfl
  | cons i is ih => exact (step_memStep cfg c i).trans (ih _)

/-- What one input may do to a socket flagged `SOCK_DEAD`: the flag stays, `sk_data_ready` is
never called, and `sk_state_change` is called once for each connect-initiate `dn_nsp_conn_init`
adds to `sk_ack_backlog`. -/
structure DeadStep (c c' : Conn) (evs : List Event) : Prop where
  dead : c'.dead = c.dead
  no_data_ready : evs.count .dataReady = 0
  woken : c'.skAckBacklog = c.skAckBacklog + evs.count .stateChange

namespace DeadStep

variable {c c' c'' : Conn} {evs evs' : List Event}

/-- An input that calls neither wake-up and leaves the flag and the backlog alone. -/
theorem quiet {S : List Call} (hd : c'.dead = c.dead) (hb : c'.skAckBacklog = c.skAckBacklog)
    (h : Calls S evs) (hr : Call.dataReady ∉ S) (hs : Call.stateChange ∉ S) : DeadStep c c' evs :=
  ⟨hd, List.count_eq_zero.2 fun he => hr (h .dataReady he),
    by rw [hb, List.count_eq_zero.2 fun he => hs (h .stateChange he), Nat.add_zero]⟩

theorem trans (h : DeadStep c c' evs) (h' : DeadStep c' c'' evs') : DeadStep c c'' (evs ++ evs') :=
  ⟨h'.dead.trans h.dead, by rw [List.count_append, h.no_data_ready, h'.no_data_ready],
    by rw [h'.woken, h.woken, List.count_append, Nat.add_assoc]⟩

end DeadStep

/-- `dn_nsp_conn_init` wakes the listener whether or not it is dead. -/
theorem dnNspConnInit_deadStep (c : Conn) (skb : Skb) :
    DeadStep c (dnNspConnInit c skb).1 (dnNspConnInit c skb).2 := by
  unfold dnNspConnInit
  split
  · exact ⟨rfl, rfl, rfl⟩
  · exact ⟨rfl, rfl, rfl⟩

theorem discInitState_dead (c : Conn) : (discInitState c).dead = c.dead := by
  unfold discInitState; split <;> rfl

theorem discConfState_dead (reason : UInt16) (c : Conn) : (discConfState reason c).dead = c.dead := by
  obtain ⟨_, _, h⟩ := discConfState_frame reason c
  rw [h]

section Dead

variable {c : Conn} (hd : c.dead = true)
include hd

theorem dnAck_deadStep (env : Env) (ack : UInt16) : DeadStep c (dnAck env c ack).1 (dnAck env c ack).2 := by
  obtain ⟨_, _, h⟩ := dnAck_frame env c ack
  refine .quiet (by rw [h]) (by rw [h]) (show Calls [.checkXmitQueue] _ from ?_) (by decide) (by decide)
  unfold dnAck
  simp only [hd, Bool.not_true, Bool.and_false, Bool.false_eq_true, if_false]
  repeat' split
  all_goals simp [Event.call]

theorem dnProcessAck_deadStep (env : Env) (oth : Bool) (d : List UInt8) :
    DeadStep c (dnProcessAck env c oth d).conn (dnProcessAck env c oth d).events := by
  rw [show (dnProcessAck env c oth d).conn = _ from congrArg Prod.fst (dnProcessAck_calls env c oth d),
    show (dnProcessAck env c oth d).events = _ from congrArg Prod.snd (dnProcessAck_calls env c oth d)]
  generalize ackFields oth d = ws
  induction ws generalizing c with
  | nil => exact ⟨rfl, rfl, rfl⟩
  | cons w ws ih =>
    have h₁ := dnAck_deadStep hd env w
    exact h₁.trans (ih (h₁.dead.trans hd))

theorem controlHandler_deadStep (cfg : Config) (env : Env) (skb : Skb) :
    DeadStep c (controlHandler cfg env c skb).1 (controlHandler cfg env c skb).2 := by
  refine controlHandler_cases (fun r => DeadStep c r.1 r.2) cfg env c skb
    (dnNspConnInit_deadStep c skb) ?_ ?_ ?_ ⟨rfl, rfl, rfl⟩ <;> dsimp only
  · obtain ⟨_, _, _, _, _, _, _, _, _, _, h⟩ := dnNspConnConf_frame cfg c skb
    refine .quiet (by rw [h]) (by rw [h]) (show Calls [.schedulePending] _ from ?_) (by decide) (by decide)
    unfold dnNspConnConf
    split
    · split <;> simp [hd, Event.call]
    · exact .nil
  · obtain ⟨_, _, _, _, _, _, _, _, _, _, h⟩ := dnNspDiscInit_frame env c skb
    refine .quiet (by rw [h]) (by rw [h]) (show Calls [.sendDisc] _ from ?_) (by decide) (by decide)
    unfold dnNspDiscInit discNotify
    split
    · simp [discInitState_dead, hd, Event.call]
    · exact .nil
  · obtain ⟨_, _, _, _, _, _, h⟩ := dnNspDiscConf_frame env c skb
    refine .quiet (by rw [h]) (by rw [h]) (show Calls [] _ from ?_) (by decide) (by decide)
    unfold dnNspDiscConf discNotify
    split
    · simp [discConfState_dead, hd]
    · exact .nil

theorem dnReturnedConnInit_deadStep :
    DeadStep c (dnReturnedConnInit c).1 (dnReturnedConnInit c).2 := by
  obtain ⟨_, _, _, h⟩ := dnReturnedConnInit_frame c
  refine .quiet (by rw [h]) (by rw [h]) (show Calls [] _ from ?_) (by decide) (by decide)
  unfold dnReturnedConnInit
  split <;> simp [hd]

theorem dnQueueSkb_dead_events (env : Env) (skb : Skb) (other : Bool) :
    (dnQueueSkb env c skb other).2.2 = [] := by
  unfold dnQueueSkb
  simp only [hd, Bool.not_true, Bool.false_eq_true, if_false]
  split_ifs <;> rfl

theorem dnNspData_deadStep (cfg : Config) (env : Env) (skb : Skb) :
    DeadStep c (dnNspData cfg env c skb).1 (dnNspData cfg env c skb).2 := by
  obtain ⟨_, _, _, _, _, _, h⟩ := dnNspData_frame cfg env c skb
  refine .quiet (by rw [h]) (by rw [h]) (show Calls [.accept, .schedulePending, .sendDataAck] _ from ?_)
    (by decide) (by decide)
  unfold dnNspData
  split
  · split
    · exact calls_dataQueued _ _ _ (by rw [dnQueueSkb_dead_events hd]; exact .nil) (List.Subset.refl _)
    · exact calls_dataAck _ _ _ _ _ .nil (by simp)
  · exact .nil

theorem dnNspOtherdata_deadStep (env : Env) (skb : Skb) :
    DeadStep c (dnNspOtherdata env c skb).1 (dnNspOtherdata env c skb).2 := by
  obtain ⟨_, _, _, _, _, h⟩ := dnNspOtherdata_frame env c skb
  refine .quiet (by rw [h]) (by rw [h]) (show Calls [.accept, .sendOthAck] _ from ?_) (by decide) (by decide)
  unfold dnNspOtherdata
  split
  next s0 s1 payload _ =>
    split
    · have hq := dnQueueSkb_dead_events hd env { skb with segnum := le16 s0 s1, data := payload } true
      generalize dnQueueSkb env c _ true = q at hq ⊢
      obtain ⟨c₁, b, ev⟩ := q
      dsimp only at hq
      subst hq
      cases b <;> simp [othQueued, Event.call]
    · simp [Event.call]
  · exact .nil

theorem dnNspLinkservice_deadStep (skb : Skb) :
    DeadStep c (dnNspLinkservice c skb).1 (dnNspLinkservice c skb).2 := by
  obtain ⟨_, _, _, _, h⟩ := dnNspLinkservice_frame c skb
  refine .quiet (by rw [h]) (by rw [h]) (show Calls [.accept, .nspOutput, .sendOthAck] _ from ?_)
    (by decide) (by decide)
  unfold dnNspLinkservice
  split
  next _ s0 s1 lsflags fc _ =>
    simp only [apply_ite Prod.snd]
    refine Calls.ite .nil (Calls.ite ?_ (by simp [Event.call]))
    have hdead : (lsUpdate { c with numothRcv := seqAdd c.numothRcv 1 } lsflags fc).1.dead = true := by
      obtain ⟨_, _, _, hu⟩ := lsUpdate_frame { c with numothRcv := seqAdd c.numothRcv 1 } lsflags fc
      rw [hu]; exact hd
    simp only [lsAccept, hdead, Bool.not_true, Bool.and_false, Bool.false_eq_true, if_false,
      List.append_nil, Calls.append_iff, Calls.cons_iff]
    exact ⟨⟨by simp [Event.call], (calls_lsUpdate _ _ _).mono (by simp)⟩, by simp [Event.call]⟩
  · exact .nil

theorem dataPath_deadStep (cfg : Config) (env : Env) (skb : Skb) :
    DeadStep c (dataPath cfg env c skb).1 (dataPath cfg env c skb).2 := by
  have hp : ccPromote cfg c skb = (c, []) := by
    unfold ccPromote; rw [if_neg (by simp [hd])]
  have ha := dnProcessAck_deadStep hd env (ackOther skb.nspFlags) skb.data
  have ha' : (dnProcessAck env c (ackOther skb.nspFlags) skb.data).conn.dead = true := ha.dead.trans hd
  unfold dataPath
  simp only [hp, List.nil_append]
  split
  · refine ha.trans ?_
    unfold dataHandler
    split
    · exact dnNspLinkservice_deadStep ha' _
    · split
      · exact dnNspOtherdata_deadStep ha' _ _
      · exact dnNspData_deadStep ha' _ _ _
  · simpa using ha

theorem step_deadStep (cfg : Config) (i : Input) : DeadStep c (step cfg c i).1 (step cfg c i).2 := by
  refine step_cases (fun r => DeadStep c r.1 r.2) cfg c i (dnReturnedConnInit_deadStep hd)
    ⟨rfl, rfl, rfl⟩ (fun env skb _ => controlHandler_deadStep hd cfg env skb) ?_
    (fun env skb => dataPath_deadStep hd cfg env skb)
  obtain ⟨_, _, _, h⟩ := dnNspConnAck_frame cfg c
  show DeadStep c (dnNspConnAck cfg c) []
  rw [h]; exact ⟨rfl, rfl, rfl⟩

end Dead

/-- Over every run from a socket flagged `SOCK_DEAD`, the flag stays, `sk_data_ready` is never
called, and `sk_state_change` is called exactly as often as `sk_ack_backlog` grows: every wake-up
of this file is guarded by the flag except `dn_nsp_conn_init`'s, which comes with a queued
connect-initiate. -/
theorem dead_sockets_woken_only_by_connects (cfg : Config) (c : Conn) (is : List Input)
    (hd : c.dead = true) :
    (run cfg c is).1.dead = true ∧ (run cfg c is).2.count .dataReady = 0 ∧
      (run cfg c is).1.skAckBacklog = c.skAckBacklog + (run cfg c is).2.count .stateChange := by
  suffices h : DeadStep c (run cfg c is).1 (run cfg c is).2 from ⟨h.dead.trans hd, h.no_data_ready, h.woken⟩
  induction is generalizing c with
  | nil => exact ⟨rfl, rfl, rfl⟩
  | cons i is ih =>
    have h₁ := step_deadStep hd cfg i
    exact h₁.trans (ih _ (h₁.dead.trans hd))

/-- A running connection whose socket has been orphaned. -/
def deadConn : Conn := { runConn with dead := true }

theorem deadConn_woken_only_by_connects :
    deadConn.dead = true ∧
      (run sampleConfig deadConn [.backlog sampleEnv sampleDataAck, .backlog sampleEnv sampleDiscInit]).1.dead = true ∧
      (run sampleConfig deadConn [.backlog sampleEnv sampleDataAck,
          .backlog sampleEnv sampleDiscInit]).2.count .dataReady = 0 ∧
      (run sampleConfig deadConn [.backlog sampleEnv sampleDataAck,
          .backlog sampleEnv sampleDiscInit]).1.skAckBacklog =
        deadConn.skAckBacklog + (run sampleConfig deadConn [.backlog sampleEnv sampleDataAck,
          .backlog sampleEnv sampleDiscInit]).2.count .stateChange :=
  ⟨rfl, dead_sockets_woken_only_by_connects _ _ _ rfl⟩

end DecnetNsp
