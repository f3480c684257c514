import DecnetNsp.Receive

/-!
# What each handler may call

Every event names a function of the rest of the kernel; `Event.call` forgets its arguments. For
each handler, `Calls` lists the functions it may call: the counterpart of the frame lemmas, which
list the fields it may write. The backlog never calls what only the entry point calls
(`dst_set`, the martian log, `dn_nsp_return_disc`). Only `dn_nsp_disc_init` sends a disconnect,
so a run sends one disconnect-confirm for each disconnect-initiate that names its port, and none
otherwise (`disc_confirms_answer_disc_inits`). A frame that finds no socket is answered only when
it is a connect-initiate or a connect-confirm, not returned, and its reason is not zero
(`no_socket_replies_only_to_connects`).
-/

namespace DecnetNsp

/-- The function an event calls, or for `accept` the `seq_add` it marks. -/
inductive Call where
  | stateChange | dataReady | checkXmitQueue | sendDisc | returnDisc | sendDataAck | sendOthAck
  | nspOutput | schedulePending | logMartian | dstSet | accept
  deriving DecidableEq, Repr

/-- The function an event calls, forgetting its arguments. -/
def Event.call : Event → Call
  | .stateChange => .stateChange
  | .dataReady => .dataReady
  | .checkXmitQueue .. => .checkXmitQueue
  | .sendDisc .. => .sendDisc
  | .returnDisc .. => .returnDisc
  | .sendDataAck => .sendDataAck
  | .sendOthAck => .sendOthAck
  | .nspOutput => .nspOutput
  | .schedulePending _ => .schedulePending
  | .logMartian _ => .logMartian
  | .dstSet => .dstSet
  | .accept .. => .accept

/-- Every event of `evs` calls a function of `S`. -/
def Calls (S : List Call) (evs : List Event) : Prop := ∀ e ∈ evs, e.call ∈ S

namespace Calls

variable {S S' : List Call} {evs evs' : List Event}

@[simp] theorem nil : Calls S [] := fun _ h => nomatch h

@[simp] theorem cons_iff {e : Event} : Calls S (e :: evs) ↔ e.call ∈ S ∧ Calls S evs := by
  simp [Calls]

@[simp] theorem append_iff : Calls S (evs ++ evs') ↔ Calls S evs ∧ Calls S evs' := by
  simp only [Calls, List.mem_append]
  exact ⟨fun h => ⟨fun e he => h e (.inl he), fun e he => h e (.inr he)⟩,
    fun h e he => he.elim (h.1 e) (h.2 e)⟩

@[simp] theorem ite_iff {p : Prop} [Decidable p] :
    Calls S (if p then evs else evs') ↔ (p → Calls S evs) ∧ (¬ p → Calls S evs') := by
  split <;> simp_all

theorem mono (h : Calls S evs) (hS : S ⊆ S') : Calls S' evs := fun e he => hS (h e he)

theorem ite {p : Prop} [Decidable p] (ha : Calls S evs) (hb : Calls S evs') :
    Calls S (if p then evs else evs') := by
  split <;> assumption

/-- A call outside `S` is never made. -/
theorem filter_eq_nil (h : Calls S evs) {f : Call} (hf : f ∉ S) :
    evs.filter (fun e => e.call == f) = [] :=
  List.filter_eq_nil_iff.2 fun e he hc => hf (by rw [← beq_iff_eq.1 hc]; exact h e he)

end Calls

theorem calls_dnAck (env : Env) (c : Conn) (ack : UInt16) :
    Calls [.checkXmitQueue, .stateChange] (dnAck env c ack).2 := by
  unfold dnAck; simp only [apply_ite Prod.snd]; simp [Event.call]

theorem calls_dnProcessAck (env : Env) (c : Conn) (oth : Bool) (d : List UInt8) :
    Calls [.checkXmitQueue, .stateChange] (dnProcessAck env c oth d).events := by
  rw [show (dnProcessAck env c oth d).events = (dnAckEach env c (ackFields oth d)).2 from
    congrArg Prod.snd (dnProcessAck_calls env c oth d)]
  generalize ackFields oth d = ws
  induction ws generalizing c with
  | nil => exact Calls.nil
  | cons w ws ih => exact Calls.append_iff.2 ⟨calls_dnAck env c w, ih _⟩

theorem calls_ccPromote (cfg : Config) (c : Conn) (skb : Skb) :
    Calls [.stateChange] (ccPromote cfg c skb).2 := by
  unfold ccPromote; split <;> simp [Event.call]

theorem calls_discNotify (env : Env) (c : Conn) : Calls [.stateChange] (discNotify env c).2 := by
  simp [discNotify, Event.call]

@[simp] theorem discInitState_addrrem (c : Conn) : (discInitState c).addrrem = c.addrrem := by
  unfold discInitState; split <;> rfl

/-- `dn_nsp_disc_init` answers with a disconnect-confirm exactly when the frame has its reason and
names its port. -/
theorem dnNspDiscInit_sendDisc (env : Env) (c : Conn) (skb : Skb) :
    Calls [.stateChange, .sendDisc] (dnNspDiscInit env c skb).2 ∧
      (dnNspDiscInit env c skb).2.filter (fun e => e.call == .sendDisc) =
        if 2 ≤ skb.data.length ∧ skb.srcPort ≠ 0 then [.sendDisc nspDiscconf nspReasonDc] else [] := by
  unfold dnNspDiscInit
  split
  next r0 r1 b hd =>
    refine ⟨by simp [discNotify, Event.call], ?_⟩
    rw [List.filter_append, (calls_discNotify _ _).filter_eq_nil (by decide), List.nil_append,
      apply_ite (List.filter fun e : Event => e.call == .sendDisc)]
    simp [discNotify, hd, Event.call]
  next hd =>
    have hl : ¬ 2 ≤ skb.data.length := by
      match h : skb.data with
      | [] | [_] => simp
      | _ :: _ :: _ => exact absurd h (hd _ _ _)
    simp [hl]

theorem calls_dnNspConnInit (c : Conn) (skb : Skb) : Calls [.stateChange] (dnNspConnInit c skb).2 := by
  unfold dnNspConnInit; split <;> simp [Event.call]

theorem calls_dnNspConnConf (cfg : Config) (c : Conn) (skb : Skb) :
    Calls [.schedulePending, .stateChange] (dnNspConnConf cfg c skb).2 := by
  unfold dnNspConnConf; split
  · split <;> simp [Event.call]
  · exact Calls.nil

theorem calls_dnNspDiscConf (env : Env) (c : Conn) (skb : Skb) :
    Calls [.stateChange] (dnNspDiscConf env c skb).2 := by
  unfold dnNspDiscConf; split
  · exact calls_discNotify _ _
  · exact Calls.nil

/-- Of the control handlers only `dn_nsp_disc_init` sends a disconnect. -/
theorem controlHandler_sendDisc (cfg : Config) (env : Env) (c : Conn) (skb : Skb) :
    Calls [.stateChange, .schedulePending, .sendDisc] (controlHandler cfg env c skb).2 ∧
      (controlHandler cfg env c skb).2.filter (fun e => e.call == .sendDisc) =
        if skb.nspFlags &&& 0x70 = 0x30 ∧ 2 ≤ skb.data.length ∧ skb.srcPort ≠ 0 then
          [.sendDisc nspDiscconf nspReasonDc] else [] := by
  unfold controlHandler
  dsimp only
  by_cases h1 : skb.nspFlags &&& 0x70 = 0x10 ∨ skb.nspFlags &&& 0x70 = 0x60
  · have : skb.nspFlags &&& 0x70 ≠ 0x30 := by rcases h1 with h | h <;> rw [h] <;> decide
    rw [if_pos h1, if_neg fun h => this h.1]
    exact ⟨(calls_dnNspConnInit _ _).mono (by decide), (calls_dnNspConnInit _ _).filter_eq_nil (by decide)⟩
  rw [if_neg h1]
  by_cases h2 : skb.nspFlags &&& 0x70 = 0x20
  · rw [if_pos h2, if_neg fun h => by rw [h2] at h; cases h.1]
    exact ⟨(calls_dnNspConnConf _ _ _).mono (by decide), (calls_dnNspConnConf _ _ _).filter_eq_nil (by decide)⟩
  rw [if_neg h2]
  by_cases h3 : skb.nspFlags &&& 0x70 = 0x30
  · obtain ⟨hc, hf⟩ := dnNspDiscInit_sendDisc env c skb
    rw [if_pos h3]
    exact ⟨hc.mono (by decide), by rw [hf]; simp only [h3, true_and]⟩
  have hn : ¬(skb.nspFlags &&& 0x70 = 0x30 ∧ 2 ≤ skb.data.length ∧ skb.srcPort ≠ 0) := fun h => h3 h.1
  rw [if_neg h3, if_neg hn]
  by_cases h4 : skb.nspFlags &&& 0x70 = 0x40
  · rw [if_pos h4]
    exact ⟨(calls_dnNspDiscConf _ _ _).mono (by decide), (calls_dnNspDiscConf _ _ _).filter_eq_nil (by decide)⟩
  · rw [if_neg h4]
    exact ⟨Calls.nil, rfl⟩

theorem calls_controlHandler (cfg : Config) (env : Env) (c : Conn) (skb : Skb) :
    Calls [.stateChange, .schedulePending, .sendDisc] (controlHandler cfg env c skb).2 :=
  (controlHandler_sendDisc cfg env c skb).1

theorem calls_dnReturnedConnInit (c : Conn) : Calls [.stateChange] (dnReturnedConnInit c).2 := by
  unfold dnReturnedConnInit; split <;> simp [Event.call]

theorem calls_dnQueueSkb (env : Env) (c : Conn) (skb : Skb) (other : Bool) :
    Calls [.dataReady] (dnQueueSkb env c skb other).2.2 := by
  unfold dnQueueSkb; split_ifs <;> simp [Event.call]

theorem calls_dataAck {S : List Call} (cfg : Config) (c : Conn) (ev : List Event) (q : Bool)
    (n : UInt16) (h : Calls S ev) (hs : Call.sendDataAck ∈ S) : Calls S (dataAck cfg c ev q n).2 := by
  unfold dataAck; split
  · exact h
  · simpa [Event.call, hs] using h

theorem calls_dataQueued {S : List Call} (cfg : Config) (n : UInt16)
    (u : Conn × Bool × List Event) (h : Calls S u.2.2)
    (hS : [Call.accept, .schedulePending, .sendDataAck] ⊆ S) : Calls S (dataQueued cfg n u).2 := by
  obtain ⟨c, q, ev⟩ := u
  have ha : Call.accept ∈ S := hS (by simp)
  have hp : Call.schedulePending ∈ S := hS (by simp)
  dsimp only [dataQueued, dataCongestion]
  rw [apply_ite Prod.snd]
  refine Calls.ite ?_ ?_ <;> refine calls_dataAck _ _ _ _ _ ?_ (hS (by simp)) <;>
    simp [Event.call, h, ha, hp]

theorem calls_dnNspData (cfg : Config) (env : Env) (c : Conn) (skb : Skb) :
    Calls [.dataReady, .accept, .schedulePending, .sendDataAck] (dnNspData cfg env c skb).2 := by
  unfold dnNspData
  split
  · split
    · exact calls_dataQueued _ _ _ ((calls_dnQueueSkb _ _ _ _).mono (by simp)) (by simp)
    · exact calls_dataAck _ _ _ _ _ .nil (by simp)
  · exact Calls.nil

theorem calls_othQueued {S : List Call} (n : UInt16) (u : Conn × Bool × List Event)
    (h : Calls S u.2.2) (hS : [Call.accept, .sendOthAck] ⊆ S) : Calls S (othQueued n u).2 := by
  obtain ⟨c, q, ev⟩ := u
  have ha : Call.accept ∈ S := hS (by simp)
  have ho : Call.sendOthAck ∈ S := hS (by simp)
  cases q <;> simp [othQueued, Event.call, h, ha, ho]

theorem calls_dnNspOtherdata (env : Env) (c : Conn) (skb : Skb) :
    Calls [.dataReady, .accept, .sendOthAck] (dnNspOtherdata env c skb).2 := by
  unfold dnNspOtherdata
  split
  · split
    · exact calls_othQueued _ _ ((calls_dnQueueSkb _ _ _ _).mono (by simp)) (by simp)
    · simp [Event.call]
  · exact Calls.nil

theorem calls_lsUpdate (c : Conn) (lsflags fc : UInt8) :
    Calls [.nspOutput] (lsUpdate c lsflags fc).2.2 := by
  unfold lsUpdate
  simp only [apply_ite Prod.snd]
  repeat' apply Calls.ite
  all_goals simp [Event.call]

theorem calls_dnNspLinkservice (c : Conn) (skb : Skb) :
    Calls [.accept, .nspOutput, .stateChange, .sendOthAck] (dnNspLinkservice c skb).2 := by
  unfold dnNspLinkservice
  split
  · simp only [apply_ite Prod.snd]
    refine Calls.ite .nil (Calls.ite ?_ (by simp [Event.call]))
    simp only [lsAccept, Calls.cons_iff, Calls.append_iff]
    exact ⟨⟨⟨by simp [Event.call], (calls_lsUpdate _ _ _).mono (by simp)⟩,
      Calls.ite (by simp [Event.call]) .nil⟩, by simp [Event.call]⟩
  · exact Calls.nil

/-- The calls `dn_nsp_backlog_rcv` and `dn_returned_conn_init` may make. -/
def backlogCalls : List Call :=
  [.stateChange, .dataReady, .checkXmitQueue, .sendDisc, .sendDataAck, .sendOthAck, .nspOutput,
    .schedulePending, .accept]

theorem calls_dataPath (cfg : Config) (env : Env) (c : Conn) (skb : Skb) :
    Calls (backlogCalls.erase .sendDisc) (dataPath cfg env c skb).2 := by
  have hp := calls_ccPromote cfg c skb
  have ha := calls_dnProcessAck env (ccPromote cfg c skb).1 (ackOther skb.nspFlags) skb.data
  unfold dataPath dataHandler
  dsimp only
  split
  · refine Calls.append_iff.2 ⟨Calls.append_iff.2 ⟨hp.mono (by decide), ha.mono (by decide)⟩, ?_⟩
    split
    · exact (calls_dnNspLinkservice _ _).mono (by decide)
    · split
      · exact (calls_dnNspOtherdata _ _ _).mono (by decide)
      · exact (calls_dnNspData _ _ _ _).mono (by decide)
  · exact Calls.append_iff.2 ⟨hp.mono (by decide), ha.mono (by decide)⟩

theorem calls_step (cfg : Config) (c : Conn) (i : Input) : Calls backlogCalls (step cfg c i).2 :=
  step_cases (fun r => Calls backlogCalls r.2) cfg c i ((calls_dnReturnedConnInit c).mono (by decide))
    .nil (fun _ _ _ => (calls_controlHandler _ _ _ _).mono (by decide)) .nil
    (fun _ _ => (calls_dataPath _ _ _ _).mono (by decide))

/-- The calls only `dn_nsp_rx_packet` makes, never the handlers it hands frames to: `dst_set` for
a new route, the martian log and `dn_nsp_return_disc`. -/
def entryCalls : List Call := [.dstSet, .logMartian, .returnDisc]

/-- An event the entry point makes itself. -/
def Event.entryOnly (e : Event) : Bool := entryCalls.contains e.call

theorem Calls.filter_entryOnly {evs : List Event} (h : Calls backlogCalls evs) :
    evs.filter (fun e => !e.entryOnly) = evs :=
  List.filter_eq_self.2 fun e he => by
    have hc := h e he
    revert hc; unfold Event.entryOnly; generalize e.call = f; cases f <;> decide

theorem calls_dnNspNoSocket (skb : Skb) (reason : UInt16) :
    Calls [.returnDisc] (dnNspNoSocket skb reason) := by
  unfold dnNspNoSocket
  repeat' apply Calls.ite
  all_goals simp [Event.call]

@[simp] theorem filter_entryOnly_dnNspNoSocket (skb : Skb) (reason : UInt16) :
    (dnNspNoSocket skb reason).filter (fun e => !e.entryOnly) = [] :=
  List.filter_eq_nil_iff.2 fun e he => by
    simp [Event.entryOnly, List.mem_singleton.1 (calls_dnNspNoSocket skb reason e he), entryCalls]

/-- The entry point's own calls accept nothing. -/
@[simp] theorem accepted_filter_entryOnly (p : SegKind → Bool) (evs : List Event) :
    accepted p (evs.filter fun e => !e.entryOnly) = accepted p evs := by
  unfold accepted
  rw [List.filterMap_filter]
  congr 1; funext e; cases e <;> rfl

/-- A disconnect-initiate with its reason, not returned, from a port that is not zero: a frame
`dn_nsp_disc_init` answers with a disconnect-confirm. -/
def Input.NamesDiscInit : Input → Prop
  | .backlog _ skb => skb.rtFlags.rts = false ∧ skb.nspFlags &&& 0x0c = 0x08 ∧
      skb.nspFlags &&& 0x70 = 0x30 ∧ 2 ≤ skb.data.length ∧ skb.srcPort ≠ 0
  | .returnedConnInit => False

instance (i : Input) : Decidable i.NamesDiscInit := by
  cases i <;> unfold Input.NamesDiscInit <;> infer_instance

theorem step_sendDisc (cfg : Config) (c : Conn) (i : Input) :
    (step cfg c i).2.filter (fun e => e.call == .sendDisc) =
      if i.NamesDiscInit then [.sendDisc nspDiscconf nspReasonDc] else [] := by
  cases i with
  | returnedConnInit =>
    exact ((calls_dnReturnedConnInit c).filter_eq_nil (by decide)).trans (if_neg id).symm
  | backlog env skb =>
    show (dnNspBacklogRcv cfg env c skb).2.filter _ = _
    simp only [Input.NamesDiscInit]
    unfold dnNspBacklogRcv
    by_cases hr : skb.rtFlags.rts = true
    · simp [hr]
    by_cases hc : skb.nspFlags &&& 0x0c = 0x08
    · rw [if_neg hr, if_pos hc, (controlHandler_sendDisc cfg env c skb).2]
      simp only [Bool.not_eq_true] at hr
      simp only [hr, hc, true_and]
    · have hnot : ¬ (skb.rtFlags.rts = false ∧ skb.nspFlags &&& 0x0c = 0x08 ∧
          skb.nspFlags &&& 0x70 = 0x30 ∧ 2 ≤ skb.data.length ∧ skb.srcPort ≠ 0) := fun h => hc h.2.1
      rw [if_neg hr, if_neg hc, if_neg hnot]
      split
      · rfl
      · exact (calls_dataPath _ _ _ _).filter_eq_nil (by decide)

/-- Over every run, the disconnects sent are exactly one disconnect-confirm, reason
`NSP_REASON_DC`, for each disconnect-initiate that carries its reason and names its port,
whatever the state of the connection: a retransmitted disconnect-initiate is answered again, one
from port zero never, and no other frame is answered with a disconnect. -/
theorem disc_confirms_answer_disc_inits (cfg : Config) (c : Conn) (is : List Input) :
    (run cfg c is).2.filter (fun e => e.call == .sendDisc) =
      (is.filter fun i => decide i.NamesDiscInit).map fun _ => .sendDisc nspDiscconf nspReasonDc := by
  induction is generalizing c with
  | nil => rfl
  | cons i is ih =>
    rw [run_cons, List.filter_append, step_sendDisc, ih, List.filter_cons]
    by_cases h : i.NamesDiscInit <;> simp [h]

/-- The `reason` of `dn_nsp_rx_packet` once `dn_find_listener` has looked at a connect-initiate:
`NSP_REASON_NL`, or the reason `ci_err_table` gives the stage that failed. -/
def ciReason (user : UsernameParser) (f : RawFrame) : UInt16 :=
  match (dnFindListener user f).1 with
  | none => nspReasonNl
  | some e => (ciErrTable e).1

/-- A connect-initiate under 9 bytes fails at the stage whose reason is `NSP_REASON_OK`. -/
theorem ciReason_of_short (user : UsernameParser) (f : RawFrame) (h : f.data.length < 9) :
    ciReason user f = nspReasonOk := by
  rw [ciReason, dnFindListener_of_short user f h]; rfl

/-- Only a connect-initiate that was not returned, of two bytes or more, is rejected. -/
theorem dnNspRxPacket_rejected (user : UsernameParser) (f : RawFrame) (skb : Skb) (e : Fin 8)
    (h : (dnNspRxPacket user f).1 = .rejected skb e) :
    f.rtFlags.rts = false ∧ (f.byte 0 = 0x18 ∨ f.byte 0 = 0x68) ∧ 2 ≤ f.data.length := by
  unfold dnNspRxPacket at h
  by_cases h2 : f.data.length < 2
  · rw [if_pos h2] at h; cases h
  by_cases h83 : f.byte 0 &&& 0x83 ≠ 0
  · rw [if_neg h2, if_pos h83] at h; cases h
  by_cases hres : f.byte 0 &&& 0x0c = 0x08 ∧
      (f.byte 0 &&& 0x70 = 0x00 ∨ f.byte 0 &&& 0x70 = 0x70 ∨ f.byte 0 &&& 0x70 = 0x50)
  · rw [if_neg h2, if_neg h83, if_pos hres] at h; cases h
  rw [if_neg h2, if_neg h83, if_neg hres] at h
  by_cases hci : f.byte 0 &&& 0x0c = 0x08 ∧ (f.byte 0 &&& 0x70 = 0x10 ∨ f.byte 0 &&& 0x70 = 0x60)
  · by_cases hr : f.rtFlags.rts = true
    · rw [if_pos hci, if_pos hr] at h; split at h <;> cases h
    exact ⟨by simpa using hr, connInit_flags _ (not_not.1 h83) hci.1 hci.2, by omega⟩
  -- every other frame is freed or looked up by its ports
  rw [if_neg hci] at h
  repeat' split at h
  all_goals cases h

/-- A connect-confirm of three bytes or more that was not returned is looked up by its ports. -/
theorem dnNspRxPacket_connConf (user : UsernameParser) (f : RawFrame) (hr : f.rtFlags.rts = false)
    (hl : 3 ≤ f.data.length) (hb : f.byte 0 = 0x28) :
    ∃ skb : Skb, (dnNspRxPacket user f).1 = .bySkb skb ∧ skb.nspFlags = 0x28 ∧
      skb.rtFlags = f.rtFlags := by
  unfold dnNspRxPacket
  rw [if_neg (by omega), hb, if_neg (by decide), if_neg (by decide), if_neg (by decide), hr,
    if_neg Bool.false_ne_true, if_neg (by omega)]
  split <;> exact ⟨_, rfl, rfl, rfl⟩

theorem dnNspNoSocket_connConf (skb : Skb) (r : UInt16) (hr : skb.rtFlags.rts = false)
    (hb : skb.nspFlags = 0x28) :
    dnNspNoSocket skb r = if r ≠ nspReasonOk then [.returnDisc nspDiscconf r] else [] := by
  unfold dnNspNoSocket
  rw [hr, if_neg Bool.false_ne_true, hb]
  simp only [show (0x28 : UInt8) &&& 0x0c = 0x08 by decide, and_true,
    if_neg (show ¬((0x28 : UInt8) &&& 0x70 = 0x10 ∨ (0x28 : UInt8) &&& 0x70 = 0x60) by decide),
    if_pos (show (0x28 : UInt8) &&& 0x70 = 0x20 by decide)]

/-- `dn_nsp_no_socket` answers only the two connect messages. -/
theorem dnNspNoSocket_of_not_connect (skb : Skb) (r : UInt16)
    (hn : ¬(skb.nspFlags &&& 0x0c = 0x08 ∧ (skb.nspFlags &&& 0x70 = 0x10 ∨
      skb.nspFlags &&& 0x70 = 0x60 ∨ skb.nspFlags &&& 0x70 = 0x20))) :
    dnNspNoSocket skb r = [] := by
  unfold dnNspNoSocket
  by_cases h0 : skb.nspFlags &&& 0x0c = 0x08
  · have h1 : ¬(skb.nspFlags &&& 0x70 = 0x10 ∨ skb.nspFlags &&& 0x70 = 0x60) := fun h =>
      hn ⟨h0, h.elim .inl (.inr ∘ .inl)⟩
    simp only [if_neg h1, if_neg fun h => hn ⟨h0, .inr (.inr h)⟩, ite_self]
  · simp only [h0, and_false, if_false, ite_self]

/-- Without a socket, a frame that was not returned leaves the connection as it was. -/
theorem rxConn_not_found (cfg : Config) (user : UsernameParser) (rx : RxEnv) (env : Env) (c : Conn)
    (f : RawFrame) (hf : rx.found = false) (hr : f.rtFlags.rts = false) :
    (rxConn cfg user rx env c f).1 = c := by
  unfold rxConn
  rcases dnNspRxPacket_cases user f with h | ⟨hr', -⟩ | ⟨-, -, -, skb, h⟩ | ⟨-, skb, e, h⟩ |
      ⟨-, -, -, -, h⟩
  · rw [h]
  · rw [hr] at hr'; cases hr'
  all_goals simp [h, hf]

/-- A connect-initiate without a socket is refused with the reason `dn_find_listener` left. -/
theorem rxConn_not_found_connInit (cfg : Config) (user : UsernameParser) (rx : RxEnv) (env : Env)
    (c : Conn) (f : RawFrame) (hf : rx.found = false) (hr : f.rtFlags.rts = false)
    (hb : f.byte 0 = 0x18 ∨ f.byte 0 = 0x68) (hl : 2 ≤ f.data.length) :
    (rxConn cfg user rx env c f).2.filter Event.isMessage =
      if ciReason user f ≠ nspReasonOk then [.returnDisc nspDiscinit (ciReason user f)] else [] := by
  have hrx := dnNspRxPacket_connInit user f hl hb
  rw [hr, if_neg Bool.false_ne_true] at hrx
  simp only [rxConn, hrx, ciReason]
  have hno := dnNspNoSocket_connInit ⟨f.byte 0, f.rtFlags, f.word 3, f.word 1, 0, f.data.drop 9, f.truesize⟩
  rcases (dnFindListener user f).1 with _ | e
  · simp [hf, hno _ hb hr, nspReasonNl, nspReasonOk, Event.isMessage]
  · simp [hno _ hb hr, nspReasonOk, apply_ite (List.filter Event.isMessage), Event.isMessage]

/-- A connect-confirm without a socket is answered with `NSP_REASON_NL`. -/
theorem rxConn_not_found_connConf (cfg : Config) (user : UsernameParser) (rx : RxEnv) (env : Env)
    (c : Conn) (f : RawFrame) (hf : rx.found = false) (hr : f.rtFlags.rts = false)
    (hl : 3 ≤ f.data.length) (hb : f.byte 0 = 0x28) :
    (rxConn cfg user rx env c f).2.filter Event.isMessage = [.returnDisc nspDiscconf nspReasonNl] := by
  obtain ⟨skb, h, hskb, hskr⟩ := dnNspRxPacket_connConf user f hr hl hb
  simp only [rxConn, h, hf, Bool.false_eq_true, if_false]
  rw [dnNspNoSocket_connConf skb _ (hskr ▸ hr) hskb]
  simp [nspReasonNl, nspReasonOk, Event.isMessage]

/-- Any other frame without a socket, a truncated connect-initiate among them, gets no message. -/
theorem rxConn_not_found_quiet (cfg : Config) (user : UsernameParser) (rx : RxEnv) (env : Env)
    (c : Conn) (f : RawFrame) (hf : rx.found = false)
    (hci : ¬(f.rtFlags.rts = false ∧ (f.byte 0 = 0x18 ∨ f.byte 0 = 0x68) ∧ 2 ≤ f.data.length))
    (hcc : ¬(f.rtFlags.rts = false ∧ 3 ≤ f.data.length ∧ f.byte 0 = 0x28)) :
    (rxConn cfg user rx env c f).2.filter Event.isMessage = [] := by
  unfold rxConn
  rcases dnNspRxPacket_cases user f with h | ⟨-, d, s, h⟩ | ⟨hr, hb, hl, skb, h⟩ | ⟨-, skb, e, h⟩ |
      ⟨hr, hl, h83, h0c, h⟩
  · rw [h]; rfl
  · simp only [h]
    split
    · exact List.filter_eq_nil_iff.2 fun e he => by simp [dnReturnedConnInit_quiet c e he]
    · rfl
  · exact absurd ⟨hr, hb, by omega⟩ hci
  · exact absurd (dnNspRxPacket_rejected user f skb e h) hci
  · have hn : ¬(f.byte 0 &&& 0x0c = 0x08 ∧ (f.byte 0 &&& 0x70 = 0x10 ∨
        f.byte 0 &&& 0x70 = 0x60 ∨ f.byte 0 &&& 0x70 = 0x20)) := by
      rintro ⟨h0, ht⟩
      rcases h0c h0 with hb | hb | hb
      · exact hcc ⟨hr, hl, hb⟩
      all_goals rw [hb] at ht; revert ht; decide
    simp only [h, hf, Bool.false_eq_true, if_false]
    rw [dnNspNoSocket_of_not_connect]
    · rfl
    · exact hn

/-- A frame that finds no socket leaves the connection as it was, unless it is our
connect-initiate coming back to a connection waiting in `DN_CI`, which it ends in `DN_NC`. It is
answered exactly when it is a connect-initiate or a connect-confirm, not returned, with a
reason that is not `NSP_REASON_OK`: a connect-initiate with a disconnect-initiate carrying the
reason `dn_find_listener` left, a connect-confirm with a disconnect-confirm carrying
`NSP_REASON_NL`. Every other frame without a socket, a truncated connect-initiate among them,
gets no answer. -/
theorem no_socket_replies_only_to_connects (cfg : Config) (user : UsernameParser) (rx : RxEnv)
    (env : Env) (c : Conn) (f : RawFrame) (hf : rx.found = false) :
    (rxConn cfg user rx env c f).1 =
      (if ReturnedToConn rx f ∧ c.state = .ci then
        { c with state := .nc, skState := .close, skErr := ehostunreach } else c) ∧
    (rxConn cfg user rx env c f).2.filter Event.isMessage =
      if f.rtFlags.rts = false ∧ (f.byte 0 = 0x18 ∨ f.byte 0 = 0x68) ∧
          ciReason user f ≠ nspReasonOk then
        [.returnDisc nspDiscinit (ciReason user f)]
      else if f.rtFlags.rts = false ∧ 3 ≤ f.data.length ∧ f.byte 0 = 0x28 then
        [.returnDisc nspDiscconf nspReasonNl]
      else [] := by
  refine ⟨?_, ?_⟩
  · cases hr : f.rtFlags.rts
    · rw [rxConn_not_found cfg user rx env c f hf hr,
        if_neg fun h => Bool.noConfusion (hr.symm.trans h.1.1)]
    · exact rxConn_conn_of_rts cfg user rx env c f hr
  by_cases hci : f.rtFlags.rts = false ∧ (f.byte 0 = 0x18 ∨ f.byte 0 = 0x68) ∧ 2 ≤ f.data.length
  · obtain ⟨hr, hb, hl⟩ := hci
    have h28 : f.byte 0 ≠ 0x28 := by rcases hb with h | h <;> rw [h] <;> decide
    rw [rxConn_not_found_connInit cfg user rx env c f hf hr hb hl]
    simp only [hr, hb, h28, true_and, and_false, if_false]
  by_cases hcc : f.rtFlags.rts = false ∧ 3 ≤ f.data.length ∧ f.byte 0 = 0x28
  · have hnci : ¬(f.byte 0 = 0x18 ∨ f.byte 0 = 0x68) := by rw [hcc.2.2]; decide
    rw [rxConn_not_found_connConf cfg user rx env c f hf hcc.1 hcc.2.1 hcc.2.2,
      if_neg fun h => hnci h.2.1, if_pos hcc]
  have hreason : ¬(f.rtFlags.rts = false ∧ (f.byte 0 = 0x18 ∨ f.byte 0 = 0x68) ∧
      ciReason user f ≠ nspReasonOk) := fun ⟨hr, hb, hn⟩ =>
    hn (ciReason_of_short user f (by by_contra; exact hci ⟨hr, hb, by omega⟩))
  rw [if_neg hreason, if_neg hcc]
  exact rxConn_not_found_quiet cfg user rx env c f hf hci hcc

/-- Lookups that find no socket. -/
def noSocketRxEnv : RxEnv := { sampleRxEnv with found := false }

/-- A connect-confirm to port 1 from port 2, with nothing after its ports. -/
def sampleConnConf : RawFrame := ⟨sampleRtFlags, [0x28, 0x01, 0x00, 0x02, 0x00], fun _ => 0, 512⟩

theorem sampleConnConf_no_socket_reply :
    noSocketRxEnv.found = false ∧
      ((rxConn sampleConfig noUsernames noSocketRxEnv sampleEnv ccConn sampleConnConf).1 =
          (if ReturnedToConn noSocketRxEnv sampleConnConf ∧ ccConn.state = .ci then
            { ccConn with state := .nc, skState := .close, skErr := ehostunreach } else ccConn) ∧
        (rxConn sampleConfig noUsernames noSocketRxEnv sampleEnv ccConn sampleConnConf).2.filter
            Event.isMessage =
          if sampleConnConf.rtFlags.rts = false ∧
              (sampleConnConf.byte 0 = 0x18 ∨ sampleConnConf.byte 0 = 0x68) ∧
              ciReason noUsernames sampleConnConf ≠ nspReasonOk then
            [.returnDisc nspDiscinit (ciReason noUsernames sampleConnConf)]
          else if sampleConnConf.rtFlags.rts = false ∧ 3 ≤ sampleConnConf.data.length ∧
              sampleConnConf.byte 0 = 0x28 then
            [.returnDisc nspDiscconf nspReasonNl]
          else []) :=
  ⟨rfl, no_socket_replies_only_to_connects _ _ _ _ _ _ rfl⟩

end DecnetNsp
