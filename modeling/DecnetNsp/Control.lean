import DecnetNsp.Ack

/-!
# Control messages

The handlers of connect-init (on a listener), connect-confirm, connect-ack, disconnect-init,
disconnect-confirm and a returned connect-init. Each is followed by the one lemma later proofs
use about it: what it does to the pair `(scp->state, sk->sk_state)`, and which fields it may
write. The optional-data capture shared by connect-confirm and disconnect-init is `optdataIn`.
It copies `dlen` bytes from offset 1 of the body `b` once `dlen <= 16 && dlen <= skb->len`, where
`skb->len` counts the length byte too, so at `dlen = |b|` the check passes and the last byte copied
lies past the end of the frame (`optdata_copies_past_body`).
-/

namespace DecnetNsp

/-- `ECONNREFUSED`, `EHOSTUNREACH` and `SHUTDOWN_MASK` of the Linux headers. -/
def econnrefused : Nat := 111
def ehostunreach : Nat := 113
def shutdownMask : UInt8 := 3

/-- Modelled from the spec: `sk_acceptq_is_full`, a listener's backlog without room (§3). -/
def skAcceptqIsFull (c : Conn) : Bool := c.skMaxAckBacklog ≤ c.skAckBacklog

/-- `dn_nsp_conn_init`: a connect-initiate for a listener joins its accept queue. -/
def dnNspConnInit (c : Conn) (skb : Skb) : Conn × List Event :=
  if skAcceptqIsFull c then (c, [])
  else
    ({ c with skAckBacklog := c.skAckBacklog + 1, skReceiveQueue := c.skReceiveQueue ++ [skb] },
      [.stateChange])

/-- The optional-data capture of `dn_nsp_conn_conf` and `dn_nsp_disc_init`, on the bytes `b`
after the fixed fields: when the length byte `dlen` passes `dlen <= 16 && dlen <= skb->len`,
`opt_optl` becomes `dlen` and `dlen` bytes are copied from offset 1 of `b`. -/
def optdataIn (o : OptdataDn) (b : List UInt8) : OptdataDn :=
  match b with
  | [] => o
  | dlen :: _ =>
    if dlen.toNat ≤ 16 ∧ dlen.toNat ≤ b.length then
      { o with
        optOptl := dlen.toUInt16
        optData := fun i => if i.val < dlen.toNat then b[i.val + 1]? else o.optData i }
    else o

/-- `dn_nsp_conn_conf`. In `DN_CI` or `DN_CD` the connection runs, with the peer's port and
capabilities; the segment size falls back to the buffer size off Ethernet, and a peer without
flow control gets the large window. -/
def dnNspConnConf (cfg : Config) (c : Conn) (skb : Skb) : Conn × List Event :=
  match skb.data with
  | services :: info :: s0 :: s1 :: b =>
    if c.state = .ci ∨ c.state = .cd then
      ({ c with
          persist := 0
          conntimer := 0
          addrrem := skb.srcPort
          skState := .established
          state := .run
          servicesRem := services
          infoRem := info
          segsizeRem :=
            if skb.rtFlags.short || !skb.rtFlags.ie then cfg.segbufSegsize else le16 s0 s1
          maxWindow :=
            if services &&& nspFcMask = nspFcNone then cfg.decnetNoFcMaxCwnd else c.maxWindow
          conndataIn := optdataIn c.conndataIn b },
        .schedulePending .idle :: if !c.dead then [.stateChange] else [])
    else (c, [])
  | _ => (c, [])

/-- `dn_nsp_conn_ack`. -/
def dnNspConnAck (cfg : Config) (c : Conn) : Conn :=
  if c.state = .ci then
    { c with state := .cd, persist := 0, conntimer := cfg.decnetOutgoingTimer * cfg.hz }
  else c

/-- The tail of `dn_nsp_disc_init` and `dn_nsp_disc_conf`: a live socket is told and marked
disconnecting, and the destruction timer is armed. -/
def discNotify (env : Env) (c : Conn) : Conn × List Event :=
  ({ c with
      sockState :=
        if !c.dead ∧ c.sockState ≠ .unconnected then .disconnecting else c.sockState
      persistFxn := .dnDestroyTimer
      persist := env.persist },
    if !c.dead then [.stateChange] else [])

/-- The state switch of `dn_nsp_disc_init`. -/
def discInitState (c : Conn) : Conn :=
  match c.state with
  | .ci | .cd => { c with state := .rj, skErr := econnrefused, conntimer := 0 }
  | .run => { c with skShutdown := c.skShutdown ||| shutdownMask, state := .dn }
  | .di => { c with state := .dic }
  | _ => c

/-- `dn_nsp_disc_init`. A disconnect-confirm goes back when the remote port is known. -/
def dnNspDiscInit (env : Env) (c : Conn) (skb : Skb) : Conn × List Event :=
  match skb.data with
  | r0 :: r1 :: b =>
    let disc := optdataIn
      { c.discdataIn with optStatus := le16 r0 r1, optOptl := 0, optData := fun _ => some 0 } b
    let n := discNotify env
      (discInitState { c with discdataIn := disc, addrrem := skb.srcPort, skState := .close })
    (n.1, n.2 ++ if n.1.addrrem ≠ 0 then [.sendDisc nspDiscconf nspReasonDc] else [])
  | _ => (c, [])

/-- The state switch of `dn_nsp_disc_conf`, with the `DN_RUN` case falling through to `DN_CC`. -/
def discConfState (reason : UInt16) (c : Conn) : Conn :=
  match c.state with
  | .ci => { c with state := .nr }
  | .dr =>
    if reason = nspReasonDc then { c with state := .drc }
    else if reason = nspReasonNl then { c with state := .cn } else c
  | .di => { c with state := .dic }
  | .run => { c with skShutdown := c.skShutdown ||| shutdownMask, state := .cn }
  | .cc => { c with state := .cn }
  | _ => c

/-- `dn_nsp_disc_conf`: the frame is exactly its reason. -/
def dnNspDiscConf (env : Env) (c : Conn) (skb : Skb) : Conn × List Event :=
  match skb.data with
  | [r0, r1] => discNotify env (discConfState (le16 r0 r1) { c with skState := .close })
  | _ => (c, [])

/-- `dn_returned_conn_init`: our connect-initiate came back, so the peer is unreachable. -/
def dnReturnedConnInit (c : Conn) : Conn × List Event :=
  if c.state = .ci then
    ({ c with state := .nc, skState := .close, skErr := ehostunreach },
      if !c.dead then [.stateChange] else [])
  else (c, [])

section Capture

variable (o : OptdataDn) (dlen : UInt8) (rest : List UInt8)

/-- A length byte within both bounds of the check sets `opt_optl` to it. -/
theorem optdataIn_optOptl (h : dlen.toNat ≤ 16 ∧ dlen.toNat ≤ rest.length + 1) :
    (optdataIn o (dlen :: rest)).optOptl = dlen.toUInt16 := by
  simp [optdataIn, h]

/-- The copied bytes are `rest[i]?`: a byte of the frame while `i < rest.length`. -/
theorem optdataIn_optData (h : dlen.toNat ≤ 16 ∧ dlen.toNat ≤ rest.length + 1) (i : Fin 16)
    (hi : i.val < dlen.toNat) : (optdataIn o (dlen :: rest)).optData i = rest[i.val]? := by
  simp [optdataIn, h, hi]

/-- A length byte over either bound copies nothing. -/
theorem optdataIn_of_not (h : ¬ (dlen.toNat ≤ 16 ∧ dlen.toNat ≤ rest.length + 1)) :
    optdataIn o (dlen :: rest) = o := by
  simp only [optdataIn, List.length_cons]
  rw [if_neg h]

end Capture

/-- With its fixed fields present in `DN_CI` or `DN_CD`, `dn_nsp_conn_conf` captures the rest
into `conndata_in`. -/
theorem dnNspConnConf_conndataIn (cfg : Config) (c : Conn) (skb : Skb) {sv inf s0 s1 : UInt8}
    {b : List UInt8} (hs : c.state = .ci ∨ c.state = .cd)
    (hd : skb.data = sv :: inf :: s0 :: s1 :: b) :
    (dnNspConnConf cfg c skb).1.conndataIn = optdataIn c.conndataIn b := by
  unfold dnNspConnConf
  rw [hd]
  dsimp only
  rw [if_pos hs]

@[simp] theorem discInitState_discdataIn (c : Conn) : (discInitState c).discdataIn = c.discdataIn := by
  unfold discInitState; split <;> rfl

/-- With its reason present, `dn_nsp_disc_init` captures the rest into a cleared `discdata_in`. -/
theorem dnNspDiscInit_discdataIn (env : Env) (c : Conn) (skb : Skb) {r0 r1 : UInt8}
    {b : List UInt8} (hd : skb.data = r0 :: r1 :: b) :
    (dnNspDiscInit env c skb).1.discdataIn =
      optdataIn { c.discdataIn with optStatus := le16 r0 r1, optOptl := 0, optData := fun _ => some 0 } b := by
  unfold dnNspDiscInit
  rw [hd]
  simp only [discNotify, discInitState_discdataIn]

/-- A length byte equal to the body's length is taken, and its last byte is read past the end. -/
theorem optdataIn_past_body (o : OptdataDn) {n : UInt8} {rest : List UInt8}
    (hn : n.toNat = rest.length + 1) (h16 : n.toNat ≤ 16) :
    (optdataIn o (n :: rest)).optOptl = n.toUInt16 ∧
      (optdataIn o (n :: rest)).optData ⟨rest.length, by omega⟩ = none := by
  have h : n.toNat ≤ 16 ∧ n.toNat ≤ rest.length + 1 := ⟨h16, hn.le⟩
  refine ⟨optdataIn_optOptl o n rest h, ?_⟩
  rw [optdataIn_optData o n rest h _ (by simp only; omega)]
  exact List.getElem?_eq_none (Nat.le_refl _)

theorem optdata_copies_past_body {n : UInt8} {rest : List UInt8}
    (hn : n.toNat = rest.length + 1) (h16 : n.toNat ≤ 16) :
    (∀ (env : Env) (c : Conn) (skb : Skb) (r0 r1 : UInt8), skb.data = r0 :: r1 :: n :: rest →
      (dnNspDiscInit env c skb).1.discdataIn.optOptl = n.toUInt16 ∧
        (dnNspDiscInit env c skb).1.discdataIn.optData ⟨rest.length, by omega⟩ = none) ∧
    (∀ (cfg : Config) (c : Conn) (skb : Skb) (sv inf s0 s1 : UInt8),
      c.state = .ci ∨ c.state = .cd → skb.data = sv :: inf :: s0 :: s1 :: n :: rest →
      (dnNspConnConf cfg c skb).1.conndataIn.optOptl = n.toUInt16 ∧
        (dnNspConnConf cfg c skb).1.conndataIn.optData ⟨rest.length, by omega⟩ = none) := by
  constructor
  · intro env c skb r0 r1 hd
    rw [dnNspDiscInit_discdataIn env c skb hd]
    exact optdataIn_past_body _ hn h16
  · intro cfg c skb sv inf s0 s1 hs hd
    rw [dnNspConnConf_conndataIn cfg c skb hs hd]
    exact optdataIn_past_body _ hn h16

theorem one_byte_body_copies_past_body :
    ((1 : UInt8).toNat = ([] : List UInt8).length + 1 ∧ (1 : UInt8).toNat ≤ 16) ∧
    ((∀ (env : Env) (c : Conn) (skb : Skb) (r0 r1 : UInt8), skb.data = [r0, r1, 1] →
      (dnNspDiscInit env c skb).1.discdataIn.optOptl = (1 : UInt8).toUInt16 ∧
        (dnNspDiscInit env c skb).1.discdataIn.optData ⟨0, by decide⟩ = none) ∧
    (∀ (cfg : Config) (c : Conn) (skb : Skb) (sv inf s0 s1 : UInt8),
      c.state = .ci ∨ c.state = .cd → skb.data = [sv, inf, s0, s1, 1] →
      (dnNspConnConf cfg c skb).1.conndataIn.optOptl = (1 : UInt8).toUInt16 ∧
        (dnNspConnConf cfg c skb).1.conndataIn.optData ⟨0, by decide⟩ = none)) :=
  ⟨⟨rfl, by decide⟩, @optdata_copies_past_body 1 [] rfl (by decide)⟩

/-- The lifecycle pair `(scp->state, sk->sk_state)`. -/
def Conn.life (c : Conn) : DnState × TcpState := (c.state, c.skState)

/-- The state `dn_nsp_disc_init` moves to from `s`. -/
def discInitNext : DnState → DnState
  | .ci | .cd => .rj
  | .run => .dn
  | .di => .dic
  | s => s

/-- The state `dn_nsp_disc_conf` moves to from `s` on `reason`. -/
def discConfNext (reason : UInt16) : DnState → DnState
  | .ci => .nr
  | .dr => if reason = nspReasonDc then .drc else if reason = nspReasonNl then .cn else .dr
  | .di => .dic
  | .run | .cc => .cn
  | s => s

/-- Everything a handler of this file can do to the lifecycle pair. -/
inductive LifeStep : DnState × TcpState → DnState × TcpState → Prop
  /-- Nothing. -/
  | stay (l : DnState × TcpState) : LifeStep l l
  /-- `dn_nsp_conn_conf` in `DN_CI` or `DN_CD`, or the promotion of `DN_CC`. -/
  | establish (s : DnState) (ss : TcpState) (h : s = .ci ∨ s = .cd ∨ s = .cc) :
      LifeStep (s, ss) (.run, .established)
  /-- `dn_nsp_disc_init`. -/
  | discInit (s : DnState) (ss : TcpState) : LifeStep (s, ss) (discInitNext s, .close)
  /-- `dn_nsp_disc_conf` with its reason. -/
  | discConf (reason : UInt16) (s : DnState) (ss : TcpState) :
      LifeStep (s, ss) (discConfNext reason s, .close)
  /-- `dn_nsp_conn_ack` in `DN_CI`. -/
  | connAck (ss : TcpState) : LifeStep (.ci, ss) (.cd, ss)
  /-- `dn_returned_conn_init` in `DN_CI`. -/
  | returned (ss : TcpState) : LifeStep (.ci, ss) (.nc, .close)

theorem dnNspConnInit_life (c : Conn) (skb : Skb) : (dnNspConnInit c skb).1.life = c.life := by
  unfold dnNspConnInit; split <;> rfl

theorem dnNspConnConf_life (cfg : Config) (c : Conn) (skb : Skb) :
    LifeStep c.life (dnNspConnConf cfg c skb).1.life := by
  unfold dnNspConnConf
  split
  · split
    next h => exact .establish _ _ (h.imp_right .inl)
    next => exact .stay _
  · exact .stay _

theorem dnNspConnAck_life (cfg : Config) (c : Conn) : LifeStep c.life (dnNspConnAck cfg c).life := by
  unfold dnNspConnAck Conn.life; split
  next h => rw [h]; exact .connAck _
  next => exact .stay _

@[simp] theorem discNotify_state (env : Env) (c : Conn) : (discNotify env c).1.state = c.state := rfl

@[simp] theorem discNotify_skState (env : Env) (c : Conn) :
    (discNotify env c).1.skState = c.skState := rfl

theorem discInitState_state (c : Conn) : (discInitState c).state = discInitNext c.state := by
  cases h : c.state <;> simp [discInitState, discInitNext, h]

@[simp] theorem discInitState_skState (c : Conn) : (discInitState c).skState = c.skState := by
  unfold discInitState; split <;> rfl

theorem dnNspDiscInit_life (env : Env) (c : Conn) (skb : Skb) :
    LifeStep c.life (dnNspDiscInit env c skb).1.life := by
  unfold dnNspDiscInit
  split
  · simp only [Conn.life, discNotify_state, discNotify_skState, discInitState_skState,
      discInitState_state]
    exact .discInit _ _
  · exact .stay _

/-- With its reason present, `dn_nsp_disc_init` closes the socket and takes `discInitNext`. -/
theorem dnNspDiscInit_life_of_data (env : Env) (c : Conn) (skb : Skb) {r0 r1 : UInt8}
    {b : List UInt8} (hd : skb.data = r0 :: r1 :: b) :
    (dnNspDiscInit env c skb).1.life = (discInitNext c.state, .close) := by
  unfold dnNspDiscInit
  rw [hd]
  simp only [Conn.life, discNotify_state, discNotify_skState, discInitState_skState,
    discInitState_state]

theorem discConfState_state (reason : UInt16) (c : Conn) :
    (discConfState reason c).state = discConfNext reason c.state := by
  cases h : c.state <;> simp only [discConfState, discConfNext, h]; split_ifs <;> simp [h]

/-- The state switch of `dn_nsp_disc_conf` writes the state and, from `DN_RUN`, the shutdown bits. -/
theorem discConfState_frame (reason : UInt16) (c : Conn) :
    ∃ s sh, discConfState reason c = { c with state := s, skShutdown := sh } := by
  unfold discConfState
  split
  case h_2 =>
    split
    · exact ⟨_, _, rfl⟩
    · split <;> exact ⟨_, _, rfl⟩
  all_goals exact ⟨_, _, rfl⟩

@[simp] theorem discConfState_skState (reason : UInt16) (c : Conn) :
    (discConfState reason c).skState = c.skState := by
  obtain ⟨_, _, h⟩ := discConfState_frame reason c
  rw [h]

theorem dnNspDiscConf_life (env : Env) (c : Conn) (skb : Skb) :
    LifeStep c.life (dnNspDiscConf env c skb).1.life := by
  unfold dnNspDiscConf
  split
  next r0 r1 _ =>
    simp only [Conn.life, discNotify_state, discNotify_skState, discConfState_skState,
      discConfState_state]
    exact .discConf _ _ _
  · exact .stay _

theorem dnReturnedConnInit_life (c : Conn) : LifeStep c.life (dnReturnedConnInit c).1.life := by
  unfold dnReturnedConnInit Conn.life; split
  next h => rw [h]; exact .returned _
  next => exact .stay _

theorem dnNspConnInit_frame (c : Conn) (skb : Skb) :
    ∃ b, (dnNspConnInit c skb).1 =
      { c with skAckBacklog := b,
               skReceiveQueue :=
                 if skAcceptqIsFull c then c.skReceiveQueue else c.skReceiveQueue ++ [skb] } := by
  unfold dnNspConnInit; split <;> exact ⟨_, rfl⟩

theorem dnNspConnConf_frame (cfg : Config) (c : Conn) (skb : Skb) :
    ∃ p t a ss s sv i sz w cd, (dnNspConnConf cfg c skb).1 =
      { c with persist := p, conntimer := t, addrrem := a, skState := ss, state := s,
               servicesRem := sv, infoRem := i, segsizeRem := sz, maxWindow := w, conndataIn := cd } := by
  unfold dnNspConnConf
  split
  · split <;> exact ⟨_, _, _, _, _, _, _, _, _, _, rfl⟩
  · exact ⟨_, _, _, _, _, _, _, _, _, _, rfl⟩

theorem dnNspConnAck_frame (cfg : Config) (c : Conn) :
    ∃ s p t, dnNspConnAck cfg c = { c with state := s, persist := p, conntimer := t } := by
  unfold dnNspConnAck; split <;> exact ⟨_, _, _, rfl⟩

theorem dnNspDiscInit_frame (env : Env) (c : Conn) (skb : Skb) :
    ∃ dd a ss s e t sh so pf p, (dnNspDiscInit env c skb).1 =
      { c with discdataIn := dd, addrrem := a, skState := ss, state := s, skErr := e,
               conntimer := t, skShutdown := sh, sockState := so, persistFxn := pf, persist := p } := by
  unfold dnNspDiscInit discNotify discInitState
  split
  · dsimp only
    split <;> exact ⟨_, _, _, _, _, _, _, _, _, _, rfl⟩
  · exact ⟨_, _, _, _, _, _, _, _, _, _, rfl⟩

theorem dnNspDiscInit_dead (env : Env) (c : Conn) (skb : Skb) :
    (dnNspDiscInit env c skb).1.dead = c.dead := by
  obtain ⟨_, _, _, _, _, _, _, _, _, _, h⟩ := dnNspDiscInit_frame env c skb
  rw [h]

theorem dnNspDiscConf_frame (env : Env) (c : Conn) (skb : Skb) :
    ∃ ss s sh so pf p, (dnNspDiscConf env c skb).1 =
      { c with skState := ss, state := s, skShutdown := sh, sockState := so, persistFxn := pf,
               persist := p } := by
  unfold dnNspDiscConf
  split
  next r0 r1 _ =>
    obtain ⟨_, _, h⟩ := discConfState_frame (le16 r0 r1) { c with skState := .close }
    unfold discNotify; rw [h]; exact ⟨_, _, _, _, _, _, rfl⟩
  · exact ⟨_, _, _, _, _, _, rfl⟩

theorem dnReturnedConnInit_frame (c : Conn) :
    ∃ s ss e, (dnReturnedConnInit c).1 = { c with state := s, skState := ss, skErr := e } := by
  unfold dnReturnedConnInit; split <;> exact ⟨_, _, _, rfl⟩

theorem dnNspConnConf_of_short (cfg : Config) (c : Conn) (skb : Skb) (h : skb.data.length < 4) :
    dnNspConnConf cfg c skb = (c, []) := by
  unfold dnNspConnConf
  split
  next hd => simp only [hd, List.length_cons] at h; omega
  · rfl

theorem dnNspDiscInit_of_short (env : Env) (c : Conn) (skb : Skb) (h : skb.data.length < 2) :
    dnNspDiscInit env c skb = (c, []) := by
  unfold dnNspDiscInit
  split
  next hd => simp only [hd, List.length_cons] at h; omega
  · rfl

theorem dnNspDiscConf_of_short (env : Env) (c : Conn) (skb : Skb) (h : skb.data.length < 2) :
    dnNspDiscConf env c skb = (c, []) := by
  unfold dnNspDiscConf
  split
  next hd => simp only [hd, List.length_cons] at h; omega
  · rfl

@[simp] theorem accepted_dnNspConnInit (p : SegKind → Bool) (c : Conn) (skb : Skb) :
    accepted p (dnNspConnInit c skb).2 = [] := by
  unfold dnNspConnInit; split <;> rfl

@[simp] theorem accepted_dnNspConnConf (p : SegKind → Bool) (cfg : Config) (c : Conn) (skb : Skb) :
    accepted p (dnNspConnConf cfg c skb).2 = [] := by
  unfold dnNspConnConf; split
  · split
    · dsimp only; split <;> rfl
    · rfl
  · rfl

@[simp] theorem accepted_discNotify (p : SegKind → Bool) (env : Env) (c : Conn) :
    accepted p (discNotify env c).2 = [] := by
  unfold discNotify; dsimp only; split <;> rfl

@[simp] theorem accepted_dnNspDiscInit (p : SegKind → Bool) (env : Env) (c : Conn) (skb : Skb) :
    accepted p (dnNspDiscInit env c skb).2 = [] := by
  unfold dnNspDiscInit; split
  · dsimp only; rw [accepted_append, accepted_discNotify]; split <;> rfl
  · rfl

@[simp] theorem accepted_dnNspDiscConf (p : SegKind → Bool) (env : Env) (c : Conn) (skb : Skb) :
    accepted p (dnNspDiscConf env c skb).2 = [] := by
  unfold dnNspDiscConf; split
  · exact accepted_discNotify ..
  · rfl

@[simp] theorem accepted_dnReturnedConnInit (p : SegKind → Bool) (c : Conn) :
    accepted p (dnReturnedConnInit c).2 = [] := by
  unfold dnReturnedConnInit; split
  · dsimp only; split <;> rfl
  · rfl

end DecnetNsp
