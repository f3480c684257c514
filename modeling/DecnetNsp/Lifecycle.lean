import DecnetNsp.Backlog

/-!
# The lifecycle of a connection

`step_life` says once what any input can do to `(scp->state, sk->sk_state)`: one `LifeStep`.
Everything about the lifecycle follows from it. The two fields stay coupled over every run, and
a connection that has ended stays exactly as it is (`lifecycle_coupled`). The coupling does not
remember a disconnect that left `scp->state` alone: such a connection can still be promoted to
`DN_RUN` (`cc_resumes_after_discInit`).
-/

namespace DecnetNsp

/-- The states in which the connection is over: rejected, no resources, no communication,
disconnect notified, disconnect complete, disconnect-reject complete, closed notified. -/
def DnState.ended : DnState → Bool
  | .rj | .nr | .nc | .dn | .dic | .drc | .cn => true
  | _ => false

/-- The coupling of `scp->state` and `sk->sk_state`: a running connection is established, an
ended one closed. -/
structure Coupled (l : DnState × TcpState) : Prop where
  run : l.1 = .run → l.2 = .established
  ended : l.1.ended → l.2 = .close

instance (l : DnState × TcpState) : Decidable (Coupled l) :=
  decidable_of_iff ((l.1 = .run → l.2 = .established) ∧ (l.1.ended → l.2 = .close))
    ⟨fun h => ⟨h.1, h.2⟩, fun h => ⟨h.1, h.2⟩⟩

theorem discInitNext_ne_run (s : DnState) : discInitNext s ≠ .run := by
  cases s <;> decide

theorem discConfNext_ne_run (reason : UInt16) (s : DnState) : discConfNext reason s ≠ .run := by
  unfold discConfNext
  repeat' split
  all_goals first | decide | assumption

theorem discInitNext_of_ended {s : DnState} (h : s.ended) : discInitNext s = s := by
  cases s <;> first | rfl | cases h

theorem discConfNext_of_ended (reason : UInt16) {s : DnState} (h : s.ended) :
    discConfNext reason s = s := by
  cases s <;> first | rfl | cases h

/-- No handler breaks the coupling. -/
theorem LifeStep.coupled {l l' : DnState × TcpState} (h : LifeStep l l') (hc : Coupled l) :
    Coupled l' := by
  cases h with
  | stay => exact hc
  | establish | returned => decide
  | connAck => exact ⟨nofun, nofun⟩
  | discInit s => exact ⟨fun h => absurd h (discInitNext_ne_run s), fun _ => rfl⟩
  | discConf r s => exact ⟨fun h => absurd h (discConfNext_ne_run r s), fun _ => rfl⟩

/-- No handler moves a connection that has ended. -/
theorem LifeStep.eq_of_ended {l l' : DnState × TcpState} (h : LifeStep l l') (hc : Coupled l)
    (he : l.1.ended) : l' = l := by
  cases h with
  | stay => rfl
  | establish s ss hs => rcases hs with rfl | rfl | rfl <;> cases he
  | discInit s ss => exact Prod.ext (discInitNext_of_ended he) (hc.ended he).symm
  | discConf r s ss => exact Prod.ext (discConfNext_of_ended r he) (hc.ended he).symm
  | connAck | returned => cases he

theorem dnProcessAck_life (env : Env) (c : Conn) (oth : Bool) (d : List UInt8) :
    (dnProcessAck env c oth d).conn.life = c.life := by
  obtain ⟨_, _, h⟩ := dnProcessAck_frame env c oth d
  rw [h]; rfl

theorem dataHandler_life (cfg : Config) (env : Env) (c : Conn) (skb : Skb) :
    (dataHandler cfg env c skb).1.life = c.life := by
  obtain ⟨_, _, _, _, _, _, _, _, _, _, _, _, h⟩ := dataHandler_frame cfg env c skb
  rw [h]; rfl

/-- On the data path only the promotion touches the lifecycle. -/
theorem dataPath_life_eq (cfg : Config) (env : Env) (c : Conn) (skb : Skb) :
    (dataPath cfg env c skb).1.life = (ccPromote cfg c skb).1.life := by
  unfold dataPath
  dsimp only
  split <;> simp only [dataHandler_life, dnProcessAck_life]

theorem controlHandler_life (cfg : Config) (env : Env) (c : Conn) (skb : Skb) :
    LifeStep c.life (controlHandler cfg env c skb).1.life := by
  unfold controlHandler
  dsimp only
  split_ifs
  · rw [dnNspConnInit_life]; exact .stay _
  · exact dnNspConnConf_life cfg c skb
  · exact dnNspDiscInit_life env c skb
  · exact dnNspDiscConf_life env c skb
  · exact .stay _

theorem step_life (cfg : Config) (c : Conn) (i : Input) : LifeStep c.life (step cfg c i).1.life := by
  cases i with
  | returnedConnInit => exact dnReturnedConnInit_life c
  | backlog env skb =>
    show LifeStep c.life (dnNspBacklogRcv cfg env c skb).1.life
    unfold dnNspBacklogRcv
    split_ifs
    · exact .stay _
    · exact controlHandler_life cfg env c skb
    · exact dnNspConnAck_life cfg c
    · rw [dataPath_life_eq]; exact ccPromote_life cfg c skb

theorem lifecycle_coupled (cfg : Config) (c : Conn) (is : List Input) (hc : Coupled c.life) :
    Coupled (run cfg c is).1.life ∧ (c.state.ended → (run cfg c is).1.life = c.life) := by
  induction is generalizing c with
  | nil => exact ⟨hc, fun _ => rfl⟩
  | cons i is ih =>
    have hs := step_life cfg c i
    obtain ⟨h1, h2⟩ := ih _ (hs.coupled hc)
    refine ⟨h1, fun he => ?_⟩
    have heq := hs.eq_of_ended hc he
    have he' : (step cfg c i).1.state.ended := by
      rw [show (step cfg c i).1.state = c.state from congrArg Prod.fst heq]; exact he
    exact (h2 he').trans heq

/-- A data segment and then a disconnect-initiate. -/
def lifeRun : List Input := [.backlog sampleEnv (sampleDataSeg 0), .backlog sampleEnv sampleDiscInit]

/-- The segment takes the connection from `DN_CC` to `DN_RUN` and the disconnect-initiate ends it
in `DN_DN`, coupled at each step; once ended, a further segment changes neither state. -/
theorem ccConn_lifecycle_coupled :
    Coupled ccConn.life ∧
      (Coupled (run sampleConfig ccConn lifeRun).1.life ∧
        (ccConn.state.ended → (run sampleConfig ccConn lifeRun).1.life = ccConn.life)) ∧
      (run sampleConfig ccConn (lifeRun.take 1)).1.life = (.run, .established) ∧
      (run sampleConfig ccConn lifeRun).1.life = (.dn, .close) ∧
      (Coupled (run sampleConfig (run sampleConfig ccConn lifeRun).1
          [.backlog sampleEnv (sampleDataSeg 1)]).1.life ∧
        ((run sampleConfig ccConn lifeRun).1.state.ended →
          (run sampleConfig (run sampleConfig ccConn lifeRun).1 [.backlog sampleEnv (sampleDataSeg 1)]).1.life =
            (run sampleConfig ccConn lifeRun).1.life)) :=
  ⟨by decide, lifecycle_coupled sampleConfig ccConn lifeRun (by decide), by decide, by decide,
    lifecycle_coupled sampleConfig _ [.backlog sampleEnv (sampleDataSeg 1)] (by decide)⟩

/-- A disconnect-initiate that is not returned reaches `dn_nsp_disc_init`. -/
theorem dnNspBacklogRcv_discInit (cfg : Config) (env : Env) (c : Conn) (skb : Skb)
    (hr : skb.rtFlags.rts = false) (hf : skb.nspFlags = nspDiscinit) :
    dnNspBacklogRcv cfg env c skb = dnNspDiscInit env c skb := by
  simp only [dnNspBacklogRcv, controlHandler, hr, hf]
  rfl

/-- A non-control frame other than a connect-ack that is not returned takes the data path. -/
theorem dnNspBacklogRcv_dataPath (cfg : Config) (env : Env) (c : Conn) (skb : Skb)
    (hr : skb.rtFlags.rts = false) (hc : skb.nspFlags &&& 0x0c ≠ 0x08) (ha : skb.nspFlags ≠ 0x24) :
    dnNspBacklogRcv cfg env c skb = dataPath cfg env c skb := by
  simp [dnNspBacklogRcv, hr, hc, ha]

/-- A disconnect-initiate with its reason, on a live connection in `DN_CC`, closes the socket
and leaves `scp->state` in `DN_CC`. The next data or acknowledgment frame then promotes the
connection to `DN_RUN` on an established socket. -/
theorem cc_resumes_after_discInit (cfg : Config) (env env' : Env) (c : Conn) (di skb : Skb)
    (hcc : c.state = .cc) (hlive : c.dead = false)
    (hdi : di.rtFlags.rts = false ∧ di.nspFlags = nspDiscinit ∧ 2 ≤ di.data.length)
    (hskb : skb.rtFlags.rts = false ∧ skb.nspFlags &&& 0x0c ≠ 0x08 ∧ skb.nspFlags ≠ 0x24) :
    (step cfg c (.backlog env di)).1.life = (.cc, .close) ∧
      (run cfg c [.backlog env di, .backlog env' skb]).1.life = (.run, .established) := by
  obtain ⟨hr, hf, hl⟩ := hdi
  obtain ⟨r0, r1, b, hd⟩ : ∃ r0 r1 b, di.data = r0 :: r1 :: b := by
    match di.data, hl with
    | r0 :: r1 :: b, _ => exact ⟨r0, r1, b, rfl⟩
  have h1 : (step cfg c (.backlog env di)).1.life = (.cc, .close) := by
    show (dnNspBacklogRcv cfg env c di).1.life = _
    rw [dnNspBacklogRcv_discInit cfg env c di hr hf, dnNspDiscInit_life_of_data env c di hd, hcc]
    rfl
  have hdead : (step cfg c (.backlog env di)).1.dead = false := by
    show (dnNspBacklogRcv cfg env c di).1.dead = false
    rw [dnNspBacklogRcv_discInit cfg env c di hr hf, dnNspDiscInit_dead, hlive]
  refine ⟨h1, ?_⟩
  show (dnNspBacklogRcv cfg env' (step cfg c (.backlog env di)).1 skb).1.life = _
  rw [dnNspBacklogRcv_dataPath _ _ _ _ hskb.1 hskb.2.1 hskb.2.2, dataPath_life_eq, ccPromote,
    if_pos ⟨congrArg Prod.fst h1, hdead⟩]
  rfl

theorem ccConn_resumes_after_discInit :
    (ccConn.state = .cc ∧ ccConn.dead = false ∧
      (sampleDiscInit.rtFlags.rts = false ∧ sampleDiscInit.nspFlags = nspDiscinit ∧
        2 ≤ sampleDiscInit.data.length) ∧
      (sampleDataAck.rtFlags.rts = false ∧ sampleDataAck.nspFlags &&& 0x0c ≠ 0x08 ∧
        sampleDataAck.nspFlags ≠ 0x24)) ∧
    ((step sampleConfig ccConn (.backlog sampleEnv sampleDiscInit)).1.life = (.cc, .close) ∧
      (run sampleConfig ccConn [.backlog sampleEnv sampleDiscInit, .backlog sampleEnv sampleDataAck]).1.life
        = (.run, .established)) :=
  ⟨⟨rfl, rfl, by decide, by decide⟩,
    cc_resumes_after_discInit sampleConfig sampleEnv sampleEnv ccConn _ _ rfl rfl (by decide) (by decide)⟩

end DecnetNsp
