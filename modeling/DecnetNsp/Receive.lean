import DecnetNsp.Backlog

/-!
# `dn_nsp_rx_packet` and the frames that find no socket

A frame as it arrives: its bytes from the NSP flag byte on, with every offset the code reads
recorded, so that a read past the end of the frame shows as an offset no smaller than its
length. The connect-initiate of a listener is checked by `dn_find_listener`, whose parse of the
two usernames (`dn_username2sockaddr`, in another file) is a parameter. The lookups of the socket
tables and what `sk_receive_skb` decides are answers in `RxEnv`; `rxConn` is what one frame does
to the one connection modelled. A frame returned to its sender is never answered, and changes a
connection only when it is our connect-initiate coming back to a connection still in `DN_CI`
(`returned_frames_send_nothing`).
-/

namespace DecnetNsp

/-- A frame from its flag byte on, what a read past its end finds there (the rest of the buffer,
which the frame does not determine), and the `truesize` of that buffer. -/
structure RawFrame where
  rtFlags : RtFlags
  data : List UInt8
  beyond : Nat → UInt8
  truesize : Nat

def RawFrame.byte (f : RawFrame) (i : Nat) : UInt8 := f.data.getD i (f.beyond i)

def RawFrame.word (f : RawFrame) (i : Nat) : UInt16 := le16 (f.byte i) (f.byte (i + 1))

/-- Modelled from the spec: `dn_username2sockaddr` on the bytes it is given, which it reads no
further than: it fails, or returns how many of them it consumed and the username's format type. -/
structure UsernameParser where
  parse : List UInt8 → Option (Nat × UInt8)
  consumed_le : ∀ b n t, parse b = some (n, t) → n ≤ b.length

/-- `ci_err_table`: for each stage of `dn_find_listener` that can fail, the reason sent back (zero
for none) and the text logged. -/
def ciErrTable : Fin 8 → UInt16 × String
  | 0 => (0, "CI: Truncated message")
  | 1 => (nspReasonId, "CI: Destination username error")
  | 2 => (nspReasonId, "CI: Destination username type")
  | 3 => (nspReasonUs, "CI: Source username error")
  | 4 => (0, "CI: Truncated at menuver")
  | 5 => (0, "CI: Truncated before access or user data")
  | 6 => (nspReasonIo, "CI: Access data format error")
  | 7 => (nspReasonIo, "CI: User data format error")

/-- `dn_check_idf` at offset `pos` with `len` bytes left, for a field of at most `max` bytes. It
reads the length byte before it looks at `len`; the field must fit both bounds. The offset and
the length left after the field. -/
def dnCheckIdf (f : RawFrame) (pos : Nat) (len : Int) (max : Nat) : Option (Nat × Int) :=
  if max < (f.byte pos).toNat then none
  else if len - 1 < (f.byte pos).toNat then none
  else some (pos + 1 + (f.byte pos).toNat, len - 1 - (f.byte pos).toNat)

/-- `dn_check_idf` in turn for each bound, up to the first failure, with the offsets read. -/
def checkIdfs (f : RawFrame) : Nat → Int → List Nat → Option (Nat × Int) × List Nat
  | pos, len, [] => (some (pos, len), [])
  | pos, len, max :: maxes =>
    match dnCheckIdf f pos len max with
    | none => (none, [pos])
    | some (pos', len') => ((checkIdfs f pos' len' maxes).1, pos :: (checkIdfs f pos' len' maxes).2)

/-- `dn_find_listener` from the menu-version byte at offset `pos` on, after `reads`: the access
fields when `DN_MENUVER_ACC` is set, then the user data when `DN_MENUVER_USR` is. The stage that
fails, if one does, and the offsets read. -/
def menuverStage (f : RawFrame) (pos : Nat) (reads : List Nat) : Option (Fin 8) × List Nat :=
  if (f.data.length : Int) - pos < 1 then (some 4, reads)
  else if f.byte pos &&& (dnMenuverAcc ||| dnMenuverUsr) ≠ 0 ∧ (f.data.length : Int) - pos - 1 < 1 then
    (some 5, reads ++ [pos])
  else
    let acc := if f.byte pos &&& dnMenuverAcc ≠ 0 then
        checkIdfs f (pos + 1) ((f.data.length : Int) - pos - 1) [39, 39, 39]
      else (some (pos + 1, (f.data.length : Int) - pos - 1), [])
    match acc.1 with
    | none => (some 6, reads ++ [pos] ++ acc.2)
    | some (p, l) =>
      let usr := if f.byte pos &&& dnMenuverUsr ≠ 0 then checkIdfs f p l [16] else (some (p, l), [])
      match usr.1 with
      | none => (some 7, reads ++ [pos] ++ acc.2 ++ usr.2)
      | some _ => (none, reads ++ [pos] ++ acc.2 ++ usr.2)

/-- `dn_find_listener` up to the lookup of the listener: the first stage that fails, as an index
into `ci_err_table`, or none when the lookup is reached; and the offsets read, in order. The fields of the 9-byte
`nsp_conn_init_msg` are read before its length is checked. -/
def dnFindListener (user : UsernameParser) (f : RawFrame) : Option (Fin 8) × List Nat :=
  if f.data.length < 9 then (some 0, [3, 4, 1, 2, 5, 6, 7, 8])
  else match user.parse (f.data.drop 9) with
  | none => (some 1, [3, 4, 1, 2, 5, 6, 7, 8])
  | some (dstlen, type) =>
    if 1 < type.toNat then (some 2, [3, 4, 1, 2, 5, 6, 7, 8])
    else match user.parse (f.data.drop (9 + dstlen)) with
    | none => (some 3, [3, 4, 1, 2, 5, 6, 7, 8])
    | some (srclen, _) => menuverStage f (9 + dstlen + srclen) [3, 4, 1, 2, 5, 6, 7, 8]

/-- What `dn_nsp_rx_packet` does with a frame: free it; hand a returned connect-initiate and its
two ports to `dn_check_returned_conn`; hand a connect-initiate `dn_find_listener` accepted to the
listener it names, or reject it at a stage; or look up the socket of any other frame by its
ports (`dn_find_by_skb`). -/
inductive RxResult where
  | drop
  | returned (dstPort srcPort : UInt16)
  | listener (skb : Skb)
  | rejected (skb : Skb) (stage : Fin 8)
  | bySkb (skb : Skb)

/-- `dn_nsp_rx_packet` up to the socket lookups, with the offsets it reads, in order. A frame of
3 or 4 bytes is passed on unstripped. -/
def dnNspRxPacket (user : UsernameParser) (f : RawFrame) : RxResult × List Nat :=
  if f.data.length < 2 then (.drop, [])
  else if f.byte 0 &&& 0x83 ≠ 0 then (.drop, [0])
  else if f.byte 0 &&& 0x0c = 0x08 ∧
      (f.byte 0 &&& 0x70 = 0x00 ∨ f.byte 0 &&& 0x70 = 0x70 ∨ f.byte 0 &&& 0x70 = 0x50) then
    (.drop, [0])
  else if f.byte 0 &&& 0x0c = 0x08 ∧ (f.byte 0 &&& 0x70 = 0x10 ∨ f.byte 0 &&& 0x70 = 0x60) then
    if f.rtFlags.rts then
      if f.data.length < 4 then (.drop, [0])
      else (.returned (f.word 1) (f.word 3), [0, 1, 2, 3, 4])
    else
      let skb : Skb := ⟨f.byte 0, f.rtFlags, f.word 3, f.word 1, 0, f.data.drop 9, f.truesize⟩
      match (dnFindListener user f).1 with
      | none => (.listener skb, 0 :: (dnFindListener user f).2)
      | some e => (.rejected skb e, 0 :: (dnFindListener user f).2)
  else if f.rtFlags.rts then (.drop, [0])
  else if f.data.length < 3 then (.drop, [0])
  else if f.data.length < 5 then
    (.bySkb ⟨f.byte 0, f.rtFlags, 0, f.word 1, 0, f.data, f.truesize⟩, [0, 1, 2])
  else (.bySkb ⟨f.byte 0, f.rtFlags, f.word 3, f.word 1, 0, f.data.drop 5, f.truesize⟩, [0, 1, 2, 3, 4])

/-- `dn_nsp_no_socket`: a connect-initiate or connect-confirm that found no socket is answered
with a disconnect carrying `reason`, unless it was returned or the reason is zero. -/
def dnNspNoSocket (skb : Skb) (reason : UInt16) : List Event :=
  if skb.rtFlags.rts then []
  else if reason ≠ nspReasonOk ∧ skb.nspFlags &&& 0x0c = 0x08 then
    if skb.nspFlags &&& 0x70 = 0x10 ∨ skb.nspFlags &&& 0x70 = 0x60 then
      [.returnDisc nspDiscinit reason]
    else if skb.nspFlags &&& 0x70 = 0x20 then [.returnDisc nspDiscconf reason]
    else []
  else []

/-- What the socket tables and the rest of the stack answer while one frame is received, as far
as the one connection modelled is concerned: whether `dn_check_returned_conn`, and the listener
lookup or `dn_find_by_skb`, find the connection; whether the frame came by another route than
the one the socket caches; whether `skb_linearize` fails; whether `sk_receive_skb` drops the
frame and, if it does, whether for want of room (`sk_rcvqueues_full`, or `sk_add_backlog` over
its limit), which `sk_drops` counts, rather than by `sk_filter`; and `jiffies`. -/
structure RxEnv where
  returnedFound : Bool
  found : Bool
  newRoute : Bool
  linearizeFails : Bool
  receiveDrops : Bool
  receiveFull : Bool
  jiffies : Nat

/-- The `got_it` path for the connection found: its backoff and stamp are reset, a new route is
taken in `DN_RUN`, and the frame, linearized unless it is a data segment, is handed through
`sk_receive_skb` to `dn_nsp_backlog_rcv`, unless `sk_receive_skb` drops it, counting in
`sk_drops` a drop for want of room. -/
def gotIt (cfg : Config) (rx : RxEnv) (env : Env) (c : Conn) (skb : Skb) : Conn × List Event :=
  if skb.nspFlags &&& ~~~0x60 ≠ 0 ∧ rx.linearizeFails then
    ({ c with nspRxtshift := 0, stamp := rx.jiffies },
      if rx.newRoute ∧ c.state = .run then [.dstSet] else [])
  else if rx.receiveDrops then
    ({ c with nspRxtshift := 0, stamp := rx.jiffies,
              skDrops := c.skDrops + if rx.receiveFull then 1 else 0 },
      if rx.newRoute ∧ c.state = .run then [.dstSet] else [])
  else
    ((dnNspBacklogRcv cfg env { c with nspRxtshift := 0, stamp := rx.jiffies } skb).1,
      (if rx.newRoute ∧ c.state = .run then [.dstSet] else []) ++
        (dnNspBacklogRcv cfg env { c with nspRxtshift := 0, stamp := rx.jiffies } skb).2)

/-- One frame, for connection `c`: what `dn_nsp_rx_packet` does with it, then
`dn_returned_conn_init`, the `got_it` path or `dn_nsp_no_socket`. A rejected connect-initiate is
logged as a martian. -/
def rxConn (cfg : Config) (user : UsernameParser) (rx : RxEnv) (env : Env) (c : Conn)
    (f : RawFrame) : Conn × List Event :=
  match (dnNspRxPacket user f).1 with
  | .drop => (c, [])
  | .returned _ _ => if rx.returnedFound then dnReturnedConnInit c else (c, [])
  | .listener skb => if rx.found then gotIt cfg rx env c skb else (c, dnNspNoSocket skb nspReasonNl)
  | .rejected skb e =>
    (c, (if cfg.decnetLogMartians then [.logMartian (ciErrTable e).2] else []) ++
      dnNspNoSocket skb (ciErrTable e).1)
  | .bySkb skb => if rx.found then gotIt cfg rx env c skb else (c, dnNspNoSocket skb nspReasonNl)

theorem dnNspRxPacket_connInit (user : UsernameParser) (f : RawFrame) (hl : 2 ≤ f.data.length)
    (hci : f.byte 0 = 0x18 ∨ f.byte 0 = 0x68) :
    dnNspRxPacket user f =
      if f.rtFlags.rts then
        if f.data.length < 4 then (.drop, [0]) else (.returned (f.word 1) (f.word 3), [0, 1, 2, 3, 4])
      else
        match (dnFindListener user f).1 with
        | none => (.listener ⟨f.byte 0, f.rtFlags, f.word 3, f.word 1, 0, f.data.drop 9, f.truesize⟩,
            0 :: (dnFindListener user f).2)
        | some e => (.rejected ⟨f.byte 0, f.rtFlags, f.word 3, f.word 1, 0, f.data.drop 9, f.truesize⟩ e,
            0 :: (dnFindListener user f).2) := by
  have hb : f.byte 0 &&& 0x83 = 0 ∧ f.byte 0 &&& 0x0c = 0x08 ∧
      ¬ (f.byte 0 &&& 0x70 = 0x00 ∨ f.byte 0 &&& 0x70 = 0x70 ∨ f.byte 0 &&& 0x70 = 0x50) ∧
      (f.byte 0 &&& 0x70 = 0x10 ∨ f.byte 0 &&& 0x70 = 0x60) := by
    rcases hci with h | h <;> rw [h] <;> decide
  unfold dnNspRxPacket
  rw [if_neg (by omega), if_neg (not_not.2 hb.1), if_neg (fun h => hb.2.2.1 h.2),
    if_pos ⟨hb.2.1, hb.2.2.2⟩]

theorem dnFindListener_of_short (user : UsernameParser) (f : RawFrame) (h : f.data.length < 9) :
    dnFindListener user f = (some 0, [3, 4, 1, 2, 5, 6, 7, 8]) := by
  simp [dnFindListener, h]

theorem connInit_flags (b : UInt8) (h83 : b &&& 0x83 = 0) (h0c : b &&& 0x0c = 0x08)
    (ht : b &&& 0x70 = 0x10 ∨ b &&& 0x70 = 0x60) : b = 0x18 ∨ b = 0x68 := by
  revert h83 h0c ht; obtain ⟨v⟩ := b; revert v; decide

theorem control_flags (b : UInt8) (h83 : b &&& 0x83 = 0) (h0c : b &&& 0x0c = 0x08)
    (hres : ¬ (b &&& 0x70 = 0x00 ∨ b &&& 0x70 = 0x70 ∨ b &&& 0x70 = 0x50))
    (hci : ¬ (b &&& 0x70 = 0x10 ∨ b &&& 0x70 = 0x60)) : b = 0x28 ∨ b = 0x38 ∨ b = 0x48 := by
  revert h83 h0c hres hci; obtain ⟨v⟩ := b; revert v; decide

theorem dataClass_flags (b : UInt8) (h83 : b &&& 0x83 = 0) (h0c : b &&& 0x0c = 0) :
    b = 0x00 ∨ b = 0x10 ∨ b = 0x20 ∨ b = 0x30 ∨ b = 0x40 ∨ b = 0x50 ∨ b = 0x60 ∨ b = 0x70 := by
  revert h83 h0c; obtain ⟨v⟩ := b; revert v; decide

/-- Everything `dn_nsp_rx_packet` can do with a frame: free it; hand on a returned
connect-initiate; pass a connect-initiate that is not returned to a listener, which takes 9
bytes at least, or reject it; or, for any other frame of 3 bytes or more that is not returned,
look up its socket by its ports, with the header stripped from 5 bytes on. -/
theorem dnNspRxPacket_cases (user : UsernameParser) (f : RawFrame) :
    (dnNspRxPacket user f).1 = .drop ∨
    (f.rtFlags.rts = true ∧ ∃ d s, (dnNspRxPacket user f).1 = .returned d s) ∨
    (f.rtFlags.rts = false ∧ (f.byte 0 = 0x18 ∨ f.byte 0 = 0x68) ∧ 9 ≤ f.data.length ∧
      ∃ skb, (dnNspRxPacket user f).1 = .listener skb) ∨
    (f.rtFlags.rts = false ∧ ∃ skb e, (dnNspRxPacket user f).1 = .rejected skb e) ∨
    (f.rtFlags.rts = false ∧ 3 ≤ f.data.length ∧ f.byte 0 &&& 0x83 = 0 ∧
      (f.byte 0 &&& 0x0c = 0x08 → f.byte 0 = 0x28 ∨ f.byte 0 = 0x38 ∨ f.byte 0 = 0x48) ∧
      (dnNspRxPacket user f).1 = .bySkb ⟨f.byte 0, f.rtFlags,
        if f.data.length < 5 then 0 else f.word 3, f.word 1, 0,
        if f.data.length < 5 then f.data else f.data.drop 5, f.truesize⟩) := by
  unfold dnNspRxPacket
  by_cases h2 : f.data.length < 2
  · exact .inl (by rw [if_pos h2])
  rw [if_neg h2]
  by_cases h83 : f.byte 0 &&& 0x83 ≠ 0
  · exact .inl (by rw [if_pos h83])
  rw [if_neg h83]
  rw [not_not] at h83
  by_cases hres : f.byte 0 &&& 0x0c = 0x08 ∧
      (f.byte 0 &&& 0x70 = 0x00 ∨ f.byte 0 &&& 0x70 = 0x70 ∨ f.byte 0 &&& 0x70 = 0x50)
  · exact .inl (by rw [if_pos hres])
  rw [if_neg hres]
  by_cases hci : f.byte 0 &&& 0x0c = 0x08 ∧ (f.byte 0 &&& 0x70 = 0x10 ∨ f.byte 0 &&& 0x70 = 0x60)
  · rw [if_pos hci]
    by_cases hr : f.rtFlags.rts = true
    · rw [if_pos hr]
      split
      · exact .inl rfl
      · exact .inr (.inl ⟨hr, _, _, rfl⟩)
    · rw [if_neg hr, Bool.not_eq_true] at *
      split
      next hn =>
        refine .inr (.inr (.inl ⟨hr, connInit_flags _ h83 hci.1 hci.2, ?_, _, rfl⟩))
        by_contra hl
        rw [dnFindListener_of_short user f (by omega)] at hn
        cases hn
      next => exact .inr (.inr (.inr (.inl ⟨hr, _, _, rfl⟩)))
  rw [if_neg hci]
  by_cases hr : f.rtFlags.rts = true
  · exact .inl (by rw [if_pos hr])
  rw [if_neg hr, Bool.not_eq_true] at *
  by_cases hl3 : f.data.length < 3
  · exact .inl (by rw [if_pos hl3])
  rw [if_neg hl3]
  refine .inr (.inr (.inr (.inr ⟨hr, by omega, h83,
    fun h0c => control_flags _ h83 h0c (fun h => hres ⟨h0c, h⟩) (fun h => hci ⟨h0c, h⟩), ?_⟩)))
  by_cases hl5 : f.data.length < 5 <;> simp only [hl5, if_true, if_false]

/-- Our connect-initiate, returned to sender, of 4 bytes or more, which `dn_check_returned_conn`
matches to the connection. -/
def ReturnedToConn (rx : RxEnv) (f : RawFrame) : Prop :=
  f.rtFlags.rts = true ∧ (f.byte 0 = 0x18 ∨ f.byte 0 = 0x68) ∧ 4 ≤ f.data.length ∧
    rx.returnedFound = true

instance (rx : RxEnv) (f : RawFrame) : Decidable (ReturnedToConn rx f) :=
  inferInstanceAs (Decidable (_ ∧ _ ∧ _ ∧ _))

/-- A returned frame is freed unless it is a connect-initiate of 4 bytes or more. -/
theorem dnNspRxPacket_of_rts (user : UsernameParser) (f : RawFrame) (hr : f.rtFlags.rts = true) :
    (dnNspRxPacket user f).1 =
      if (f.byte 0 = 0x18 ∨ f.byte 0 = 0x68) ∧ 4 ≤ f.data.length then .returned (f.word 1) (f.word 3)
      else .drop := by
  by_cases hci : f.byte 0 = 0x18 ∨ f.byte 0 = 0x68
  · by_cases h2 : f.data.length < 2
    · rw [if_neg fun h => absurd h.2 (by omega)]
      unfold dnNspRxPacket; rw [if_pos h2]
    rw [dnNspRxPacket_connInit user f (by omega) hci, if_pos hr]
    by_cases h4 : f.data.length < 4
    · rw [if_pos h4, if_neg fun h => absurd h.2 (by omega)]
    · rw [if_neg h4, if_pos ⟨hci, by omega⟩]
  rw [if_neg fun h => hci h.1]
  unfold dnNspRxPacket
  by_cases h2 : f.data.length < 2
  · rw [if_pos h2]
  by_cases h83 : f.byte 0 &&& 0x83 ≠ 0
  · rw [if_neg h2, if_pos h83]
  by_cases hres : f.byte 0 &&& 0x0c = 0x08 ∧
      (f.byte 0 &&& 0x70 = 0x00 ∨ f.byte 0 &&& 0x70 = 0x70 ∨ f.byte 0 &&& 0x70 = 0x50)
  · rw [if_neg h2, if_neg h83, if_pos hres]
  rw [if_neg h2, if_neg h83, if_neg hres,
    if_neg fun h => hci (connInit_flags _ (not_not.1 h83) h.1 h.2), if_pos hr]

theorem dnReturnedConnInit_conn (c : Conn) :
    (dnReturnedConnInit c).1 =
      if c.state = .ci then { c with state := .nc, skState := .close, skErr := ehostunreach } else c := by
  unfold dnReturnedConnInit; split <;> rfl

theorem dnReturnedConnInit_quiet (c : Conn) : ∀ e ∈ (dnReturnedConnInit c).2, e.isMessage = false := by
  unfold dnReturnedConnInit
  split
  · dsimp only; split <;> simp [Event.isMessage]
  · simp

/-- A returned frame reaches the connection only as our connect-initiate coming back. -/
theorem rxConn_of_rts (cfg : Config) (user : UsernameParser) (rx : RxEnv) (env : Env) (c : Conn)
    (f : RawFrame) (hr : f.rtFlags.rts = true) :
    rxConn cfg user rx env c f = if ReturnedToConn rx f then dnReturnedConnInit c else (c, []) := by
  unfold rxConn
  rw [dnNspRxPacket_of_rts user f hr]
  by_cases h : (f.byte 0 = 0x18 ∨ f.byte 0 = 0x68) ∧ 4 ≤ f.data.length
  · by_cases hf : rx.returnedFound = true
    · simp only [if_pos h, if_pos hf, if_pos (show ReturnedToConn rx f from ⟨hr, h.1, h.2, hf⟩)]
    · simp only [if_pos h, if_neg hf, if_neg fun h' : ReturnedToConn rx f => hf h'.2.2.2]
  · simp only [if_neg h, if_neg fun h' : ReturnedToConn rx f => h ⟨h'.2.1, h'.2.2.1⟩]

theorem rxConn_conn_of_rts (cfg : Config) (user : UsernameParser) (rx : RxEnv) (env : Env)
    (c : Conn) (f : RawFrame) (hr : f.rtFlags.rts = true) :
    (rxConn cfg user rx env c f).1 =
      if ReturnedToConn rx f ∧ c.state = .ci then
        { c with state := .nc, skState := .close, skErr := ehostunreach }
      else c := by
  rw [rxConn_of_rts cfg user rx env c f hr]
  by_cases h : ReturnedToConn rx f
  · rw [if_pos h, dnReturnedConnInit_conn]; simp only [h, true_and]
  · rw [if_neg h, if_neg fun h' => h h'.1]

theorem rxConn_quiet_of_rts (cfg : Config) (user : UsernameParser) (rx : RxEnv) (env : Env)
    (c : Conn) (f : RawFrame) (hr : f.rtFlags.rts = true) :
    ∀ e ∈ (rxConn cfg user rx env c f).2, e.isMessage = false := by
  rw [rxConn_of_rts cfg user rx env c f hr]
  split
  · exact dnReturnedConnInit_quiet c
  · simp

theorem dnNspNoSocket_of_rts (skb : Skb) (reason : UInt16) (hr : skb.rtFlags.rts = true) :
    dnNspNoSocket skb reason = [] := by
  simp [dnNspNoSocket, hr]

theorem dnNspNoSocket_connInit (skb : Skb) (reason : UInt16)
    (hci : skb.nspFlags = 0x18 ∨ skb.nspFlags = 0x68) (hr : skb.rtFlags.rts = false) :
    dnNspNoSocket skb reason = if reason ≠ 0 then [.returnDisc nspDiscinit reason] else [] := by
  have hc : skb.nspFlags &&& 0x0c = 0x08 ∧
      (skb.nspFlags &&& 0x70 = 0x10 ∨ skb.nspFlags &&& 0x70 = 0x60) := by
    rcases hci with h | h <;> rw [h] <;> decide
  unfold dnNspNoSocket
  rw [if_neg (by simp [hr])]
  by_cases h0 : reason = 0
  · rw [if_neg fun h => h.1 h0, if_neg (not_not.2 h0)]
  · rw [if_pos ⟨h0, hc.1⟩, if_pos hc.2, if_pos h0]

theorem dnNspBacklogRcv_of_rts (cfg : Config) (env : Env) (c : Conn) (skb : Skb)
    (hr : skb.rtFlags.rts = true) : dnNspBacklogRcv cfg env c skb = (c, []) := by
  simp [dnNspBacklogRcv, hr]

/-- A frame returned to its sender is never answered: `dn_nsp_rx_packet` frees it unless it is a
connect-initiate, which it hands to `dn_returned_conn_init`; `dn_nsp_no_socket` and
`dn_nsp_backlog_rcv` free it at once. It changes the connection only when it is our
connect-initiate of 4 bytes or more, matched by `dn_check_returned_conn`, and the connection is
still in `DN_CI`: then it moves to `DN_NC` on a closed socket. -/
theorem returned_frames_send_nothing (cfg : Config) (user : UsernameParser) (rx : RxEnv)
    (env : Env) (c : Conn) :
    (∀ f : RawFrame, f.rtFlags.rts = true →
      (∀ e ∈ (rxConn cfg user rx env c f).2, e.isMessage = false) ∧
      (rxConn cfg user rx env c f).1 =
        if ReturnedToConn rx f ∧ c.state = .ci then
          { c with state := .nc, skState := .close, skErr := ehostunreach }
        else c) ∧
    (∀ (skb : Skb) (reason : UInt16), skb.rtFlags.rts = true → dnNspNoSocket skb reason = []) ∧
    (∀ skb : Skb, skb.rtFlags.rts = true → dnNspBacklogRcv cfg env c skb = (c, [])) :=
  ⟨fun f hr => ⟨rxConn_quiet_of_rts cfg user rx env c f hr, rxConn_conn_of_rts cfg user rx env c f hr⟩,
    fun skb reason hr => dnNspNoSocket_of_rts skb reason hr,
    fun skb hr => dnNspBacklogRcv_of_rts cfg env c skb hr⟩

def noUsernames : UsernameParser := ⟨fun _ => none, fun _ _ _ h => nomatch h⟩

/-- Lookups that find the connection, on the route it caches, and keep the frame. -/
def sampleRxEnv : RxEnv := ⟨true, true, false, false, false, false, 0⟩

/-- A connect-initiate of ours, returned: flags `0x18`, destination port 1, source port 2. -/
def sampleReturnedConnInit : RawFrame :=
  ⟨⟨true, true, false⟩, [0x18, 0x01, 0x00, 0x02, 0x00], fun _ => 0, 512⟩

def ciConn : Conn := { ccConn with state := .ci, skState := .synSent }

theorem ciConn_returned_frame_sends_nothing :
    ReturnedToConn sampleRxEnv sampleReturnedConnInit ∧
      ((∀ e ∈ (rxConn sampleConfig noUsernames sampleRxEnv sampleEnv ciConn sampleReturnedConnInit).2,
          e.isMessage = false) ∧
        (rxConn sampleConfig noUsernames sampleRxEnv sampleEnv ciConn sampleReturnedConnInit).1 =
          if ReturnedToConn sampleRxEnv sampleReturnedConnInit ∧ ciConn.state = .ci then
            { ciConn with state := .nc, skState := .close, skErr := ehostunreach }
          else ciConn) :=
  ⟨by decide, (returned_frames_send_nothing sampleConfig noUsernames sampleRxEnv sampleEnv ciConn).1
    sampleReturnedConnInit rfl⟩

end DecnetNsp
