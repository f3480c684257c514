import DecnetNsp.Conn

/-!
# Piggy-backed acknowledgments

`dn_ack` and `dn_process_ack`. The parse of the (at most two) leading sub-fields is split from
their effect: `ackFields` lists the words handed to `dn_ack`, and `dnProcessAck_calls` says
`dn_process_ack` is `dn_ack` applied to them in turn. Only the two ack cursors change.
-/

namespace DecnetNsp

/-- Bits 13..12 of an ack word once the cross-subchannel bit is flipped: 0 ACK data, 1 NAK
data, 2 ACK other data, 3 NAK other data. -/
def ackType (ack : UInt16) : UInt16 := (ack >>> 12) &&& 0x0003

/-- `dn_ack`. A data or other-data ACK strictly after its cursor moves the cursor and prunes
the transmit queue through `dn_nsp_check_xmit_queue`; NAKs are ignored. -/
def dnAck (env : Env) (c : Conn) (ack : UInt16) : Conn × List Event :=
  let wake (other : Bool) : List Event :=
    .checkXmitQueue other ack ::
      if env.checkXmitQueue other ack && !c.dead then [.stateChange] else []
  if ackType ack = 0 then
    if dnAfter ack c.ackrcvDat then ({ c with ackrcvDat := ack &&& seqMask }, wake false)
    else (c, [])
  else if ackType ack = 2 then
    if dnAfter ack c.ackrcvOth then ({ c with ackrcvOth := ack &&& seqMask }, wake true)
    else (c, [])
  else (c, [])

/-- A present sub-field of `dn_process_ack`: a NAK (bit 14) is skipped, an ACK goes to `dn_ack`
with bit 13 flipped when `oth`. -/
def ackField (env : Env) (c : Conn) (oth : Bool) (ack : UInt16) : Conn × List Event :=
  if ack &&& 0x4000 = 0 then dnAck env c (if oth then ack ^^^ 0x2000 else ack) else (c, [])

/-- What `dn_process_ack` leaves: the connection, `skb->data` after its pulls, the count it
returns, and the calls made. -/
structure AckResult where
  conn : Conn
  data : List UInt8
  len : Nat
  events : List Event

/-- `dn_process_ack`. -/
def dnProcessAck (env : Env) (c : Conn) (oth : Bool) : List UInt8 → AckResult
  | lo :: hi :: rest =>
    if le16 lo hi &&& 0x8000 = 0 then ⟨c, lo :: hi :: rest, 0, []⟩
    else
      let r := ackField env c oth (le16 lo hi)
      match rest with
      | lo' :: hi' :: rest' =>
        if le16 lo' hi' &&& 0x8000 = 0 then ⟨r.1, rest, 2, r.2⟩
        else
          let r' := ackField env r.1 oth (le16 lo' hi')
          ⟨r'.1, rest', 4, r.2 ++ r'.2⟩
      | _ => ⟨r.1, rest, 2, r.2⟩
  | data => ⟨c, data, 0, []⟩

/-- The word a present sub-field hands to `dn_ack`, if it is not a NAK. -/
def ackWord (oth : Bool) (ack : UInt16) : List UInt16 :=
  if ack &&& 0x4000 = 0 then [if oth then ack ^^^ 0x2000 else ack] else []

/-- The words `dn_process_ack` hands to `dn_ack`, in order. -/
def ackFields (oth : Bool) : List UInt8 → List UInt16
  | lo :: hi :: rest =>
    if le16 lo hi &&& 0x8000 = 0 then []
    else
      ackWord oth (le16 lo hi) ++
        match rest with
        | lo' :: hi' :: _ => if le16 lo' hi' &&& 0x8000 = 0 then [] else ackWord oth (le16 lo' hi')
        | _ => []
  | _ => []

/-- `skb->data` after `dn_process_ack`: the frame past the ack fields it read. -/
def ackSkip : List UInt8 → List UInt8
  | lo :: hi :: rest =>
    if le16 lo hi &&& 0x8000 = 0 then lo :: hi :: rest
    else
      match rest with
      | lo' :: hi' :: rest' => if le16 lo' hi' &&& 0x8000 = 0 then rest else rest'
      | _ => rest
  | data => data

/-- `dn_ack` folded over a list of ack words. -/
def ackAll (env : Env) (c : Conn) (ws : List UInt16) : Conn :=
  ws.foldl (fun c w => (dnAck env c w).1) c

@[simp] theorem ackAll_nil (env : Env) (c : Conn) : ackAll env c [] = c := rfl

theorem ackAll_append (env : Env) (c : Conn) (ws ws' : List UInt16) :
    ackAll env c (ws ++ ws') = ackAll env (ackAll env c ws) ws' := List.foldl_append ..

/-- A leading word with bit 15 clear is no ack field: nothing is consumed. -/
theorem dnProcessAck_of_not_ack (env : Env) (c : Conn) (oth : Bool) {lo hi : UInt8}
    {rest : List UInt8} (h : le16 lo hi &&& 0x8000 = 0) :
    dnProcessAck env c oth (lo :: hi :: rest) = ⟨c, lo :: hi :: rest, 0, []⟩ := by
  simp [dnProcessAck, h]

/-- `dn_ack` applied to each word in turn, with the calls each application makes. -/
def dnAckEach (env : Env) (c : Conn) : List UInt16 → Conn × List Event
  | [] => (c, [])
  | w :: ws =>
    let r := dnAck env c w
    let r' := dnAckEach env r.1 ws
    (r'.1, r.2 ++ r'.2)

@[simp] theorem dnAckEach_nil (env : Env) (c : Conn) : dnAckEach env c [] = (c, []) := rfl

theorem dnAckEach_append (env : Env) (c : Conn) (ws ws' : List UInt16) :
    dnAckEach env c (ws ++ ws') =
      ((dnAckEach env (dnAckEach env c ws).1 ws').1,
        (dnAckEach env c ws).2 ++ (dnAckEach env (dnAckEach env c ws).1 ws').2) := by
  induction ws generalizing c with
  | nil => rfl
  | cons w ws ih => simp [dnAckEach, ih]

theorem dnAckEach_conn (env : Env) (c : Conn) (ws : List UInt16) :
    (dnAckEach env c ws).1 = ackAll env c ws := by
  induction ws generalizing c with
  | nil => rfl
  | cons w ws ih => exact ih _

theorem ackField_eq_dnAckEach (env : Env) (c : Conn) (oth : Bool) (ack : UInt16) :
    ackField env c oth ack = dnAckEach env c (ackWord oth ack) := by
  unfold ackField ackWord
  split <;> simp [dnAckEach]

/-- `dn_process_ack` is `dn_ack` applied to the words `ackFields` lists. -/
theorem dnProcessAck_calls (env : Env) (c : Conn) (oth : Bool) (d : List UInt8) :
    ((dnProcessAck env c oth d).conn, (dnProcessAck env c oth d).events) =
      dnAckEach env c (ackFields oth d) := by
  match d with
  | [] | [_] => rfl
  | [lo, hi] | [lo, hi, _] =>
    by_cases h : le16 lo hi &&& 0x8000 = 0 <;>
      simp [dnProcessAck, ackFields, h, ackField_eq_dnAckEach]
  | lo :: hi :: lo' :: hi' :: rest =>
    by_cases h : le16 lo hi &&& 0x8000 = 0 <;> by_cases h' : le16 lo' hi' &&& 0x8000 = 0 <;>
      simp [dnProcessAck, ackFields, h, h', ackField_eq_dnAckEach, dnAckEach_append]

theorem dnProcessAck_conn (env : Env) (c : Conn) (oth : Bool) (d : List UInt8) :
    (dnProcessAck env c oth d).conn = ackAll env c (ackFields oth d) := by
  rw [← dnAckEach_conn, ← dnProcessAck_calls]

theorem dnProcessAck_data (env : Env) (c : Conn) (oth : Bool) (d : List UInt8) :
    (dnProcessAck env c oth d).data = ackSkip d := by
  match d with
  | [] | [_] => rfl
  | [lo, hi] | [lo, hi, _] => by_cases h : le16 lo hi &&& 0x8000 = 0 <;> simp [dnProcessAck, ackSkip, h]
  | lo :: hi :: lo' :: hi' :: rest =>
    by_cases h : le16 lo hi &&& 0x8000 = 0 <;> by_cases h' : le16 lo' hi' &&& 0x8000 = 0 <;>
      simp [dnProcessAck, ackSkip, h, h']

theorem ackSkip_length_le (d : List UInt8) : (ackSkip d).length ≤ d.length := by
  match d with
  | [] | [_] => exact Nat.le_refl _
  | [lo, hi] | [lo, hi, _] => by_cases h : le16 lo hi &&& 0x8000 = 0 <;> simp [ackSkip, h]
  | lo :: hi :: lo' :: hi' :: rest =>
    by_cases h : le16 lo hi &&& 0x8000 = 0 <;> by_cases h' : le16 lo' hi' &&& 0x8000 = 0 <;>
      simp only [ackSkip, h, h', ite_true, ite_false, List.length_cons] <;> omega

/-- The data-cursor case of `dn_ack`. -/
theorem dnAck_ackrcvDat (env : Env) (c : Conn) (ack : UInt16) :
    (dnAck env c ack).1.ackrcvDat =
      if ackType ack = 0 ∧ dnAfter ack c.ackrcvDat then ack &&& seqMask else c.ackrcvDat := by
  unfold dnAck
  by_cases h0 : ackType ack = 0
  · by_cases ha : dnAfter ack c.ackrcvDat <;> simp [h0, ha]
  · simp only [h0, false_and, if_false]
    split <;> (try split) <;> rfl

/-- The other-data-cursor case of `dn_ack`. -/
theorem dnAck_ackrcvOth (env : Env) (c : Conn) (ack : UInt16) :
    (dnAck env c ack).1.ackrcvOth =
      if ackType ack = 2 ∧ dnAfter ack c.ackrcvOth then ack &&& seqMask else c.ackrcvOth := by
  unfold dnAck
  by_cases h2 : ackType ack = 2
  · have h0 : ackType ack ≠ 0 := by rw [h2]; decide
    by_cases ha : dnAfter ack c.ackrcvOth <;> simp [h0, h2, ha]
  · simp only [h2, false_and, if_false]
    split <;> (try split) <;> rfl

/-- `dn_ack` changes no field but the two ack cursors. -/
theorem dnAck_frame (env : Env) (c : Conn) (ack : UInt16) :
    ∃ d o, (dnAck env c ack).1 = { c with ackrcvDat := d, ackrcvOth := o } := by
  refine ⟨(dnAck env c ack).1.ackrcvDat, (dnAck env c ack).1.ackrcvOth, ?_⟩
  unfold dnAck
  repeat' split
  all_goals rfl

theorem ackAll_frame (env : Env) (c : Conn) (ws : List UInt16) :
    ∃ d o, ackAll env c ws = { c with ackrcvDat := d, ackrcvOth := o } := by
  induction ws generalizing c with
  | nil => exact ⟨_, _, rfl⟩
  | cons w ws ih =>
    obtain ⟨d, o, h⟩ := dnAck_frame env c w
    obtain ⟨d', o', h'⟩ := ih (dnAck env c w).1
    exact ⟨d', o', h'.trans (by rw [h])⟩

theorem dnProcessAck_frame (env : Env) (c : Conn) (oth : Bool) (d : List UInt8) :
    ∃ dat oth', (dnProcessAck env c oth d).conn = { c with ackrcvDat := dat, ackrcvOth := oth' } := by
  rw [dnProcessAck_conn]; exact ackAll_frame ..

@[simp] theorem accepted_dnAck (p : SegKind → Bool) (env : Env) (c : Conn) (ack : UInt16) :
    accepted p (dnAck env c ack).2 = [] := by
  unfold dnAck; dsimp only; split_ifs <;> simp [acceptOf]

theorem accepted_dnAckEach (p : SegKind → Bool) (env : Env) (c : Conn) (ws : List UInt16) :
    accepted p (dnAckEach env c ws).2 = [] := by
  induction ws generalizing c with
  | nil => rfl
  | cons w ws ih => simp [dnAckEach, ih]

/-- `dn_process_ack` accepts no segment. -/
@[simp] theorem accepted_dnProcessAck (p : SegKind → Bool) (env : Env) (c : Conn) (oth : Bool)
    (d : List UInt8) : accepted p (dnProcessAck env c oth d).events = [] := by
  rw [show (dnProcessAck env c oth d).events = (dnAckEach env c (ackFields oth d)).2 from
    congrArg Prod.snd (dnProcessAck_calls env c oth d), accepted_dnAckEach]

end DecnetNsp
