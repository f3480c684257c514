import DecnetNsp.Ack

/-!
# `dn_process_ack` against a reference on naturals

A reference for `dn_process_ack` written from its description, on naturals and bit tests rather
than the `le16_to_cpu`, `&` and `^` of the code. It covers the count of bytes consumed (0, 2 or
4), the suffix left as the frame, the words handed to `dn_ack` in order, and the cursor rule of
`dn_ack` itself. `dnProcessAck_eq_reference` says the model of the code computes the same for
every byte string, both subchannels and every connection.

The bridges are one lemma per operation of the code: a bit test, a flip, the selector, the
masked cursor and `dn_after`. The parse is matched against the reference once per shape of the
frame head.
-/

namespace DecnetNsp

/-- The `i`-th little-endian 16-bit word at the head of a byte string
(bytes past the end read as zero; the reference reads only words that are present). -/
def leWordRef (d : List UInt8) (i : Nat) : Nat :=
  (d.getD (2 * i) 0).toNat + 256 * (d.getD (2 * i + 1) 0).toNat

/-- The bytes `dn_process_ack` consumes. 0 if fewer than 2 bytes remain
or the first word has bit 15 clear; 2 if fewer than 2 further bytes remain or the second word
has bit 15 clear; 4 otherwise. -/
def ackConsumedRef (d : List UInt8) : Nat :=
  if d.length < 2 ∨ (leWordRef d 0).testBit 15 = false then 0
  else if d.length < 4 ∨ (leWordRef d 1).testBit 15 = false then 2
  else 4

/-- The words `dn_process_ack` consumes, in order. -/
def ackConsumedWordsRef (d : List UInt8) : List Nat :=
  (List.range (ackConsumedRef d / 2)).map (leWordRef d)

/-- The words handed to `dn_ack`. Each consumed word with bit 14 clear,
in order, with bit 13 flipped iff `oth`. -/
def ackAppliedRef (oth : Bool) (d : List UInt8) : List Nat :=
  ((ackConsumedWordsRef d).filter fun w => !w.testBit 14).map
    fun w => if oth then w ^^^ 2 ^ 13 else w

/-- `a` is strictly after the cursor `b` in the 12-bit cyclic order, at a
forward distance below half the ring (§4.1). -/
def cyclicAfter (a b : Nat) : Prop :=
  0 < (a % 4096 + 4096 - b % 4096) % 4096 ∧ (a % 4096 + 4096 - b % 4096) % 4096 < 2048

instance (a b : Nat) : Decidable (cyclicAfter a b) := inferInstanceAs (Decidable (_ ∧ _))

/-- The cursor rule of `dn_ack`. Selector (bits 13..12) 0 moves
`ackrcv_dat` and selector 2 moves `ackrcv_oth` to the word's low 12 bits exactly when they are
strictly after that cursor; selectors 1 and 3 move no cursor. -/
def dnAckRef (c : Conn) (w : Nat) : Conn :=
  if w / 4096 % 4 = 0 ∧ cyclicAfter w c.ackrcvDat.toNat then
    { c with ackrcvDat := UInt16.ofNat (w % 4096) }
  else if w / 4096 % 4 = 2 ∧ cyclicAfter w c.ackrcvOth.toNat then
    { c with ackrcvOth := UInt16.ofNat (w % 4096) }
  else c

theorem and_two_pow_eq_zero_iff (w : UInt16) (k : Nat) (hk : k < 16) :
    w &&& UInt16.ofNat (2 ^ k) = 0 ↔ w.toNat.testBit k = false := by
  have h2 : (UInt16.ofNat (2 ^ k)).toNat = 2 ^ k :=
    UInt16.toNat_ofNat_of_lt (Nat.pow_lt_pow_right (by decide) hk)
  rw [UInt16.ext_iff, UInt16.and_toNat, h2, Nat.and_two_pow]
  cases w.toNat.testBit k <;> simp

theorem and_0x8000_eq_zero_iff (w : UInt16) : w &&& 0x8000 = 0 ↔ w.toNat.testBit 15 = false :=
  and_two_pow_eq_zero_iff w 15 (by decide)

theorem and_0x4000_eq_zero_iff (w : UInt16) : w &&& 0x4000 = 0 ↔ w.toNat.testBit 14 = false :=
  and_two_pow_eq_zero_iff w 14 (by decide)

theorem xor_0x2000_eq (w : UInt16) : w ^^^ 0x2000 = UInt16.ofNat (w.toNat ^^^ 2 ^ 13) := by
  apply UInt16.toNat.inj
  rw [UInt16.toNat_ofNat_of_lt (@Nat.xor_lt_two_pow _ _ 16 w.toNat_lt_size (by decide))]
  show (w.toBitVec ^^^ (0x2000 : UInt16).toBitVec).toNat = _
  simp [BitVec.toNat_xor]
  rfl

theorem ackType_toNat (w : UInt16) : (ackType w).toNat = w.toNat / 4096 % 4 := by
  have hs : (w >>> 12).toNat = w.toNat / 4096 := by
    show (w.toBitVec >>> ((12 : UInt16).toBitVec % 16)).toNat = _
    simp [BitVec.toNat_ushiftRight, Nat.shiftRight_eq_div_pow]
    rfl
  unfold ackType
  rw [UInt16.and_toNat, hs]
  exact Nat.and_pow_two_sub_one_eq_mod _ 2

theorem and_seqMask_eq_ofNat (w : UInt16) : w &&& seqMask = UInt16.ofNat (w.toNat % 4096) := by
  apply UInt16.toNat.inj
  have := toNat_lt w
  rw [toNat_and_seqMask, UInt16.toNat_ofNat_of_lt (by simp only [UInt16.size]; omega)]

theorem dnAfter_iff_cyclicAfter (w cur : UInt16) :
    dnAfter w cur = true ↔ cyclicAfter w.toNat cur.toNat := by
  have hd : (w.toNat % 4096 + 4096 - cur.toNat % 4096) % 4096 =
      (w.toNat + (65536 - cur.toNat)) % 4096 := by
    have := toNat_lt cur
    omega
  rw [dnAfter_iff, cyclicAfter, hd]

theorem ofNat_toNat (w : UInt16) : UInt16.ofNat w.toNat = w :=
  UInt16.toNat.inj (UInt16.toNat_ofNat_of_lt w.toNat_lt_size)

/-- `dn_ack` moves the cursors as the reference rule says. -/
theorem dnAck_eq_ref (env : Env) (c : Conn) (w : UInt16) :
    (dnAck env c w).1 = dnAckRef c w.toNat := by
  have h0 : ackType w = 0 ↔ w.toNat / 4096 % 4 = 0 := by rw [UInt16.ext_iff, ackType_toNat]; rfl
  have h2 : ackType w = 2 ↔ w.toNat / 4096 % 4 = 2 := by rw [UInt16.ext_iff, ackType_toNat]; rfl
  unfold dnAck dnAckRef
  simp only [h0, h2, dnAfter_iff_cyclicAfter, and_seqMask_eq_ofNat]
  by_cases hs0 : w.toNat / 4096 % 4 = 0
  · have hs2 : w.toNat / 4096 % 4 ≠ 2 := by omega
    by_cases ha : cyclicAfter w.toNat c.ackrcvDat.toNat <;> simp [hs0, hs2, ha]
  · by_cases hs2 : w.toNat / 4096 % 4 = 2 <;>
      by_cases ha : cyclicAfter w.toNat c.ackrcvOth.toNat <;> simp [hs0, hs2, ha]

theorem ackAll_eq_ref (env : Env) (c : Conn) (ws : List Nat) (hw : ∀ w ∈ ws, w < 65536) :
    ackAll env c (ws.map UInt16.ofNat) = ws.foldl dnAckRef c := by
  induction ws generalizing c with
  | nil => rfl
  | cons w ws ih =>
    have hw0 : (UInt16.ofNat w).toNat = w := UInt16.toNat_ofNat_of_lt (hw w (List.mem_cons_self _ _))
    simp only [List.map_cons, List.foldl_cons]
    rw [← ih _ fun w' h => hw w' (List.mem_cons_of_mem _ h), ← hw0, ← dnAck_eq_ref env, hw0]
    rfl

theorem leWordRef_zero (lo hi : UInt8) (rest : List UInt8) :
    leWordRef (lo :: hi :: rest) 0 = (le16 lo hi).toNat := by
  simp [leWordRef, le16_toNat]

theorem leWordRef_cons_cons_one (lo hi : UInt8) (rest : List UInt8) :
    leWordRef (lo :: hi :: rest) 1 = leWordRef rest 0 := by
  simp [leWordRef]

theorem leWordRef_lt (d : List UInt8) (i : Nat) : leWordRef d i < 65536 := by
  have := (d.getD (2 * i) 0).toNat_lt_size
  have := (d.getD (2 * i + 1) 0).toNat_lt_size
  simp only [leWordRef, UInt8.size] at *
  omega

theorem ackAppliedRef_lt (oth : Bool) (d : List UInt8) : ∀ w ∈ ackAppliedRef oth d, w < 65536 := by
  simp only [ackAppliedRef, ackConsumedWordsRef, List.mem_map, List.mem_filter]
  rintro _ ⟨_, ⟨⟨i, _, rfl⟩, _⟩, rfl⟩
  have h := leWordRef_lt d i
  cases oth
  · exact h
  · exact @Nat.xor_lt_two_pow _ _ 16 h (by decide)

/-- The reference read on a frame head the way `dn_process_ack` reads it. -/
theorem ackConsumedRef_cons_cons (lo hi : UInt8) (rest : List UInt8) :
    ackConsumedRef (lo :: hi :: rest) =
      if le16 lo hi &&& 0x8000 = 0 then 0
      else if rest.length < 2 ∨ (leWordRef rest 0).testBit 15 = false then 2 else 4 := by
  have h2 : ¬ (lo :: hi :: rest).length < 2 := by simp
  have h4 : (lo :: hi :: rest).length < 4 ↔ rest.length < 2 := by
    simp only [List.length_cons]; omega
  simp only [ackConsumedRef, leWordRef_zero, leWordRef_cons_cons_one, h2, false_or, h4,
    ← and_0x8000_eq_zero_iff]

theorem ackWord_eq_ref (oth : Bool) (w : UInt16) :
    ackWord oth w = (([w.toNat].filter fun n => !n.testBit 14).map
      fun n => if oth then n ^^^ 2 ^ 13 else n).map UInt16.ofNat := by
  unfold ackWord
  by_cases h : w &&& 0x4000 = 0
  · have h' := (and_0x4000_eq_zero_iff w).1 h
    cases oth <;> simp [h, h', xor_0x2000_eq, ofNat_toNat]
  · have h' : w.toNat.testBit 14 = true := by simpa [and_0x4000_eq_zero_iff] using h
    simp [h, h']

/-- The count, the suffix and the words of the parse are the reference's. -/
theorem ackParse_eq_ref (env : Env) (c : Conn) (oth : Bool) (d : List UInt8) :
    (dnProcessAck env c oth d).len = ackConsumedRef d ∧ ackSkip d = d.drop (ackConsumedRef d) ∧
      ackFields oth d = (ackAppliedRef oth d).map UInt16.ofNat := by
  match d with
  | [] | [_] =>
    simp [ackConsumedRef, dnProcessAck, ackSkip, ackFields, ackAppliedRef, ackConsumedWordsRef]
  | [lo, hi] | [lo, hi, _] =>
    have hr : List.range 1 = [0] := rfl
    by_cases h : le16 lo hi &&& 0x8000 = 0 <;>
      simp [ackConsumedRef_cons_cons, dnProcessAck, ackSkip, ackFields, ackAppliedRef,
        ackConsumedWordsRef, h, hr, leWordRef_zero, ackWord_eq_ref]
  | lo :: hi :: lo' :: hi' :: rest =>
    have hr : List.range 2 = [0, 1] := rfl
    have hr1 : List.range 1 = [0] := rfl
    have hl : ¬ rest.length + 1 + 1 < 2 := by omega
    by_cases h : le16 lo hi &&& 0x8000 = 0 <;> by_cases g : le16 lo' hi' &&& 0x8000 = 0 <;>
      simp [ackConsumedRef_cons_cons, dnProcessAck, ackSkip, ackFields, ackAppliedRef,
        ackConsumedWordsRef, leWordRef_zero, leWordRef_cons_cons_one, h, g, hr, hr1, hl,
        ackWord_eq_ref, List.filter_cons, ← and_0x8000_eq_zero_iff]
    split_ifs <;> rfl

/-- `dn_process_ack` consumes the bytes the reference counts and leaves the rest of the frame; it
applies `dn_ack`, in order, to the words the reference lists, and the connection it leaves is
the reference's cursor rule folded over those words. -/
theorem dnProcessAck_eq_reference (env : Env) (c : Conn) (oth : Bool) (d : List UInt8) :
    (dnProcessAck env c oth d).len = ackConsumedRef d ∧
      (dnProcessAck env c oth d).data = d.drop (ackConsumedRef d) ∧
      ((dnProcessAck env c oth d).conn, (dnProcessAck env c oth d).events) =
        dnAckEach env c ((ackAppliedRef oth d).map UInt16.ofNat) ∧
      (dnProcessAck env c oth d).conn = (ackAppliedRef oth d).foldl dnAckRef c := by
  obtain ⟨hlen, hskip, hfields⟩ := ackParse_eq_ref env c oth d
  have hcalls := dnProcessAck_calls env c oth d
  rw [hfields] at hcalls
  refine ⟨hlen, (dnProcessAck_data ..).trans hskip, hcalls, ?_⟩
  rw [← ackAll_eq_ref env c _ (ackAppliedRef_lt oth d), ← dnAckEach_conn, ← hcalls]

end DecnetNsp
