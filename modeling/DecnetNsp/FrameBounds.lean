import DecnetNsp.Receive

/-!
# Reads past the end of a connect-initiate

`dn_nsp_rx_packet` makes sure of four bytes of a returned connect-initiate and reads its source
port from offsets 3 and 4; `dn_find_listener` copies the fields of the 9-byte
`nsp_conn_init_msg` into the control block before it makes sure of 9 bytes; and `dn_check_idf`
reads the length byte of a field before it looks at the length left, so an access field that
ends the frame is followed by a read past its end. All three read past the end of the frame
(`connInit_reads_past_frame`).
-/

namespace DecnetNsp

/-- `checkIdfs` reads the length byte of the first field it checks. -/
theorem checkIdfs_reads_head (f : RawFrame) (pos : Nat) (len : Int) (max : Nat) (maxes : List Nat) :
    pos ∈ (checkIdfs f pos len (max :: maxes)).2 := by
  unfold checkIdfs; split <;> simp

/-- With the access-data bit set in the menu-version byte at `p`, and a first access field that
ends the frame, the length byte of the second is read from past the end. -/
theorem menuverStage_reads_end (f : RawFrame) (p : Nat) (reads : List Nat)
    (hp : p + 2 ≤ f.data.length) (hacc : f.byte p &&& dnMenuverAcc ≠ 0)
    (hflen : (f.byte (p + 1)).toNat + p + 2 = f.data.length) (h39 : (f.byte (p + 1)).toNat ≤ 39) :
    f.data.length ∈ (menuverStage f p reads).2 := by
  have hc : dnCheckIdf f (p + 1) ((f.data.length : Int) - p - 1) 39 = some (f.data.length, 0) := by
    unfold dnCheckIdf
    rw [if_neg (by omega), if_neg (by omega)]
    simp only [Option.some.injEq, Prod.mk.injEq]
    omega
  have hm : f.data.length ∈ (checkIdfs f (p + 1) ((f.data.length : Int) - p - 1) [39, 39, 39]).2 := by
    simp only [checkIdfs, hc, List.mem_cons]
    exact .inr (checkIdfs_reads_head f _ 0 39 [39])
  unfold menuverStage
  rw [if_neg (by omega), if_neg (fun h => absurd h.2 (by omega))]
  dsimp only
  rw [if_pos hacc]
  split
  · simp [hm]
  · split <;> simp [hm]

theorem connInit_reads_past_frame (user : UsernameParser) (f : RawFrame)
    (hci : f.byte 0 = 0x18 ∨ f.byte 0 = 0x68)
    (hshort : (f.rtFlags.rts = true ∧ f.data.length = 4) ∨
      (f.rtFlags.rts = false ∧ 2 ≤ f.data.length ∧ f.data.length < 9) ∨
      (f.rtFlags.rts = false ∧ 9 ≤ f.data.length ∧ ∃ dl t sl t',
        user.parse (f.data.drop 9) = some (dl, t) ∧ t.toNat ≤ 1 ∧
        user.parse (f.data.drop (9 + dl)) = some (sl, t') ∧ 9 + dl + sl + 2 ≤ f.data.length ∧
        f.byte (9 + dl + sl) &&& dnMenuverAcc ≠ 0 ∧
        (f.byte (9 + dl + sl + 1)).toNat + (9 + dl + sl) + 2 = f.data.length ∧
        (f.byte (9 + dl + sl + 1)).toNat ≤ 39)) :
    ∃ i ∈ (dnNspRxPacket user f).2, f.data.length ≤ i ∧ f.data[i]? = none := by
  rcases hshort with ⟨hr, hl⟩ | ⟨hr, hl2, hl9⟩ | ⟨hr, hl9, dl, t, sl, t', hd, ht, hs, hp, hacc, hflen, h39⟩
  · refine ⟨4, ?_, by omega, List.getElem?_eq_none (by omega)⟩
    rw [dnNspRxPacket_connInit user f (by omega) hci, if_pos hr, if_neg (by omega)]
    simp
  · refine ⟨8, ?_, by omega, List.getElem?_eq_none (by omega)⟩
    rw [dnNspRxPacket_connInit user f hl2 hci, if_neg (by simp [hr]), dnFindListener_of_short user f hl9]
    simp
  · refine ⟨f.data.length, ?_, le_rfl, List.getElem?_eq_none le_rfl⟩
    have hfl : dnFindListener user f = menuverStage f (9 + dl + sl) [3, 4, 1, 2, 5, 6, 7, 8] := by
      simp only [dnFindListener, hd, hs, if_neg (Nat.not_lt.2 hl9), if_neg (Nat.not_lt.2 ht)]
    have hm := menuverStage_reads_end f _ [3, 4, 1, 2, 5, 6, 7, 8] hp hacc hflen h39
    rw [dnNspRxPacket_connInit user f (by omega) hci, if_neg (by simp [hr]), ← hfl] at *
    split <;> exact List.mem_cons_of_mem _ hm

/-- A returned connect-initiate cut to four bytes. -/
def sampleShortReturned : RawFrame := ⟨⟨true, true, false⟩, [0x18, 0x01, 0x00, 0x02], fun _ => 0, 512⟩

/-- A parser that takes the first byte it is given as a username of format type 0. -/
def oneByteUsernames : UsernameParser where
  parse
    | [] => none
    | _ :: _ => some (1, 0)
  consumed_le
    | [], _, _, h => nomatch h
    | _ :: _, _, _, h => by cases h; simp

/-- A connect-initiate whose one-byte usernames are followed by a menu version with the
access-data bit and an empty first access field, where the frame ends. -/
def sampleAccessCut : RawFrame :=
  ⟨⟨false, true, false⟩, [0x18, 0x01, 0x00, 0x02, 0x00, 0x01, 0x00, 0x00, 0x04, 0x41, 0x42, 0x01, 0x00],
    fun _ => 0, 512⟩

theorem sample_connInits_read_past_frame :
    ((sampleShortReturned.byte 0 = 0x18 ∨ sampleShortReturned.byte 0 = 0x68) ∧
      (sampleShortReturned.rtFlags.rts = true ∧ sampleShortReturned.data.length = 4) ∧
      ∃ i ∈ (dnNspRxPacket noUsernames sampleShortReturned).2,
        sampleShortReturned.data.length ≤ i ∧ sampleShortReturned.data[i]? = none) ∧
    ((sampleAccessCut.byte 0 = 0x18 ∨ sampleAccessCut.byte 0 = 0x68) ∧
      (sampleAccessCut.rtFlags.rts = false ∧ 9 ≤ sampleAccessCut.data.length ∧ ∃ dl t sl t',
        oneByteUsernames.parse (sampleAccessCut.data.drop 9) = some (dl, t) ∧ t.toNat ≤ 1 ∧
        oneByteUsernames.parse (sampleAccessCut.data.drop (9 + dl)) = some (sl, t') ∧
        9 + dl + sl + 2 ≤ sampleAccessCut.data.length ∧
        sampleAccessCut.byte (9 + dl + sl) &&& dnMenuverAcc ≠ 0 ∧
        (sampleAccessCut.byte (9 + dl + sl + 1)).toNat + (9 + dl + sl) + 2 =
          sampleAccessCut.data.length ∧
        (sampleAccessCut.byte (9 + dl + sl + 1)).toNat ≤ 39) ∧
      ∃ i ∈ (dnNspRxPacket oneByteUsernames sampleAccessCut).2,
        sampleAccessCut.data.length ≤ i ∧ sampleAccessCut.data[i]? = none) :=
  have ha : sampleAccessCut.rtFlags.rts = false ∧ 9 ≤ sampleAccessCut.data.length ∧ ∃ dl t sl t',
      oneByteUsernames.parse (sampleAccessCut.data.drop 9) = some (dl, t) ∧ t.toNat ≤ 1 ∧
      oneByteUsernames.parse (sampleAccessCut.data.drop (9 + dl)) = some (sl, t') ∧
      9 + dl + sl + 2 ≤ sampleAccessCut.data.length ∧
      sampleAccessCut.byte (9 + dl + sl) &&& dnMenuverAcc ≠ 0 ∧
      (sampleAccessCut.byte (9 + dl + sl + 1)).toNat + (9 + dl + sl) + 2 =
        sampleAccessCut.data.length ∧
      (sampleAccessCut.byte (9 + dl + sl + 1)).toNat ≤ 39 :=
    ⟨rfl, by decide, 1, 0, 1, 0, rfl, by decide, rfl, by decide, by decide, by decide, by decide⟩
  ⟨⟨.inl rfl, ⟨rfl, rfl⟩, connInit_reads_past_frame noUsernames sampleShortReturned (.inl rfl)
      (.inl ⟨rfl, rfl⟩)⟩,
    ⟨.inl rfl, ha, connInit_reads_past_frame oneByteUsernames sampleAccessCut (.inl rfl)
      (.inr (.inr ha))⟩⟩

end DecnetNsp
