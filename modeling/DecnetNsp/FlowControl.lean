import DecnetNsp.Backlog

/-!
# Remote flow-control credit

An accepted link-service frame applies its `fcval` to `flowrem_dat` (a request count) or to
`flowrem_oth` (an interrupt request), both `unsigned short`. A negative request count is applied
only when it leaves credit, and then exactly (`lsUpdate_request_count_neg`). A positive grant is
added modulo 65536 with no such check, so a grant past 65535 wraps the counter
(`credit_grant_wraps`).
-/

namespace DecnetNsp

/-- An accepted link-service frame is its update of the connection with the other-data cursor
moved on. -/
theorem dnNspLinkservice_accept (c : Conn) (skb : Skb) {s0 s1 lsflags fc : UInt8}
    (hd : skb.data = [s0, s1, lsflags, fc]) (hl : lsflags &&& 0xf8 = 0)
    (hn : seqNext c.numothRcv (le16 s0 s1)) :
    (dnNspLinkservice c skb).1 = (lsUpdate { c with numothRcv := seqAdd c.numothRcv 1 } lsflags fc).1 := by
  unfold dnNspLinkservice
  rw [hd]
  simp only [hl, hn, ne_eq, not_true_eq_false, if_false, if_true]
  rfl

theorem lsUpdate_request_count (c : Conn) (fc : UInt8) (hpos : 0 < signedChar fc) :
    (lsUpdate c 0 fc).1.flowremDat = c.flowremDat + fc.toUInt16 := by
  unfold lsUpdate
  rw [if_pos (by decide), if_pos (by decide), if_neg (by omega), if_pos hpos]

theorem lsUpdate_interrupt (c : Conn) (fc : UInt8) (hpos : 0 < signedChar fc) :
    (lsUpdate c 0x04 fc).1.flowremOth = c.flowremOth + fc.toUInt16 := by
  unfold lsUpdate
  rw [if_neg (by decide), if_pos hpos]

/-- A negative request count is applied in segment-count mode when it is below the credit, and
then takes exactly its magnitude off: the counter never underflows. -/
theorem lsUpdate_request_count_neg (c : Conn) (fc : UInt8) (hneg : signedChar fc < 0) :
    (lsUpdate c 0 fc).1.flowremDat.toNat =
      if (0 - fc).toNat < c.flowremDat.toNat ∧ c.servicesRem &&& nspFcMask = nspFcScmc then
        c.flowremDat.toNat - (0 - fc).toNat
      else c.flowremDat.toNat := by
  unfold lsUpdate
  rw [if_pos (by decide), if_pos (by decide), if_pos hneg]
  split
  next h =>
    rw [toNat_sub]
    change (65536 - (0 - fc).toNat + c.flowremDat.toNat) % 65536 = _
    have := toNat_lt c.flowremDat
    omega
  next => rfl

/-- A grant that takes a credit counter past 65535 wraps it around. -/
theorem credit_grant_wraps (c : Conn) (skb : Skb) {s0 s1 lsflags fc : UInt8}
    (hd : skb.data = [s0, s1, lsflags, fc]) (hn : seqNext c.numothRcv (le16 s0 s1))
    (hpos : 0 < signedChar fc) :
    (lsflags = 0 → 65536 ≤ c.flowremDat.toNat + fc.toNat →
      (dnNspLinkservice c skb).1.flowremDat.toNat = c.flowremDat.toNat + fc.toNat - 65536) ∧
    (lsflags = 0x04 → 65536 ≤ c.flowremOth.toNat + fc.toNat →
      (dnNspLinkservice c skb).1.flowremOth.toNat = c.flowremOth.toNat + fc.toNat - 65536) := by
  have hfc := fc.toNat_lt
  constructor
  · rintro rfl hov
    rw [dnNspLinkservice_accept c skb hd (by decide) hn, lsUpdate_request_count _ _ hpos, toNat_add]
    have := toNat_lt c.flowremDat
    change (c.flowremDat.toNat + fc.toNat) % 65536 = _
    omega
  · rintro rfl hov
    rw [dnNspLinkservice_accept c skb hd (by decide) hn, lsUpdate_interrupt _ _ hpos, toNat_add]
    have := toNat_lt c.flowremOth
    change (c.flowremOth.toNat + fc.toNat) % 65536 = _
    omega

/-- A link-service frame, segment 0, granting one more data segment. -/
def sampleGrant : Skb := ⟨0x10, sampleRtFlags, 0x0102, 0x0304, 0, [0x00, 0x00, 0x00, 0x01], 512⟩

theorem full_credit_grant_wraps :
    (sampleGrant.data = [0, 0, 0, 1] ∧
      seqNext { runConn with flowremDat := 0xffff }.numothRcv (le16 0 0) ∧ 0 < signedChar 1) ∧
    ((0 : UInt8) = 0 → 65536 ≤ (0xffff : UInt16).toNat + (1 : UInt8).toNat →
      (dnNspLinkservice { runConn with flowremDat := 0xffff } sampleGrant).1.flowremDat.toNat =
        (0xffff : UInt16).toNat + (1 : UInt8).toNat - 65536) ∧
    ((0 : UInt8) = 0x04 → 65536 ≤ runConn.flowremOth.toNat + (1 : UInt8).toNat →
      (dnNspLinkservice { runConn with flowremDat := 0xffff } sampleGrant).1.flowremOth.toNat =
        runConn.flowremOth.toNat + (1 : UInt8).toNat - 65536) :=
  ⟨⟨rfl, by decide, by decide⟩, credit_grant_wraps { runConn with flowremDat := 0xffff } sampleGrant
    rfl (by decide) (by decide)⟩

end DecnetNsp
