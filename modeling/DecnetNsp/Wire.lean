import Mathlib

/-!
# Wire fields and the 12-bit sequence space

Little-endian 16-bit fields as `le16_to_cpu` reads them, and the sequence-number helpers of
`dn_nsp.h` that `dn_nsp_in.c` calls. That header is not in this repository: its helpers and
constants are modelled from the spec (§4.1, §6), and each is bridged here to arithmetic on
naturals, so that later proofs never unfold them.
-/

namespace DecnetNsp

/-- `le16_to_cpu` of the two bytes of a little-endian 16-bit field. -/
def le16 (lo hi : UInt8) : UInt16 := UInt16.ofNat (lo.toNat + 256 * hi.toNat)

/-- A `signed char` read from its byte. -/
def signedChar (b : UInt8) : Int := if b.toNat < 128 then b.toNat else b.toNat - 256

/-- `SEQ_MASK` and `NSP_SG_MASK`: the 12 bits of a segment number. -/
def seqMask : UInt16 := 0x0fff

/-- Modelled from the spec: `dn_after`, the `after (a, b)` of §4.1. `seq1` is strictly ahead of
`seq2` in the 12-bit cyclic space, at a distance below half the range. -/
def dnAfter (seq1 seq2 : UInt16) : Bool :=
  let d := (seq1 - seq2) &&& seqMask
  0 < d && d < 2048

/-- Modelled from the spec: `seq_next`, the `next (expected, n)` of §4.1. Only the expected
segment number is accepted, compared in the 12-bit space. -/
def seqNext (expected n : UInt16) : Bool := (n &&& seqMask) == (expected &&& seqMask)

/-- Modelled from the spec: `seq_add`, the `advance` of §4.1, modulo 2^12. -/
def seqAdd (seq off : UInt16) : UInt16 := (seq + off) &&& seqMask

/-- Modelled from the spec: `sendack`, the should-delay predicate of §4.5. An acknowledgment
goes out at once unless the segment number field carries the delay bit (bit 12). -/
def sendack (seq : UInt16) : Bool := seq &&& 0x1000 == 0

/-! Modelled from the spec: the reason codes of §6 that this file sends or tests, and the
message flags and service bits it compares against, with their DECnet wire values. -/

def nspReasonOk : UInt16 := 0
def nspReasonId : UInt16 := 4
def nspReasonUs : UInt16 := 7
def nspReasonNl : UInt16 := 41
def nspReasonDc : UInt16 := 42
def nspReasonIo : UInt16 := 43

def nspDiscinit : UInt8 := 0x38
def nspDiscconf : UInt8 := 0x48

def nspFcMask : UInt8 := 0x0c
def nspFcNone : UInt8 := 0x00
def nspFcScmc : UInt8 := 0x08

def dnNochange : UInt8 := 0
def dnDontsend : UInt8 := 1
def dnSend : UInt8 := 2

def dnMenuverAcc : UInt8 := 0x01
def dnMenuverUsr : UInt8 := 0x02

theorem toNat_and_seqMask (x : UInt16) : (x &&& seqMask).toNat = x.toNat % 4096 := by
  rw [UInt16.and_toNat]
  exact Nat.and_pow_two_sub_one_eq_mod x.toNat 12

theorem toNat_add (x y : UInt16) : (x + y).toNat = (x.toNat + y.toNat) % 65536 := by
  simp [UInt16.toNat, UInt16.add_def, BitVec.toNat_add]

theorem toNat_sub (x y : UInt16) : (x - y).toNat = (65536 - y.toNat + x.toNat) % 65536 := by
  simp [UInt16.toNat, UInt16.sub_def, BitVec.toNat_sub]

theorem toNat_lt (x : UInt16) : x.toNat < 65536 := x.toNat_lt_size

theorem le16_toNat (lo hi : UInt8) : (le16 lo hi).toNat = lo.toNat + 256 * hi.toNat := by
  have hl := lo.toNat_lt_size
  have hh := hi.toNat_lt_size
  rw [le16, UInt16.toNat_ofNat_of_lt]
  simp only [UInt8.size, UInt16.size] at *
  omega

theorem seqAdd_toNat (seq : UInt16) : (seqAdd seq 1).toNat = (seq.toNat + 1) % 4096 := by
  rw [seqAdd, toNat_and_seqMask, toNat_add]
  have := toNat_lt seq
  change (seq.toNat + 1) % 65536 % 4096 = _
  omega

theorem seqAdd_lt (seq : UInt16) : (seqAdd seq 1).toNat < 4096 := by
  rw [seqAdd_toNat]; omega

theorem seqNext_iff (e n : UInt16) : seqNext e n = true ↔ n.toNat % 4096 = e.toNat % 4096 := by
  simp only [seqNext, beq_iff_eq, ← toNat_and_seqMask]
  exact ⟨congrArg UInt16.toNat, UInt16.toNat.inj⟩

/-- `dn_after` on naturals: the forward distance from `seq2` to `seq1` is in `[1, 2047]`. -/
theorem dnAfter_iff (seq1 seq2 : UInt16) :
    dnAfter seq1 seq2 = true ↔
      0 < (seq1.toNat + (65536 - seq2.toNat)) % 4096 ∧
        (seq1.toNat + (65536 - seq2.toNat)) % 4096 < 2048 := by
  have h := toNat_and_seqMask (seq1 - seq2)
  rw [toNat_sub] at h
  have hd : ((seq1 - seq2) &&& seqMask).toNat = (seq1.toNat + (65536 - seq2.toNat)) % 4096 := by
    rw [h]; have := toNat_lt seq2; omega
  simp only [dnAfter, Bool.and_eq_true, decide_eq_true_eq, UInt16.lt_def, BitVec.lt_def]
  change 0 < ((seq1 - seq2) &&& seqMask).toNat ∧ ((seq1 - seq2) &&& seqMask).toNat < 2048 ↔ _
  rw [hd]

end DecnetNsp
