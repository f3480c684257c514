import DecnetNsp.Acknowledgment

/-!
# Reordered acknowledgments

`dn_ack` compares with `dn_after`, which is not transitive on the 12-bit ring. Within the half
window after the initial cursor `c` it is, though: there `dn_after w cur` holds exactly when `w`
is further from `c` than `cur` (`dnAfter_iff_seqDist_lt`). So if every ack number a run carries
for a cursor lies in the 2047 numbers after `c`, the cursor ends at the furthest of them, or at
`c` if there is none (`foldl_cursorStep_furthest`). That end point depends only on which numbers
were carried, so any two orders of the same frames leave the cursor in the same place. The same
holds for whole runs of the backlog path, whose frames may be interleaved with any other input.
-/

namespace DecnetNsp

/-- The forward distance from the cursor `c` to the ack number `w` in the
12-bit ring. -/
def seqDist (c w : UInt16) : Nat := (w.toNat % 4096 + 4096 - c.toNat % 4096) % 4096

/-- `w` lies within the 2047 sequence numbers following `c`. -/
def InWindow (c w : UInt16) : Prop := 1 ≤ seqDist c w ∧ seqDist c w ≤ 2047

instance (c w : UInt16) : Decidable (InWindow c w) := inferInstanceAs (Decidable (_ ∧ _))

/-- `r` is the ack number of `ws` cyclically furthest from `c` (as the
12 bits a cursor holds), or `c` itself if `ws` is empty. -/
def IsFurthest (c : UInt16) (ws : List UInt16) (r : UInt16) : Prop :=
  (ws = [] ∧ r = c) ∨ ∃ w ∈ ws, r = w &&& seqMask ∧ ∀ w' ∈ ws, seqDist c w' ≤ seqDist c w

@[simp] theorem seqDist_self (c : UInt16) : seqDist c c = 0 := by
  unfold seqDist; omega

@[simp] theorem seqDist_and_seqMask (c w : UInt16) : seqDist c (w &&& seqMask) = seqDist c w := by
  unfold seqDist; rw [toNat_and_seqMask, Nat.mod_mod]

/-- Within the half window after `c`, `dn_after` is the order of distances from `c`. -/
theorem dnAfter_iff_seqDist_lt {c cur w : UInt16} (hcur : seqDist c cur ≤ 2047)
    (hw : InWindow c w) : dnAfter w cur = true ↔ seqDist c cur < seqDist c w := by
  rw [dnAfter_iff]
  unfold InWindow seqDist at *
  have := toNat_lt cur
  omega

/-- Two cursors furthest among the same ack numbers are equal. -/
theorem IsFurthest.unique {c : UInt16} {ws : List UInt16} {r r' : UInt16}
    (h : IsFurthest c ws r) (h' : IsFurthest c ws r') : r = r' := by
  rcases h with ⟨rfl, rfl⟩ | ⟨w, hw, rfl, hmax⟩
  · rcases h' with ⟨_, rfl⟩ | ⟨_, hw', _⟩
    · rfl
    · exact absurd hw' (List.not_mem_nil _)
  · rcases h' with ⟨rfl, _⟩ | ⟨w', hw', rfl, hmax'⟩
    · exact absurd hw (List.not_mem_nil _)
    · have hd := Nat.le_antisymm (hmax' w hw) (hmax w' hw')
      unfold seqDist at hd
      apply UInt16.toNat.inj
      rw [toNat_and_seqMask, toNat_and_seqMask]
      omega

/-- Being furthest depends only on which ack numbers were carried. -/
theorem IsFurthest.perm {c : UInt16} {ws ws' : List UInt16} {r : UInt16} (hp : ws.Perm ws')
    (h : IsFurthest c ws r) : IsFurthest c ws' r := by
  rcases h with ⟨rfl, rfl⟩ | ⟨w, hw, rfl, hmax⟩
  · exact Or.inl ⟨hp.nil_eq.symm, rfl⟩
  · exact Or.inr ⟨w, hp.mem_iff.1 hw, rfl, fun w' h' => hmax w' (hp.mem_iff.2 h')⟩

/-- What `dn_ack` does to the cursor of `sel` (`dnAck_ackrcv`). -/
def cursorStep (sel : Bool) (cur w : UInt16) : UInt16 :=
  if ackType w = ackSelector sel ∧ dnAfter w cur then w &&& seqMask else cur

/-- The ack numbers among `ws` for the cursor of `sel`: data (`false`) or other data (`true`). -/
def ackNumbersOf (sel : Bool) (ws : List UInt16) : List UInt16 :=
  ws.filter fun w => ackType w = ackSelector sel

theorem ackrcv_ackAll (env : Env) (c : Conn) (ws : List UInt16) (sel : Bool) :
    ackrcv sel (ackAll env c ws) = ws.foldl (cursorStep sel) (ackrcv sel c) := by
  induction ws generalizing c with
  | nil => rfl
  | cons w ws ih => exact (ih _).trans (by rw [dnAck_ackrcv]; rfl)

/-- The step lemma: an ack number in the window keeps the cursor at the furthest number seen. -/
theorem isFurthest_cursorStep {c cur w : UInt16} {S : List UInt16} (sel : Bool)
    (hS : ∀ x ∈ S, InWindow c x) (hw : InWindow c w) (hsel : ackType w = ackSelector sel)
    (h : IsFurthest c S cur) : IsFurthest c (S ++ [w]) (cursorStep sel cur w) := by
  have hcur : seqDist c cur ≤ 2047 ∧ ∀ x ∈ S, seqDist c x ≤ seqDist c cur := by
    rcases h with ⟨rfl, rfl⟩ | ⟨m, hm, rfl, hmax⟩
    · simp
    · rw [seqDist_and_seqMask]; exact ⟨(hS m hm).2, hmax⟩
  unfold cursorStep
  by_cases ha : seqDist c cur < seqDist c w
  · rw [if_pos ⟨hsel, (dnAfter_iff_seqDist_lt hcur.1 hw).2 ha⟩]
    refine Or.inr ⟨w, List.mem_append_right _ (List.mem_singleton_self _), rfl, fun x hx => ?_⟩
    rcases List.mem_append.1 hx with hx | hx
    · exact (hcur.2 x hx).trans ha.le
    · rw [List.mem_singleton.1 hx]
  · rw [if_neg fun h' => ha ((dnAfter_iff_seqDist_lt hcur.1 hw).1 h'.2)]
    rcases h with ⟨rfl, rfl⟩ | ⟨m, hm, rfl, hmax⟩
    · exact absurd (by simpa using hw.1) ha
    · refine Or.inr ⟨m, List.mem_append_left _ hm, rfl, fun x hx => ?_⟩
      rcases List.mem_append.1 hx with hx | hx
      · exact hmax x hx
      · rw [List.mem_singleton.1 hx]; rw [seqDist_and_seqMask] at ha; omega

/-- The run lemma: over any words whose ack numbers for `sel` are in the window, the cursor ends
at the furthest number seen. -/
theorem foldl_cursorStep_isFurthest (c : UInt16) (sel : Bool) :
    ∀ (ws S : List UInt16) (cur : UInt16), IsFurthest c S cur → (∀ x ∈ S, InWindow c x) →
      (∀ x ∈ ackNumbersOf sel ws, InWindow c x) →
      IsFurthest c (S ++ ackNumbersOf sel ws) (ws.foldl (cursorStep sel) cur)
  | [], S, cur, h, _, _ => by simpa [ackNumbersOf] using h
  | w :: ws, S, cur, h, hS, hws => by
    have hws' : ∀ x ∈ ackNumbersOf sel ws, InWindow c x := fun x hx =>
      hws x (List.sublist_cons_self _ _ |>.filter _ |>.subset hx)
    by_cases hsel : ackType w = ackSelector sel
    · have hcons : ackNumbersOf sel (w :: ws) = w :: ackNumbersOf sel ws := by
        simp [ackNumbersOf, hsel]
      have hw : InWindow c w := hws w (by rw [hcons]; exact List.mem_cons_self _ _)
      rw [hcons, ← List.singleton_append, ← List.append_assoc]
      exact foldl_cursorStep_isFurthest c sel ws _ _
        (isFurthest_cursorStep sel hS hw hsel h)
        (fun x hx => (List.mem_append.1 hx).elim (hS x) fun hx => List.mem_singleton.1 hx ▸ hw)
        hws'
    · have hcons : ackNumbersOf sel (w :: ws) = ackNumbersOf sel ws := by
        simp [ackNumbersOf, hsel]
      have hstep : cursorStep sel cur w = cur := if_neg fun h' => hsel h'.1
      rw [hcons, List.foldl_cons, hstep]
      exact foldl_cursorStep_isFurthest c sel ws S cur h hS hws'

/-- From the initial cursor itself, the cursor ends at the furthest ack number, whatever the order
of the words. -/
theorem foldl_cursorStep_furthest (c : UInt16) (sel : Bool) (ws : List UInt16)
    (hwin : ∀ x ∈ ackNumbersOf sel ws, InWindow c x) :
    IsFurthest c (ackNumbersOf sel ws) (ws.foldl (cursorStep sel) c) := by
  simpa using foldl_cursorStep_isFurthest c sel ws [] c (Or.inl ⟨rfl, rfl⟩)
    (fun _ h => absurd h (List.not_mem_nil _)) hwin

theorem foldl_cursorStep_perm (c : UInt16) (sel : Bool) {ws ws' : List UInt16} (hp : ws.Perm ws')
    (hwin : ∀ x ∈ ackNumbersOf sel ws, InWindow c x) :
    ws.foldl (cursorStep sel) c = ws'.foldl (cursorStep sel) c := by
  have hp' : (ackNumbersOf sel ws).Perm (ackNumbersOf sel ws') := hp.filter _
  have h' := foldl_cursorStep_furthest c sel ws' fun x hx => hwin x (hp'.mem_iff.2 hx)
  exact (foldl_cursorStep_furthest c sel ws hwin).unique (h'.perm hp'.symm)

/-- A frame as `dn_process_ack` sees it: whether its acks are cross-subchannel (`oth`), and the
bytes from its ack fields on. -/
structure AckFrame where
  oth : Bool
  data : List UInt8
  deriving DecidableEq, Repr

/-- The frames handed to `dn_process_ack` one after another. -/
def ackRun (env : Env) (c : Conn) (frames : List AckFrame) : Conn :=
  frames.foldl (fun c f => (dnProcessAck env c f.oth f.data).conn) c

/-- The data-ack (`sel = false`) or other-data-ack (`sel = true`) numbers the frames carry. -/
def ackNumbers (sel : Bool) (frames : List AckFrame) : List UInt16 :=
  ackNumbersOf sel (frames.flatMap fun f => ackFields f.oth f.data)

theorem ackRun_ackrcv (env : Env) (c : Conn) (frames : List AckFrame) (sel : Bool) :
    ackrcv sel (ackRun env c frames) =
      (frames.flatMap fun f => ackFields f.oth f.data).foldl (cursorStep sel) (ackrcv sel c) := by
  rw [← ackrcv_ackAll]
  induction frames generalizing c with
  | nil => rfl
  | cons f fs ih =>
    rw [List.flatMap_cons, ackAll_append, ← dnProcessAck_conn]
    exact ih _

/-- The ack words an input hands to `dn_ack`. -/
def inputAcks : Input → List UInt16
  | .backlog _ skb => frameAcks skb
  | .returnedConnInit => []

theorem step_ackrcv (cfg : Config) (c : Conn) (i : Input) (sel : Bool) :
    ackrcv sel (step cfg c i).1 = (inputAcks i).foldl (cursorStep sel) (ackrcv sel c) := by
  cases i with
  | backlog env skb => exact (dnNspBacklogRcv_ackrcv cfg env c skb sel).trans (ackrcv_ackAll ..)
  | returnedConnInit =>
    obtain ⟨_, _, _, h⟩ := dnReturnedConnInit_frame c
    show ackrcv sel (dnReturnedConnInit c).1 = ackrcv sel c
    rw [h]; cases sel <;> rfl

theorem run_ackrcv (cfg : Config) (c : Conn) (is : List Input) (sel : Bool) :
    ackrcv sel (run cfg c is).1 = (is.flatMap inputAcks).foldl (cursorStep sel) (ackrcv sel c) := by
  induction is generalizing c with
  | nil => rfl
  | cons i is ih => rw [run_cons, ih, step_ackrcv, List.flatMap_cons, List.foldl_append]

/-- Any two orders of the same inputs, frames of any kind and returned connect-initiates alike,
leave an ack cursor at the same place when every ack number they carry for it lies in the 2047
numbers after where it started. -/
theorem run_reordered_acks_same_cursor (cfg : Config) (c : Conn) (sel : Bool) {is is' : List Input}
    (hp : is.Perm is')
    (hwin : ∀ w ∈ ackNumbersOf sel (is.flatMap inputAcks), InWindow (ackrcv sel c) w) :
    ackrcv sel (run cfg c is).1 = ackrcv sel (run cfg c is').1 := by
  rw [run_ackrcv, run_ackrcv]
  exact foldl_cursorStep_perm _ sel (hp.flatMap_right _) hwin

/-- Acknowledgments of our data segments 1 and 2. -/
def sampleAcks : List Input :=
  [.backlog sampleEnv ⟨0x04, sampleRtFlags, 0x0102, 0x0304, 0, [0x01, 0x80], 512⟩,
    .backlog sampleEnv ⟨0x04, sampleRtFlags, 0x0102, 0x0304, 0, [0x02, 0x80], 512⟩]

theorem runConn_reordered_acks_same_cursor :
    sampleAcks.Perm sampleAcks.reverse ∧
      (∀ w ∈ ackNumbersOf false (sampleAcks.flatMap inputAcks), InWindow (ackrcv false runConn) w) ∧
      ackrcv false (run sampleConfig runConn sampleAcks).1 =
        ackrcv false (run sampleConfig runConn sampleAcks.reverse).1 :=
  ⟨(List.reverse_perm _).symm, by decide,
    run_reordered_acks_same_cursor sampleConfig runConn false (List.reverse_perm _).symm (by decide)⟩

end DecnetNsp
