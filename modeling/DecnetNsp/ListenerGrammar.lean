import DecnetNsp.FrameBounds

/-!
# What `dn_find_listener` accepts

The payload of a connect-initiate after its 9-byte header reaches the listener lookup exactly
when it splits as `D ++ S ++ [m] ++ A ++ U ++ rest`: a destination username `D` accepted with
format type at most 1, a source username `S`, the menu-version byte `m`, three bounded access
fields `A` when `m` has `DN_MENUVER_ACC` and one bounded user-data field `U` when it has
`DN_MENUVER_USR`. Otherwise the first stage that fails indexes `ci_err_table`.

The code walks the frame with an offset and a signed count of bytes left, and reads the length
byte of a bounded field before it looks at the count. The reference walks lists. The two are
tied by one lemma per step: at an offset the code reaches, the bytes from the offset on form a
suffix of the frame, and offset and count are both read off its length (`checkIdfs_suffix`).
-/

namespace DecnetNsp

/-- A bounded field of at most `max` bytes, its one-byte length first. -/
def LengthPrefixed (max : Nat) (x : List UInt8) : Prop :=
  ∃ n bs, x = n :: bs ∧ bs.length = n.toNat ∧ n.toNat ≤ max

/-- The access fields after the menu version `m`. Three bounded fields of
at most 39 bytes when `m` has `DN_MENUVER_ACC`, else none. -/
def AccessFields (m : UInt8) (A : List UInt8) : Prop :=
  if m &&& dnMenuverAcc ≠ 0 then
    ∃ a1 a2 a3, A = a1 ++ a2 ++ a3 ∧
      LengthPrefixed 39 a1 ∧ LengthPrefixed 39 a2 ∧ LengthPrefixed 39 a3
  else A = []

/-- The user data after the access fields. One bounded field of at most
16 bytes when `m` has `DN_MENUVER_USR`, else none. -/
def UserField (m : UInt8) (U : List UInt8) : Prop :=
  if m &&& dnMenuverUsr ≠ 0 then LengthPrefixed 16 U else U = []

/-- The payload after the header of a connect-initiate that reaches the
listener lookup. -/
def ListenerGrammar (user : UsernameParser) (p : List UInt8) : Prop :=
  ∃ D S m A U rest, p = D ++ S ++ [m] ++ A ++ U ++ rest ∧
    (∃ t, user.parse p = some (D.length, t) ∧ t.toNat ≤ 1) ∧
    (∃ t, user.parse (S ++ [m] ++ A ++ U ++ rest) = some (S.length, t)) ∧
    AccessFields m A ∧ UserField m U

/-- Strip a bounded field of at most `max` bytes from the head. It fails
if its length exceeds `max` or the bytes that remain. -/
def takeField (max : Nat) : List UInt8 → Option (List UInt8)
  | [] => none
  | n :: bs => if n.toNat ≤ max ∧ n.toNat ≤ bs.length then some (bs.drop n.toNat) else none

/-- Strip bounded fields of the given maxima, one after another. -/
def takeFields : List Nat → List UInt8 → Option (List UInt8)
  | [], x => some x
  | max :: maxes, x => (takeField max x).bind (takeFields maxes)

/-- The access stage after the menu version `m`. -/
def accessStage (m : UInt8) (q : List UInt8) : Option (List UInt8) :=
  if m &&& dnMenuverAcc ≠ 0 then takeFields [39, 39, 39] q else some q

/-- The user-data stage after the menu version `m`. -/
def userStage (m : UInt8) (q : List UInt8) : Option (List UInt8) :=
  if m &&& dnMenuverUsr ≠ 0 then takeField 16 q else some q

/-- The stages from the menu version on, over the bytes after the source
username: menu version (4), missing optional data (5), access data (6), user data (7). -/
def menuverStageRef : List UInt8 → Option (Fin 8)
  | [] => some 4
  | m :: q =>
    if m &&& (dnMenuverAcc ||| dnMenuverUsr) ≠ 0 ∧ q = [] then some 5
    else match accessStage m q with
    | none => some 6
    | some q' => if userStage m q' = none then some 7 else none

/-- The first stage of `dn_find_listener` that a connect-initiate fails,
as an index into `ci_err_table`, or none when it reaches the listener lookup. Truncated header
(0), destination username (1), destination format type (2), source username (3), then the
stages of `menuverStageRef`. -/
def ciFirstFailure (user : UsernameParser) (d : List UInt8) : Option (Fin 8) :=
  if d.length < 9 then some 0
  else match user.parse (d.drop 9) with
  | none => some 1
  | some (dl, t) =>
    if 1 < t.toNat then some 2
    else match user.parse ((d.drop 9).drop dl) with
    | none => some 3
    | some (sl, _) => menuverStageRef (((d.drop 9).drop dl).drop sl)

theorem takeField_eq_some_iff (max : Nat) (x r : List UInt8) :
    takeField max x = some r ↔ ∃ a, x = a ++ r ∧ LengthPrefixed max a := by
  constructor
  · intro h
    match x with
    | [] => cases h
    | n :: bs =>
      simp only [takeField] at h
      split at h
      next hn =>
        cases h
        refine ⟨n :: bs.take n.toNat, by simp, n, _, rfl, ?_, hn.1⟩
        rw [List.length_take]; omega
      next => cases h
  · rintro ⟨_, rfl, n, bs, rfl, hl, hm⟩
    simp [takeField, hl, hm, List.drop_left' hl]

theorem takeFields_three_eq_some_iff (x r : List UInt8) :
    takeFields [39, 39, 39] x = some r ↔ ∃ a1 a2 a3, x = a1 ++ a2 ++ a3 ++ r ∧
      LengthPrefixed 39 a1 ∧ LengthPrefixed 39 a2 ∧ LengthPrefixed 39 a3 := by
  simp only [takeFields, Option.bind_eq_some, takeField_eq_some_iff, Option.some.injEq]
  constructor
  · rintro ⟨_, ⟨a1, rfl, h1⟩, _, ⟨a2, rfl, h2⟩, _, ⟨a3, rfl, h3⟩, rfl⟩
    exact ⟨a1, a2, a3, by simp, h1, h2, h3⟩
  · rintro ⟨a1, a2, a3, rfl, h1, h2, h3⟩
    exact ⟨_, ⟨a1, by simp, h1⟩, _, ⟨a2, rfl, h2⟩, _, ⟨a3, rfl, h3⟩, rfl⟩

theorem accessStage_eq_some_iff (m : UInt8) (q r : List UInt8) :
    accessStage m q = some r ↔ ∃ A, q = A ++ r ∧ AccessFields m A := by
  unfold accessStage AccessFields
  split
  · rw [takeFields_three_eq_some_iff]
    constructor
    · rintro ⟨a1, a2, a3, rfl, h⟩
      exact ⟨_, rfl, a1, a2, a3, rfl, h⟩
    · rintro ⟨_, rfl, a1, a2, a3, rfl, h⟩
      exact ⟨a1, a2, a3, rfl, h⟩
  · simp [eq_comm]

theorem userStage_eq_some_iff (m : UInt8) (q r : List UInt8) :
    userStage m q = some r ↔ ∃ U, q = U ++ r ∧ UserField m U := by
  unfold userStage UserField
  split
  · exact takeField_eq_some_iff ..
  · simp [eq_comm]

theorem LengthPrefixed.ne_nil {max : Nat} {x : List UInt8} (h : LengthPrefixed max x) :
    x ≠ [] := by
  obtain ⟨_, _, rfl, _⟩ := h
  exact List.cons_ne_nil _ _

theorem menuver_acc_or_usr (m : UInt8) (h : m &&& (dnMenuverAcc ||| dnMenuverUsr) ≠ 0) :
    m &&& dnMenuverAcc ≠ 0 ∨ m &&& dnMenuverUsr ≠ 0 := by
  by_contra hc
  push_neg at hc
  have h1 := congrArg UInt8.toNat hc.1
  have h2 := congrArg UInt8.toNat hc.2
  rw [UInt8.and_toNat] at h1 h2
  change m.toNat &&& 1 = 0 at h1
  change m.toNat &&& 2 = 0 at h2
  refine h (UInt8.toNat.inj ?_)
  change m.toNat &&& (1 ||| 2) = 0
  rw [Nat.and_or_distrib_left, h1, h2]; rfl

/-- A menu version announcing optional data is followed by some. -/
theorem optional_ne_nil {m : UInt8} {A U : List UInt8} (hA : AccessFields m A) (hU : UserField m U)
    (h : m &&& (dnMenuverAcc ||| dnMenuverUsr) ≠ 0) : A ++ U ≠ [] := by
  unfold AccessFields at hA; unfold UserField at hU
  rcases menuver_acc_or_usr m h with hm | hm
  · rw [if_pos hm] at hA
    obtain ⟨a1, _, _, rfl, h1, -⟩ := hA
    simp [h1.ne_nil]
  · rw [if_pos hm] at hU
    simp [hU.ne_nil]

theorem menuverStageRef_eq_none_iff (x : List UInt8) :
    menuverStageRef x = none ↔
      ∃ m A U rest, x = m :: (A ++ U ++ rest) ∧ AccessFields m A ∧ UserField m U := by
  constructor
  · intro h
    match x with
    | [] => cases h
    | m :: q =>
      simp only [menuverStageRef] at h
      split at h
      · cases h
      split at h
      · cases h
      next q' hacc =>
        split at h
        · cases h
        next husr =>
          obtain ⟨r, hr⟩ := Option.ne_none_iff_exists'.1 husr
          obtain ⟨A, rfl, hA⟩ := (accessStage_eq_some_iff m q q').1 hacc
          obtain ⟨U, rfl, hU⟩ := (userStage_eq_some_iff m _ r).1 hr
          exact ⟨m, A, U, r, by simp, hA, hU⟩
  · rintro ⟨m, A, U, rest, rfl, hA, hU⟩
    have hacc := (accessStage_eq_some_iff m (A ++ U ++ rest) (U ++ rest)).2 ⟨A, by simp, hA⟩
    have husr := (userStage_eq_some_iff m (U ++ rest) rest).2 ⟨U, rfl, hU⟩
    have h5 : ¬ (m &&& (dnMenuverAcc ||| dnMenuverUsr) ≠ 0 ∧ A ++ U ++ rest = []) := fun h =>
      optional_ne_nil hA hU h.1 (List.append_eq_nil.1 h.2).1
    simp only [menuverStageRef, if_neg h5, hacc, husr]
    rfl

/-- The stages pass exactly on the grammar. -/
theorem ciFirstFailure_eq_none_iff (user : UsernameParser) (d : List UInt8) :
    ciFirstFailure user d = none ↔ ListenerGrammar user (d.drop 9) := by
  constructor
  · intro h
    unfold ciFirstFailure at h
    split at h
    · cases h
    split at h
    · cases h
    next dl t hd =>
      split at h
      · cases h
      next ht =>
        split at h
        · cases h
        next sl t' hs =>
          obtain ⟨m, A, U, rest, hx, hA, hU⟩ := (menuverStageRef_eq_none_iff _).1 h
          have hdl := user.consumed_le _ _ _ hd
          have hsl := user.consumed_le _ _ _ hs
          have hsrc : ((d.drop 9).drop dl).take sl ++ [m] ++ A ++ U ++ rest = (d.drop 9).drop dl :=
            calc _ = ((d.drop 9).drop dl).take sl ++ ((d.drop 9).drop dl).drop sl := by
                  rw [hx]; simp
              _ = _ := List.take_append_drop _ _
          refine ⟨(d.drop 9).take dl, ((d.drop 9).drop dl).take sl, m, A, U, rest, ?_,
            ⟨t, ?_, by omega⟩, ⟨t', ?_⟩, hA, hU⟩
          · calc d.drop 9
                = (d.drop 9).take dl ++ (d.drop 9).drop dl := (List.take_append_drop _ _).symm
              _ = (d.drop 9).take dl ++ (((d.drop 9).drop dl).take sl ++ [m] ++ A ++ U ++ rest) := by
                rw [hsrc]
              _ = _ := by simp only [List.append_assoc]
          · rw [List.length_take, min_eq_left hdl]; exact hd
          · rw [hsrc, List.length_take, min_eq_left hsl]; exact hs
  · rintro ⟨D, S, m, A, U, rest, hp, ⟨t, hd, ht⟩, ⟨t', hs⟩, hA, hU⟩
    have hl9 : ¬ d.length < 9 := fun h => by
      rw [List.drop_eq_nil_of_le (by omega)] at hp; simp at hp
    have hsrc : (d.drop 9).drop D.length = S ++ [m] ++ A ++ U ++ rest := by
      rw [hp]; simp
    have hmenu : (S ++ [m] ++ A ++ U ++ rest).drop S.length = m :: (A ++ U ++ rest) := by simp
    simp only [ciFirstFailure, if_neg hl9, hd, if_neg (show ¬ 1 < t.toNat by omega), hsrc, hs,
      hmenu]
    exact (menuverStageRef_eq_none_iff _).2 ⟨m, A, U, rest, rfl, hA, hU⟩


/-- The offset and the count of bytes left at which the code stands when the bytes from there on
are `q`. -/
def suffixPos (f : RawFrame) (q : List UInt8) : Nat × Int := (f.data.length - q.length, q.length)

theorem byte_of_suffix {f : RawFrame} {n : UInt8} {bs : List UInt8} (h : n :: bs <:+ f.data) :
    f.byte (f.data.length - (n :: bs).length) = n := by
  have hd := List.suffix_iff_eq_drop.1 h
  unfold RawFrame.byte
  rw [List.getD_eq_getElem?_getD, ← List.head?_drop, ← hd]
  rfl

theorem takeField_suffix {max : Nat} {x r : List UInt8} (h : takeField max x = some r) :
    r <:+ x := by
  obtain ⟨a, rfl, -⟩ := (takeField_eq_some_iff max x r).1 h
  exact List.suffix_append a r

theorem dnCheckIdf_suffix (f : RawFrame) (max : Nat) {x : List UInt8} (hx : x <:+ f.data) :
    dnCheckIdf f (suffixPos f x).1 (suffixPos f x).2 max = (takeField max x).map (suffixPos f) := by
  match x, hx with
  | [], _ =>
    simp only [dnCheckIdf, suffixPos, takeField, Option.map_none', List.length_nil, Nat.cast_zero]
    split_ifs <;> first | rfl | omega
  | n :: bs, hx =>
    have hb := byte_of_suffix hx
    have hl := hx.length_le
    simp only [suffixPos, List.length_cons] at hb hl ⊢
    simp only [dnCheckIdf, takeField, hb]
    by_cases h : n.toNat ≤ max ∧ n.toNat ≤ bs.length
    · rw [if_neg (by omega), if_neg (by omega), if_pos h, Option.map_some']
      simp only [suffixPos, List.length_drop, Option.some.injEq, Prod.mk.injEq]
      constructor <;> omega
    · rw [if_neg h, Option.map_none']
      split_ifs <;> first | rfl | omega

theorem takeFields_suffix {maxes : List Nat} {x r : List UInt8} (h : takeFields maxes x = some r) :
    r <:+ x := by
  induction maxes generalizing x with
  | nil => cases h; exact List.suffix_refl _
  | cons max maxes ih =>
    obtain ⟨y, hy, h'⟩ := Option.bind_eq_some.1 h
    exact (ih h').trans (takeField_suffix hy)

theorem checkIdfs_suffix (f : RawFrame) (maxes : List Nat) {x : List UInt8} (hx : x <:+ f.data) :
    (checkIdfs f (suffixPos f x).1 (suffixPos f x).2 maxes).1 =
      (takeFields maxes x).map (suffixPos f) := by
  induction maxes generalizing x with
  | nil => rfl
  | cons max maxes ih =>
    simp only [checkIdfs, dnCheckIdf_suffix f max hx, takeFields]
    cases h : takeField max x with
    | none => rfl
    | some r => exact ih ((takeField_suffix h).trans hx)

theorem accessStage_suffix {m : UInt8} {q r : List UInt8} (h : accessStage m q = some r) :
    r <:+ q := by
  unfold accessStage at h
  split at h
  · exact takeFields_suffix h
  · cases h; exact List.suffix_refl _

@[simp] theorem takeFields_one (max : Nat) (x : List UInt8) :
    takeFields [max] x = takeField max x := by
  cases h : takeField max x <;> simp [takeFields, h]

theorem checkIdfs_stage_suffix (f : RawFrame) (b : Prop) [Decidable b] (maxes : List Nat)
    {q : List UInt8} (hq : q <:+ f.data) :
    (if b then checkIdfs f (suffixPos f q).1 (suffixPos f q).2 maxes
      else (some ((suffixPos f q).1, (suffixPos f q).2), [])).1 =
      (if b then takeFields maxes q else some q).map (suffixPos f) := by
  split
  · exact checkIdfs_suffix f maxes hq
  · rfl

/-- From the menu version on, the code's stages are the reference's, over the bytes from the
menu version on. -/
theorem menuverStage_suffix (f : RawFrame) (pos : Nat) (reads : List Nat) :
    (menuverStage f pos reads).1 = menuverStageRef (f.data.drop pos) := by
  unfold menuverStage
  by_cases h4 : (f.data.length : Int) - pos < 1
  · rw [if_pos h4, List.drop_eq_nil_of_le (by omega)]; rfl
  rw [if_neg h4]
  have hlt : pos < f.data.length := by omega
  have hd : f.data.drop pos = f.byte pos :: f.data.drop (pos + 1) := by
    rw [List.drop_eq_getElem_cons hlt, RawFrame.byte, List.getD_eq_getElem?_getD,
      List.getElem?_eq_getElem hlt]
    rfl
  have hq : f.data.drop (pos + 1) <:+ f.data := List.drop_suffix _ _
  generalize f.data.drop (pos + 1) = q at hd hq
  have hql := congrArg List.length hd
  simp only [List.length_drop, List.length_cons] at hql
  have hp : pos + 1 = (suffixPos f q).1 := by simp only [suffixPos]; omega
  have hl : (f.data.length : Int) - pos - 1 = (suffixPos f q).2 := by simp only [suffixPos]; omega
  have h5 : (suffixPos f q).2 < 1 ↔ q = [] := by
    rw [← List.length_eq_zero]; simp only [suffixPos]; omega
  rw [hd, hp, hl, menuverStageRef.eq_2]
  by_cases h5' : f.byte pos &&& (dnMenuverAcc ||| dnMenuverUsr) ≠ 0 ∧ q = []
  · rw [if_pos ⟨h5'.1, h5.2 h5'.2⟩, if_pos h5']
  rw [if_neg fun h => h5' ⟨h.1, h5.1 h.2⟩, if_neg h5']
  dsimp only
  rw [checkIdfs_stage_suffix f _ _ hq]
  unfold accessStage
  split
  next hn => rw [Option.map_eq_none'.1 hn]
  next p l hpl =>
    obtain ⟨q', ha, hpl⟩ := Option.map_eq_some'.1 hpl
    obtain ⟨rfl, rfl⟩ := Prod.ext_iff.1 hpl
    rw [ha]
    dsimp only
    rw [checkIdfs_stage_suffix f _ _ ((accessStage_suffix ha).trans hq), takeFields_one,
      show (if f.byte pos &&& dnMenuverUsr ≠ 0 then takeField 16 q' else some q') =
        userStage (f.byte pos) q' from rfl]
    cases userStage (f.byte pos) q' <;> rfl

/-- `dn_find_listener` fails at the stage the reference names, or at none. -/
theorem dnFindListener_eq_ciFirstFailure (user : UsernameParser) (f : RawFrame) :
    (dnFindListener user f).1 = ciFirstFailure user f.data := by
  unfold dnFindListener ciFirstFailure
  split
  · rfl
  cases user.parse (f.data.drop 9) with
  | none => rfl
  | some r =>
    obtain ⟨dl, t⟩ := r
    simp only
    split
    · rfl
    rw [List.drop_drop]
    cases user.parse (f.data.drop (9 + dl)) with
    | none => rfl
    | some r' => rw [menuverStage_suffix]; exact congrArg menuverStageRef (List.drop_drop ..).symm

example : (dnFindListener oneByteUsernames sampleAccessCut).1 = some 6 := by decide

/-- A connect-initiate that was not returned reaches the listener lookup exactly when the bytes
after its header follow the grammar. Otherwise `dn_find_listener` fails at the first stage the
reference names; the frame is then logged and answered with a disconnect-initiate carrying that
stage's reason, unless the reason is zero. -/
theorem find_listener_grammar (cfg : Config) (user : UsernameParser) (rx : RxEnv) (env : Env)
    (c : Conn) (f : RawFrame) (hci : f.byte 0 = 0x18 ∨ f.byte 0 = 0x68)
    (hrts : f.rtFlags.rts = false) :
    ((dnFindListener user f).1 = none ↔ ListenerGrammar user (f.data.drop 9)) ∧
      (dnFindListener user f).1 = ciFirstFailure user f.data ∧
      ∀ skb i, (dnNspRxPacket user f).1 = .rejected skb i →
        (dnFindListener user f).1 = some i ∧
        rxConn cfg user rx env c f =
          (c, (if cfg.decnetLogMartians then [.logMartian (ciErrTable i).2] else []) ++
            if (ciErrTable i).1 ≠ 0 then [.returnDisc nspDiscinit (ciErrTable i).1] else []) := by
  have href := dnFindListener_eq_ciFirstFailure user f
  refine ⟨href ▸ ciFirstFailure_eq_none_iff user f.data, href, fun skb i hrej => ?_⟩
  have hl : 2 ≤ f.data.length := by
    by_contra h
    simp [dnNspRxPacket, show f.data.length < 2 by omega] at hrej
  have hrx : rxConn cfg user rx env c f =
      (c, (if cfg.decnetLogMartians then [.logMartian (ciErrTable i).2] else []) ++
        dnNspNoSocket skb (ciErrTable i).1) := by
    unfold rxConn; rw [hrej]
  rw [dnNspRxPacket_connInit user f hl hci, if_neg (by simp [hrts])] at hrej
  split at hrej
  · cases hrej
  next e he =>
    cases hrej
    exact ⟨he, hrx.trans (by rw [dnNspNoSocket_connInit _ _ hci hrts])⟩

theorem sampleAccessCut_find_listener_grammar :
    ((sampleAccessCut.byte 0 = 0x18 ∨ sampleAccessCut.byte 0 = 0x68) ∧
      sampleAccessCut.rtFlags.rts = false) ∧
    (((dnFindListener oneByteUsernames sampleAccessCut).1 = none ↔
        ListenerGrammar oneByteUsernames (sampleAccessCut.data.drop 9)) ∧
      (dnFindListener oneByteUsernames sampleAccessCut).1 =
        ciFirstFailure oneByteUsernames sampleAccessCut.data ∧
      ∀ skb i, (dnNspRxPacket oneByteUsernames sampleAccessCut).1 = .rejected skb i →
        (dnFindListener oneByteUsernames sampleAccessCut).1 = some i ∧
        rxConn sampleConfig oneByteUsernames sampleRxEnv sampleEnv ccConn sampleAccessCut =
          (ccConn, (if sampleConfig.decnetLogMartians then [.logMartian (ciErrTable i).2] else []) ++
            if (ciErrTable i).1 ≠ 0 then [.returnDisc nspDiscinit (ciErrTable i).1] else [])) :=
  ⟨⟨.inl rfl, rfl⟩, find_listener_grammar sampleConfig oneByteUsernames sampleRxEnv sampleEnv ccConn
    sampleAccessCut (.inl rfl) rfl⟩

end DecnetNsp
