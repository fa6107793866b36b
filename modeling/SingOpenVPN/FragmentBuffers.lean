import SingOpenVPN.Fragmentation

/-!
# What the steps of reassembly leave behind (`data_channel_fragmentation.go`)

The helpers of `storeIncomingFragment` give buffers up or leave them as they are; none of
them changes what a buffer contains.  `Shrunk` says so, and one lemma for each helper says
which buffers remain.  The header of a fragment is read back as it was written.
-/

namespace SingOpenVPN

open ByteCodec Option FragmentType AList FragmentReceiver

/-! ### Headers -/

/-- The fields of the word in front of a fragment, side by side. -/
theorem fragmentFlags_eq (fragmentType : FragmentType) {sequenceID fragmentID maxFragmentSize : Nat}
    (hsequence : sequenceID < 256) (hid : fragmentID < 32) (hsize : maxFragmentSize < 16384) :
    fragmentFlags fragmentType sequenceID fragmentID maxFragmentSize =
      fragmentType.code + 4 * sequenceID + 1024 * fragmentID +
        (if fragmentType = .last then 32768 * maxFragmentSize else 0) := by
  have hcode : fragmentType.code < 4 := by cases fragmentType <;> decide
  have hmasks : fragmentType.code &&& openVPNFragmentTypeMask = fragmentType.code ∧
      sequenceID &&& openVPNFragmentSequenceMask = sequenceID ∧
      fragmentID &&& openVPNFragmentIDMask = fragmentID ∧
      maxFragmentSize &&& openVPNFragmentSizeMask = maxFragmentSize :=
    ⟨Nat.and_two_pow_sub_one_of_lt_two_pow (n := 2) hcode,
      Nat.and_two_pow_sub_one_of_lt_two_pow (n := 8) hsequence,
      Nat.and_two_pow_sub_one_of_lt_two_pow (n := 5) hid,
      Nat.and_two_pow_sub_one_of_lt_two_pow (n := 14) hsize⟩
  simp only [fragmentFlags, hmasks, openVPNFragmentSequenceShift, openVPNFragmentIDShift,
    openVPNFragmentSizeShift]
  have hsequenceBits : fragmentType.code ||| sequenceID <<< 2 =
      fragmentType.code + sequenceID * 2 ^ 2 := or_shiftLeft (by omega) _
  have hidBits : (fragmentType.code + sequenceID * 2 ^ 2) ||| fragmentID <<< 10 =
      fragmentType.code + sequenceID * 2 ^ 2 + fragmentID * 2 ^ 10 := or_shiftLeft (by omega) _
  rw [hsequenceBits, hidBits, or_shiftLeft (by omega)]
  split <;> omega

section Header

variable (order : RangeOrder) (f : FragmentReceiver) (now : Time) (payload : Bytes)
  {code sequenceID fragmentID maxFragmentSize : Nat}

theorem fragmentFlags_fields (hcode : code < 4)
    (hsequence : sequenceID < 256) (hid : fragmentID < 32) (hsize : maxFragmentSize < 16384) :
    let flags := code + 4 * sequenceID + 1024 * fragmentID + 32768 * maxFragmentSize
    flags &&& openVPNFragmentTypeMask = code ∧
      (flags >>> openVPNFragmentSequenceShift) &&& openVPNFragmentSequenceMask = sequenceID ∧
      (flags >>> openVPNFragmentIDShift) &&& openVPNFragmentIDMask = fragmentID ∧
      ((flags >>> openVPNFragmentSizeShift) &&& openVPNFragmentSizeMask) <<<
        openVPNFragmentSizeRoundShift = maxFragmentSize * 4 := by
  have hmask : ∀ value : Nat, value &&& openVPNFragmentTypeMask = value % 4 ∧
      value &&& openVPNFragmentSequenceMask = value % 256 ∧
      value &&& openVPNFragmentIDMask = value % 32 ∧
      value &&& openVPNFragmentSizeMask = value % 16384 := fun value =>
    ⟨Nat.and_two_pow_sub_one_eq_mod value 2, Nat.and_two_pow_sub_one_eq_mod value 8,
      Nat.and_two_pow_sub_one_eq_mod value 5, Nat.and_two_pow_sub_one_eq_mod value 14⟩
  simp only [(hmask _).1, (hmask _).2.1, (hmask _).2.2.1, (hmask _).2.2.2,
    openVPNFragmentSequenceShift, openVPNFragmentIDShift, openVPNFragmentSizeShift,
    openVPNFragmentSizeRoundShift, Nat.shiftRight_eq_div_pow, Nat.shiftLeft_eq]
  omega

theorem fragmentFlags_lt (hcode : code < 4)
    (hsequence : sequenceID < 256) (hid : fragmentID < 32) (hsize : maxFragmentSize < 16384) :
    code + 4 * sequenceID + 1024 * fragmentID + 32768 * maxFragmentSize < 256 ^ 4 := by
  omega

theorem decodeFragment_whole :
    f.decodeFragment order now (prependFragmentHeader payload .whole 0 0 0) =
      (.ok (some payload), f) := by
  have hflags : fragmentFlags .whole 0 0 0 = 0 := by decide
  rw [prependFragmentHeader, hflags, decodeFragment,
    if_neg (by simp), List.take_left' (length_putBE 4 0), List.drop_left' (length_putBE 4 0)]
  have hword : getBE (putBE 4 0) = 0 := by decide
  simp only [hword]
  rfl

structure FragmentFields where
  code : Nat
  sequenceID : Nat
  fragmentID : Nat
  maxFragmentSize : Nat
  payload : Bytes

def readFragment (piece : Bytes) : FragmentFields :=
  let flags := getBE (piece.take 4)
  { code := flags &&& openVPNFragmentTypeMask
    sequenceID := (flags >>> openVPNFragmentSequenceShift) &&& openVPNFragmentSequenceMask
    fragmentID := (flags >>> openVPNFragmentIDShift) &&& openVPNFragmentIDMask
    maxFragmentSize := ((flags >>> openVPNFragmentSizeShift) &&& openVPNFragmentSizeMask) <<<
      openVPNFragmentSizeRoundShift
    payload := piece.drop 4 }

theorem decodeFragment_eq_store {piece : Bytes} (hlength : 4 ≤ piece.length)
    (hcode : (readFragment piece).code = partialFragment.code ∨
      (readFragment piece).code = last.code) :
    f.decodeFragment order now piece =
      f.storeIncomingFragment order now (readFragment piece).sequenceID
        (readFragment piece).fragmentID (readFragment piece).maxFragmentSize
        ((readFragment piece).code = last.code) (readFragment piece).payload := by
  have hwhole : (readFragment piece).code ≠ whole.code := by
    rcases hcode with hcode | hcode <;> rw [hcode] <;> decide
  rw [decodeFragment, if_neg (by omega)]
  exact (if_neg hwhole).trans (if_pos hcode)

section Part

variable (last : Bool) {sequenceID fragmentID maxFragmentSize : Nat}
  (hsequence : sequenceID < 256) (hid : fragmentID < 32) (hsize : maxFragmentSize < 16384)

include hsequence hid hsize

theorem readFragment_part :
    readFragment (prependFragmentHeader payload (if last then .last else .partialFragment)
        sequenceID fragmentID (if last then maxFragmentSize else 0)) =
      { code := if last then FragmentType.last.code else FragmentType.partialFragment.code
        sequenceID := sequenceID
        fragmentID := fragmentID
        maxFragmentSize := if last then maxFragmentSize * 4 else 0
        payload := payload } := by
  obtain ⟨code, size, hcode, hword, hsizeLt, hlast⟩ : ∃ code size : Nat,
      code = (if last then FragmentType.last.code else FragmentType.partialFragment.code) ∧
      fragmentFlags (if last then .last else .partialFragment) sequenceID fragmentID
        (if last then maxFragmentSize else 0) =
          code + 4 * sequenceID + 1024 * fragmentID + 32768 * size ∧
      size < 16384 ∧ size * 4 = (if last then maxFragmentSize * 4 else 0) := by
    cases last with
    | true =>
      exact ⟨2, maxFragmentSize, rfl, fragmentFlags_eq .last hsequence hid hsize, hsize, rfl⟩
    | false =>
      refine ⟨1, 0, rfl, ?_, by decide, rfl⟩
      exact fragmentFlags_eq .partialFragment hsequence hid (Nat.zero_lt_succ _)
  have hcodeLt : code < 4 := by
    rw [hcode]
    split <;> decide
  obtain ⟨htype, hsequenceID, hfragmentID, hsizeBits⟩ :=
    fragmentFlags_fields hcodeLt hsequence hid hsizeLt
  rw [readFragment, prependFragmentHeader, hword, List.take_left' (length_putBE 4 _),
    List.drop_left' (length_putBE 4 _),
    getBE_putBE (fragmentFlags_lt hcodeLt hsequence hid hsizeLt), htype, hsequenceID, hfragmentID,
    hsizeBits, hlast, hcode]

theorem decodeFragment_part :
    f.decodeFragment order now (prependFragmentHeader payload
        (if last then .last else .partialFragment) sequenceID fragmentID
        (if last then maxFragmentSize else 0)) =
      f.storeIncomingFragment order now sequenceID fragmentID
        (if last then maxFragmentSize * 4 else 0) last payload := by
  have hread : readFragment _ = _ := readFragment_part payload last hsequence hid hsize
  rw [decodeFragment_eq_store, hread]
  · cases last <;> rfl
  · simp [prependFragmentHeader]
  · rw [hread]
    cases last
    · exact .inl rfl
    · exact .inr rfl

end Part

end Header

/-! ### Giving buffers up -/

namespace FragmentReceiver

variable (f : FragmentReceiver)

def buffer (sequenceID : Nat) : Option IncomingFragmentBuffer :=
  f.incomingBySequence.lookup sequenceID

def limits : Duration × Int × Int :=
  (f.reassemblyTimeout, f.reassemblyMaxBytes, f.reassemblyMaxPacketBytes)

def outside : Nat × Bool × Duration × Int × Int :=
  (f.incomingSequence, f.incomingSequenceSet, f.limits)

theorem limits_of_outside {f g : FragmentReceiver} (h : g.outside = f.outside) :
    g.limits = f.limits := congrArg (fun o => o.2.2) h

theorem maxPacketBytes_congr {f g : FragmentReceiver} (h : g.limits = f.limits) :
    g.maxPacketBytes = f.maxPacketBytes := by
  have hbytes : g.reassemblyMaxPacketBytes = f.reassemblyMaxPacketBytes := congrArg (·.2.2) h
  rw [maxPacketBytes, maxPacketBytes, hbytes]

/-- The buffers of `f'` are buffers of `f`, and nothing else changed. -/
structure Shrunk (f f' : FragmentReceiver) : Prop where
  outside : f'.outside = f.outside
  buffers : ∀ sequenceID b, f'.buffer sequenceID = some b → f.buffer sequenceID = some b

theorem Shrunk.refl : Shrunk f f := ⟨rfl, fun _ _ h => h⟩

theorem Shrunk.trans {f g h : FragmentReceiver} (hfg : Shrunk f g) (hgh : Shrunk g h) :
    Shrunk f h :=
  ⟨hgh.outside.trans hfg.outside, fun _ _ hbuffer => hfg.buffers _ _ (hgh.buffers _ _ hbuffer)⟩

variable (order : RangeOrder) (f : FragmentReceiver)

theorem outside_delete (sequenceID : Nat) :
    (f.deleteIncomingFragmentBuffer sequenceID).outside = f.outside := by
  rw [deleteIncomingFragmentBuffer]
  split <;> rfl

theorem buffer_delete (sequenceID other : Nat) :
    (f.deleteIncomingFragmentBuffer sequenceID).buffer other =
      if other = sequenceID then none else f.buffer other := by
  rw [deleteIncomingFragmentBuffer]
  by_cases heq : other = sequenceID
  · subst heq
    rw [if_pos rfl]
    split
    · next hnone => exact hnone
    · exact lookup_erase _ _
  · rw [if_neg heq]
    split
    · rfl
    · exact lookup_erase_ne heq

theorem shrunk_delete (sequenceID : Nat) :
    Shrunk f (f.deleteIncomingFragmentBuffer sequenceID) := by
  refine ⟨f.outside_delete sequenceID, fun other b h => ?_⟩
  rw [buffer_delete] at h
  split at h
  · cases h
  · exact h

section

variable (condition : Nat → IncomingFragmentBuffer → Bool)

theorem deleteIf_spec (sequenceID : Nat) :
    (f.deleteIf condition sequenceID).outside = f.outside ∧
      ∀ other, (f.deleteIf condition sequenceID).buffer other =
        if other = sequenceID then (f.buffer other).filter fun b => !condition other b
        else f.buffer other := by
  cases hbuffer : f.buffer sequenceID with
  | none =>
    have heq : f.deleteIf condition sequenceID = f := by
      rw [deleteIf, show f.incomingBySequence.lookup sequenceID = none from hbuffer]
    rw [heq]
    refine ⟨rfl, fun other => ?_⟩
    by_cases hother : other = sequenceID
    · rw [if_pos hother, hother, hbuffer]
      rfl
    · rw [if_neg hother]
  | some b =>
    have heq : f.deleteIf condition sequenceID =
        if condition sequenceID b then f.deleteIncomingFragmentBuffer sequenceID else f := by
      rw [deleteIf, show f.incomingBySequence.lookup sequenceID = some b from hbuffer]
    rw [heq]
    by_cases hcondition : condition sequenceID b = true
    · rw [if_pos hcondition]
      refine ⟨f.outside_delete sequenceID, fun other => ?_⟩
      rw [buffer_delete]
      by_cases hother : other = sequenceID
      · subst hother
        simp [hbuffer, hcondition, Option.filter]
      · rw [if_neg hother, if_neg hother]
    · rw [if_neg hcondition]
      refine ⟨rfl, fun other => ?_⟩
      by_cases hother : other = sequenceID
      · subst hother
        simp [hbuffer, hcondition, Option.filter]
      · rw [if_neg hother]

theorem foldl_deleteIf (keys : List Nat) :
    (keys.foldl (deleteIf condition) f).outside = f.outside ∧
      ∀ other, (keys.foldl (deleteIf condition) f).buffer other =
        if other ∈ keys then (f.buffer other).filter fun b => !condition other b
        else f.buffer other := by
  induction keys generalizing f with
  | nil => exact ⟨rfl, fun other => by simp⟩
  | cons key keys ih =>
    obtain ⟨houtside, hbuffer⟩ := f.deleteIf_spec condition key
    obtain ⟨houtside', hbuffer'⟩ := ih (deleteIf condition f key)
    refine ⟨houtside'.trans houtside, fun other => ?_⟩
    rw [List.foldl_cons, hbuffer', hbuffer]
    by_cases hkey : other = key
    · subst hkey
      simp only [if_true, List.mem_cons, true_or]
      split
      · simp
      · rfl
    · simp [hkey]

/-- A range visits every buffer. -/
theorem deleteWhere_spec :
    (f.deleteWhere order condition).outside = f.outside ∧
      ∀ other, (f.deleteWhere order condition).buffer other =
        (f.buffer other).filter fun b => !condition other b := by
  rw [deleteWhere]
  obtain ⟨houtside, hbuffer⟩ := f.foldl_deleteIf condition (order.range f.incomingBySequence.keys)
  refine ⟨houtside, fun other => ?_⟩
  rw [hbuffer]
  split
  · rfl
  · next hmem =>
    rw [(order.perm _).mem_iff] at hmem
    rw [buffer, lookup_eq_none.mpr hmem]
    rfl

end

variable (now : Time)

theorem outside_expire : (f.expireIncomingFragments order now).outside = f.outside :=
  (f.deleteWhere_spec order _).1

theorem buffer_expire (other : Nat) :
    (f.expireIncomingFragments order now).buffer other =
      (f.buffer other).filter fun b => !decide (f.timeout ≤ now - b.updated) :=
  (f.deleteWhere_spec order _).2 other

theorem shrunk_deleteWhere (condition : Nat → IncomingFragmentBuffer → Bool) :
    Shrunk f (f.deleteWhere order condition) := by
  obtain ⟨houtside, hbuffer⟩ := f.deleteWhere_spec order condition
  refine ⟨houtside, fun other b h => ?_⟩
  rw [hbuffer] at h
  exact (filter_eq_some_iff.mp h).1

/-! ### The window -/

section Window

variable {f} {sequenceID : Nat}

theorem advance_first (hset : f.incomingSequenceSet = false) :
    f.advanceIncomingFragmentWindow order sequenceID =
      { f with incomingSequence := sequenceID, incomingSequenceSet := true } :=
  if_pos hset

theorem advance_far (hset : f.incomingSequenceSet = true)
    (hfar : openVPNFragmentReceiveWindow ≤ fragmentSequenceDifference sequenceID
      f.incomingSequence ∨
      fragmentSequenceDifference sequenceID f.incomingSequence ≤ -openVPNFragmentReceiveWindow) :
    (f.advanceIncomingFragmentWindow order sequenceID).outside = (sequenceID, true, f.limits) ∧
      ∀ other, (f.advanceIncomingFragmentWindow order sequenceID).buffer other = none := by
  have heq : f.advanceIncomingFragmentWindow order sequenceID =
      { f.clearIncomingFragments order with incomingSequence := sequenceID } := by
    rw [advanceIncomingFragmentWindow, if_neg (by simp [hset])]
    exact if_pos hfar
  obtain ⟨houtside, hbuffer⟩ := f.deleteWhere_spec order fun _ _ => true
  rw [heq]
  constructor
  · rw [← hset]
    exact congrArg (fun o => (sequenceID, o.2)) houtside
  · intro other
    have hcleared : (f.clearIncomingFragments order).buffer other = none := by
      rw [clearIncomingFragments, hbuffer]
      simp
    exact hcleared

theorem advance_behind (hset : f.incomingSequenceSet = true)
    (hnear : -openVPNFragmentReceiveWindow <
      fragmentSequenceDifference sequenceID f.incomingSequence)
    (hbehind : fragmentSequenceDifference sequenceID f.incomingSequence ≤ 0) :
    f.advanceIncomingFragmentWindow order sequenceID = f := by
  rw [advanceIncomingFragmentWindow, if_neg (by simp [hset])]
  rw [if_neg (by omega), if_pos hbehind]

theorem advance_ahead (hset : f.incomingSequenceSet = true)
    (hahead : 0 < fragmentSequenceDifference sequenceID f.incomingSequence)
    (hnear : fragmentSequenceDifference sequenceID f.incomingSequence <
      openVPNFragmentReceiveWindow) :
    (f.advanceIncomingFragmentWindow order sequenceID).outside = (sequenceID, true, f.limits) ∧
      ∀ other, (f.advanceIncomingFragmentWindow order sequenceID).buffer other =
        if fragmentSequenceDifference other sequenceID ≤ -openVPNFragmentReceiveWindow ∨
          0 < fragmentSequenceDifference other sequenceID then none else f.buffer other := by
  rw [advanceIncomingFragmentWindow, if_neg (by simp [hset])]
  rw [if_neg (by omega), if_neg (by omega)]
  obtain ⟨houtside, hbuffer⟩ := deleteWhere_spec order
    { f with incomingSequence := sequenceID } fun bufferedSequence _ =>
      fragmentSequenceDifference bufferedSequence sequenceID ≤ -openVPNFragmentReceiveWindow ||
        0 < fragmentSequenceDifference bufferedSequence sequenceID
  refine ⟨houtside.trans (by rw [← hset]; rfl), fun other => ?_⟩
  rw [hbuffer, show buffer { f with incomingSequence := sequenceID } other =
    f.buffer other from rfl]
  by_cases hout : fragmentSequenceDifference other sequenceID ≤ -openVPNFragmentReceiveWindow ∨
      0 < fragmentSequenceDifference other sequenceID
  · rw [if_pos hout, filter_eq_none_iff]
    intro _ _
    simpa only [Bool.not_eq_true', Bool.not_eq_false', Bool.or_eq_true, decide_eq_true_eq,
      Bool.not_eq_false] using hout
  · rw [if_neg hout]
    cases f.buffer other with
    | none => rfl
    | some b => simpa [Option.filter] using hout

theorem limits_advance : (f.advanceIncomingFragmentWindow order sequenceID).limits = f.limits := by
  cases hset : f.incomingSequenceSet with
  | false =>
    rw [advance_first order hset]
    rfl
  | true =>
    by_cases hbehind : fragmentSequenceDifference sequenceID f.incomingSequence ≤ 0
    · by_cases hnear : -openVPNFragmentReceiveWindow <
          fragmentSequenceDifference sequenceID f.incomingSequence
      · rw [advance_behind order hset hnear hbehind]
      · exact congrArg (·.2.2) (advance_far order hset (.inr (not_lt.mp hnear))).1
    · by_cases hnear : fragmentSequenceDifference sequenceID f.incomingSequence <
          openVPNFragmentReceiveWindow
      · exact congrArg (·.2.2) (advance_ahead order hset (not_le.mp hbehind) hnear).1
      · exact congrArg (·.2.2) (advance_far order hset (.inl (not_lt.mp hnear))).1

end Window

/-! ### Memory -/

theorem olderOf_spec {excludeSequence sequenceID : Nat} {oldest : Option (Nat × Time)}
    {older : Nat × Time} (h : f.olderOf excludeSequence oldest sequenceID = some older) :
    oldest = some older ∨ older.1 = sequenceID ∧ sequenceID ≠ excludeSequence ∧
      ∃ b, f.buffer sequenceID = some b := by
  rw [olderOf] at h
  split at h
  · exact .inl h
  · next hne =>
    split at h
    · exact .inl h
    · next b hbuffer =>
      split at h
      · cases h
        exact .inr ⟨rfl, hne, b, hbuffer⟩
      · exact .inl h

theorem oldest_spec {excludeSequence oldestSequence : Nat}
    (h : f.oldestIncomingFragmentSequence order excludeSequence = some oldestSequence) :
    oldestSequence ≠ excludeSequence ∧ ∃ b, f.buffer oldestSequence = some b := by
  obtain ⟨older, hfold, rfl⟩ := map_eq_some_iff.mp h
  have hrange : ∀ (keys : List Nat) (oldest : Option (Nat × Time)),
      (∀ o, oldest = some o → o.1 ≠ excludeSequence ∧ ∃ b, f.buffer o.1 = some b) →
      ∀ o, keys.foldl (f.olderOf excludeSequence) oldest = some o →
        o.1 ≠ excludeSequence ∧ ∃ b, f.buffer o.1 = some b := by
    intro keys
    induction keys with
    | nil => exact fun oldest holdest => holdest
    | cons key keys ih =>
      intro oldest holdest
      refine ih _ fun o ho => ?_
      rcases f.olderOf_spec ho with hsame | ⟨rfl, hne, hbuffer⟩
      · exact holdest o hsame
      · exact ⟨hne, hbuffer⟩
  exact hrange _ none (fun _ hnone => by cases hnone) older hfold

theorem makeRoom_spec (sequenceID : Nat) (additionalBytes limit : Int) (rounds : Nat) :
    Shrunk f (f.makeRoom order sequenceID additionalBytes limit rounds).2 ∧
      (f.makeRoom order sequenceID additionalBytes limit rounds).2.buffer sequenceID =
        f.buffer sequenceID := by
  induction rounds generalizing f with
  | zero => exact ⟨.refl f, rfl⟩
  | succ rounds ih =>
    rw [makeRoom]
    split
    · exact ⟨.refl f, rfl⟩
    · split
      · exact ⟨.refl f, rfl⟩
      · next oldestSequence holdest =>
        obtain ⟨hne, -⟩ := f.oldest_spec order holdest
        obtain ⟨hshrunk, hkept⟩ := ih (f.deleteIncomingFragmentBuffer oldestSequence)
        refine ⟨(f.shrunk_delete oldestSequence).trans hshrunk, hkept.trans ?_⟩
        rw [buffer_delete, if_neg hne.symm]

variable {sequenceID : Nat}

theorem length_keys_delete {b : IncomingFragmentBuffer}
    (h : f.buffer sequenceID = some b) :
    (f.deleteIncomingFragmentBuffer sequenceID).incomingBySequence.keys.length + 1 =
      f.incomingBySequence.keys.length := by
  have hmem : sequenceID ∈ f.incomingBySequence.keys := by
    rw [← mem_keys, ← lookup_isSome]
    simp [show f.incomingBySequence.lookup sequenceID = some b from h]
  rw [deleteIncomingFragmentBuffer,
    show f.incomingBySequence.lookup sequenceID = some b from h]
  rw [keys_erase, List.length_erase_of_mem hmem]
  exact Nat.succ_pred_eq_of_pos (List.length_pos_of_mem hmem)

/-- The loop ends because there is room or nothing to give up, never for want of rounds. -/
theorem makeRoom_rounds {additionalBytes limit : Int} {rounds : Nat}
    (hrounds : f.incomingBySequence.keys.length ≤ rounds) :
    f.makeRoom order sequenceID additionalBytes limit (rounds + 1) =
      f.makeRoom order sequenceID additionalBytes limit rounds := by
  induction rounds generalizing f with
  | zero =>
    rw [makeRoom, makeRoom]
    split
    · next hroom => simp [hroom]
    · next hroom =>
      split
      · simp [hroom]
      · next oldestSequence holdest =>
        obtain ⟨-, b, hbuffer⟩ := f.oldest_spec order holdest
        have hlength := f.length_keys_delete hbuffer
        omega
  | succ rounds ih =>
    conv_lhs => rw [makeRoom]
    conv_rhs => rw [makeRoom]
    split
    · rfl
    · split
      · rfl
      · next oldestSequence holdest =>
        obtain ⟨-, b, hbuffer⟩ := f.oldest_spec order holdest
        have hlength := f.length_keys_delete hbuffer
        exact ih _ (by omega)

/-! ### The buffer of a fragment -/

def newBuffer (now : Time) (fragmentSize : Nat) : IncomingFragmentBuffer :=
  { maxSize := fragmentSize, lastID := none, parts := ∅, bytes := 0, updated := now }

def insertBuffer (sequenceID : Nat) (b : IncomingFragmentBuffer) :
    FragmentReceiver :=
  { f with incomingBySequence := f.incomingBySequence.insert sequenceID b }

theorem insert_spec (sequenceID : Nat) (b : IncomingFragmentBuffer) :
    (f.insertBuffer sequenceID b).outside = f.outside ∧
      ∀ other, (f.insertBuffer sequenceID b).buffer other =
        if other = sequenceID then some b else f.buffer other := by
  refine ⟨rfl, fun other => ?_⟩
  split
  · next hother =>
    rw [hother]
    exact lookup_insert _
  · next hother => exact lookup_insert_ne hother

theorem openBuffer_new (fragmentSize : Nat)
    (h : f.buffer sequenceID = none) :
    f.openBuffer now sequenceID fragmentSize =
      (f.insertBuffer sequenceID (newBuffer now fragmentSize), newBuffer now fragmentSize) := by
  have hlookup : f.incomingBySequence.lookup sequenceID = none := h
  simp only [openBuffer, hlookup]
  rfl

variable {fragmentSize : Nat} {b : IncomingFragmentBuffer}

theorem openBuffer_same (hbuffer : f.buffer sequenceID = some b)
    (hsize : b.maxSize = fragmentSize) : f.openBuffer now sequenceID fragmentSize = (f, b) := by
  have hlookup : f.incomingBySequence.lookup sequenceID = some b := hbuffer
  simp [openBuffer, hlookup, hsize]

theorem openBuffer_other (hbuffer : f.buffer sequenceID = some b)
    (hsize : ¬ b.maxSize = fragmentSize) :
    f.openBuffer now sequenceID fragmentSize =
      ((f.deleteIncomingFragmentBuffer sequenceID).insertBuffer sequenceID
        (newBuffer now fragmentSize), newBuffer now fragmentSize) := by
  have hlookup : f.incomingBySequence.lookup sequenceID = some b := hbuffer
  have hdeleted : (f.deleteIncomingFragmentBuffer sequenceID).incomingBySequence.lookup
      sequenceID = none := by
    have hbuffer := f.buffer_delete sequenceID sequenceID
    rwa [if_pos rfl] at hbuffer
  simp only [openBuffer, hlookup, if_pos hsize, hdeleted]
  rfl

/-- The buffer in the table if it is for fragments of this size, else a new one; the other
    buffers stay. -/
theorem openBuffer_spec (sequenceID fragmentSize : Nat) :
    (f.openBuffer now sequenceID fragmentSize).1.outside = f.outside ∧
      (∀ other, (f.openBuffer now sequenceID fragmentSize).1.buffer other =
        if other = sequenceID then some (f.openBuffer now sequenceID fragmentSize).2
        else f.buffer other) ∧
      (f.openBuffer now sequenceID fragmentSize).2 =
        ((f.buffer sequenceID).filter (·.maxSize = fragmentSize)).getD
          (newBuffer now fragmentSize) := by
  cases hbuffer : f.buffer sequenceID with
  | none =>
    rw [f.openBuffer_new now fragmentSize hbuffer]
    obtain ⟨houtside, hinsert⟩ := f.insert_spec sequenceID (newBuffer now fragmentSize)
    exact ⟨houtside, hinsert, rfl⟩
  | some b =>
    by_cases hsize : b.maxSize = fragmentSize
    · rw [f.openBuffer_same now hbuffer hsize]
      refine ⟨rfl, fun other => ?_, by simp [Option.filter, hsize]⟩
      split
      · next hother => rw [hother, hbuffer]
      · rfl
    · rw [f.openBuffer_other now hbuffer hsize]
      obtain ⟨houtside, hinsert⟩ := (f.deleteIncomingFragmentBuffer sequenceID).insert_spec
        sequenceID (newBuffer now fragmentSize)
      refine ⟨houtside.trans (f.outside_delete sequenceID), fun other => ?_,
        by simp [Option.filter, hsize]⟩
      rw [hinsert, buffer_delete]
      split <;> rfl

/-! ### Storing -/

section Store

variable {f} {now : Time} {sequenceID fragmentID maxFragmentSize : Nat} {last : Bool}
  {payload : Bytes}

/-- The receiver when a fragment of `sequenceID` has arrived and outdated buffers are gone. -/
def arrived (now : Time) (sequenceID : Nat) : FragmentReceiver :=
  (f.expireIncomingFragments order now).advanceIncomingFragmentWindow order sequenceID

theorem limits_arrived : (f.arrived order now sequenceID).limits = f.limits :=
  (limits_advance order).trans (limits_of_outside (f.outside_expire order now))

/-- The loop that frees memory, as `storeIncomingFragment` enters it; a part that makes its
    packet too long does not get there. -/
def room (sequenceID : Nat) (b : IncomingFragmentBuffer)
    (additionalBytes : Int) : Bool × FragmentReceiver :=
  if f.maxPacketBytes < b.bytes + additionalBytes then (true, f)
  else f.makeRoom order sequenceID additionalBytes f.maxReassemblyBytes
    f.incomingBySequence.keys.length

theorem room_spec (sequenceID : Nat) (b : IncomingFragmentBuffer)
    (additionalBytes : Int) :
    Shrunk f (f.room order sequenceID b additionalBytes).2 ∧
      (f.room order sequenceID b additionalBytes).2.buffer sequenceID = f.buffer sequenceID := by
  rw [room]
  split
  · exact ⟨.refl f, rfl⟩
  · exact f.makeRoom_spec order sequenceID additionalBytes _ _

def fill (sequenceID : Nat) (b : IncomingFragmentBuffer)
    (additionalBytes : Int) : FragmentReceiver :=
  { f with
    incomingBySequence := f.incomingBySequence.insert sequenceID b
    incomingBytes := f.incomingBytes + additionalBytes }

section Opened

variable (last) {g : FragmentReceiver} {b : IncomingFragmentBuffer} {additionalBytes : Int}
  (hpayload : (payload.length : Int) ≤ f.maxPacketBytes)
  (hopen : (f.arrived order now sequenceID).openBuffer now sequenceID
    (if 0 < maxFragmentSize then maxFragmentSize else payload.length) = (g, b))
  (hadditional : additionalBytes =
    payload.length - (((b.parts.lookup fragmentID).getD []).length : Int))

include hopen

/-- The receiver with the open buffer is still the one the fragment arrived at. -/
theorem outside_opened : g.outside = (f.arrived order now sequenceID).outside ∧
    g.maxPacketBytes = f.maxPacketBytes := by
  have houtside := ((f.arrived order now sequenceID).openBuffer_spec now sequenceID
    (if 0 < maxFragmentSize then maxFragmentSize else payload.length)).1
  rw [hopen] at houtside
  exact ⟨houtside, maxPacketBytes_congr ((limits_of_outside houtside).trans (limits_arrived order))⟩

include hpayload hadditional

theorem store_eq :
    f.storeIncomingFragment order now sequenceID fragmentID maxFragmentSize last payload =
      let stored := b.store now fragmentID maxFragmentSize last payload additionalBytes
      let complete := stored.lastID.bind stored.join
      let room := g.room order sequenceID b additionalBytes
      let filled := room.2.fill sequenceID stored additionalBytes
      if f.maxPacketBytes < b.bytes + additionalBytes then
        (.error "fragmented packet exceeds maximum IP packet size",
          g.deleteIncomingFragmentBuffer sequenceID)
      else if room.1 then
        (.ok complete,
          if complete = none then filled else filled.deleteIncomingFragmentBuffer sequenceID)
      else (.error "fragment reassembly memory limit exceeded",
        room.2.deleteIncomingFragmentBuffer sequenceID) := by
  have hexpired : (f.expireIncomingFragments order now).maxPacketBytes = f.maxPacketBytes :=
    maxPacketBytes_congr (limits_of_outside (f.outside_expire order now))
  have hopened := (outside_opened order hopen).2
  rw [storeIncomingFragment, hexpired, if_neg (by omega)]
  rw [arrived] at hopen
  dsimp only
  rw [hopen]
  dsimp only
  rw [← hadditional, room, hopened]
  by_cases hlong : f.maxPacketBytes < b.bytes + additionalBytes
  · rw [if_pos hlong, if_pos hlong]
  rw [if_neg hlong, if_neg hlong, if_neg hlong]
  cases (g.makeRoom order sequenceID additionalBytes g.maxReassemblyBytes
    g.incomingBySequence.keys.length) with
  | mk enough rest =>
    cases enough with
    | false => rfl
    | true =>
      generalize (b.store now fragmentID maxFragmentSize last payload additionalBytes).lastID.bind
        _ = complete
      cases complete <;> rfl

/-- A part of a packet that is too long, or for which there is no room, takes its buffer with
    it; otherwise it is stored, and the buffer leaves the table when it is complete. -/
theorem store_spec :
    let result :=
      f.storeIncomingFragment order now sequenceID fragmentID maxFragmentSize last payload
    let stored := b.store now fragmentID maxFragmentSize last payload additionalBytes
    let complete := stored.lastID.bind stored.join
    result.2.outside = (f.arrived order now sequenceID).outside ∧
      (∀ other, other ≠ sequenceID →
        result.2.buffer other = (g.room order sequenceID b additionalBytes).2.buffer other) ∧
      ((g.room order sequenceID b additionalBytes).1 = false →
        result.1 = .error "fragment reassembly memory limit exceeded" ∧
          result.2.buffer sequenceID = none) ∧
      ((g.room order sequenceID b additionalBytes).1 = true →
        if f.maxPacketBytes < b.bytes + additionalBytes then
          result.1 = .error "fragmented packet exceeds maximum IP packet size" ∧
            result.2.buffer sequenceID = none
        else result.1 = .ok complete ∧
          result.2.buffer sequenceID = if complete = none then some stored else none) := by
  intro result stored complete
  have hresult : result = _ := store_eq order last hpayload hopen hadditional
  obtain ⟨hopened, hmax⟩ := outside_opened order hopen
  by_cases hlong : f.maxPacketBytes < b.bytes + additionalBytes
  · have hroom : g.room order sequenceID b additionalBytes = (true, g) := by
      rw [room, hmax, if_pos hlong]
    rw [if_pos hlong] at hresult ⊢
    rw [hresult, hroom]
    refine ⟨(outside_delete _ _).trans hopened, fun other hother => ?_, nofun, fun _ => ⟨rfl, ?_⟩⟩
    · rw [buffer_delete, if_neg hother]
    · rw [buffer_delete, if_pos rfl]
  rw [if_neg hlong] at hresult ⊢
  have houtside : (g.room order sequenceID b additionalBytes).2.outside =
      (f.arrived order now sequenceID).outside :=
    (g.room_spec order sequenceID b additionalBytes).1.outside.trans hopened
  have hfill : ∀ other, ((g.room order sequenceID b additionalBytes).2.fill sequenceID stored
      additionalBytes).buffer other = if other = sequenceID then some stored else
        (g.room order sequenceID b additionalBytes).2.buffer other :=
    ((g.room order sequenceID b additionalBytes).2.insert_spec sequenceID stored).2
  cases henough : (g.room order sequenceID b additionalBytes).1 with
  | false =>
    rw [if_neg (by simp [henough])] at hresult
    rw [hresult]
    refine ⟨(outside_delete _ _).trans houtside, fun other hother => ?_, fun _ => ⟨rfl, ?_⟩, nofun⟩
    · rw [buffer_delete, if_neg hother]
    · rw [buffer_delete, if_pos rfl]
  | true =>
    rw [if_pos henough] at hresult
    rw [hresult]
    refine ⟨?_, fun other hother => ?_, nofun, fun _ => ⟨rfl, ?_⟩⟩
    · split
      · exact houtside
      · exact (outside_delete _ _).trans houtside
    · split
      · rw [hfill, if_neg hother]
      · rw [buffer_delete, if_neg hother, hfill, if_neg hother]
    · split
      · rw [hfill, if_pos rfl]
      · rw [buffer_delete, if_pos rfl]

end Opened

end Store

end FragmentReceiver

end SingOpenVPN
