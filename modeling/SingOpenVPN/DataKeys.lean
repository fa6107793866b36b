import Mathlib.Data.List.Sort
import SingOpenVPN.SessionManager

/-!
# Data keys of a session (`peer_data.go`)

Behind `dataKeyAccess` a session holds the key it sends with and the keys it can
receive with.  A rekey installs a new receive key while the old ones stay usable
for a transition window; only the three keys with the highest sequences are kept.

Codecs and session managers are objects that Go passes by pointer.  They are
named by `ObjectID` here: the objects a negotiation creates carry its sequence,
the objects of the initial handshake carry zero.  The field `dataCodec`, which is
only ever assigned, is left out.
-/

namespace SingOpenVPN

open List

/-- The identity of an object that is passed by pointer. -/
abbrev ObjectID := Nat

def tlsTransitionWindow : Duration := 3600 * 10 ^ 9

def tlsKeyScanSize : Nat := 3

/-- `tlsReceiveCodec`.  An entry without `expiry` does not expire. -/
structure ReceiveCodec where
  keyID : UInt8
  codec : ObjectID
  expiry : Option Time
  sequence : Nat
deriving DecidableEq

/-- `!entry.expiry.IsZero() && !now.Before(entry.expiry)`. -/
def ReceiveCodec.expired (entry : ReceiveCodec) (now : Time) : Bool :=
  match entry.expiry with
  | none => false
  | some expiry => expiry ≤ now

/-- The fields of `tlsPeerSession` that `dataKeyAccess` guards. -/
structure DataKeys where
  sendCodec : Option ObjectID
  sendKeyID : UInt8
  sendSessionManager : Option ObjectID
  receiveCodecs : List ReceiveCodec
deriving DecidableEq

namespace DataKeys

def empty : DataKeys := ⟨none, 0, none, []⟩

/-- `installInitialDataCodec`; the session's own manager is the one of the
    initial handshake. -/
def installInitialDataCodec (codec : ObjectID) (keyID : UInt8) (sessionManager : ObjectID) :
    DataKeys where
  sendCodec := some codec
  sendKeyID := keyID
  sendSessionManager := some sessionManager
  receiveCodecs := [⟨keyID, codec, none, 0⟩]

/-- The body of the loop of `installDataKeyState`: what becomes of an old entry. -/
def retainEntry (sendKeyID keyID : UInt8) (promote : Bool) (now : Time) (entry : ReceiveCodec) :
    Option ReceiveCodec :=
  if entry.keyID = keyID then none
  else
    let entry := if promote ∧ entry.keyID = sendKeyID then
        { entry with expiry := some (now + tlsTransitionWindow) } else entry
    if entry.expired now then none else some entry

/-- The stable sort by sequence and the cut to the newest `tlsKeyScanSize`. -/
def keepNewest (entries : List ReceiveCodec) : List ReceiveCodec :=
  let sorted := entries.insertionSort fun left right => left.sequence ≤ right.sequence
  sorted.drop (sorted.length - tlsKeyScanSize)

def installDataKeyState (keys : DataKeys) (codec : ObjectID) (keyID : UInt8) (manager : ObjectID)
    (sequence : Nat) (promote : Bool) (now : Time) : DataKeys :=
  let retained := keys.receiveCodecs.filterMap (retainEntry keys.sendKeyID keyID promote now)
  let newEntry : ReceiveCodec := {
    keyID := keyID
    codec := codec
    expiry := if promote then none else some (now + tlsTransitionWindow)
    sequence := sequence }
  let receiveCodecs := keepNewest (retained ++ [newEntry])
  if promote then
    { sendCodec := some codec
      sendKeyID := keyID
      sendSessionManager := some manager
      receiveCodecs := receiveCodecs }
  else { keys with receiveCodecs := receiveCodecs }

def discardDataKeyState (keys : DataKeys) (keyID : UInt8) (sequence : Nat) : DataKeys :=
  { keys with receiveCodecs := keys.receiveCodecs.filter fun entry =>
      ¬ (entry.keyID = keyID ∧ entry.sequence = sequence) }

def receiveDataCodec (keys : DataKeys) (keyID : UInt8) (sequence : Nat) : Option ObjectID :=
  (keys.receiveCodecs.find? fun entry => entry.keyID = keyID ∧ entry.sequence = sequence).map
    ReceiveCodec.codec

/-- `selectReceiveCodec`: drop what has expired, then the last entry of the key id. -/
def selectReceiveCodec (keys : DataKeys) (keyID : UInt8) (now : Time) :
    Option ObjectID × DataKeys :=
  let retained := keys.receiveCodecs.filter fun entry => ¬ entry.expired now
  (((retained.filter fun entry => entry.keyID = keyID).getLast?).map ReceiveCodec.codec,
    { keys with receiveCodecs := retained })

/-! ### What survives an installation -/

variable {entries : List ReceiveCodec} {entry : ReceiveCodec} {now : Time} {keyID sendKeyID : UInt8}

theorem retainEntry_eq_some {promote : Bool} {retained : ReceiveCodec}
    (h : retainEntry sendKeyID keyID promote now entry = some retained) :
    entry.keyID ≠ keyID ∧ retained.expired now = false ∧ retained.keyID = entry.keyID ∧
      retained.codec = entry.codec ∧ retained.sequence = entry.sequence ∧
      (promote = false → retained = entry) := by
  unfold retainEntry at h
  split at h
  · cases h
  next hkeyID =>
  dsimp only at h
  generalize hmarked : (if promote = true ∧ entry.keyID = sendKeyID then
    { entry with expiry := some (now + tlsTransitionWindow) } else entry) = marked at h
  split at h
  · cases h
  next hexpired =>
  cases h
  refine ⟨hkeyID, by simpa using hexpired, ?_⟩
  rw [← hmarked]
  split
  · next hpromote => exact ⟨rfl, rfl, rfl, fun hnot => absurd (hnot ▸ hpromote.1) (by simp)⟩
  · exact ⟨rfl, rfl, rfl, fun _ => rfl⟩

theorem retainEntry_of_unexpiring (hkeyID : entry.keyID ≠ keyID) (hexpiry : entry.expiry = none) :
    retainEntry sendKeyID keyID false now entry = some entry := by
  simp [retainEntry, hkeyID, ReceiveCodec.expired, hexpiry]

theorem mem_of_mem_keepNewest (h : entry ∈ keepNewest entries) : entry ∈ entries :=
  (mem_insertionSort _).mp (mem_of_mem_drop h)

theorem keepNewest_subperm (entries : List ReceiveCodec) :
    List.Subperm (keepNewest entries) entries :=
  (drop_sublist _ _).subperm.trans (perm_insertionSort _ _).subperm

theorem nodup_map_keepNewest {β : Type} {f : ReceiveCodec → β} (h : (entries.map f).Nodup) :
    ((keepNewest entries).map f).Nodup := by
  have hsorted := ((perm_insertionSort
    (fun left right : ReceiveCodec => left.sequence ≤ right.sequence) entries).map
      f).nodup_iff.mpr h
  exact hsorted.sublist ((drop_sublist _ _).map f)

theorem map_keyID_retained_sublist (sendKeyID keyID : UInt8) (promote : Bool) (now : Time)
    (entries : List ReceiveCodec) :
    ((entries.filterMap (retainEntry sendKeyID keyID promote now)).map ReceiveCodec.keyID).Sublist
      (entries.map ReceiveCodec.keyID) := by
  induction entries with
  | nil => exact List.Sublist.slnil
  | cons entry entries ih =>
    cases hentry : retainEntry sendKeyID keyID promote now entry with
    | none =>
      rw [filterMap_cons_none hentry, map_cons]
      exact ih.cons _
    | some retained =>
      rw [filterMap_cons_some hentry, map_cons, map_cons,
        (retainEntry_eq_some hentry).2.2.1]
      exact ih.cons_cons _

theorem countP_retained_le {promote : Bool} {p q : ReceiveCodec → Bool}
    (hpq : ∀ entry retained, retainEntry sendKeyID keyID promote now entry = some retained →
      p retained = true → q entry = true) (entries : List ReceiveCodec) :
    (entries.filterMap (retainEntry sendKeyID keyID promote now)).countP p ≤ entries.countP q := by
  rw [countP_filterMap]
  refine countP_mono_left fun entry _ hentry => ?_
  cases hretained : retainEntry sendKeyID keyID promote now entry with
  | none =>
    rw [hretained] at hentry
    cases hentry
  | some retained =>
    rw [hretained] at hentry
    exact hpq entry retained hretained hentry

/-- An entry survives the cut if at most two others are as new. -/
theorem mem_keepNewest (h : entry ∈ entries)
    (hfew : entries.countP (fun other => other ≠ entry ∧ entry.sequence ≤ other.sequence) ≤ 2) :
    entry ∈ keepNewest entries := by
  unfold keepNewest
  have hperm := perm_insertionSort
    (fun left right : ReceiveCodec => left.sequence ≤ right.sequence) entries
  have hsorted := pairwise_insertionSort
    (fun left right : ReceiveCodec => left.sequence ≤ right.sequence) entries
  generalize entries.insertionSort (fun left right => left.sequence ≤ right.sequence) = sorted
    at hperm hsorted ⊢
  by_contra hcut
  have hmem : entry ∈ sorted.take (sorted.length - tlsKeyScanSize) := by
    have hsplit := hperm.mem_iff.mpr h
    rw [← take_append_drop (sorted.length - tlsKeyScanSize) sorted] at hsplit
    exact (mem_append.mp hsplit).resolve_right hcut
  rw [← take_append_drop (sorted.length - tlsKeyScanSize) sorted] at hsorted
  have hafter := (pairwise_append.mp hsorted).2.2 entry hmem
  -- everything behind the cut counts as newer, and that is three entries
  have hall : (sorted.drop (sorted.length - tlsKeyScanSize)).countP
      (fun other => other ≠ entry ∧ entry.sequence ≤ other.sequence) =
      (sorted.drop (sorted.length - tlsKeyScanSize)).length := by
    rw [countP_eq_length]
    intro other hother
    have hne : other ≠ entry := fun heq => hcut (heq ▸ hother)
    simpa using ⟨hne, hafter other hother⟩
  have hle := (drop_sublist (sorted.length - tlsKeyScanSize) sorted).countP_le
    (p := fun other => other ≠ entry ∧ entry.sequence ≤ other.sequence)
  have hlength := length_pos_of_mem hmem
  rw [length_take] at hlength
  rw [hall, length_drop, hperm.countP_eq] at hle
  have : tlsKeyScanSize = 3 := rfl
  omega

end DataKeys

end SingOpenVPN
