import Mathlib.Data.List.TakeWhile
import Mathlib.Data.Nat.ModEq
import Mathlib.Tactic.Common

/-!
# The packet queue (`data_queue.go`)

A queue of fixed capacity in a ring: `items` is the array, the queued items start
at `head` and wrap around its end.  A batch is pushed as far as there is room, or
by dropping the oldest items; items are popped from the front, at most `max` of
them and only as long as they belong to the same run as the first.

`contents` is what the queue holds, in order.  The operations are described by it
(`contents_pushBatchDropNew`, `pushBatch_spec`, `pop_fst`, `contents_pop`), so that
no other module looks at the ring.  The channel that wakes readers is left out.
-/

namespace SingOpenVPN

def dataPacketBatchSize : Nat := 64

/-- `dataPacketQueue`, with the capacity as a parameter. -/
structure DataPacketQueue (α : Type) (capacity : Nat) where
  items : Vector α capacity
  head : Fin capacity
  length : Nat
  length_le : length ≤ capacity

namespace DataPacketQueue

def newDataPacketQueueWithCapacity (α : Type) (capacity : Nat) [NeZero capacity] [Inhabited α] :
    DataPacketQueue α capacity where
  items := Vector.replicate capacity default
  head := 0
  length := 0
  length_le := Nat.zero_le _

variable {α : Type} {capacity : Nat}

section Slots

theorem get_set_self (items : Vector α capacity) (i : Fin capacity) (item : α) :
    (items.set i item i.isLt).get i = item :=
  Vector.getElem_set_self _

variable [NeZero capacity]

def slot (q : DataPacketQueue α capacity) (i : Nat) : Fin capacity :=
  Fin.ofNat capacity (q.head + i)

def contents (q : DataPacketQueue α capacity) : List α :=
  (List.range q.length).map fun i => q.items.get (q.slot i)

theorem slot_zero (q : DataPacketQueue α capacity) : q.slot 0 = q.head := by
  simp [slot]

theorem slot_inj {q : DataPacketQueue α capacity} {i j : Nat} (hi : i < capacity)
    (hj : j < capacity) (h : q.slot i = q.slot j) : i = j := by
  have hmod : q.head + i ≡ q.head + j [MOD capacity] := Fin.ext_iff.mp h
  have hij : i % capacity = j % capacity := Nat.ModEq.add_left_cancel' _ hmod
  rwa [Nat.mod_eq_of_lt hi, Nat.mod_eq_of_lt hj] at hij

variable {q q' : DataPacketQueue α capacity}

theorem slot_of_head {count : Nat} (h : q'.head = q.slot count)
    (i : Nat) : q'.slot i = q.slot (count + i) := by
  apply Fin.ext
  simp [slot, h, add_assoc]

theorem get_set_slot {q : DataPacketQueue α capacity} (items : Vector α capacity) {i j : Nat}
    (item : α) (hi : i < capacity) (hj : j < capacity) (h : i ≠ j) :
    (items.set (q.slot i) item (q.slot i).isLt).get (q.slot j) = items.get (q.slot j) :=
  Vector.getElem_set_ne _ _ fun hval => h (slot_inj hi hj (Fin.ext hval))

@[simp] theorem length_contents (q : DataPacketQueue α capacity) :
    q.contents.length = q.length := by
  simp [contents]

/-- A queue whose head has moved by `count` and whose remaining items are in their
slots holds what was behind the first `count` items. -/
theorem contents_of_advanced {count : Nat}
    (hhead : q'.head = q.slot count) (hlength : q'.length = q.length - count)
    (hitems : ∀ i, count ≤ i → i < q.length → q'.items.get (q.slot i) = q.items.get (q.slot i)) :
    q'.contents = q.contents.drop count := by
  apply List.ext_getElem
  · simp [hlength]
  · intro i hi _
    rw [length_contents, hlength] at hi
    simp only [contents, List.getElem_map, List.getElem_range, List.getElem_drop]
    rw [slot_of_head hhead]
    exact hitems _ (Nat.le_add_right _ _) (by omega)

end Slots

/-! ### Pushing -/

section Push

variable [NeZero capacity] (q : DataPacketQueue α capacity)

/-- Store an item behind the last one.  Its callers have made room. -/
def pushBack (item : α) : DataPacketQueue α capacity :=
  if h : q.length < capacity then
    { q with
      items := q.items.set (q.slot q.length) item (q.slot q.length).isLt
      length := q.length + 1
      length_le := h }
  else q

def pushBatchDropNew (items : List α) :
    List α × DataPacketQueue α capacity :=
  let acceptedCount := min items.length (capacity - q.length)
  (items.drop acceptedCount, (items.take acceptedCount).foldl pushBack q)

variable {q : DataPacketQueue α capacity}

theorem length_pushBack (item : α) (h : q.length < capacity) :
    (q.pushBack item).length = q.length + 1 := by
  rw [pushBack, dif_pos h]

theorem contents_pushBack (item : α) (h : q.length < capacity) :
    (q.pushBack item).contents = q.contents ++ [item] := by
  rw [pushBack, dif_pos h, contents, List.range_succ, List.map_append, List.map_singleton]
  congr 1
  · apply List.map_congr_left
    intro i hi
    have hlt : i < q.length := List.mem_range.mp hi
    exact get_set_slot (q := q) _ _ h (hlt.trans h) hlt.ne'
  · exact congrArg (fun last => [last]) (get_set_self _ _ _)

theorem contents_foldl_pushBack {items : List α}
    (h : q.length + items.length ≤ capacity) :
    (items.foldl pushBack q).contents = q.contents ++ items := by
  induction items generalizing q with
  | nil => simp
  | cons item items ih =>
    rw [List.length_cons] at h
    have hroom : q.length < capacity := by omega
    rw [List.foldl_cons, ih (by rw [length_pushBack item hroom]; omega),
      contents_pushBack item hroom, List.append_assoc, List.singleton_append]

/-- **What there is room for is appended, the rest released.** -/
theorem contents_pushBatchDropNew (items : List α) :
    (q.pushBatchDropNew items).2.contents = q.contents ++ items.take (capacity - q.length) := by
  have hle := q.length_le
  rw [pushBatchDropNew, contents_foldl_pushBack (by rw [List.length_take]; omega),
    Nat.min_comm, ← List.take_eq_take_min]

variable [Inhabited α]

def dropFront : DataPacketQueue α capacity :=
  { items := q.items.set q.head default q.head.isLt
    head := q.slot 1
    length := q.length - 1
    length_le := (Nat.sub_le _ _).trans q.length_le }

def pushBatch (q : DataPacketQueue α capacity) : List α → List α × DataPacketQueue α capacity
  | [] => ([], q)
  | item :: items =>
    if q.length = capacity then
      let rest := (q.dropFront.pushBack item).pushBatch items
      (q.items.get q.head :: rest.1, rest.2)
    else (q.pushBack item).pushBatch items

theorem contents_eq_cons_dropFront (h : 0 < q.length) :
    q.contents = q.items.get q.head :: q.dropFront.contents := by
  have hfront : q.contents = q.items.get q.head :: q.contents.drop 1 := by
    obtain ⟨first, rest, hcontents⟩ :=
      List.exists_cons_of_length_pos (show 0 < q.contents.length by rwa [length_contents])
    have hfirst : q.contents[0]? = some (q.items.get (q.slot 0)) := by
      simp [contents, h]
    rw [slot_zero, hcontents] at hfirst
    rw [hcontents, List.drop_one, List.tail_cons, ← Option.some.inj hfirst]
  rw [hfront]
  refine congrArg _ (contents_of_advanced rfl rfl fun i hi hlt => ?_).symm
  have hle := q.length_le
  have hset := get_set_slot (q := q) q.items (default : α) (h.trans_le hle) (hlt.trans_le hle)
    (show 0 ≠ i by omega)
  simp only [slot_zero] at hset
  exact hset

/-- **The oldest items make room**: the released items, in order, are what was in
front, and the queue is full if any was released. -/
theorem pushBatch_spec (q : DataPacketQueue α capacity) (items : List α) :
    (q.pushBatch items).1 ++ (q.pushBatch items).2.contents = q.contents ++ items ∧
      (q.pushBatch items).2.contents.length = min capacity (q.contents ++ items).length := by
  induction items generalizing q with
  | nil => simp [pushBatch, q.length_le]
  | cons item items ih =>
    have hpos : 0 < capacity := Nat.pos_of_neZero capacity
    rw [pushBatch]
    split
    · next hfull =>
      have hcontents := contents_eq_cons_dropFront (q := q) (by omega)
      have hroom : q.dropFront.length < capacity := show q.length - 1 < capacity by omega
      obtain ⟨hsplit, hlength⟩ := ih (q.dropFront.pushBack item)
      rw [contents_pushBack item hroom] at hsplit hlength
      rw [hcontents]
      refine ⟨by simpa using hsplit, ?_⟩
      have hdropped : q.dropFront.contents.length = q.length - 1 := length_contents _
      simp only [List.length_append, List.length_cons, List.length_nil] at hlength ⊢
      omega
    · next hnot =>
      have hroom : q.length < capacity := lt_of_le_of_ne q.length_le hnot
      have hpushed := ih (q.pushBack item)
      rw [contents_pushBack item hroom] at hpushed
      simpa using hpushed

end Push

/-! ### Popping -/

section Pop

variable [NeZero capacity] (q : DataPacketQueue α capacity)

/-- The first position before `count` whose item is not of the run of the first. -/
def runLength (sameRun : α → α → Bool) (count : Nat) : Nat :=
  ((List.range' 1 (count - 1)).find? fun i =>
    !sameRun (q.items.get q.head) (q.items.get (q.slot i))).getD count

/-- How many items `Pop` takes.  A limit of zero is none. -/
def popCount (max : Nat) (sameRun : Option (α → α → Bool)) : Nat :=
  let count := if 0 < max then min q.length max else q.length
  match sameRun with
  | some sameRun => if 1 < count then q.runLength sameRun count else count
  | none => count

variable (q : DataPacketQueue α capacity) (max : Nat) (sameRun : Option (α → α → Bool))

theorem popCount_bounds :
    q.popCount max sameRun ≤ q.length ∧ (0 < q.length → 0 < q.popCount max sameRun) := by
  unfold popCount
  have hcount : (if 0 < max then min q.length max else q.length) ≤ q.length ∧
      (0 < q.length → 0 < if 0 < max then min q.length max else q.length) := by
    split <;> omega
  generalize (if 0 < max then min q.length max else q.length) = count at hcount ⊢
  dsimp only
  split
  · split
    · unfold runLength
      cases hfind : (List.range' 1 (count - 1)).find? _ with
      | none => exact hcount
      | some i =>
        have hmem := List.mem_of_find?_eq_some hfind
        rw [List.mem_range'_1] at hmem
        exact show i ≤ q.length ∧ (_ → 0 < i) by omega
    · exact hcount
  · exact hcount

/-- What `Pop` may take from a list: at most `max` items from the front, up to the first one
that is not of the run of the first. -/
def frontRun (max : Nat) (sameRun : Option (α → α → Bool)) (queued : List α) : List α :=
  let bounded := if 0 < max then queued.take max else queued
  match sameRun with
  | none => bounded
  | some sameRun =>
    match bounded with
    | [] => []
    | first :: rest => first :: rest.takeWhile (sameRun first)

theorem frontRun_append_drop (queued : List α) :
    frontRun max sameRun queued ++ queued.drop (frontRun max sameRun queued).length = queued := by
  refine List.prefix_iff_eq_append.mp ?_
  have hbounded : (if 0 < max then queued.take max else queued) <+: queued := by
    split
    · exact List.take_prefix _ _
    · exact List.prefix_rfl
  refine List.IsPrefix.trans ?_ hbounded
  unfold frontRun
  dsimp only
  split
  · exact List.prefix_rfl
  · split
    · next hnil => exact List.nil_prefix
    · next hcons =>
      rw [hcons]
      exact List.prefix_cons_inj _ |>.mpr (List.takeWhile_prefix _)

theorem getD_find?_range' (p : Nat → Bool) (start count : Nat) :
    ((List.range' start count).find? p).getD (start + count) =
      start + (List.range' start count).findIdx p := by
  induction count generalizing start with
  | zero => rfl
  | succ count ih =>
    rw [List.range'_succ, List.find?_cons, List.findIdx_cons]
    cases p start with
    | true => rfl
    | false =>
      have hrest := ih (start + 1)
      simp only [cond_false]
      rw [show start + (count + 1) = start + 1 + count by omega, hrest]
      omega

theorem take_popCount :
    q.contents.take (q.popCount max sameRun) = frontRun max sameRun q.contents := by
  have hbounded : q.contents.take (if 0 < max then min q.length max else q.length) =
      if 0 < max then q.contents.take max else q.contents := by
    split
    · rw [← length_contents, Nat.min_comm, ← List.take_eq_take_min]
    · rw [← length_contents, List.take_length]
  unfold popCount frontRun
  rw [← hbounded]
  have hcount : (if 0 < max then min q.length max else q.length) ≤ q.length := by
    split <;> omega
  generalize (if 0 < max then min q.length max else q.length) = count at hcount
  cases sameRun with
  | none => rfl
  | some sameRun =>
    have hsplit : q.contents.take count =
        (List.range count).map fun i => q.items.get (q.slot i) := by
      rw [contents, ← List.map_take, List.take_range, min_eq_left hcount]
    rcases lt_or_ge 1 count with hmany | hfew
    · obtain ⟨more, rfl⟩ := Nat.exists_eq_add_of_le' hmany
      let differs i := !sameRun (q.items.get q.head) (q.items.get (q.slot i))
      have hrun : q.runLength sameRun (more + 2) =
          1 + (List.range' 1 (more + 1)).findIdx differs := by
        rw [← getD_find?_range', add_comm 1]
        rfl
      have hle : (List.range' 1 (more + 1)).findIdx differs ≤ more + 1 := by
        simpa using @List.findIdx_le_length _ differs (List.range' 1 (more + 1))
      have hfront : q.contents.take (q.runLength sameRun (more + 2)) =
          (q.contents.take (more + 2)).take (q.runLength sameRun (more + 2)) := by
        rw [List.take_take, min_eq_left (by omega)]
      rw [List.range_eq_range', List.range'_succ, List.map_cons, slot_zero] at hsplit
      dsimp only
      rw [if_pos hmany, hfront, hsplit, hrun, add_comm, List.take_succ_cons]
      dsimp only
      rw [List.takeWhile_map, List.takeWhile_eq_take_findIdx_not, List.map_take]
      rfl
    · obtain rfl | rfl : count = 0 ∨ count = 1 := by omega
      · simp
      · simp [hsplit]

variable [Inhabited α]

/-- The loop of `Pop` that takes the items at the positions from `i` on and clears
their slots. -/
def takeItems (q : DataPacketQueue α capacity) :
    (i count : Nat) → Vector α capacity → List α × Vector α capacity
  | _, 0, items => ([], items)
  | i, count + 1, items =>
    let rest := q.takeItems (i + 1) count (items.set (q.slot i) default (q.slot i).isLt)
    (items.get (q.slot i) :: rest.1, rest.2)

def pop (max : Nat) (sameRun : Option (α → α → Bool)) :
    List α × DataPacketQueue α capacity :=
  let count := q.popCount max sameRun
  if count = 0 then ([], q)
  else
    ((q.takeItems 0 count q.items).1,
      { items := (q.takeItems 0 count q.items).2
        head := q.slot count
        length := q.length - count
        length_le := (Nat.sub_le _ _).trans q.length_le })

def drain : List α × DataPacketQueue α capacity := q.pop 0 none

theorem takeItems_spec {q : DataPacketQueue α capacity} {i count : Nat} (h : i + count ≤ capacity)
    (items : Vector α capacity) :
    (q.takeItems i count items).1 = (List.range' i count).map (fun j => items.get (q.slot j)) ∧
      ∀ j, i + count ≤ j → j < capacity →
        (q.takeItems i count items).2.get (q.slot j) = items.get (q.slot j) := by
  induction count generalizing i items with
  | zero => exact ⟨rfl, fun _ _ _ => rfl⟩
  | succ count ih =>
    obtain ⟨htaken, hleft⟩ := ih (i := i + 1) (by omega)
      (items.set (q.slot i) default (q.slot i).isLt)
    have hset : ∀ j, i < j → j < capacity →
        (items.set (q.slot i) default (q.slot i).isLt).get (q.slot j) = items.get (q.slot j) :=
      fun j hij hj => get_set_slot items default (by omega) hj hij.ne
    constructor
    · rw [takeItems, List.range'_succ, List.map_cons]
      dsimp only
      rw [htaken]
      congr 1
      apply List.map_congr_left
      intro j hj
      rw [List.mem_range'_1] at hj
      exact hset j (by omega) (by omega)
    · intro j hj hlt
      exact (hleft j (by omega) hlt).trans (hset j (by omega) hlt)

theorem pop_fst :
    (q.pop max sameRun).1 = q.contents.take (q.popCount max sameRun) := by
  have hle := (q.popCount_bounds max sameRun).1
  have hcapacity := q.length_le
  rw [pop]
  split
  · next hzero => rw [hzero, List.take_zero]
  · rw [(takeItems_spec (by omega) _).1, contents, ← List.map_take, List.take_range,
      min_eq_left hle, List.range_eq_range']

/-- **`Pop` removes exactly what it returns.** -/
theorem contents_pop :
    (q.pop max sameRun).2.contents = q.contents.drop (q.popCount max sameRun) := by
  have hcapacity := q.length_le
  rw [pop]
  split
  · next hzero => rw [hzero, List.drop_zero]
  · refine contents_of_advanced rfl rfl fun i hi hlt => ?_
    exact (takeItems_spec (by omega) _).2 i (by omega) (by omega)

theorem length_pop :
    (q.pop max sameRun).2.length = q.length - q.popCount max sameRun := by
  rw [← length_contents, contents_pop, List.length_drop, length_contents]

/-- **The items of one `Pop` are all of the run of the first.** -/
theorem sameRun_of_pop {q : DataPacketQueue α capacity} {max : Nat} {sameRun : α → α → Bool}
    {first : α} {rest : List α} (h : (q.pop max (some sameRun)).1 = first :: rest) :
    ∀ item ∈ rest, sameRun first item = true := by
  intro item hitem
  rw [pop_fst, take_popCount] at h
  unfold frontRun at h
  dsimp only at h
  split at h
  · cases h
  · obtain ⟨rfl, rfl⟩ := List.cons.inj h
    exact List.mem_takeWhile_imp hitem

end Pop

/-! ### The queue as a bounded list -/

inductive Operation (α : Type) where
  | pushBatch (items : List α)
  | pushBatchDropNew (items : List α)
  | pop (max : Int) (sameRun : Option (α → α → Bool))
  | drain

/-- What an operation returns, what it releases and, for a push, how many items it says it has
dropped. -/
structure Answer (α : Type) where
  returned : List α := []
  released : List α := []
  dropped : Option Nat := none

def Answer.gone (answer : Answer α) : List α := answer.returned ++ answer.released

def Operation.pushed : Operation α → List α
  | .pushBatch items | .pushBatchDropNew items => items
  | .pop _ _ | .drain => []

/-- The same operation on a list that holds at most `capacity` items. -/
def Operation.onList (capacity : Nat) (queued : List α) : Operation α → Answer α × List α
  | .pushBatch items =>
    let excess := (queued ++ items).length - capacity
    ({ released := (queued ++ items).take excess, dropped := some excess },
      (queued ++ items).drop excess)
  | .pushBatchDropNew items =>
    let room := capacity - queued.length
    ({ released := items.drop room, dropped := some (items.length - room) },
      queued ++ items.take room)
  | .pop max sameRun =>
    let run := frontRun max.toNat sameRun queued
    ({ returned := run }, queued.drop run.length)
  | .drain => ({ released := queued }, [])

/-- Every item is queued, returned or released, and a drop count is that of the released. -/
theorem Operation.onList_spec (capacity : Nat) (queued : List α) (operation : Operation α) :
    (queued ++ operation.pushed).Perm
        ((operation.onList capacity queued).1.gone ++ (operation.onList capacity queued).2) ∧
      ∀ count ∈ (operation.onList capacity queued).1.dropped,
        count = (operation.onList capacity queued).1.released.length := by
  cases operation with
  | pushBatch items =>
    simp only [onList, pushed, Answer.gone, List.nil_append, List.take_append_drop, Option.mem_some]
    exact ⟨.refl _, fun count hcount => by simp [← hcount]⟩
  | pushBatchDropNew items =>
    simp only [onList, pushed, Answer.gone, List.nil_append, List.length_drop, Option.mem_some]
    refine ⟨?_, fun count hcount => hcount.symm⟩
    have hparts : (queued ++ items.take (capacity - queued.length) ++
        items.drop (capacity - queued.length)).Perm _ := List.perm_append_comm
    rwa [List.append_assoc, List.take_append_drop] at hparts
  | pop max sameRun =>
    simp only [onList, pushed, Answer.gone, List.append_nil, frontRun_append_drop]
    exact ⟨.refl _, nofun⟩
  | drain =>
    exact ⟨.refl _, nofun⟩

def onListAll (capacity : Nat) (queued : List α) : List (Operation α) → List (Answer α) × List α
  | [] => ([], queued)
  | operation :: operations =>
    let rest := onListAll capacity (operation.onList capacity queued).2 operations
    ((operation.onList capacity queued).1 :: rest.1, rest.2)

theorem onListAll_spec (queued : List α) (operations : List (Operation α)) :
    (queued ++ operations.flatMap Operation.pushed).Perm
        ((onListAll capacity queued operations).1.flatMap Answer.gone ++
          (onListAll capacity queued operations).2) ∧
      ∀ answer ∈ (onListAll capacity queued operations).1, ∀ count ∈ answer.dropped,
        count = answer.released.length := by
  induction operations generalizing queued with
  | nil => simp [onListAll]
  | cons operation operations ih =>
    obtain ⟨hparts, hcount⟩ := operation.onList_spec capacity queued
    obtain ⟨hrest, hcounts⟩ := ih (operation.onList capacity queued).2
    rw [onListAll, List.forall_mem_cons]
    refine ⟨?_, hcount, hcounts⟩
    rw [List.flatMap_cons, List.flatMap_cons, ← List.append_assoc queued]
    refine (hparts.append_right _).trans ?_
    rw [List.append_assoc, List.append_assoc]
    exact hrest.append_left _

section Fifo

variable [NeZero capacity] [Inhabited α]

def pushBatchDropped (q : DataPacketQueue α capacity) : List α → Nat
  | [] => 0
  | item :: items =>
    if q.length = capacity then (q.dropFront.pushBack item).pushBatchDropped items + 1
    else (q.pushBack item).pushBatchDropped items

def perform (q : DataPacketQueue α capacity) :
    Operation α → Answer α × DataPacketQueue α capacity
  | .pushBatch items =>
    ({ released := (q.pushBatch items).1, dropped := some (q.pushBatchDropped items) },
      (q.pushBatch items).2)
  | .pushBatchDropNew items =>
    ({ released := (q.pushBatchDropNew items).1
       dropped := some (items.length - min items.length (capacity - q.length)) },
      (q.pushBatchDropNew items).2)
  | .pop max sameRun =>
    ({ returned := (q.pop max.toNat sameRun).1 }, (q.pop max.toNat sameRun).2)
  | .drain => ({ released := q.drain.1 }, q.drain.2)

variable (q : DataPacketQueue α capacity)

theorem pushBatchDropped_eq (items : List α) :
    q.pushBatchDropped items = (q.pushBatch items).1.length := by
  fun_induction pushBatch q items with
  | case1 => rfl
  | case2 q item items hfull rest ih => rw [pushBatchDropped, if_pos hfull, ih]; rfl
  | case3 q item items hroom ih => rw [pushBatchDropped, if_neg hroom, ih]

/-- **One operation on the ring is the operation on its contents.** -/
theorem perform_eq_onList (operation : Operation α) :
    (q.perform operation).1 = (operation.onList capacity q.contents).1 ∧
      (q.perform operation).2.contents = (operation.onList capacity q.contents).2 := by
  cases operation with
  | pushBatch items =>
    obtain ⟨hsplit, hlength⟩ := q.pushBatch_spec items
    have hreleased : (q.pushBatch items).1.length = (q.contents ++ items).length - capacity := by
      have htotal := congrArg List.length hsplit
      rw [List.length_append] at htotal
      omega
    simp only [perform, Operation.onList, pushBatchDropped_eq]
    rw [← hreleased, ← hsplit, List.take_left, List.drop_left]
    exact ⟨rfl, rfl⟩
  | pushBatchDropNew items =>
    refine ⟨?_, ?_⟩
    · simp only [perform, pushBatchDropNew, Operation.onList, length_contents]
      rw [← Nat.sub_eq_sub_min, Nat.min_comm, ← List.drop_eq_drop_min]
    · simp only [perform, Operation.onList, length_contents, contents_pushBatchDropNew]
  | pop max sameRun =>
    have hle := (q.popCount_bounds max.toNat sameRun).1
    simp only [perform, Operation.onList, pop_fst, contents_pop, ← take_popCount, List.length_take,
      length_contents, min_eq_left hle, and_self]
  | drain =>
    have hall : q.contents.take q.length = q.contents := List.take_of_length_le (by simp)
    simp [perform, Operation.onList, drain, pop_fst, contents_pop, popCount, hall]

def performAll (q : DataPacketQueue α capacity) :
    List (Operation α) → List (Answer α) × DataPacketQueue α capacity
  | [] => ([], q)
  | operation :: operations =>
    let rest := (q.perform operation).2.performAll operations
    ((q.perform operation).1 :: rest.1, rest.2)

theorem performAll_eq_onListAll (operations : List (Operation α)) :
    (q.performAll operations).1 = (onListAll capacity q.contents operations).1 ∧
      (q.performAll operations).2.contents = (onListAll capacity q.contents operations).2 := by
  induction operations generalizing q with
  | nil => exact ⟨rfl, rfl⟩
  | cons operation operations ih =>
    obtain ⟨hanswer, hcontents⟩ := q.perform_eq_onList operation
    obtain ⟨hanswers, hrest⟩ := ih (q.perform operation).2
    rw [hcontents] at hanswers hrest
    exact ⟨congrArg₂ _ hanswer hanswers, hrest⟩

/-- **The ring queue is a bounded FIFO.**  Whatever is done to it, its answers and its contents
are those of the bounded list.  Every item that was in it or has been pushed is in exactly one
place: returned once, released once or still queued. -/
theorem performAll_fifo (q : DataPacketQueue α capacity) (operations : List (Operation α)) :
    (q.performAll operations).1 = (onListAll capacity q.contents operations).1 ∧
      (q.performAll operations).2.contents = (onListAll capacity q.contents operations).2 ∧
      (q.performAll operations).2.contents.length ≤ capacity ∧
      (q.contents ++ operations.flatMap Operation.pushed).Perm
        ((q.performAll operations).1.flatMap Answer.gone ++ (q.performAll operations).2.contents) ∧
      ∀ answer ∈ (q.performAll operations).1, ∀ count ∈ answer.dropped,
        count = answer.released.length := by
  obtain ⟨hanswers, hcontents⟩ := q.performAll_eq_onListAll operations
  refine ⟨hanswers, hcontents, ?_, ?_⟩
  · rw [length_contents]
    exact (q.performAll operations).2.length_le
  · rw [hanswers, hcontents]
    exact onListAll_spec q.contents operations

/-- A full queue of two drops its oldest item for a third. -/
theorem performAll_fifo_full :
    (((newDataPacketQueueWithCapacity Nat 2).performAll [.pushBatch [1, 2, 3], .pop 1 none]).1 =
        [{ released := [1], dropped := some 1 }, { returned := [2] }]) ∧
      ((newDataPacketQueueWithCapacity Nat 2).performAll [.pushBatch [1, 2, 3]]).2.contents.length
        ≤ 2 :=
  ⟨rfl, (performAll_fifo (newDataPacketQueueWithCapacity Nat 2) _).2.2.1⟩

end Fifo

end DataPacketQueue

end SingOpenVPN
