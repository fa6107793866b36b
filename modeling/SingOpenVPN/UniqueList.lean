import Mathlib.Data.List.Nodup
import Mathlib.Data.List.Sort
import Mathlib.Tactic.Common

/-!
# Lists without repetition

Two ways to merge new values into a list: `appendUnique` adds those that are not there,
`upsert` replaces the entry with the same key or adds one at the end.

Both keep a list duplicate-free, and merging the same values a second time changes
nothing (`appendUnique_twice`, `sorted_upserts_twice`).  If the entries of the merged list
are completed afterwards by some function, the second merge compares the new values with
completed entries.  It then changes nothing exactly if the function leaves all the new
values alone (`completed_twice_iff`).
-/

namespace SingOpenVPN.UniqueList

open List

variable {α κ : Type*}

/-! ### Appending what is missing -/

section Append

variable [DecidableEq α]

def appendUnique (destination values : List α) : List α :=
  values.foldl (fun merged value => if value ∈ merged then merged else merged ++ [value])
    destination

@[simp] theorem appendUnique_nil (destination : List α) :
    appendUnique destination [] = destination := rfl

variable (destination values : List α)

theorem appendUnique_cons (value : α) :
    appendUnique destination (value :: values) =
      appendUnique (if value ∈ destination then destination else destination ++ [value]) values :=
  rfl

theorem exists_appendUnique :
    ∃ added, appendUnique destination values = destination ++ added ∧
      (∀ value ∈ added, value ∈ values ∧ value ∉ destination) ∧
      ∀ value ∈ values, value ∈ destination ∨ value ∈ added := by
  induction values generalizing destination with
  | nil => exact ⟨[], by rw [appendUnique_nil, append_nil], nofun, nofun⟩
  | cons value values ih =>
    rw [appendUnique_cons]
    by_cases hmem : value ∈ destination
    · rw [if_pos hmem]
      obtain ⟨added, heq, hnew, hall⟩ := ih destination
      refine ⟨added, heq, ?_, ?_⟩
      · intro other hother
        exact ⟨mem_cons_of_mem _ (hnew other hother).1, (hnew other hother).2⟩
      · intro other hother
        rcases mem_cons.mp hother with rfl | hrest
        · exact .inl hmem
        · exact hall other hrest
    · rw [if_neg hmem]
      obtain ⟨added, heq, hnew, hall⟩ := ih (destination ++ [value])
      refine ⟨value :: added, by simpa using heq, ?_, ?_⟩
      · intro other hother
        rcases mem_cons.mp hother with rfl | hrest
        · exact ⟨mem_cons_self, hmem⟩
        · obtain ⟨hvalues, hfresh⟩ := hnew other hrest
          exact ⟨mem_cons_of_mem _ hvalues, fun hold => hfresh (mem_append_left _ hold)⟩
      · intro other hother
        rcases mem_cons.mp hother with rfl | hrest
        · exact .inr mem_cons_self
        · have := hall other hrest
          simp only [mem_append, mem_singleton] at this
          simp only [mem_cons]
          tauto

@[simp] theorem mem_appendUnique {destination values : List α} {value : α} :
    value ∈ appendUnique destination values ↔ value ∈ destination ∨ value ∈ values := by
  obtain ⟨added, heq, hnew, hall⟩ := exists_appendUnique destination values
  rw [heq, mem_append]
  constructor
  · rintro (hold | hadded)
    · exact .inl hold
    · exact .inr (hnew value hadded).1
  · rintro (hold | hvalue)
    · exact .inl hold
    · exact hall value hvalue

theorem nodup_appendUnique {destination : List α} (h : destination.Nodup) (values : List α) :
    (appendUnique destination values).Nodup := by
  induction values generalizing destination with
  | nil => exact h
  | cons value values ih =>
    rw [appendUnique_cons]
    by_cases hmem : value ∈ destination
    · rw [if_pos hmem]
      exact ih h
    · rw [if_neg hmem]
      apply ih
      rw [← concat_eq_append]
      exact h.concat hmem

theorem appendUnique_eq_self {destination values : List α} :
    appendUnique destination values = destination ↔ values ⊆ destination := by
  obtain ⟨added, heq, hnew, hall⟩ := exists_appendUnique destination values
  rw [heq, append_right_eq_self]
  constructor
  · intro hnone value hvalue
    simpa [hnone] using hall value hvalue
  · intro hold
    refine eq_nil_iff_forall_not_mem.mpr fun value hvalue => ?_
    exact (hnew value hvalue).2 (hold (hnew value hvalue).1)

@[simp] theorem appendUnique_twice :
    appendUnique (appendUnique destination values) values = appendUnique destination values :=
  appendUnique_eq_self.mpr fun _ hvalue => mem_appendUnique.mpr (.inr hvalue)

theorem filter_appendUnique (keep : α → Bool) :
    (appendUnique (destination.filter keep) (values.filter keep)).filter keep =
      appendUnique (destination.filter keep) (values.filter keep) := by
  refine filter_eq_self.mpr fun value hvalue => ?_
  exact (mem_appendUnique.mp hvalue).elim of_mem_filter of_mem_filter

theorem appendUnique_filter_eq_self (keep : α → Bool) :
    appendUnique (destination.filter keep) (values.filter keep) = destination ↔
      values.filter keep ⊆ destination ∧ destination.filter keep = destination := by
  constructor
  · intro heq
    have hkept := filter_appendUnique destination values keep
    rw [heq] at hkept
    rw [hkept, appendUnique_eq_self] at heq
    exact ⟨heq, hkept⟩
  · rintro ⟨hstored, hkept⟩
    rw [hkept]
    exact appendUnique_eq_self.mpr hstored

/-- Merging the same values again after the entries were completed by `complete`. -/
theorem completed_twice_iff {complete : α → α}
    (hcomplete : ∀ value, complete (complete value) = complete value)
    (destination values : List α) :
    (appendUnique ((appendUnique destination values).map complete) values).map complete =
        (appendUnique destination values).map complete ↔
      ∀ value ∈ values, complete value = value := by
  set merged := (appendUnique destination values).map complete with hmerged
  have hfixed : merged.map complete = merged := by
    rw [hmerged, map_map]
    exact map_congr_left fun value _ => hcomplete value
  -- the entries of the merged list are the completed ones, so a new value that is
  -- not complete is added once more
  have hmem : ∀ value ∈ values, value ∈ merged ↔ complete value = value := by
    intro value hvalue
    rw [hmerged, mem_map]
    constructor
    · rintro ⟨entry, -, rfl⟩
      exact hcomplete entry
    · intro heq
      exact ⟨value, mem_appendUnique.mpr (.inr hvalue), heq⟩
  obtain ⟨added, heq, hnew, hall⟩ := exists_appendUnique merged values
  rw [heq, map_append, hfixed, append_right_eq_self, map_eq_nil_iff]
  constructor
  · intro hnone value hvalue
    rw [← hmem value hvalue]
    simpa [hnone] using hall value hvalue
  · intro hall
    refine eq_nil_iff_forall_not_mem.mpr fun value hvalue => ?_
    obtain ⟨hvalue, hfresh⟩ := hnew value hvalue
    exact hfresh ((hmem value hvalue).mpr (hall value hvalue))

end Append

/-! ### Replacing by key -/

section Upsert

variable [DecidableEq κ] (key : α → κ)

/-- Replace the first entry with the same key, or append the value. -/
def upsert : List α → α → List α
  | [], value => [value]
  | entry :: entries, value =>
      if key entry = key value then value :: entries else entry :: upsert entries value

def upserts (entries values : List α) : List α := values.foldl (upsert key) entries

variable {key}

theorem keys_upsert (entries : List α) (value : α) :
    (upsert key entries value).map key = appendUnique (entries.map key) [key value] := by
  induction entries with
  | nil => rfl
  | cons entry entries ih =>
    rw [upsert]
    by_cases heq : key entry = key value
    · simp [heq, appendUnique]
    · rw [if_neg heq, map_cons, ih]
      have hne : key value ≠ key entry := fun h => heq h.symm
      by_cases hmem : key value ∈ entries.map key
      · simp only [appendUnique, foldl_cons, foldl_nil, if_pos hmem, map_cons,
          mem_cons, hne, false_or]
      · simp only [appendUnique, foldl_cons, foldl_nil, if_neg hmem, map_cons,
          mem_cons, hne, false_or, cons_append]

theorem keys_upserts (entries values : List α) :
    (upserts key entries values).map key = appendUnique (entries.map key) (values.map key) := by
  induction values generalizing entries with
  | nil => rfl
  | cons value values ih =>
    rw [upserts, foldl_cons, ← upserts, ih, keys_upsert]
    rfl

def lookup (key : α → κ) (wanted : κ) (entries : List α) : Option α :=
  entries.find? fun entry => key entry = wanted

theorem lookup_upsert (entries : List α) (value : α) (wanted : κ) :
    lookup key wanted (upsert key entries value) =
      if key value = wanted then some value else lookup key wanted entries := by
  induction entries with
  | nil =>
    unfold lookup
    by_cases hwanted : key value = wanted
    · simp [upsert, hwanted]
    · simp [upsert, hwanted]
  | cons entry entries ih =>
    unfold lookup at ih ⊢
    rw [upsert]
    by_cases heq : key entry = key value
    · rw [if_pos heq]
      by_cases hwanted : key value = wanted
      · simp [hwanted]
      · have hentry : key entry ≠ wanted := heq ▸ hwanted
        simp [hwanted, hentry]
    · rw [if_neg heq, List.find?_cons, List.find?_cons, ih]
      by_cases hentry : key entry = wanted
      · have hvalue : key value ≠ wanted := fun h => heq (hentry.trans h.symm)
        simp [hentry, hvalue]
      · simp [hentry]

theorem lookup_upserts (entries values : List α) (wanted : κ) :
    lookup key wanted (upserts key entries values) =
      (lookup key wanted values.reverse).or (lookup key wanted entries) := by
  induction values generalizing entries with
  | nil => rfl
  | cons value values ih =>
    rw [upserts, foldl_cons, ← upserts, ih, lookup_upsert]
    unfold lookup
    rw [reverse_cons, List.find?_append, Option.or_assoc]
    congr 1
    by_cases hwanted : key value = wanted
    · simp [hwanted]
    · simp [hwanted]

theorem lookup_eq_some {entries : List α} (hnodup : (entries.map key).Nodup) {wanted : κ}
    {entry : α} :
    lookup key wanted entries = some entry ↔ entry ∈ entries ∧ key entry = wanted := by
  constructor
  · intro hfind
    exact ⟨mem_of_find?_eq_some hfind, by simpa using List.find?_some hfind⟩
  · rintro ⟨hmem, rfl⟩
    obtain ⟨found, hfound⟩ : ∃ found, lookup key (key entry) entries = some found := by
      rw [← Option.isSome_iff_exists, lookup, List.find?_isSome]
      exact ⟨entry, hmem, by simp⟩
    have hkey : key found = key entry := by simpa using List.find?_some hfound
    rw [hfound, inj_on_of_nodup_map hnodup (mem_of_find?_eq_some hfound) hmem hkey]

/-- A list without repeated keys is determined by its keys and the entries they have. -/
theorem eq_of_keys_of_lookup {left right : List α} (hkeys : left.map key = right.map key)
    (hnodup : (left.map key).Nodup)
    (h : ∀ wanted, lookup key wanted left = lookup key wanted right) :
    left = right := by
  have hlength : left.length = right.length := by simpa using congrArg List.length hkeys
  refine ext_getElem hlength fun position hleft hright => ?_
  have hkey : key (left[position]) = key (right[position]) := by
    have := congrArg (fun keys => keys[position]?) hkeys
    simpa [hleft, hright] using this
  have hfound := (lookup_eq_some hnodup).mpr ⟨getElem_mem hleft, rfl⟩
  rw [h, hkey, (lookup_eq_some (hkeys ▸ hnodup)).mpr ⟨getElem_mem hright, rfl⟩] at hfound
  exact (Option.some.inj hfound).symm

variable {r : α → α → Prop} [DecidableRel r]

theorem lookup_insertionSort {entries : List α} (hnodup : (entries.map key).Nodup) (wanted : κ) :
    lookup key wanted (entries.insertionSort r) = lookup key wanted entries := by
  have hperm := perm_insertionSort r entries
  have hnodup' : ((entries.insertionSort r).map key).Nodup :=
    (hperm.map key).nodup_iff.mpr hnodup
  ext entry
  rw [lookup_eq_some hnodup', lookup_eq_some hnodup, hperm.mem_iff]

/-- Replacing and sorting change nothing exactly if the list is sorted and has, of the new values
with the same key, the last one. -/
theorem sorted_upserts_eq_self [Std.Total r] [IsTrans α r] {entries values : List α}
    (hnodup : (entries.map key).Nodup) :
    (upserts key entries values).insertionSort r = entries ↔
      entries.Pairwise r ∧
        ∀ wanted value, lookup key wanted values.reverse = some value → value ∈ entries := by
  have hnodupMerged : ((upserts key entries values).map key).Nodup := by
    rw [keys_upserts]
    exact nodup_appendUnique hnodup _
  constructor
  · intro heq
    refine ⟨heq ▸ pairwise_insertionSort r _, fun wanted value hvalue => ?_⟩
    have hfound := lookup_insertionSort (r := r) hnodupMerged wanted
    rw [heq, lookup_upserts, hvalue, Option.some_or] at hfound
    exact mem_of_find?_eq_some hfound
  · rintro ⟨hsorted, hlast⟩
    have hlookup : ∀ wanted value, lookup key wanted values.reverse = some value →
        lookup key wanted entries = some value := by
      intro wanted value hvalue
      exact (lookup_eq_some hnodup).mpr
        ⟨hlast wanted value hvalue, by simpa using List.find?_some hvalue⟩
    have hkeys : (upserts key entries values).map key = entries.map key := by
      rw [keys_upserts, appendUnique_eq_self]
      intro wanted hwanted
      obtain ⟨value, hvalue, rfl⟩ := mem_map.mp hwanted
      obtain ⟨found, hfound⟩ : ∃ found, lookup key (key value) values.reverse = some found := by
        rw [← Option.isSome_iff_exists, lookup, List.find?_isSome]
        exact ⟨value, mem_reverse.mpr hvalue, by simp⟩
      obtain ⟨hmem, hkey⟩ := (lookup_eq_some hnodup).mp (hlookup _ _ hfound)
      exact hkey ▸ mem_map_of_mem hmem
    have hsame : upserts key entries values = entries := by
      refine eq_of_keys_of_lookup hkeys hnodupMerged fun wanted => ?_
      rw [lookup_upserts]
      cases hvalue : lookup key wanted values.reverse with
      | none => rfl
      | some value => exact (hlookup wanted value hvalue).symm
    rw [hsame]
    exact hsorted.insertionSort_eq

/-- **Replacing and sorting a second time changes nothing.** -/
theorem sorted_upserts_twice [Std.Total r] [IsTrans α r] {entries values : List α}
    (hnodup : (entries.map key).Nodup) :
    (upserts key ((upserts key entries values).insertionSort r) values).insertionSort r =
      (upserts key entries values).insertionSort r := by
  have hperm := perm_insertionSort r (upserts key entries values)
  rw [sorted_upserts_eq_self]
  · refine ⟨pairwise_insertionSort r _, fun wanted value hvalue => ?_⟩
    have hfound : lookup key wanted (upserts key entries values) = some value := by
      rw [lookup_upserts, hvalue, Option.some_or]
    exact hperm.mem_iff.mpr (mem_of_find?_eq_some hfound)
  · rw [(hperm.map key).nodup_iff, keys_upserts]
    exact nodup_appendUnique hnodup _

end Upsert

end SingOpenVPN.UniqueList
