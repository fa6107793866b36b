import Mathlib.Data.List.AList

/-!
# Sums over the values of a table

`total weight table` adds up the weights of the values of an association list.  Taking an
entry out subtracts its weight, putting one in adds it: what a counter kept beside a table
has to do to stay exact.
-/

namespace SingOpenVPN.TableSum

variable {α β : Type*}

def weigh (weight : β → Nat) (entries : List (Sigma fun _ : α => β)) : Nat :=
  entries.foldr (fun entry rest => weight entry.2 + rest) 0

variable [DecidableEq α] {weight : β → Nat}

theorem weigh_kerase {entries : List (Sigma fun _ : α => β)} {key : α}
    {value : β} (h : entries.dlookup key = some value) :
    weight value + weigh weight (entries.kerase key) = weigh weight entries := by
  induction entries with
  | nil => cases h
  | cons entry entries ih =>
    obtain ⟨key', value'⟩ := entry
    by_cases hkey : key = key'
    · subst hkey
      simp only [List.dlookup_cons_eq, Option.some.injEq] at h
      simp [h, List.kerase, weigh]
    · have hrest : weight value + weigh weight (entries.kerase key) = weigh weight entries :=
        ih (by rwa [List.dlookup_cons_ne entries ⟨key', value'⟩ hkey] at h)
      simp only [weigh, List.kerase, List.foldr_cons, List.eraseP_cons, hkey,
        decide_false] at hrest ⊢
      simp only [cond_false, List.foldr_cons]
      omega

def total (weight : β → Nat) (table : AList (fun _ : α => β)) : Nat := weigh weight table.entries

variable {table : AList (fun _ : α => β)}

theorem total_erase {key : α} {value : β}
    (h : table.lookup key = some value) :
    weight value + total weight (table.erase key) = total weight table :=
  weigh_kerase h

theorem total_erase_none {key : α}
    (h : table.lookup key = none) : total weight (table.erase key) = total weight table := by
  have hkeys : key ∉ table.entries.keys := AList.lookup_eq_none.mp h
  have hsame : (table.erase key).entries = table.entries := List.kerase_of_notMem_keys hkeys
  rw [total, total, hsame]

theorem total_insert (weight : β → Nat) (table : AList (fun _ : α => β)) (key : α) (value : β) :
    total weight (table.insert key value) = weight value + total weight (table.erase key) := rfl

theorem total_replace (weight : β → Nat) (table : AList (fun _ : α => β)) (key : α) (value : β) :
    total weight (table.insert key value) + ((table.lookup key).map weight).getD 0 =
      weight value + total weight table := by
  rw [total_insert]
  cases hlookup : table.lookup key with
  | none => simp [total_erase_none hlookup]
  | some previous =>
    have herase : weight previous + total weight (table.erase key) = total weight table :=
      total_erase hlookup
    simp only [Option.map_some, Option.getD_some]
    omega

end SingOpenVPN.TableSum
