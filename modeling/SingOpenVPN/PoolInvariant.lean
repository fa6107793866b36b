import Mathlib.Data.List.Perm.Subperm
import SingOpenVPN.PoolEnumeration
import SingOpenVPN.TransitionSystem

/-!
# The address pool over whole histories (`ip_pool.go`)

Between the configuration of a pool and any point of its life, addresses have been
allocated, with and without an identity, and released in some order.  The leases that are
out are tracked beside the pool.

The invariant of one family is about its table, the addresses its scan visits and the
addresses that are out (`LeaseInvariant`); the two families use the same rules for
granting and releasing.
-/

namespace SingOpenVPN

open TransitionSystem List IPPool AList AddressTable

/-! ### Identities -/

namespace AddressTable

variable {α : Type} [DecidableEq α] (table : AddressTable α)

@[simp] theorem identity_evictIdentity (address : α) (identity : String) :
    (table.evictIdentity address identity).identity = table.identity := by
  unfold evictIdentity
  dsimp only
  split <;> rfl

@[simp] theorem address_evictAddress (address : α) (identity : String) :
    (table.evictAddress address identity).address = table.address := by
  unfold evictAddress
  split
  · rfl
  · split <;> rfl

theorem lookup_identity_evictAddress {address other : α} (identity : String)
    (h : other ≠ address) : (table.evictAddress address identity).identity.lookup other =
      if table.address.lookup identity = some other then none else table.identity.lookup other := by
  unfold evictAddress
  cases hprevious : table.address.lookup identity with
  | none => simp
  | some previous =>
    dsimp only
    by_cases hsame : previous = address
    · rw [if_pos hsame, if_neg (by simpa [hsame] using h.symm)]
    · rw [if_neg hsame]
      by_cases hother : previous = other
      · rw [if_pos (congrArg some hother), hother, lookup_erase]
      · rw [if_neg (by simpa using hother), lookup_erase_ne (Ne.symm hother)]

/-- Every identity that has an address is the identity of that address. -/
structure Consistent (table : AddressTable α) : Prop where
  inverse : ∀ address identity, table.identity.lookup address = some identity ↔
    table.address.lookup identity = some address
  named : ∀ address, table.identity.lookup address ≠ some ""

namespace Consistent

variable {table : AddressTable α}

theorem lookup_address_evictIdentity (h : table.Consistent) (address : α) {identity name : String}
    (hname : name ≠ identity) : (table.evictIdentity address identity).address.lookup name =
      if table.identity.lookup address = some name then none else table.address.lookup name := by
  unfold evictIdentity identityOf
  cases hprevious : table.identity.lookup address with
  | none => simp
  | some previous =>
    have hnamed : previous ≠ "" := by
      rintro rfl
      exact h.named address hprevious
    have hinverse := (h.inverse address previous).mp hprevious
    simp only [Option.getD_some]
    by_cases hsame : previous = identity
    · rw [if_neg (by simp [hsame]), if_neg (by simpa [hsame] using hname.symm)]
    · rw [if_pos ⟨hnamed, hsame, hinverse⟩]
      by_cases hother : previous = name
      · rw [if_pos (congrArg some hother), hother, lookup_erase]
      · rw [if_neg (by simpa using hother), lookup_erase_ne (Ne.symm hother)]

theorem lookup_address_evictIdentity_self (table : AddressTable α) (address : α)
    (identity : String) :
    (table.evictIdentity address identity).address.lookup identity =
    table.address.lookup identity := by
  unfold evictIdentity
  dsimp only
  split
  · next hevicted => rw [lookup_erase_ne (Ne.symm hevicted.2.1)]
  · rfl

theorem lookup_address_commit (h : table.Consistent) (address : α) (identity name : String) :
    (table.commit address identity).address.lookup name =
      if identity ≠ "" ∧ name = identity then some address
      else if table.identity.lookup address = some name then none
      else table.address.lookup name := by
  have htaken : ({ table with
      usedSet := insert address table.usedSet
      released := table.released.erase address } : AddressTable α).Consistent :=
        ⟨h.inverse, h.named⟩
  unfold commit
  by_cases hempty : identity = ""
  · rw [if_neg (by simpa using hempty), if_neg (by simp [hempty])]
    by_cases hname : name = identity
    · rw [hname, if_neg (by rw [hempty]; exact h.named address)]
      exact lookup_address_evictIdentity_self _ address identity
    · exact htaken.lookup_address_evictIdentity address hname
  · rw [if_pos hempty]
    dsimp only
    rw [address_evictAddress]
    by_cases hname : name = identity
    · rw [hname, lookup_insert, if_pos ⟨hempty, rfl⟩]
    · rw [lookup_insert_ne hname, if_neg (fun hboth => hname hboth.2)]
      exact htaken.lookup_address_evictIdentity address hname

theorem lookup_identity_commit (table : AddressTable α) (address : α) (identity : String)
    (other : α) :
    (table.commit address identity).identity.lookup other =
      if other = address then (if identity = "" then none else some identity)
      else if identity ≠ "" ∧ table.address.lookup identity = some other then none
      else table.identity.lookup other := by
  unfold commit
  by_cases hempty : identity = ""
  · rw [if_neg (by simpa using hempty)]
    rw [identity_evictIdentity]
    by_cases hother : other = address
    · rw [hother, lookup_erase, if_pos rfl, if_pos hempty]
    · rw [lookup_erase_ne hother, if_neg hother, if_neg (by simp [hempty])]
  · rw [if_pos hempty]
    by_cases hother : other = address
    · rw [hother, lookup_insert, if_pos rfl, if_neg hempty]
    · rw [lookup_insert_ne hother, if_neg hother, lookup_identity_evictAddress _ _ hother,
        lookup_address_evictIdentity_self, identity_evictIdentity]
      simp [hempty]

theorem commit (h : table.Consistent) (address : α) (identity : String) :
    (table.commit address identity).Consistent := by
  constructor
  · intro other name
    rw [lookup_identity_commit, h.lookup_address_commit]
    by_cases hother : other = address
    · subst hother
      rw [if_pos rfl]
      by_cases hgiven : identity ≠ "" ∧ name = identity
      · rw [if_neg hgiven.1, if_pos hgiven, hgiven.2]
        simp
      · rw [if_neg hgiven]
        -- nobody but the new identity has the address now
        have hleft : ¬ (if identity = "" then none else some identity) = some name := by
          split
          · simp
          · next hne => exact fun heq => hgiven ⟨hne, (Option.some.inj heq).symm⟩
        refine ⟨fun heq => absurd heq hleft, fun heq => ?_⟩
        split at heq
        · cases heq
        · next hnot => exact absurd ((h.inverse other name).mpr heq) hnot
    · rw [if_neg hother]
      by_cases hgiven : identity ≠ "" ∧ name = identity
      · obtain ⟨hne, rfl⟩ := hgiven
        rw [if_pos (show name ≠ "" ∧ name = name from ⟨hne, rfl⟩)]
        refine ⟨fun heq => ?_, fun heq => absurd (Option.some.inj heq).symm hother⟩
        split at heq
        · cases heq
        · next hnot => exact absurd ⟨hne, (h.inverse other name).mp heq⟩ hnot
      · rw [if_neg hgiven]
        constructor
        · intro heq
          split at heq
          · cases heq
          · have hlookup := (h.inverse other name).mp heq
            rw [if_neg, hlookup]
            intro htaken
            rw [(h.inverse address name).mp htaken] at hlookup
            exact hother (Option.some.inj hlookup).symm
        · intro heq
          split at heq
          · cases heq
          · have hlookup := (h.inverse other name).mpr heq
            rw [if_neg, hlookup]
            rintro ⟨hne, hprevious⟩
            rw [(h.inverse other identity).mpr hprevious] at hlookup
            exact hgiven ⟨hne, (Option.some.inj hlookup).symm⟩
  · intro other hlookup
    rw [lookup_identity_commit] at hlookup
    split at hlookup
    · split at hlookup
      · cases hlookup
      · next hne => exact hne (Option.some.inj hlookup)
    · split at hlookup
      · cases hlookup
      · exact h.named other hlookup

theorem release (h : table.Consistent) (address : α) (now : Time) :
    (table.release address now).Consistent := ⟨h.inverse, h.named⟩

/-- While some visited address has no identity, there are fewer identities than visited
    addresses. -/
theorem length_keys_lt (h : table.Consistent) {visited : List α} {current : α}
    (hvisited : ∀ address identity, table.identity.lookup address = some identity →
      address ∈ visited)
    (hcurrent : current ∈ visited) (hnone : table.identity.lookup current = none) :
    table.address.keys.length < visited.length := by
  have hlookup : ∀ name ∈ table.address.keys, ∃ address ∈ visited,
      table.address.lookup name = some address ∧ table.identity.lookup address = some name := by
    intro name hname
    obtain ⟨address, haddress⟩ := Option.isSome_iff_exists.mp (lookup_isSome.mpr hname)
    have hidentity := (h.inverse address name).mpr haddress
    exact ⟨address, hvisited address name hidentity, haddress, hidentity⟩
  have hnodup : (some current :: table.address.keys.map table.address.lookup).Nodup := by
    rw [nodup_cons]
    constructor
    · intro hmem
      obtain ⟨name, hname, heq⟩ := mem_map.mp hmem
      have hidentity := (h.inverse current name).mpr heq
      rw [hnone] at hidentity
      cases hidentity
    · refine List.Nodup.map_on ?_ table.address.nodupKeys
      intro name hname other _ heq
      obtain ⟨address, -, haddress, hidentity⟩ := hlookup name hname
      have hother := (h.inverse address other).mpr (heq.symm.trans haddress)
      exact Option.some.inj (hidentity.symm.trans hother)
  have hsubset :
      some current :: table.address.keys.map table.address.lookup ⊆ visited.map some := by
    intro found hfound
    rcases mem_cons.mp hfound with rfl | hmem
    · exact mem_map_of_mem hcurrent
    · obtain ⟨name, hname, rfl⟩ := mem_map.mp hmem
      obtain ⟨address, haddress, heq, -⟩ := hlookup name hname
      rw [heq]
      exact mem_map_of_mem haddress
  have hlength := (subperm_of_subset hnodup hsubset).length_le
  simp only [length_cons, length_map] at hlength
  exact hlength

end Consistent

end AddressTable

/-! ### Leases of one family -/

/-- The table of a family whose scan visits `visited` while the addresses `outstanding` are
    leased. -/
structure LeaseInvariant {α : Type} [DecidableEq α] (table : AddressTable α)
    (visited outstanding : List α) : Prop where
  consistent : table.Consistent
  used : ∀ address ∈ visited, address ∈ table.usedSet ↔ address ∈ outstanding
  visits : ∀ address ∈ outstanding, address ∈ visited
  nodup : outstanding.Nodup
  sticky : ∀ address identity, table.identity.lookup address = some identity → address ∈ visited

namespace LeaseInvariant

variable {α : Type} [DecidableEq α] {table : AddressTable α} {visited outstanding : List α}

section

variable (h : LeaseInvariant table visited outstanding)

include h

theorem commit {address : α} (hvisited : address ∈ visited) (hfree : address ∉ table.usedSet)
    (identity : String) :
    LeaseInvariant (table.commit address identity) visited (address :: outstanding) := by
  refine ⟨h.consistent.commit address identity, ?_, ?_, ?_, ?_⟩
  · intro other hother
    rw [usedSet_commit, Finset.mem_insert, mem_cons, h.used other hother]
  · intro other hother
    rcases mem_cons.mp hother with rfl | hmem
    · exact hvisited
    · exact h.visits other hmem
  · exact nodup_cons.mpr ⟨fun hmem => hfree ((h.used address hvisited).mpr hmem), h.nodup⟩
  · intro other name hlookup
    rw [AddressTable.Consistent.lookup_identity_commit] at hlookup
    split at hlookup
    · next heq => rwa [heq]
    · split at hlookup
      · cases hlookup
      · exact h.sticky other name hlookup

theorem release (address : α) (now : Time) :
    LeaseInvariant (table.release address now) visited (outstanding.filter (· ≠ address)) := by
  refine ⟨h.consistent.release address now, ?_, ?_, h.nodup.filter _, h.sticky⟩
  · intro other hother
    rw [usedSet_release, Finset.mem_erase, mem_filter, h.used other hother]
    simp [and_comm]
  · intro other hother
    exact h.visits other (mem_filter.mp hother).1

theorem previous {identity : String} {address : α}
    (hprevious : table.address.lookup identity = some address) : address ∈ visited :=
  h.sticky address identity ((h.consistent.inverse address identity).mpr hprevious)

end

end LeaseInvariant

/-! ### The pool -/

/-- The pools there are before any allocation: configured, and perhaps given another server
    address. -/
inductive ConfiguredPool : IPPool → Prop
  | new {addressPools : List (Option Prefix)} {topology : String} {pool : IPPool} :
      newIPPool addressPools topology = .ok pool → ConfiguredPool pool
  | setServerIPv4 {pool pool' : IPPool} {address : Addr} : ConfiguredPool pool →
      pool.setServerIPv4 address = .ok pool' → ConfiguredPool pool'
  | setServerIPv6 {pool pool' : IPPool} {address : Addr} : ConfiguredPool pool →
      pool.setServerIPv6 address = .ok pool' → ConfiguredPool pool'

structure PoolState where
  pool : IPPool
  ipv4Leases : List IPv4PoolLease
  ipv6Leases : List IPv6

/-- The empty identity is none. -/
inductive PoolEvent where
  | allocateIPv4 (identity : String)
  | allocateIPv6 (identity : String)
  | release (address : Addr) (now : Time)

def PoolState.step (s : PoolState) : PoolEvent → PoolState
  | .allocateIPv4 identity =>
    match s.pool.allocateIPv4ForIdentity identity with
    | .ok (lease, pool) => { s with pool, ipv4Leases := lease :: s.ipv4Leases }
    | .error _ => s
  | .allocateIPv6 identity =>
    match s.pool.allocateIPv6ForIdentity identity with
    | .ok (address, pool) => { s with pool, ipv6Leases := address :: s.ipv6Leases }
    | .error _ => s
  | .release address now =>
    match address with
    | .v4 value =>
      { s with
        pool := s.pool.release address now
        ipv4Leases := s.ipv4Leases.filter fun lease => lease.client ≠ value }
    | .v6 value =>
      { s with
        pool := s.pool.release address now
        ipv6Leases := s.ipv6Leases.filter (· ≠ value) }

def poolSystem : System PoolState PoolEvent where
  initial s := ConfiguredPool s.pool ∧ s.ipv4Leases = [] ∧ s.ipv6Leases = []
  step s event := some (s.step event)

namespace IPPool

def visitedIPv4 (pool : IPPool) : List IPv4PoolLease :=
  match pool.ipv4 with
  | none => []
  | some config => ipv4Leases pool.ipv4Topology config

def visitedIPv6 (pool : IPPool) : List IPv6 :=
  match pool.ipv6 with
  | none => []
  | some config => ipv6Visited config

end IPPool

structure PoolInvariant (s : PoolState) : Prop where
  fits : ∀ config ∈ s.pool.ipv4, config.Fits s.pool.ipv4Topology
  ipv4 : LeaseInvariant s.pool.ipv4Table (s.pool.visitedIPv4.map IPv4PoolLease.client)
    (s.ipv4Leases.map IPv4PoolLease.client)
  leases : ∀ lease ∈ s.ipv4Leases, lease ∈ s.pool.visitedIPv4
  ipv6 : LeaseInvariant s.pool.ipv6Table s.pool.visitedIPv6 s.ipv6Leases

/-- What is left of a configuration: nothing is in use but the server's IPv6 address. -/
structure FreshPool (pool : IPPool) : Prop where
  fits : ∀ config ∈ pool.ipv4, config.Fits pool.ipv4Topology
  ipv4Table : pool.ipv4Table = .empty
  identity : pool.ipv6Table.identity = ∅
  address : pool.ipv6Table.address = ∅
  used : ∀ address ∈ pool.ipv6Table.usedSet, ∃ config ∈ pool.ipv6, config.server = some address

theorem newIPPool_fresh {addressPools : List (Option Prefix)} {topology : String} {pool : IPPool}
    (h : newIPPool addressPools topology = .ok pool) : FreshPool pool := by
  -- whichever way the IPv4 range is configured, the rest of the pool is the same
  have hrest : ∀ (ipv4Topology : IPv4Topology) (ipv4 : Option IPv4Range) (ipv6 : Option IPv6Range)
      (usedSet : Finset IPv6), (∀ config ∈ ipv4, config.Fits ipv4Topology) →
      (∀ address ∈ usedSet, ipv6.bind IPv6Range.server = some address) →
      FreshPool {
        ipv4Topology, ipv4, ipv6
        ipv4Table := .empty
        ipv6Table := { empty with usedSet } } := by
    intro ipv4Topology ipv4 ipv6 usedSet hfits hused
    refine ⟨hfits, rfl, rfl, rfl, ?_⟩
    intro address haddress
    obtain ⟨config, hconfig, hserver⟩ := Option.bind_eq_some_iff.mp (hused address haddress)
    exact ⟨config, hconfig, hserver⟩
  obtain ⟨ipv4Topology, -, h⟩ := bind_eq_ok.mp h
  split at h
  · cases h
    refine hrest ipv4Topology none _ _ (by simp) ?_
    split <;> simp [*]
  · obtain ⟨ipv4, hipv4, h⟩ := bind_eq_ok.mp h
    obtain ⟨config, hconfigure, rfl⟩ := map_eq_ok.mp hipv4
    cases h
    refine hrest ipv4Topology (some config) _ _ ?_ ?_
    · intro config' hconfig'
      cases hconfig'
      exact configureIPv4_fits hconfigure
    · split <;> simp [*]

theorem ConfiguredPool.fresh {pool : IPPool} (h : ConfiguredPool pool) : FreshPool pool := by
  induction h with
  | new hnew => exact newIPPool_fresh hnew
  | @setServerIPv4 pool pool' address _ hset ih =>
    unfold IPPool.setServerIPv4 at hset
    split at hset
    · next config address hconfig =>
      have hfits := ih.fits config hconfig
      split at hset
      · cases hset
      split at hset
      · cases hset
      split at hset
      · cases hset
      cases hset
      refine ⟨?_, ih.ipv4Table, ih.identity, ih.address, ih.used⟩
      intro config' hconfig'
      cases hconfig'
      exact ⟨hfits.inside, hfits.aligned⟩
    · cases hset
  | @setServerIPv6 pool pool' address _ hset ih =>
    unfold IPPool.setServerIPv6 at hset
    split at hset
    · next config address hconfig =>
      split at hset
      · cases hset
      cases hset
      refine ⟨ih.fits, ih.ipv4Table, ih.identity, ih.address, ?_⟩
      intro used hused
      refine ⟨_, rfl, ?_⟩
      -- the old server address is taken out, and nothing else was in
      rcases Finset.mem_insert.mp hused with rfl | hbefore
      · rfl
      · split at hbefore
        · next hnone =>
          obtain ⟨config', hconfig', hserver⟩ := ih.used used hbefore
          rw [hconfig] at hconfig'
          cases hconfig'
          rw [hnone] at hserver
          cases hserver
        · next server hsome =>
          obtain ⟨hne, hmem⟩ := Finset.mem_erase.mp hbefore
          obtain ⟨config', hconfig', hserver⟩ := ih.used used hmem
          rw [hconfig] at hconfig'
          cases hconfig'
          rw [hsome] at hserver
          exact absurd (Option.some.inj hserver).symm hne
    · cases hset

theorem PoolInvariant.initial {s : PoolState} (h : poolSystem.initial s) : PoolInvariant s := by
  obtain ⟨hpool, hipv4, hipv6⟩ := h
  have hfresh := hpool.fresh
  refine ⟨hfresh.fits, ?_, by simp [hipv4], ?_⟩
  · rw [hipv4, hfresh.ipv4Table]
    refine ⟨⟨?_, ?_⟩, ?_, by simp, nodup_nil, ?_⟩
    · simp [empty]
    · simp [empty]
    · simp [empty]
    · simp [empty]
  · rw [hipv6]
    refine ⟨⟨?_, ?_⟩, ?_, by simp, nodup_nil, ?_⟩
    · simp [hfresh.identity, hfresh.address]
    · simp [hfresh.identity]
    · intro address hvisited
      simp only [not_mem_nil, iff_false]
      intro hused
      obtain ⟨config, hconfig, hserver⟩ := hfresh.used address hused
      rw [visitedIPv6, Option.mem_def.mp hconfig] at hvisited
      exact (mem_ipv6Candidates hvisited).2 hserver.symm
    · simp [hfresh.identity]

namespace PoolInvariant

variable {s : PoolState}

section

variable (h : PoolInvariant s)

include h

theorem allocateIPv4_cases {config : IPv4Range} (hconfig : s.pool.ipv4 = some config)
    (identity : String) :
    (∃ lease ∈ s.pool.visitedIPv4, lease.client ∉ s.pool.ipv4Table.usedSet ∧
      s.pool.allocateIPv4ForIdentity identity =
        .ok (lease, s.pool.commitIPv4Lease lease identity)) ∨
    (s.pool.allocateIPv4ForIdentity identity = .error .exhausted ∧
      ∀ lease ∈ s.pool.visitedIPv4, lease.client ∈ s.pool.ipv4Table.usedSet) := by
  have hvisited : s.pool.visitedIPv4 = ipv4Leases s.pool.ipv4Topology config := by
    rw [visitedIPv4, hconfig]
  have hsticky : ∀ lease, s.pool.previousIPv4Lease config identity = some lease →
      lease ∈ s.pool.visitedIPv4 := by
    intro lease hprevious
    unfold previousIPv4Lease at hprevious
    split at hprevious
    · cases hprevious
    · next previous hlookup =>
      split at hprevious
      · cases hprevious
      · cases hprevious
        obtain ⟨lease, hlease, rfl⟩ := mem_map.mp (h.ipv4.previous hlookup)
        rwa [ipv4Lease_client (by rwa [← hvisited])]
  generalize halloc : s.pool.allocateIPv4ForIdentity identity = answer
  have hanswer := halloc
  unfold allocateIPv4ForIdentity at hanswer
  rw [hconfig] at hanswer
  dsimp only at hanswer
  split at hanswer
  · next lease hfound =>
    subst hanswer
    refine .inl ⟨lease, ?_, (allocateIPv4ForIdentity_ok halloc).1, rfl⟩
    rcases Option.or_eq_some_iff.mp hfound with hprevious | ⟨-, hscan⟩
    · split at hprevious
      · exact hsticky lease hprevious
      · cases hprevious
    · rw [hvisited]
      exact (scanAvailable_eq_some (by simp) hscan).2.resolve_right (by simp)
  · next hnone =>
    refine .inr ⟨hanswer.symm, fun lease hlease => ?_⟩
    rw [hvisited] at hlease
    exact of_decide_eq_true
      (scanAvailable_eq_none.mp (Option.or_eq_none_iff.mp hnone).2 lease hlease)

/-- A full table of identities does not keep a new one out: then every visited address has
    an identity. -/
theorem not_skipped {config : IPv6Range} (hconfig : s.pool.ipv6 = some config) {current : IPv6}
    (hcurrent : current ∈ s.pool.visitedIPv6) (hnone : s.pool.ipv6Table.identityOf current = "") :
    ¬ ipPoolMaximumSize ≤ s.pool.ipv6Table.address.keys.length := by
  have hlookup : s.pool.ipv6Table.identity.lookup current = none := by
    cases hidentity : s.pool.ipv6Table.identity.lookup current with
    | none => rfl
    | some name =>
      rw [identityOf, hidentity, Option.getD_some] at hnone
      rw [hnone] at hidentity
      exact absurd hidentity (h.ipv6.consistent.named current)
  have hlt := h.ipv6.consistent.length_keys_lt h.ipv6.sticky hcurrent hlookup
  have hle : s.pool.visitedIPv6.length ≤ ipPoolMaximumSize := by
    rw [visitedIPv6, hconfig]
    exact length_ipv6Candidates config _ 0 _
  omega

theorem allocateIPv6_cases {config : IPv6Range} (hconfig : s.pool.ipv6 = some config)
    (identity : String) :
    (∃ address ∈ s.pool.visitedIPv6, address ∉ s.pool.ipv6Table.usedSet ∧
      s.pool.allocateIPv6ForIdentity identity =
        .ok (address, s.pool.commitIPv6Address address identity)) ∨
    (s.pool.allocateIPv6ForIdentity identity = .error .exhausted ∧
      ∀ address ∈ s.pool.visitedIPv6, address ∈ s.pool.ipv6Table.usedSet) := by
  have hvisited : s.pool.visitedIPv6 = ipv6Visited config := by
    rw [visitedIPv6, hconfig]
  have hsticky : ∀ address, s.pool.previousIPv6Address config identity = some address →
      address ∈ s.pool.visitedIPv6 := by
    intro address hprevious
    unfold previousIPv6Address at hprevious
    split at hprevious
    · cases hprevious
    · next previous hlookup =>
      split at hprevious
      · cases hprevious
      split at hprevious
      · cases hprevious
      · cases hprevious
        exact h.ipv6.previous hlookup
  generalize halloc : s.pool.allocateIPv6ForIdentity identity = answer
  have hanswer := halloc
  unfold allocateIPv6ForIdentity at hanswer
  rw [hconfig] at hanswer
  dsimp only at hanswer
  split at hanswer
  · next address hfound =>
    subst hanswer
    refine .inl ⟨address, ?_, (allocateIPv6ForIdentity_ok halloc).1, rfl⟩
    rcases Option.or_eq_some_iff.mp hfound with hprevious | ⟨-, hscan⟩
    · split at hprevious
      · exact hsticky address hprevious
      · cases hprevious
    · rw [hvisited]
      exact (scanAvailable_eq_some (by simp) hscan).2.resolve_right (by simp)
  · next hnone =>
    refine .inr ⟨hanswer.symm, fun address haddress => ?_⟩
    have hblocked := scanAvailable_eq_none.mp (Option.or_eq_none_iff.mp hnone).2 address
      (by rwa [hvisited] at haddress)
    simp only [Bool.or_eq_true, Bool.and_eq_true, decide_eq_true_eq, beq_iff_eq] at hblocked
    rcases hblocked with hused | ⟨⟨-, hnone⟩, hfull⟩
    · exact hused
    · exact absurd hfull (h.not_skipped hconfig haddress hnone)

theorem allocateIPv4 (identity : String) : PoolInvariant (s.step (.allocateIPv4 identity)) := by
  unfold PoolState.step
  dsimp only
  cases hconfig : s.pool.ipv4 with
  | none =>
    rw [show s.pool.allocateIPv4ForIdentity identity = .error .notConfigured by
      rw [allocateIPv4ForIdentity, hconfig]]
    exact h
  | some config =>
    rcases h.allocateIPv4_cases hconfig identity with ⟨lease, hlease, hfree, hok⟩ | ⟨herror, -⟩
    · rw [hok]
      refine ⟨h.fits, ?_, ?_, h.ipv6⟩
      · exact h.ipv4.commit (mem_map_of_mem hlease) hfree identity
      · intro other hother
        rcases mem_cons.mp hother with rfl | hmem
        · exact hlease
        · exact h.leases other hmem
    · rw [herror]
      exact h

theorem allocateIPv6 (identity : String) : PoolInvariant (s.step (.allocateIPv6 identity)) := by
  unfold PoolState.step
  dsimp only
  cases hconfig : s.pool.ipv6 with
  | none =>
    rw [show s.pool.allocateIPv6ForIdentity identity = .error .notConfigured by
      rw [allocateIPv6ForIdentity, hconfig]]
    exact h
  | some config =>
    rcases h.allocateIPv6_cases hconfig identity with ⟨address, haddress, hfree, hok⟩ | ⟨herror, -⟩
    · rw [hok]
      exact ⟨h.fits, h.ipv4, h.leases, h.ipv6.commit haddress hfree identity⟩
    · rw [herror]
      exact h

theorem release (address : Addr) (now : Time) : PoolInvariant (s.step (.release address now)) := by
  cases address with
  | v4 value =>
    refine ⟨h.fits, ?_, ?_, h.ipv6⟩
    · have hreleased := h.ipv4.release value now
      rw [filter_map] at hreleased
      exact hreleased
    · intro lease hlease
      exact h.leases lease (mem_filter.mp hlease).1
  | v6 value => exact ⟨h.fits, h.ipv4, h.leases, h.ipv6.release value now⟩

end

theorem reachable (h : Reachable poolSystem s) : PoolInvariant s := by
  refine ReachableBy.invariant h (fun _ hinitial => .initial hinitial) ?_
  intro s event s' hs _ hstep
  cases hstep
  cases event with
  | allocateIPv4 identity => exact hs.allocateIPv4 identity
  | allocateIPv6 identity => exact hs.allocateIPv6 identity
  | release address now => exact hs.release address now

end PoolInvariant

def SameBlock (left right : IPv4) : Prop := left.toNat / 4 = right.toNat / 4

structure PoolSound (s : PoolState) : Prop where
  ipv4_distinct : (s.ipv4Leases.map IPv4PoolLease.client).Nodup
  ipv4_inside : ∀ lease ∈ s.ipv4Leases, ∃ config ∈ s.pool.ipv4,
    config.range.contains lease.client = true ∧ lease.client ≠ config.server
  /-- No address belongs to the blocks of two leases. -/
  blocks_disjoint : s.pool.ipv4Topology = .net30 → s.ipv4Leases.Pairwise fun lease other =>
    ∀ address, ¬ (SameBlock address lease.client ∧ SameBlock address other.client)
  peer_ne : s.pool.ipv4Topology = .net30 → ∀ lease ∈ s.ipv4Leases, ∃ config ∈ s.pool.ipv4,
    ∃ peer, lease.peer = some peer ∧ SameBlock peer lease.client ∧ peer ≠ config.server
  ipv6_distinct : s.ipv6Leases.Nodup
  ipv6_inside : ∀ address ∈ s.ipv6Leases, ∃ config ∈ s.pool.ipv6,
    config.range.contains address = true ∧ some address ≠ config.server
  ipv4_inverse : ∀ address identity, s.pool.ipv4Table.identity.lookup address = some identity ↔
    s.pool.ipv4Table.address.lookup identity = some address
  ipv6_inverse : ∀ address identity, s.pool.ipv6Table.identity.lookup address = some identity ↔
    s.pool.ipv6Table.address.lookup identity = some address
  ipv4_fails : ∀ config ∈ s.pool.ipv4, ∀ identity,
    (∃ err, s.pool.allocateIPv4ForIdentity identity = .error err) ↔
      ∀ lease ∈ IPPool.ipv4Leases s.pool.ipv4Topology config,
        lease.client ∈ s.ipv4Leases.map IPv4PoolLease.client
  ipv6_fails : ∀ config ∈ s.pool.ipv6, ∀ identity,
    (∃ err, s.pool.allocateIPv6ForIdentity identity = .error err) ↔
      ∀ address ∈ IPPool.ipv6Visited config, address ∈ s.ipv6Leases

namespace PoolInvariant

variable {s : PoolState}

theorem goodLease (h : PoolInvariant s) {lease : IPv4PoolLease} (hlease : lease ∈ s.ipv4Leases) :
    ∃ config ∈ s.pool.ipv4, IPPool.GoodLease s.pool.ipv4Topology config lease := by
  have hvisited := h.leases lease hlease
  unfold visitedIPv4 at hvisited
  split at hvisited
  · cases hvisited
  · next config hconfig =>
    exact ⟨config, hconfig, goodLease_of_mem (h.fits config hconfig) hvisited⟩

theorem blocks_disjoint (h : PoolInvariant s) (htopology : s.pool.ipv4Topology = .net30) :
    s.ipv4Leases.Pairwise fun lease other =>
      ∀ address, ¬ (SameBlock address lease.client ∧ SameBlock address other.client) := by
  refine List.Pairwise.imp_of_mem ?_ (pairwise_map.mp h.ipv4.nodup)
  intro lease other hlease hother hne address hboth
  obtain ⟨_, -, hgood⟩ := h.goodLease hlease
  obtain ⟨_, -, hgood'⟩ := h.goodLease hother
  obtain ⟨_, -, -, -, hmod⟩ := hgood.block htopology
  obtain ⟨_, -, -, -, hmod'⟩ := hgood'.block htopology
  have hblock : lease.client.toNat / 4 = other.client.toNat / 4 := hboth.1.symm.trans hboth.2
  exact hne (BitVec.eq_of_toNat_eq (by omega))

theorem ipv4_fails (h : PoolInvariant s) {config : IPv4Range} (hconfig : s.pool.ipv4 = some config)
    (identity : String) : (∃ err, s.pool.allocateIPv4ForIdentity identity = .error err) ↔
      ∀ lease ∈ ipv4Leases s.pool.ipv4Topology config,
        lease.client ∈ s.ipv4Leases.map IPv4PoolLease.client := by
  have hvisited : s.pool.visitedIPv4 = ipv4Leases s.pool.ipv4Topology config := by
    rw [visitedIPv4, hconfig]
  have hused : ∀ lease ∈ s.pool.visitedIPv4, lease.client ∈ s.pool.ipv4Table.usedSet ↔
      lease.client ∈ s.ipv4Leases.map IPv4PoolLease.client := by
    intro lease hlease
    exact h.ipv4.used lease.client (mem_map_of_mem hlease)
  rw [← hvisited]
  rcases h.allocateIPv4_cases hconfig identity with ⟨lease, hlease, hfree, hok⟩ | ⟨herror, hall⟩
  · rw [hok]
    refine ⟨fun herr => (by cases herr.choose_spec), fun hall => ?_⟩
    exact absurd ((hused lease hlease).mpr (hall lease hlease)) hfree
  · exact ⟨fun _ lease hlease => (hused lease hlease).mp (hall lease hlease), fun _ => ⟨_, herror⟩⟩

theorem ipv6_fails (h : PoolInvariant s) {config : IPv6Range} (hconfig : s.pool.ipv6 = some config)
    (identity : String) : (∃ err, s.pool.allocateIPv6ForIdentity identity = .error err) ↔
      ∀ address ∈ ipv6Visited config, address ∈ s.ipv6Leases := by
  have hvisited : s.pool.visitedIPv6 = ipv6Visited config := by
    rw [visitedIPv6, hconfig]
  have hused := h.ipv6.used
  rw [← hvisited]
  rcases h.allocateIPv6_cases hconfig identity with ⟨address, haddress, hfree, hok⟩ | ⟨herror, hall⟩
  · rw [hok]
    refine ⟨fun herr => (by cases herr.choose_spec), fun hall => ?_⟩
    exact absurd ((hused address haddress).mpr (hall address haddress)) hfree
  · exact ⟨fun _ address haddress => (hused address haddress).mp (hall address haddress),
      fun _ => ⟨_, herror⟩⟩

end PoolInvariant

/-- After any history of allocations and releases on any pool that was accepted, with any
    server address set before. -/
theorem address_pool_sound {s : PoolState} (h : Reachable poolSystem s) : PoolSound s := by
  have hs := PoolInvariant.reachable h
  constructor
  case ipv4_distinct => exact hs.ipv4.nodup
  case ipv4_inside =>
    intro lease hlease
    obtain ⟨config, hconfig, hgood⟩ := hs.goodLease hlease
    exact ⟨config, hconfig, hgood.inside, hgood.client_ne⟩
  case blocks_disjoint => exact hs.blocks_disjoint
  case peer_ne =>
    intro htopology lease hlease
    obtain ⟨config, hconfig, hgood⟩ := hs.goodLease hlease
    obtain ⟨peer, hpeer, hne, hsucc, hmod⟩ := hgood.block htopology
    refine ⟨config, hconfig, peer, hpeer, ?_, hne⟩
    unfold SameBlock
    omega
  case ipv6_distinct => exact hs.ipv6.nodup
  case ipv6_inside =>
    intro address haddress
    have hvisited := hs.ipv6.visits address haddress
    unfold IPPool.visitedIPv6 at hvisited
    split at hvisited
    · cases hvisited
    · next config hconfig => exact ⟨config, hconfig, IPPool.mem_ipv6Candidates hvisited⟩
  case ipv4_inverse => exact hs.ipv4.consistent.inverse
  case ipv6_inverse => exact hs.ipv6.consistent.inverse
  case ipv4_fails => exact fun config hconfig => hs.ipv4_fails hconfig
  case ipv6_fails => exact fun config hconfig => hs.ipv6_fails hconfig

/-- In 10.8.0.0/28 one client has come back to its block while another one has a block of its
    own, and a third finds no block left. -/
theorem address_pool_sound_returned :
    ∃ s, Reachable poolSystem s ∧ PoolSound s ∧
      s.ipv4Leases =
        [⟨0x0A080006#32, some 0x0A080005#32⟩, ⟨0x0A08000A#32, some 0x0A080009#32⟩] := by
  let pools : List (Option Prefix) := [some (.v4 ⟨0x0A080000#32, 28, by decide⟩)]
  let events : List PoolEvent := [.allocateIPv4 "left", .allocateIPv4 "right",
    .release (.v4 0x0A080006#32) 1, .allocateIPv4 "left", .allocateIPv4 ""]
  have hrun : ((newIPPool pools "net30").toOption.bind fun pool =>
      runFrom poolSystem (fun _ _ => True) ⟨pool, [], []⟩ events).any (fun s => s.ipv4Leases =
        [⟨0x0A080006#32, some 0x0A080005#32⟩, ⟨0x0A08000A#32, some 0x0A080009#32⟩]) = true := by
    decide +kernel
  obtain ⟨s, hs, hleases⟩ := (Option.any_eq_true _ _).mp hrun
  obtain ⟨pool, hpool, hruns⟩ := Option.bind_eq_some_iff.mp hs
  have hnew : newIPPool pools "net30" = .ok pool := by
    cases hresult : newIPPool pools "net30" with
    | error err =>
      rw [hresult] at hpool
      cases hpool
    | ok pool' =>
      rw [hresult] at hpool
      rw [Option.some.inj hpool]
  have hstart : Reachable poolSystem ⟨pool, [], []⟩ := .start ⟨.new hnew, rfl, rfl⟩
  have hreachable : Reachable poolSystem s := reachableBy_of_runFrom hstart hruns
  exact ⟨s, hreachable, address_pool_sound hreachable, of_decide_eq_true hleases⟩

end SingOpenVPN
