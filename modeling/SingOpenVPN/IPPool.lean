import Mathlib.Data.List.AList
import Mathlib.Data.Finset.Basic
import SingOpenVPN.Netip

/-!
# The address pool (`ip_pool.go`)

A server hands its clients addresses of a configured IPv4 prefix, IPv6 prefix or
both.  For each family the pool keeps the addresses in use and, for sticky
identities, which identity last had an address, which address an identity last
had, and when an address was released.  The four maps are an `AddressTable`;
the two families update it in the same way and enumerate their candidates in
different ways.

A family without a configured prefix is `none`.  `p.access` makes every
operation one step.
-/

namespace SingOpenVPN

/-! ### Tables -/

structure AddressTable (α : Type) where
  usedSet : Finset α
  identity : AList (fun _ : α => String)
  address : AList (fun _ : String => α)
  released : AList (fun _ : α => Time)

namespace AddressTable

variable {α : Type}

def empty : AddressTable α :=
  { usedSet := ∅, identity := ∅, address := ∅, released := ∅ }

variable [DecidableEq α] (table : AddressTable α)

/-- `ipv4Identity[address]`, where `""` stands for no identity. -/
def identityOf (address : α) : String :=
  (table.identity.lookup address).getD ""

/-- Forget the identity an address was last given to, when it is another one. -/
def evictIdentity (address : α) (identity : String) : AddressTable α :=
  let previousIdentity := table.identityOf address
  if previousIdentity ≠ "" ∧ previousIdentity ≠ identity ∧
      table.address.lookup previousIdentity = some address then
    { table with address := table.address.erase previousIdentity }
  else table

/-- Forget the address an identity last had, when it is another one. -/
def evictAddress (address : α) (identity : String) : AddressTable α :=
  match table.address.lookup identity with
  | none => table
  | some previousAddress =>
    if previousAddress = address then table
    else { table with
      identity := table.identity.erase previousAddress
      released := table.released.erase previousAddress }

/-- `commitIPv4Lease` and `commitIPv6Address` -/
def commit (address : α) (identity : String) : AddressTable α :=
  let taken := { table with
    usedSet := insert address table.usedSet
    released := table.released.erase address }
  let evicted := taken.evictIdentity address identity
  if identity ≠ "" then
    let cleared := evicted.evictAddress address identity
    { cleared with
      identity := cleared.identity.insert address identity
      address := cleared.address.insert identity address }
  else { evicted with identity := evicted.identity.erase address }

/-- `Release`, for an address of the family. -/
def release (address : α) (now : Time) : AddressTable α :=
  { table with
    usedSet := table.usedSet.erase address
    released :=
      if table.identityOf address ≠ "" then table.released.insert address now
      else table.released.erase address }

section

variable (table : AddressTable α) (address : α) (identity : String)

@[simp] theorem usedSet_evictIdentity :
    (table.evictIdentity address identity).usedSet = table.usedSet := by
  unfold evictIdentity
  dsimp only
  split <;> rfl

@[simp] theorem usedSet_evictAddress :
    (table.evictAddress address identity).usedSet = table.usedSet := by
  unfold evictAddress
  split
  · rfl
  · split <;> rfl

@[simp] theorem usedSet_commit :
    (table.commit address identity).usedSet = insert address table.usedSet := by
  unfold commit
  split <;> simp

@[simp] theorem usedSet_release (now : Time) :
    (table.release address now).usedSet = table.usedSet.erase address := rfl

end

end AddressTable

/-- `time.Time.Before`, where the zero time is before every instant. -/
def releasedBefore : Option Time → Option Time → Bool
  | none, none => false
  | none, some _ => true
  | some _, none => false
  | some released, some selected => released < selected

def earlierReleased {γ : Type} (released : γ → Option Time) (candidate : γ) : Option γ → γ
  | none => candidate
  | some best =>
    if releasedBefore (released candidate) (released best) then candidate else best

theorem earlierReleased_cases {γ : Type} (released : γ → Option Time) (candidate : γ)
    (selected : Option γ) : earlierReleased released candidate selected = candidate ∨
      earlierReleased released candidate selected ∈ selected := by
  cases selected with
  | none => exact .inl rfl
  | some best =>
    rw [earlierReleased]
    split
    · exact .inl rfl
    · exact .inr rfl

/-- The scan of `findAvailableIPv4Lease` and `findAvailableIPv6Address` over
their candidates.  Without an identity it stops at the first one that is not
blocked; otherwise it prefers the earliest release and stops at an address that
was never released. -/
def scanAvailable {γ : Type} (identity : String) (blocked : γ → Bool)
    (released : γ → Option Time) : Option γ → List γ → Option γ
  | selected, [] => selected
  | selected, candidate :: candidates =>
    if blocked candidate then scanAvailable identity blocked released selected candidates
    else if identity = "" then some candidate
    else
      let selected' := earlierReleased released candidate selected
      if released candidate = none then some selected'
      else scanAvailable identity blocked released (some selected') candidates

theorem scanAvailable_eq_some {γ : Type} {identity : String} {blocked : γ → Bool}
    {released : γ → Option Time} {selected : Option γ} {candidates : List γ} {found : γ}
    (hselected : ∀ best ∈ selected, blocked best = false)
    (hfound : scanAvailable identity blocked released selected candidates = some found) :
    blocked found = false ∧ (found ∈ candidates ∨ found ∈ selected) := by
  induction candidates generalizing selected with
  | nil => exact ⟨hselected found hfound, .inr hfound⟩
  | cons candidate candidates ih =>
    rw [scanAvailable] at hfound
    split at hfound
    · obtain ⟨hfree, hmem⟩ := ih hselected hfound
      exact ⟨hfree, hmem.imp_left (List.mem_cons_of_mem _)⟩
    · rename_i hblocked
      rw [Bool.not_eq_true] at hblocked
      split at hfound
      · cases hfound
        exact ⟨hblocked, .inl List.mem_cons_self⟩
      · -- the candidate kept is the new one or the one selected before
        have hbest : ∀ best, best = candidate ∨ best ∈ selected → blocked best = false ∧
            (best ∈ candidate :: candidates ∨ best ∈ selected) := by
          rintro best (rfl | hbest)
          · exact ⟨hblocked, .inl List.mem_cons_self⟩
          · exact ⟨hselected best hbest, .inr hbest⟩
        have hkept := hbest _ (earlierReleased_cases released candidate selected)
        split at hfound
        · cases hfound
          exact hkept
        · obtain ⟨hfree, hmem⟩ := ih (by simpa using hkept.1) hfound
          refine ⟨hfree, ?_⟩
          rcases hmem with hmem | hmem
          · exact .inl (List.mem_cons_of_mem _ hmem)
          · cases hmem
            exact hkept.2

/-! ### The pool -/

inductive IPv4Topology where
  | subnet
  | p2p
  | net30
deriving DecidableEq, Repr

inductive IPPoolError where
  /-- unsupported IPv4 topology -/
  | unsupportedTopology (topology : String)
  /-- IPv4 address pool must be between /16 and /29 -/
  | ipv4PrefixLength (bits : Nat)
  /-- IPv4 address pool has no allocatable addresses -/
  | noAllocatableAddresses
  /-- server address is outside pool -/
  | serverOutsidePool
  /-- server IPv4 address is not a usable host in pool -/
  | serverNotUsableHost
  /-- cannot change server IPv4 address after allocating client addresses -/
  | serverAfterAllocation
  /-- ipv4 pool not configured, ipv6 pool not configured -/
  | notConfigured
  /-- `ErrIPPoolExhausted` -/
  | exhausted
deriving DecidableEq, Repr

/-- A client address with the other end of its link, if the topology has one. -/
structure IPv4PoolLease where
  client : IPv4
  peer : Option IPv4
deriving DecidableEq, Repr

/-- `ipv4Prefix`, `ipv4Server`, `ipv4Start` and `ipv4End` of a configured pool. -/
structure IPv4Range where
  range : PrefixOf 32
  server : IPv4
  start : IPv4
  last : IPv4

/-- `ipv6Prefix` and `ipv6Server`; the server address is not valid when the
prefix is the last address alone. -/
structure IPv6Range where
  range : PrefixOf 128
  server : Option IPv6

structure IPPool where
  ipv4Topology : IPv4Topology
  ipv4 : Option IPv4Range
  ipv4Table : AddressTable IPv4
  ipv6 : Option IPv6Range
  ipv6Table : AddressTable IPv6

def ipPoolMaximumSize : Nat := 65536

def resolveIPv4PoolTopology (topology : String) : Except IPPoolError IPv4Topology :=
  if topology = "" then .ok .net30
  else if topology = "subnet" then .ok .subnet
  else if topology = "p2p" then .ok .p2p
  else if topology = "net30" then .ok .net30
  else .error (.unsupportedTopology topology)

def configureIPv4 (topology : IPv4Topology) (range : PrefixOf 32) :
    Except IPPoolError IPv4Range :=
  if range.bits < 16 ∨ range.bits > 29 then .error (.ipv4PrefixLength range.bits)
  else
    let network := range.masked.addr
    let broadcast := lastIPv4InPrefix range
    let bounds := match topology with
      | .subnet => (addIPv4 network 2, addIPv4 broadcast (-1))
      | .p2p | .net30 =>
        -- the first /30 is the server's, the last four addresses are reserved
        let poolEndReserve := if range.bits = 29 then 0 else 4
        (addIPv4 network 4, addIPv4 broadcast (-poolEndReserve))
    match bounds, nextAddress network with
    | (some start, some last), some server =>
      if last < start then .error .noAllocatableAddresses
      else .ok { range, server, start, last }
    | _, _ => .error .noAllocatableAddresses

def firstIPv4Prefix (addressPools : List (Option Prefix)) : Option (PrefixOf 32) :=
  addressPools.findSome? fun
    | some (.v4 range) => some range
    | _ => none

def firstIPv6Prefix (addressPools : List (Option Prefix)) : Option (PrefixOf 128) :=
  addressPools.findSome? fun
    | some (.v6 range) => some range
    | _ => none

def newIPPool (addressPools : List (Option Prefix)) (topology : String) :
    Except IPPoolError IPPool := do
  let ipv4Topology ← resolveIPv4PoolTopology topology
  let ipv4 ← match firstIPv4Prefix addressPools with
    | none => pure none
    | some range => some <$> configureIPv4 ipv4Topology range.masked
  let ipv6 := (firstIPv6Prefix addressPools).map fun range =>
    { range := range.masked, server := nextAddress range.masked.addr : IPv6Range }
  let ipv6UsedSet := match ipv6.bind IPv6Range.server with
    | none => ∅
    | some server => {server}
  return {
    ipv4Topology, ipv4, ipv6
    ipv4Table := .empty
    ipv6Table := { AddressTable.empty with usedSet := ipv6UsedSet } }

variable (pool : IPPool)

namespace IPPool

def setServerIPv4 (address : Addr) : Except IPPoolError IPPool :=
  match pool.ipv4, address with
  | some config, .v4 address =>
    if !config.range.contains address then .error .serverOutsidePool
    else if address = config.range.masked.addr ∨ address = lastIPv4InPrefix config.range then
      .error .serverNotUsableHost
    else if pool.ipv4Table.usedSet ≠ ∅ then .error .serverAfterAllocation
    else .ok { pool with ipv4 := some { config with server := address } }
  | _, _ => .error .serverOutsidePool

def setServerIPv6 (address : Addr) : Except IPPoolError IPPool :=
  match pool.ipv6, address with
  | some config, .v6 address =>
    if !config.range.contains address then .error .serverOutsidePool
    else
      let freed := match config.server with
        | none => pool.ipv6Table.usedSet
        | some server => pool.ipv6Table.usedSet.erase server
      .ok { pool with
        ipv6 := some { config with server := some address }
        ipv6Table := { pool.ipv6Table with usedSet := insert address freed } }
  | _, _ => .error .serverOutsidePool

end IPPool

/-- The tunnel options of a server that its data plane is prepared from. -/
structure ServerTunnelOptions where
  addressPools : List (Option Prefix)
  topology : String
  localAddress : List (Option Prefix)

/-- `prepareServerDataPlane` of a TLS server: the pool, if one is configured. -/
def prepareServerDataPlane (options : ServerTunnelOptions) :
    Except IPPoolError (Option IPPool) := do
  let pool ← newIPPool options.addressPools options.topology
  if pool.ipv4.isNone && pool.ipv6.isNone then .ok none
  else do
    let pool ← match pool.ipv4, firstIPv4Prefix options.localAddress with
      | some _, some range => pool.setServerIPv4 (.v4 range.addr)
      | _, _ => .ok pool
    let pool ← match pool.ipv6, firstIPv6Prefix options.localAddress with
      | some _, some range => pool.setServerIPv6 (.v6 range.addr)
      | _, _ => .ok pool
    .ok (some pool)

namespace IPPool

def hostLeases (config : IPv4Range) (peer : Option IPv4) : Nat → Option IPv4 → List IPv4PoolLease
  | 0, _ => []
  | _, none => []
  | fuel + 1, some client =>
    if config.last < client then []
    else if client = config.server then hostLeases config peer fuel (nextAddress client)
    else { client, peer } :: hostLeases config peer fuel (nextAddress client)

/-- The two hosts of each /30 block from `block` on, the second for the client. -/
def blockLeases (config : IPv4Range) : Nat → Option IPv4 → List IPv4PoolLease
  | 0, _ => []
  | _, none => []
  | fuel + 1, some block =>
    if config.last < block then []
    else match addIPv4 block 1, addIPv4 block 2 with
      | some peer, some client =>
        if config.last < client then []
        else if peer = config.server ∨ client = config.server then
          blockLeases config fuel (addIPv4 block 4)
        else { client, peer := some peer } :: blockLeases config fuel (addIPv4 block 4)
      | _, _ => []

/-- The leases `visitIPv4Leases` passes to its visitor, in order. -/
def ipv4Leases (topology : IPv4Topology) (config : IPv4Range) : List IPv4PoolLease :=
  let count := config.last.toNat + 1 - config.start.toNat
  match topology with
  | .subnet => hostLeases config none count (some config.start)
  | .p2p => hostLeases config (some config.server) count (some config.start)
  | .net30 => blockLeases config count (some config.start)

def ipv4Lease (config : IPv4Range) (address : IPv4) : IPv4PoolLease :=
  match pool.ipv4Topology with
  | .subnet => { client := address, peer := none }
  | .p2p => { client := address, peer := some config.server }
  | .net30 => { client := address, peer := prevAddress address }

/-- `findAvailableIPv4Lease` with `requireIdentity` -/
def previousIPv4Lease (config : IPv4Range) (identity : String) :
    Option IPv4PoolLease :=
  match pool.ipv4Table.address.lookup identity with
  | none => none
  | some previous =>
    if previous ∈ pool.ipv4Table.usedSet then none else some (pool.ipv4Lease config previous)

/-- `findAvailableIPv4Lease` without `requireIdentity` -/
def findAvailableIPv4Lease (config : IPv4Range) (identity : String) :
    Option IPv4PoolLease :=
  scanAvailable identity (fun candidate => decide (candidate.client ∈ pool.ipv4Table.usedSet))
    (fun candidate => pool.ipv4Table.released.lookup candidate.client) none
    (ipv4Leases pool.ipv4Topology config)

def commitIPv4Lease (lease : IPv4PoolLease) (identity : String) : IPPool :=
  { pool with ipv4Table := pool.ipv4Table.commit lease.client identity }

def allocateIPv4ForIdentity (identity : String) :
    Except IPPoolError (IPv4PoolLease × IPPool) :=
  match pool.ipv4 with
  | none => .error .notConfigured
  | some config =>
    let previous := if identity ≠ "" then pool.previousIPv4Lease config identity else none
    match previous.or (pool.findAvailableIPv4Lease config identity) with
    | some lease => .ok (lease, pool.commitIPv4Lease lease identity)
    | none => .error .exhausted

/-- The addresses the IPv6 scan visits: at most `ipPoolMaximumSize` addresses of
the prefix after its first one, without the server's. -/
def ipv6Candidates (config : IPv6Range) : Nat → Nat → Option IPv6 → List IPv6
  | 0, _, _ => []
  | _, _, none => []
  | fuel + 1, visited, some current =>
    if !config.range.contains current || ipPoolMaximumSize ≤ visited then []
    else if some current = config.server then
      ipv6Candidates config fuel visited (nextAddress current)
    else current :: ipv6Candidates config fuel (visited + 1) (nextAddress current)

/-- `findAvailableIPv6Address` with `requireIdentity` -/
def previousIPv6Address (config : IPv6Range) (identity : String) : Option IPv6 :=
  match pool.ipv6Table.address.lookup identity with
  | none => none
  | some previous =>
    if !config.range.contains previous ∨ some previous = config.server then none
    else if previous ∈ pool.ipv6Table.usedSet then none
    else some previous

/-- `findAvailableIPv6Address` without `requireIdentity`.  A full table of
identities keeps a new identity off the addresses that have none. -/
def findAvailableIPv6Address (config : IPv6Range) (identity : String) :
    Option IPv6 :=
  scanAvailable identity
    (fun current => decide (current ∈ pool.ipv6Table.usedSet) ||
      (identity != "" && pool.ipv6Table.identityOf current == "" &&
        decide (ipPoolMaximumSize ≤ pool.ipv6Table.address.keys.length)))
    (fun current => pool.ipv6Table.released.lookup current) none
    -- the server's address is skipped without being counted
    (ipv6Candidates config (ipPoolMaximumSize + 2) 0 (nextAddress config.range.addr))

def commitIPv6Address (address : IPv6) (identity : String) : IPPool :=
  { pool with ipv6Table := pool.ipv6Table.commit address identity }

def allocateIPv6ForIdentity (identity : String) :
    Except IPPoolError (IPv6 × IPPool) :=
  match pool.ipv6 with
  | none => .error .notConfigured
  | some config =>
    let previous := if identity ≠ "" then pool.previousIPv6Address config identity else none
    match previous.or (pool.findAvailableIPv6Address config identity) with
    | some address => .ok (address, pool.commitIPv6Address address identity)
    | none => .error .exhausted

def release (address : Addr) (now : Time) : IPPool :=
  match address with
  | .v4 address => { pool with ipv4Table := pool.ipv4Table.release address now }
  | .v6 address => { pool with ipv6Table := pool.ipv6Table.release address now }

/-! ### Which addresses are in use -/

def InUse : Addr → Prop
  | .v4 address => address ∈ pool.ipv4Table.usedSet
  | .v6 address => address ∈ pool.ipv6Table.usedSet

instance (pool : IPPool) (address : Addr) : Decidable (pool.InUse address) :=
  match address with
  | .v4 address => inferInstanceAs (Decidable (address ∈ pool.ipv4Table.usedSet))
  | .v6 address => inferInstanceAs (Decidable (address ∈ pool.ipv6Table.usedSet))

variable {pool pool' : IPPool} {identity : String} {address : Addr} {lease : IPv4PoolLease}

@[simp] theorem inUse_commitIPv4Lease :
    (pool.commitIPv4Lease lease identity).InUse address ↔
      address = .v4 lease.client ∨ pool.InUse address := by
  cases address <;> simp [InUse, commitIPv4Lease]

@[simp] theorem inUse_commitIPv6Address {value : IPv6} :
    (pool.commitIPv6Address value identity).InUse address ↔
      address = .v6 value ∨ pool.InUse address := by
  cases address <;> simp [InUse, commitIPv6Address]

@[simp] theorem inUse_release {released : Addr} {now : Time} :
    (pool.release released now).InUse address ↔ address ≠ released ∧ pool.InUse address := by
  cases released <;> cases address <;> simp [InUse, release]

theorem previousIPv4Lease_free {config : IPv4Range}
    (h : pool.previousIPv4Lease config identity = some lease) :
    lease.client ∉ pool.ipv4Table.usedSet := by
  unfold previousIPv4Lease at h
  split at h
  · cases h
  · rename_i previous _
    split at h
    · cases h
    · rename_i hfree
      cases h
      unfold ipv4Lease
      split <;> exact hfree

theorem previousIPv6Address_free {config : IPv6Range} {address : IPv6}
    (h : pool.previousIPv6Address config identity = some address) :
    address ∉ pool.ipv6Table.usedSet := by
  unfold previousIPv6Address at h
  split at h
  · cases h
  · split at h
    · cases h
    · split at h
      · cases h
      · rename_i hfree
        cases h
        exact hfree

/-- A new IPv4 lease is of an address nobody had, and the rest of the pool stays
as it was. -/
theorem allocateIPv4ForIdentity_ok
    (h : pool.allocateIPv4ForIdentity identity = .ok (lease, pool')) :
    ¬ pool.InUse (.v4 lease.client) ∧ pool' = pool.commitIPv4Lease lease identity := by
  unfold allocateIPv4ForIdentity at h
  split at h
  · cases h
  · rename_i config _
    dsimp only at h
    split at h
    · rename_i lease' hfound
      cases h
      refine ⟨?_, rfl⟩
      rcases Option.or_eq_some_iff.mp hfound with hprevious | ⟨-, hscan⟩
      · split at hprevious
        · exact previousIPv4Lease_free hprevious
        · cases hprevious
      · simpa [InUse] using (scanAvailable_eq_some (by simp) hscan).1
    · cases h

/-- A new IPv6 address is one nobody had, and the rest of the pool stays as it
was. -/
theorem allocateIPv6ForIdentity_ok {address : IPv6}
    (h : pool.allocateIPv6ForIdentity identity = .ok (address, pool')) :
    ¬ pool.InUse (.v6 address) ∧ pool' = pool.commitIPv6Address address identity := by
  unfold allocateIPv6ForIdentity at h
  split at h
  · cases h
  · rename_i config _
    dsimp only at h
    split at h
    · rename_i address' hfound
      cases h
      refine ⟨?_, rfl⟩
      rcases Option.or_eq_some_iff.mp hfound with hprevious | ⟨-, hscan⟩
      · split at hprevious
        · exact previousIPv6Address_free hprevious
        · cases hprevious
      · have hfree := (scanAvailable_eq_some (by simp) hscan).1
        simp only [Bool.or_eq_false_iff, decide_eq_false_iff_not] at hfree
        exact hfree.1
    · cases h

end IPPool

end SingOpenVPN
