import SingOpenVPN.IPPool

/-!
# What the address pool enumerates (`ip_pool.go`)

The IPv4 scan visits the hosts of the configured range, or the second host of each of its
/30 blocks; the IPv6 scan visits the first addresses of the prefix.  Neither visits the
server's address.  Here is which addresses these are, for every prefix the pool
accepts, and that the scans fail only when nothing they visit is free.
-/

namespace SingOpenVPN

open List

/-! ### Scans -/

theorem scanAvailable_isSome {γ : Type} {identity : String} {blocked : γ → Bool}
    {released : γ → Option Time} {selected : Option γ} (hselected : selected.isSome = true)
    (candidates : List γ) :
    (scanAvailable identity blocked released selected candidates).isSome = true := by
  induction candidates generalizing selected with
  | nil => exact hselected
  | cons candidate candidates ih =>
    rw [scanAvailable]
    split
    · exact ih hselected
    split
    · rfl
    split
    · rfl
    · exact ih rfl

theorem scanAvailable_eq_none {γ : Type} {identity : String} {blocked : γ → Bool}
    {released : γ → Option Time} {candidates : List γ} :
    scanAvailable identity blocked released none candidates = none ↔
      ∀ candidate ∈ candidates, blocked candidate = true := by
  induction candidates with
  | nil => simp [scanAvailable]
  | cons candidate candidates ih =>
    rw [scanAvailable, forall_mem_cons]
    by_cases hblocked : blocked candidate = true
    · rw [if_pos hblocked, ih]
      simp [hblocked]
    · rw [if_neg hblocked]
      have hfound : ∀ found : Option γ, found.isSome = true →
          (found = none ↔ blocked candidate = true ∧
            ∀ other ∈ candidates, blocked other = true) := by
        intro found hsome
        simp [hblocked, Option.ne_none_iff_isSome.mpr hsome]
      split
      · exact hfound _ rfl
      split
      · exact hfound _ rfl
      · exact hfound _ (scanAvailable_isSome rfl candidates)

/-! ### IPv4 -/

/-- The hosts between the bounds belong to the prefix, and the /30 blocks are aligned. -/
structure IPv4Range.Fits (topology : IPv4Topology) (config : IPv4Range) : Prop where
  inside : ∀ address : IPv4, config.start.toNat ≤ address.toNat →
    address.toNat ≤ config.last.toNat → config.range.contains address = true
  aligned : topology = .net30 → config.start.toNat % 4 = 0

variable {range : PrefixOf 32}

theorem PrefixOf.contains_of_between (hbits : 0 < range.bits) {address : IPv4}
    (hlow : range.masked.addr.toNat ≤ address.toNat)
    (hhigh : address.toNat ≤ (lastIPv4InPrefix range).toNat) : range.contains address = true := by
  have hpos := Nat.two_pow_pos (32 - range.bits)
  rw [PrefixOf.toNat_masked] at hlow
  rw [toNat_lastIPv4InPrefix hbits] at hhigh
  rw [PrefixOf.contains_iff]
  refine Nat.div_eq_of_lt_le hlow ?_
  rw [Nat.add_mul]
  omega

theorem PrefixOf.toNat_masked_mod_four (hbits : range.bits ≤ 30) :
    range.masked.addr.toNat % 4 = 0 := by
  have hpow : 2 ^ (32 - range.bits) = 2 ^ (30 - range.bits) * 4 := by
    rw [show 32 - range.bits = 30 - range.bits + 2 by omega, Nat.pow_add]
  rw [PrefixOf.toNat_masked, hpow, ← mul_assoc, Nat.mul_mod_left]

theorem configureIPv4_fits {topology : IPv4Topology} {config : IPv4Range}
    (h : configureIPv4 topology range = .ok config) : config.Fits topology := by
  unfold configureIPv4 at h
  split at h
  · cases h
  next hbits =>
  dsimp only at h
  split at h
  · next start last server hbounds hserver =>
    split at h
    · cases h
    cases h
    have hmod : range.masked.addr.toNat % 4 = 0 := PrefixOf.toNat_masked_mod_four (by omega)
    have hbetween : range.masked.addr.toNat ≤ start.toNat ∧
        last.toNat ≤ (lastIPv4InPrefix range).toNat ∧
          (topology = .net30 → start.toNat % 4 = 0) := by
      cases topology with
      | subnet =>
        obtain ⟨hstart, hlast⟩ := Prod.mk.inj hbounds
        rw [addIPv4_eq_some] at hstart hlast
        refine ⟨by omega, by omega, nofun⟩
      | p2p =>
        obtain ⟨hstart, hlast⟩ := Prod.mk.inj hbounds
        rw [addIPv4_eq_some] at hstart hlast
        refine ⟨by omega, ?_, nofun⟩
        split at hlast <;> omega
      | net30 =>
        obtain ⟨hstart, hlast⟩ := Prod.mk.inj hbounds
        rw [addIPv4_eq_some] at hstart hlast
        refine ⟨by omega, ?_, fun _ => by omega⟩
        split at hlast <;> omega
    obtain ⟨hlow, hhigh, haligned⟩ := hbetween
    have hpositive : 0 < range.bits := by omega
    refine ⟨?_, haligned⟩
    intro address hstart hlast
    exact PrefixOf.contains_of_between hpositive (le_trans hlow hstart)
      (le_trans hlast hhigh)
  · cases h

namespace IPPool

@[simp] theorem hostLeases_none (config : IPv4Range) (peer : Option IPv4) (fuel : Nat) :
    hostLeases config peer fuel none = [] := by
  cases fuel <;> rfl

@[simp] theorem blockLeases_none (config : IPv4Range) (fuel : Nat) :
    blockLeases config fuel none = [] := by
  cases fuel <;> rfl

variable {lease : IPv4PoolLease} {config : IPv4Range} {fuel : Nat}

theorem mem_hostLeases {peer : Option IPv4} {client : IPv4}
    (hfuel : config.last.toNat + 1 - client.toNat ≤ fuel) :
    lease ∈ hostLeases config peer fuel (some client) ↔
      lease.peer = peer ∧ client.toNat ≤ lease.client.toNat ∧
        lease.client.toNat ≤ config.last.toNat ∧ lease.client ≠ config.server := by
  induction fuel generalizing client with
  | zero =>
    simp only [hostLeases, not_mem_nil, false_iff]
    omega
  | succ fuel ih =>
    rw [hostLeases]
    by_cases hlast : config.last < client
    · rw [if_pos hlast]
      rw [BitVec.lt_def] at hlast
      simp only [not_mem_nil, false_iff]
      omega
    rw [if_neg hlast]
    rw [BitVec.lt_def] at hlast
    have hrest : lease ∈ hostLeases config peer fuel (nextAddress client) ↔
        lease.peer = peer ∧ client.toNat < lease.client.toNat ∧
          lease.client.toNat ≤ config.last.toNat ∧ lease.client ≠ config.server := by
      cases hnext : nextAddress client with
      | some next =>
        have htoNat := nextAddress_eq_some.mp hnext
        rw [ih (by omega), htoNat]
        rfl
      | none =>
        have hend := toNat_of_nextAddress_eq_none hnext
        simp only [hostLeases_none, not_mem_nil, false_iff]
        omega
    by_cases hserver : client = config.server
    · rw [if_pos hserver, hrest]
      have hne : lease.client ≠ config.server → lease.client.toNat ≠ client.toNat := by
        intro hne heq
        exact hne (by rw [← hserver]; exact BitVec.eq_of_toNat_eq heq)
      refine ⟨fun h => ⟨h.1, by omega, h.2.2⟩, fun h => ⟨h.1, ?_, h.2.2⟩⟩
      have := hne h.2.2.2
      omega
    · rw [if_neg hserver, mem_cons, hrest]
      constructor
      · rintro (rfl | ⟨hpeer, hlow, hhigh⟩)
        · exact ⟨rfl, le_refl _, by dsimp only; omega, hserver⟩
        · exact ⟨hpeer, by omega, hhigh⟩
      · rintro ⟨hpeer, hlow, hhigh⟩
        by_cases heq : lease.client.toNat = client.toNat
        · left
          obtain ⟨client', peer'⟩ := lease
          rw [show client' = client from BitVec.eq_of_toNat_eq heq, show peer' = peer from hpeer]
        · exact .inr ⟨hpeer, by omega, hhigh⟩

/-- The second address of a block that starts at `first` or a multiple of four behind it, with
    the address before it as the peer. -/
def InBlocks (config : IPv4Range) (first : Nat) (lease : IPv4PoolLease) : Prop :=
  ∃ peer, lease.peer = some peer ∧ peer.toNat + 1 = lease.client.toNat ∧
    first + 2 ≤ lease.client.toNat ∧ lease.client.toNat % 4 = (first + 2) % 4 ∧
    lease.client.toNat ≤ config.last.toNat ∧ peer ≠ config.server ∧ lease.client ≠ config.server

theorem mem_nil_iff_inBlocks {first : Nat} (h : config.last.toNat < first + 2) :
    lease ∈ [] ↔ InBlocks config first lease := by
  refine iff_of_false not_mem_nil ?_
  rintro ⟨peer, -, -, hlow, -, hhigh, -⟩
  omega

theorem mem_blockLeases {block : IPv4} (hfuel : config.last.toNat + 1 - block.toNat ≤ fuel) :
    lease ∈ blockLeases config fuel (some block) ↔ InBlocks config block.toNat lease := by
  induction fuel generalizing block with
  | zero => exact mem_nil_iff_inBlocks (by omega)
  | succ fuel ih =>
    rw [blockLeases]
    by_cases hlast : config.last < block
    · rw [if_pos hlast]
      rw [BitVec.lt_def] at hlast
      exact mem_nil_iff_inBlocks (by omega)
    rw [if_neg hlast]
    have hrest : lease ∈ blockLeases config fuel (addIPv4 block 4) ↔
        InBlocks config (block.toNat + 4) lease := by
      cases hnext : addIPv4 block 4 with
      | some next =>
        have htoNat : next.toNat = block.toNat + 4 := by
          have := addIPv4_eq_some.mp hnext
          omega
        rw [← htoNat]
        exact ih (by omega)
      | none =>
        have hend := addIPv4_eq_none hnext
        rw [blockLeases_none]
        exact mem_nil_iff_inBlocks (by omega)
    cases hpeer : addIPv4 block 1 with
    | none =>
      have hend := addIPv4_eq_none hpeer
      exact mem_nil_iff_inBlocks (by omega)
    | some peer =>
    cases hclient' : addIPv4 block 2 with
    | none =>
      have hend := addIPv4_eq_none hclient'
      exact mem_nil_iff_inBlocks (by omega)
    | some client =>
    rw [addIPv4_eq_some] at hpeer hclient'
    dsimp only
    by_cases hout : config.last < client
    · rw [if_pos hout]
      rw [BitVec.lt_def] at hout
      exact mem_nil_iff_inBlocks (by omega)
    rw [if_neg hout]
    rw [BitVec.lt_def] at hout
    have hlater : InBlocks config (block.toNat + 4) lease → InBlocks config block.toNat lease := by
      rintro ⟨peer', hpeer', hsucc, hlow, hmod, hothers⟩
      exact ⟨peer', hpeer', hsucc, by omega, by omega, hothers⟩
    -- the lease is that of this block or of a later one
    have hhere : InBlocks config block.toNat lease → InBlocks config (block.toNat + 4) lease ∨
        lease = ⟨client, some peer⟩ ∧ peer ≠ config.server ∧ client ≠ config.server := by
      rintro ⟨peer', hpeer', hsucc, hlow, hmod, hhigh, hne, hne'⟩
      by_cases hlow' : block.toNat + 4 + 2 ≤ lease.client.toNat
      · exact .inl ⟨peer', hpeer', hsucc, hlow', by omega, hhigh, hne, hne'⟩
      · have hclient : lease.client = client := BitVec.eq_of_toNat_eq (by omega)
        obtain rfl : peer' = peer := BitVec.eq_of_toNat_eq (by omega)
        obtain ⟨client', other⟩ := lease
        exact .inr ⟨by rw [← hclient, ← hpeer'], hne, hclient ▸ hne'⟩
    by_cases hserver : peer = config.server ∨ client = config.server
    · rw [if_pos hserver, hrest]
      exact ⟨hlater, fun h => (hhere h).resolve_right fun hlease =>
        hserver.elim hlease.2.1 hlease.2.2⟩
    · rw [if_neg hserver, mem_cons, hrest]
      rw [not_or] at hserver
      constructor
      · rintro (rfl | h)
        · exact ⟨peer, rfl, by dsimp only; omega, by dsimp only; omega, by dsimp only; omega,
            by dsimp only; omega, hserver⟩
        · exact hlater h
      · exact fun h => (hhere h).symm.imp_left And.left

structure GoodLease (topology : IPv4Topology) (config : IPv4Range) (lease : IPv4PoolLease) :
    Prop where
  inside : config.range.contains lease.client = true
  client_ne : lease.client ≠ config.server
  /-- Under net30 the client is the second host of its block and the first one the peer. -/
  block : topology = .net30 → ∃ peer, lease.peer = some peer ∧ peer ≠ config.server ∧
    peer.toNat + 1 = lease.client.toNat ∧ lease.client.toNat % 4 = 2

theorem goodLease_of_mem {topology : IPv4Topology} (hfits : config.Fits topology)
    (h : lease ∈ ipv4Leases topology config) : GoodLease topology config lease := by
  cases topology with
  | subnet | p2p =>
    obtain ⟨-, hlow, hhigh, hne⟩ := (mem_hostLeases (le_refl _)).mp h
    exact ⟨hfits.inside lease.client hlow hhigh, hne, nofun⟩
  | net30 =>
    obtain ⟨peer, hpeer, hsucc, hlow, hmod, hhigh, hpeerNe, hne⟩ :=
      (mem_blockLeases (le_refl _)).mp h
    have haligned := hfits.aligned rfl
    refine ⟨hfits.inside lease.client (by omega) hhigh, hne, fun _ => ?_⟩
    exact ⟨peer, hpeer, hpeerNe, hsucc, by omega⟩

/-- The lease made for a sticky address is the enumerated one. -/
theorem ipv4Lease_client {pool : IPPool} (h : lease ∈ ipv4Leases pool.ipv4Topology config) :
    pool.ipv4Lease config lease.client = lease := by
  unfold ipv4Lease
  cases htopology : pool.ipv4Topology with
  | subnet | p2p =>
    rw [htopology] at h
    obtain ⟨hpeer, -⟩ := (mem_hostLeases (le_refl _)).mp h
    exact congrArg (IPv4PoolLease.mk lease.client) hpeer.symm
  | net30 =>
    rw [htopology] at h
    obtain ⟨peer, hpeer, hsucc, -⟩ := (mem_blockLeases (le_refl _)).mp h
    have hprevious := prevAddress_eq_some.mpr hsucc
    exact congrArg (IPv4PoolLease.mk lease.client) (hprevious.trans hpeer.symm)

/-! ### IPv6 -/

variable (config : IPv6Range)

@[simp] theorem ipv6Candidates_none (fuel visited : Nat) :
    ipv6Candidates config fuel visited none = [] := by
  cases fuel <;> rfl

def ipv6Visited (config : IPv6Range) : List IPv6 :=
  ipv6Candidates config (ipPoolMaximumSize + 2) 0 (nextAddress config.range.addr)

theorem mem_ipv6Candidates {config : IPv6Range} {visited : Nat} {current : Option IPv6}
    {address : IPv6} (h : address ∈ ipv6Candidates config fuel visited current) :
    config.range.contains address = true ∧ some address ≠ config.server := by
  induction fuel generalizing visited current with
  | zero => cases h
  | succ fuel ih =>
    cases current with
    | none => cases h
    | some current =>
      rw [ipv6Candidates] at h
      split at h
      · cases h
      · next hgoes =>
        split at h
        · exact ih h
        · next hserver =>
          rcases mem_cons.mp h with rfl | hmem
          · simp only [Bool.or_eq_true, not_or] at hgoes
            exact ⟨by simpa using hgoes.1, hserver⟩
          · exact ih hmem

theorem length_ipv6Candidates (fuel visited : Nat) (current : Option IPv6) :
    (ipv6Candidates config fuel visited current).length ≤ ipPoolMaximumSize - visited := by
  induction fuel generalizing visited current with
  | zero => exact Nat.zero_le _
  | succ fuel ih =>
    cases current with
    | none => exact Nat.zero_le _
    | some current =>
      rw [ipv6Candidates]
      split
      · exact Nat.zero_le _
      · next hgoes =>
        simp only [Bool.or_eq_true, not_or, decide_eq_true_eq] at hgoes
        split
        · exact ih visited _
        · rw [length_cons]
          have := ih (visited + 1) (nextAddress current)
          omega

/-- The loop ends by itself: it counts every address but the server's, which it meets at
    most once. -/
theorem ipv6Candidates_fuel {config : IPv6Range} {visited : Nat} {current : Option IPv6}
    (h : ipPoolMaximumSize - visited + 2 ≤ fuel ∨ ipPoolMaximumSize - visited + 1 ≤ fuel ∧
      ∀ server ∈ config.server, ∀ address ∈ current, server.toNat < address.toNat) :
    ipv6Candidates config (fuel + 1) visited current =
      ipv6Candidates config fuel visited current := by
  induction fuel generalizing visited current with
  | zero => omega
  | succ fuel ih =>
    cases current with
    | none => simp
    | some current =>
      rw [ipv6Candidates, ipv6Candidates]
      by_cases hstops :
        (!config.range.contains current || decide (ipPoolMaximumSize ≤ visited)) = true
      · rw [if_pos hstops, if_pos hstops]
      rw [if_neg hstops, if_neg hstops]
      simp only [Bool.or_eq_true, not_or, decide_eq_true_eq] at hstops
      have hbehind : ∀ server ∈ config.server, server.toNat ≤ current.toNat →
          ∀ address ∈ nextAddress current, server.toNat < address.toNat := by
        intro server _ hle address haddress
        have := nextAddress_eq_some.mp haddress
        omega
      by_cases hserver : some current = config.server
      · rw [if_pos hserver, if_pos hserver]
        refine ih (.inr ⟨?_, ?_⟩)
        · rcases h with hfuel | ⟨-, hpassed⟩
          · omega
          · exact absurd (hpassed current hserver.symm current rfl) (lt_irrefl _)
        · intro server hmem
          obtain rfl : current = server := Option.some.inj (hserver.trans hmem)
          exact hbehind current hmem (le_refl _)
      · rw [if_neg hserver, if_neg hserver]
        refine congrArg _ (ih ?_)
        rcases h with hfuel | ⟨hfuel, hpassed⟩
        · left
          omega
        · right
          refine ⟨by omega, ?_⟩
          intro server hmem
          exact hbehind server hmem (le_of_lt (hpassed server hmem current rfl))

theorem ipv6Visited_eq (more : Nat) :
    ipv6Visited config =
      ipv6Candidates config (ipPoolMaximumSize + 2 + more) 0 (nextAddress config.range.addr) := by
  induction more with
  | zero => rfl
  | succ more ih =>
    rw [ih, ← add_assoc, ipv6Candidates_fuel (.inl (by omega))]

end IPPool

end SingOpenVPN
