import SingOpenVPN.ControlChannel

/-!
# The link reader and retired key states (`control_channel.go`, `control_stream.go`)

One goroutine reads the link.  It hands a control packet to the channel of the packet's key
id and, when payloads have become deliverable, puts them into that channel's `readChunks`,
which holds 32.  Somebody reads the TLS object of the primary key state and of those still
being negotiated, but "never reads the retired key state's plaintext_read_buf again": once a
newer key state is primary, what arrives for an older one stays in its `readChunks`.

The reader waits while `readChunks` is full, and with it every key state of the session
(`link_reader_blocked`).
-/

namespace SingOpenVPN

open TransitionSystem

/-- Where the goroutine stands: it reads the link, or pushes payloads into a channel. -/
inductive LinkReaderPhase where
  | reading
  | pushing (channel : Nat) (chunks : List Bytes)
  | stopped
deriving DecidableEq

/-- The channels of a session in the order of their key states, the first being that of key
    id zero; `routes` is `renegotiationChannels`. -/
structure LinkReader where
  channels : List ControlChannel
  routes : List (UInt8 × Nat)
  primary : Nat
  phase : LinkReaderPhase
deriving DecidableEq

inductive LinkReaderEvent where
  /-- a control packet is read from the link -/
  | arrive (packet : Packet)
  /-- the reader goes on with what it is doing -/
  | proceed
  /-- the reader notices that the channel it pushes into was closed -/
  | abandon
  /-- somebody takes a chunk of a channel -/
  | consume (channel : Nat)
  /-- a soft reset creates a key state -/
  | register (keyID : UInt8) (channel : ControlChannel)
  | unregister (keyID : UInt8)
  /-- a key state becomes primary -/
  | promote (channel : Nat)
  | close (channel : Nat)
deriving DecidableEq

namespace LinkReader

variable (s : LinkReader)

/-- `routeToRenegotiationChannel`, or the channel of the session itself. -/
def route (packet : Packet) : Nat :=
  if packet.keyID = 0 then 0 else (s.routes.lookup packet.keyID).getD 0

/-- `processIncomingControlPacket` up to its loop: the channel afterwards and the payloads it
    puts into `readChunks`. -/
def process (c : ControlChannel) (packet : Packet) : ControlChannel × List Bytes :=
  match c.admitControlPacket packet with
  | .dropped | .softReset => (c, [])
  | .recorded outgoing => ({ c with outgoing := outgoing }, [])
  | .inserting outgoing =>
    match c.incoming.tryInsertIncomingPacket packet with
    | (false, incoming) => ({ c with outgoing := outgoing, incoming := incoming }, [])
    | (true, incoming) =>
      let (orderedPackets, incoming) := incoming.nextOrderedSequence
      ({ c with outgoing := outgoing, incoming := incoming },
        (orderedPackets.map Packet.payload).filter (0 < ·.length))

def arrive (packet : Packet) : Option LinkReader :=
  match s.phase, s.channels[s.route packet]? with
  | .reading, some c =>
    let (c, chunks) := process c packet
    some { s with
      channels := s.channels.set (s.route packet) c
      phase := .pushing (s.route packet) chunks }
  | _, _ => none

/-- The channel was closed, which ends the loop; the result of a routed call is ignored, that
    of the session's own ends the reader. -/
def abandon (target : Nat) : LinkReader :=
  { s with phase := if target = 0 then .stopped else .reading }

/-- The next step of the reader, `none` while it waits. -/
def proceed : Option LinkReader :=
  match s.phase with
  | .pushing _ [] => some { s with phase := .reading }
  | .pushing target (chunk :: chunks) =>
    match s.channels[target]? with
    | none => none
    | some c =>
      if c.readChunks.length < readChunksCapacity then
        some { s with
          channels := s.channels.set target { c with readChunks := c.readChunks ++ [chunk] }
          phase := .pushing target chunks }
      else if c.closed then some (s.abandon target)
      else none
  | _ => none

def modify (target : Nat) (change : ControlChannel → ControlChannel) : LinkReader :=
  { s with channels := s.channels.modify target change }

def step : LinkReaderEvent → Option LinkReader
  | .arrive packet => s.arrive packet
  | .proceed => s.proceed
  | .abandon =>
    match s.phase with
    | .pushing target (_ :: _) =>
      if s.channels[target]?.any ControlChannel.closed then some (s.abandon target) else none
    | _ => none
  | .consume target => some (s.modify target fun c => { c with readChunks := c.readChunks.tail })
  | .register keyID c => some { s with
      channels := s.channels ++ [c]
      routes := (keyID, s.channels.length) :: s.routes }
  | .unregister keyID => some { s with routes := s.routes.filter (·.1 ≠ keyID) }
  | .promote target => some { s with primary := max s.primary target }
  | .close target => some (s.modify target fun c => { c with closed := true })

end LinkReader

def linkReaderSystem : System LinkReader LinkReaderEvent where
  initial s := ∃ c : ControlChannel, s = ⟨[c], [], 0, .reading⟩
  step := LinkReader.step

namespace LinkReader

/-- The reader does not wait for somebody to read the plaintext of an older key state. -/
def FreeOfOlder (s : LinkReader) : Prop :=
  ∀ target chunks, s.phase = .pushing target chunks → target < s.primary → s.proceed ≠ none

/-- `readChunks` has room for the payloads, or the channel is closed. -/
def Takes (s : LinkReader) (target : Nat) (chunks : List Bytes) : Prop :=
  ∃ c ∈ s.channels[target]?, chunks = [] ∨ c.closed = true ∨
    c.readChunks.length + chunks.length ≤ readChunksCapacity

/-- What the reader has in hand for a key state older than `primary` finds room. -/
def HandFits (s : LinkReader) (primary : Nat) : Prop :=
  match s.phase with
  | .pushing target chunks => target < primary → s.Takes target chunks
  | _ => True

/-- The peer sends an older key state no more control packets than its `readChunks` has room
    for, together with those that wait for earlier ones; and when a newer key state becomes
    primary, there is room for what the reader has in hand. -/
def RoomForOlder (s : LinkReader) : LinkReaderEvent → Prop
  | .arrive packet => packet.opcode ≠ .acknowledgmentV1 → s.route packet < s.primary →
      ∀ c ∈ s.channels[s.route packet]?, c.closed = true ∨
        c.readChunks.length + c.incoming.pendingPackets.length < readChunksCapacity
  | .promote newer => s.HandFits newer
  | _ => True

instance (s : LinkReader) (target : Nat) (chunks : List Bytes) :
    Decidable (s.Takes target chunks) := by
  unfold Takes
  infer_instance

instance (s : LinkReader) (primary : Nat) : Decidable (s.HandFits primary) := by
  unfold HandFits
  split <;> infer_instance

instance (s : LinkReader) (event : LinkReaderEvent) : Decidable (s.RoomForOlder event) := by
  unfold RoomForOlder
  split <;> infer_instance

variable {s s' : LinkReader}

theorem freeOfOlder_of_handFits (h : s.HandFits s.primary) : s.FreeOfOlder := by
  intro target chunks hphase holder
  rw [HandFits, hphase] at h
  obtain ⟨c, hc, htakes⟩ := h holder
  rw [proceed, hphase]
  cases chunks with
  | nil => simp
  | cons chunk chunks =>
    rw [Option.mem_def] at hc
    simp only [hc]
    by_cases hroom : c.readChunks.length < readChunksCapacity
    · simp [hroom]
    · have hclosed : c.closed = true := by
        refine (htakes.resolve_left (List.cons_ne_nil _ _)).resolve_right fun hlength => ?_
        simp only [List.length_cons] at hlength
        omega
      simp [hroom, hclosed]

/-- A change of channels after which the reader's own still takes what it has in hand. -/
theorem Takes.modify {target : Nat} {chunks : List Bytes} (h : s.Takes target chunks) (other : Nat)
    {change : ControlChannel → ControlChannel}
    (hclosed : ∀ c, c.closed = true → (change c).closed = true)
    (hlength : ∀ c, (change c).readChunks.length ≤ c.readChunks.length) :
    (s.modify other change).Takes target chunks := by
  obtain ⟨c, hc, htakes⟩ := h
  rw [Option.mem_def] at hc
  by_cases hsame : other = target
  · refine ⟨change c, by simp [LinkReader.modify, hsame, hc], ?_⟩
    rcases htakes with hnone | htrue | hroom
    · exact .inl hnone
    · exact .inr (.inl (hclosed c htrue))
    · have hle := hlength c
      exact .inr (.inr (by omega))
  · exact ⟨c, by simp [LinkReader.modify, hsame, hc], htakes⟩

/-- A step after which the reader has the same in hand. -/
theorem HandFits.of_takes {primary : Nat} (h : s.HandFits primary) (hphase : s'.phase = s.phase)
    (htakes : ∀ target chunks, s.Takes target chunks → s'.Takes target chunks) :
    s'.HandFits primary := by
  rw [HandFits] at h ⊢
  rw [hphase]
  cases hcurrent : s.phase with
  | reading => trivial
  | stopped => trivial
  | pushing target chunks =>
    rw [hcurrent] at h
    exact fun holder => htakes target chunks (h holder)

theorem handFits_abandon (s : LinkReader) (target primary : Nat) :
    (s.abandon target).HandFits primary := by
  rw [HandFits, abandon]
  split_ifs <;> trivial

theorem HandFits.proceed {primary : Nat} (h : s.HandFits primary) (hstep : s.proceed = some s') :
    s'.HandFits primary := by
  rw [LinkReader.proceed] at hstep
  rw [HandFits] at h
  cases hphase : s.phase with
  | reading | stopped =>
    rw [hphase] at hstep
    cases hstep
  | pushing target chunks =>
    rw [hphase] at hstep h
    cases chunks with
    | nil =>
      cases hstep
      trivial
    | cons chunk chunks =>
      cases hc : s.channels[target]? with
      | none =>
        simp only [hc] at hstep
        cases hstep
      | some c =>
        simp only [hc] at hstep
        split_ifs at hstep with hroom
        · cases hstep
          intro holder
          obtain ⟨c', hc', htakes⟩ := h holder
          rw [hc, Option.mem_some_iff] at hc'
          subst hc'
          have hlt := (List.getElem?_eq_some_iff.mp hc).1
          refine ⟨{ c with readChunks := c.readChunks ++ [chunk] }, by simp [hlt], .inr
            ((htakes.resolve_left (List.cons_ne_nil _ _)).imp_right fun hlength => ?_)⟩
          simp only [List.length_append, List.length_cons, List.length_nil] at hlength ⊢
          omega
        · cases hstep
          exact handFits_abandon s target primary

/-- A packet makes at most itself and those that wait for it deliverable. -/
theorem process_spec (c : ControlChannel) (packet : Packet) :
    (process c packet).1.closed = c.closed ∧ (process c packet).1.readChunks = c.readChunks ∧
      (packet.opcode = .acknowledgmentV1 → (process c packet).2 = []) ∧
      (process c packet).2.length ≤ c.incoming.pendingPackets.length + 1 := by
  unfold process
  cases hadmit : c.admitControlPacket packet with
  | dropped | softReset | recorded outgoing => exact ⟨rfl, rfl, fun _ => rfl, Nat.zero_le _⟩
  | inserting outgoing =>
    have hopcode : packet.opcode ≠ .acknowledgmentV1 := by
      intro hacknowledgment
      simp only [ControlChannel.admitControlPacket, hacknowledgment] at hadmit
      split_ifs at hadmit
    have hinsert : (c.incoming.tryInsertIncomingPacket packet).2.pendingPackets.length ≤
        c.incoming.pendingPackets.length + 1 := by
      rw [IncomingReliableState.tryInsertIncomingPacket]
      split_ifs <;> simp
    generalize c.incoming.tryInsertIncomingPacket packet = inserted at hinsert ⊢
    obtain ⟨inserted, incoming⟩ := inserted
    refine ⟨by cases inserted <;> rfl, by cases inserted <;> rfl,
      fun hacknowledgment => absurd hacknowledgment hopcode, ?_⟩
    cases inserted with
    | false => exact Nat.zero_le _
    | true =>
      have hordered := incoming.length_orderedLoop_le
        (incoming.pendingPackets.insertionSort fun left right => left.id ≤ right.id)
      rw [List.length_insertionSort] at hordered
      refine (List.length_filter_le _ _).trans ?_
      rw [List.length_map]
      exact hordered.trans hinsert

/-- What the reader takes in hand finds room. -/
theorem HandFits.arrive {packet : Packet} (hroom : s.RoomForOlder (.arrive packet))
    (hstep : s.arrive packet = some s') : s'.HandFits s'.primary := by
  rw [LinkReader.arrive] at hstep
  split at hstep
  · next c hphase hc =>
    obtain ⟨hclosed, hchunks, hempty, hlength⟩ := process_spec c packet
    generalize process c packet = processed at hclosed hchunks hempty hlength hstep
    cases hstep
    intro holder
    have hlt := (List.getElem?_eq_some_iff.mp hc).1
    refine ⟨processed.1, by simp [hlt], ?_⟩
    by_cases hopcode : packet.opcode = .acknowledgmentV1
    · exact .inl (hempty hopcode)
    · rw [hclosed, hchunks]
      refine .inr ((hroom hopcode holder c hc).imp_right fun hfits => ?_)
      omega
  · cases hstep

theorem HandFits.step {event : LinkReaderEvent} (h : s.HandFits s.primary)
    (hroom : s.RoomForOlder event) (hstep : s.step event = some s') : s'.HandFits s'.primary := by
  cases event with
  | arrive packet => exact .arrive hroom hstep
  | proceed =>
    have hprimary : s'.primary = s.primary := by
      simp only [LinkReader.step, LinkReader.proceed] at hstep
      split at hstep <;> try split at hstep
      all_goals try split_ifs at hstep
      all_goals cases hstep
      all_goals rfl
    rw [hprimary]
    exact h.proceed hstep
  | abandon =>
    simp only [LinkReader.step] at hstep
    split at hstep
    · split_ifs at hstep
      cases hstep
      exact handFits_abandon s _ _
    · cases hstep
  | consume other =>
    cases hstep
    exact h.of_takes rfl fun _ _ htakes =>
      htakes.modify other (fun _ hclosed => hclosed) (fun _ => by simp)
  | register keyID c =>
    cases hstep
    refine h.of_takes rfl fun target chunks htakes => ?_
    obtain ⟨c', hc', hfits⟩ := htakes
    exact ⟨c', by simp [List.getElem?_append_left (List.getElem?_eq_some_iff.mp hc').1, hc'], hfits⟩
  | unregister keyID =>
    cases hstep
    exact h
  | promote newer =>
    cases hstep
    rw [RoomForOlder, HandFits] at hroom
    rw [HandFits] at h ⊢
    cases hphase : s.phase with
    | reading => trivial
    | stopped => trivial
    | pushing target chunks =>
      rw [hphase] at h hroom
      intro holder
      rcases lt_or_ge target newer with hlt | hge
      · exact hroom hlt
      · exact h (by simp only at holder; omega)
  | close other =>
    cases hstep
    exact h.of_takes rfl fun _ _ htakes =>
      htakes.modify other (fun _ _ => rfl) (fun _ => le_refl _)

end LinkReader

/-- In every run in which there is room for what the peer sends to older key states, the
goroutine that reads the link never waits for somebody to read the plaintext of one. -/
theorem link_reader_free_of_older {s : LinkReader}
    (h : ReachableBy linkReaderSystem LinkReader.RoomForOlder s) : s.FreeOfOlder := by
  have hfits : s.HandFits s.primary := by
    refine h.invariant (P := fun s => s.HandFits s.primary) ?_
      fun _ _ _ hstate hroom hstep => LinkReader.HandFits.step hstate hroom hstep
    rintro _ ⟨c, rfl⟩
    trivial
  exact LinkReader.freeOfOlder_of_handFits hfits

/-! ### Two runs -/

namespace LinkReader

def firstChannel : ControlChannel :=
  newTLSControlChannel
    ((newSessionManagerWithLocalID (List.Vector.replicate 8 1)).setRemoteSessionID
    (List.Vector.replicate 8 2)) true [] 0 28

/-- A second key state has become primary, and control packets for key id zero arrive. -/
def retiredRun (ids : List PacketID) : List LinkReaderEvent :=
  [.register 1 { firstChannel with
      sessionManager := firstChannel.sessionManager.newRenegotiationSessionManager 1 },
        .promote 1] ++
  ids.flatMap fun id => [.arrive { newPacket .controlV1 0 [7] with
      localSessionID := List.Vector.replicate 8 2, id := id }, .proceed, .proceed]

end LinkReader

/-- The 33rd control packet that the peer sends to the first key state after a second one has
become primary blocks the goroutine that reads the link. -/
theorem link_reader_blocked :
    ∃ s : LinkReader, Reachable linkReaderSystem s ∧ ¬ s.FreeOfOlder := by
  obtain ⟨s, hreachable, hphase, holder, hblocked⟩ : ∃ s, Reachable linkReaderSystem s ∧
      s.phase = .pushing 0 [[7]] ∧ 0 < s.primary ∧ s.proceed = none :=
    exists_reachableBy ⟨LinkReader.firstChannel, rfl⟩
      (LinkReader.retiredRun ((List.range' 1 33).map UInt32.ofNat)).dropLast.dropLast
      (by decide +kernel)
  exact ⟨s, hreachable, fun hfree => hfree 0 [[7]] hphase holder hblocked⟩

/-- One packet for the retired key state does not. -/
theorem link_reader_free_of_older_once :
    ∃ s : LinkReader, ReachableBy linkReaderSystem LinkReader.RoomForOlder s ∧
      s.phase = .pushing 0 [[7]] ∧ 0 < s.primary ∧ s.FreeOfOlder := by
  obtain ⟨s, hreachable, hphase, holder⟩ :
      ∃ s, ReachableBy linkReaderSystem LinkReader.RoomForOlder s ∧
        s.phase = .pushing 0 [[7]] ∧ 0 < s.primary :=
    exists_reachableBy ⟨LinkReader.firstChannel, rfl⟩ ((LinkReader.retiredRun [1]).take 3)
      (by decide +kernel)
  exact ⟨s, hreachable, hphase, holder, link_reader_free_of_older hreachable⟩

end SingOpenVPN
