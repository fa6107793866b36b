import SingOpenVPN.ControlChannel

/-!
# When control packets are sent again (`proto/reliable.go`, `control_channel.go`)

The interval to the next retransmission doubles from two seconds up to a minute.  The
doubling is done in `int64` nanoseconds before the bound is applied, so it overflows when a
packet has been sent 34 times (`retransmissionDelay_sane_iff`).

The second part follows the transmissions of one channel along its runs.  `Write` puts a
packet on the link itself and leaves its timer unset.  The sender wakes every 100 ms and reads
the clock; it picks what is due by that reading and sets the timers, and afterwards puts the
packets on the link, one after the other and without a lock.
-/

namespace SingOpenVPN

open TransitionSystem

/-! ### The retransmission interval -/

/-- The interval of a packet that has been scheduled `retransmissionCount` times. -/
def retransmissionInterval (retransmissionCount : Nat) : Duration :=
  min (toInt64 (initialRetransmissionTimeout * toInt64 (2 ^ (retransmissionCount - 1))))
    maximumRetransmissionTimeout

theorem scheduleForRetransmission_eq (p : InFlightPacket) (now : Time) :
    p.scheduleForRetransmission now = { p with
      retransmissionCount := p.retransmissionCount + 1
      retransmissionDeadline := some (now + retransmissionInterval (p.retransmissionCount + 1)) } :=
  rfl

theorem toInt64_eq_self {value : Int} (hlow : 0 ≤ value) (hhigh : value < 2 ^ 63) :
    toInt64 value = value := by
  exact Int.bmod_eq_of_le (by omega) (by omega)

theorem two_pow_le_two_pow {left right : Nat} (h : left ≤ right) :
    (2 : Int) ^ left ≤ 2 ^ right := by
  exact_mod_cast Nat.pow_le_pow_right (by decide) h

theorem retransmissionInterval_succ {count : Nat} (h : count ≤ 32) :
    retransmissionInterval (count + 1) =
      min (initialRetransmissionTimeout * 2 ^ count) maximumRetransmissionTimeout := by
  have hpos : (0 : Int) < 2 ^ count := Int.pow_pos (by decide)
  have hpow : (2 : Int) ^ count ≤ 2 ^ 32 := two_pow_le_two_pow h
  have hproduct : (0 : Int) ≤ 2 * 10 ^ 9 * 2 ^ count ∧ (2 * 10 ^ 9 * 2 ^ count : Int) < 2 ^ 63 := by
    omega
  have hfits : toInt64 (initialRetransmissionTimeout * 2 ^ count) =
      initialRetransmissionTimeout * 2 ^ count := toInt64_eq_self hproduct.1 hproduct.2
  rw [retransmissionInterval, Nat.add_sub_cancel, toInt64_eq_self hpos.le (by omega), hfits]

/-- These intervals start at two seconds, grow, and stop at a minute. -/
theorem retransmissionInterval_mono {count count' : Nat} (hle : count ≤ count') (h : count' ≤ 32) :
    retransmissionInterval (count + 1) ≤ retransmissionInterval (count' + 1) := by
  have hproduct : (2 * 10 ^ 9 * 2 ^ count : Int) ≤ 2 * 10 ^ 9 * 2 ^ count' := by
    have hpow := two_pow_le_two_pow hle
    omega
  rw [retransmissionInterval_succ (hle.trans h), retransmissionInterval_succ h]
  exact le_min ((min_le_left _ _).trans hproduct) (min_le_right _ _)

/-- How long a packet that is being sent waits for its next transmission. -/
def InFlightPacket.retransmissionDelay (p : InFlightPacket) (now : Time) : Option Duration :=
  (p.scheduleForRetransmission now).retransmissionDeadline.map (· - now)

theorem retransmissionDelay_eq (p : InFlightPacket) (now : Time) :
    p.retransmissionDelay now = some (retransmissionInterval (p.retransmissionCount + 1)) := by
  rw [InFlightPacket.retransmissionDelay, scheduleForRetransmission_eq, Option.map_some,
    Int.add_comm, Int.add_sub_cancel]

/-- The delays of packets sent at most `limit` times before lie between two seconds and a
minute and grow with the number of transmissions exactly if that number is at most 32. -/
theorem retransmissionDelay_sane_iff (limit : Nat) :
    ((∀ (p : InFlightPacket) (now : Time), p.retransmissionCount ≤ limit →
        ∃ delay, p.retransmissionDelay now = some delay ∧
          initialRetransmissionTimeout ≤ delay ∧ delay ≤ maximumRetransmissionTimeout) ∧
      ∀ (p q : InFlightPacket) (now later : Time) (delay delay' : Duration),
        p.retransmissionCount ≤ q.retransmissionCount → q.retransmissionCount ≤ limit →
        p.retransmissionDelay now = some delay → q.retransmissionDelay later = some delay' →
        delay ≤ delay') ↔
    limit ≤ 32 := by
  constructor
  · intro ⟨hbounds, _⟩
    by_contra hlimit
    obtain ⟨delay, hdelay, hlow, _⟩ := hbounds ⟨newPacket .controlV1 0 [], none, 0, 33⟩ 0
      (Nat.lt_of_not_le hlimit)
    rw [retransmissionDelay_eq, Option.some.injEq] at hdelay
    subst hdelay
    exact absurd hlow (by decide +kernel)
  · intro hlimit
    constructor
    · intro p now hp
      have hfirst : retransmissionInterval (0 + 1) =
        initialRetransmissionTimeout := by decide +kernel
      refine ⟨_, retransmissionDelay_eq p now, ?_, ?_⟩
      · rw [← hfirst]
        exact retransmissionInterval_mono (Nat.zero_le _) (hp.trans hlimit)
      · exact min_le_right _ _
    · intro p q now later delay delay' hpq hq hdelay hdelay'
      rw [retransmissionDelay_eq, Option.some.injEq] at hdelay hdelay'
      subst hdelay hdelay'
      exact retransmissionInterval_mono hpq (hq.trans hlimit)

/-- A packet that has been sent 33 times is due again at once: its deadline lies decades
before the moment it is set. -/
theorem retransmissionDelay_overflow :
    ∃ p : InFlightPacket, p.retransmissionCount = 33 ∧
      p.retransmissionDelay 0 = some (-1266874889709551616) :=
  ⟨⟨newPacket .controlV1 0 [], none, 0, 33⟩, rfl, by decide +kernel⟩

/-! ### The transmissions of one channel -/

/-- A control packet that went out on the link.

    `delay` is the time since the sender read the clock for it, zero if the packet did not come
    from the sender.  `interval` is the packet's retransmission interval from then on, `counted`
    its count of acknowledgments for later packets; `heard` holds every acknowledgment id that
    had arrived on the channel. -/
structure Transmission where
  id : PacketID
  time : Time
  delay : Duration
  interval : Duration
  counted : Nat
  heard : List PacketID
deriving DecidableEq

namespace Transmission

def laterAcknowledgments (t : Transmission) (heard : List PacketID) : Nat :=
  (heard.drop t.heard.length).countP (t.id < ·)

/-- The packet may be sent again: its interval is over, or three acknowledgments for later
    packets have arrived. -/
def Released (t : Transmission) (now : Time) (heard : List PacketID) : Prop :=
  t.time + t.interval ≤ now ∨ fastRetransmissionACKThreshold ≤ t.laterAcknowledgments heard

instance (t : Transmission) (now : Time) (heard : List PacketID) :
    Decidable (t.Released now heard) := by
  unfold Released
  infer_instance

end Transmission

/-- Two consecutive transmissions of one packet in a log, newest first. -/
def Consecutive (log : List Transmission) (earlier later : Transmission) : Prop :=
  ∃ newer between older, log = newer ++ later :: (between ++ earlier :: older) ∧
    earlier.id = later.id ∧ ∀ other ∈ between, other.id ≠ later.id

/-- A packet on its way to the link; `picked` is the clock reading by which the sender found it
    due, if it comes from there and not from `Write`, `sendInitialSoftReset` or
    `newAcknowledgmentPacket`. -/
structure Departure where
  packet : Packet
  picked : Option Time
deriving DecidableEq

/-- A control channel with its clock and the sender's last reading of it.

    The last two fields observe: the acknowledgment ids that arrived, oldest first, and the
    control packets that went out, newest first. -/
structure TimedSender where
  channel : ControlChannel
  clock : Time
  reading : Time
  outbox : List Departure
  softResetSent : Bool
  heard : List PacketID
  transmissions : List Transmission
deriving DecidableEq

/-- What happens on a channel.  A round of `runSender` picks the packets that are due by a
    reading of the clock made before, and each is put on the link by an event of its own. -/
inductive SenderEvent where
  | write (pendingAcknowledgmentCount : Nat) (buffer : Bytes)
  | softReset
  | acknowledge
  | link (index : Nat) (reachesLink : Bool)
  | pick (reading : Time)
  | seed (packet : Packet)
  | receive (packet : Packet)
deriving DecidableEq

namespace TimedSender

variable (s : TimedSender)

def inFlight (id : PacketID) : Option InFlightPacket :=
  s.channel.outgoing.inFlightPackets.find? (·.packet.id = id)

def write (pendingAcknowledgmentCount : Nat) (buffer : Bytes) : TimedSender :=
  match s.channel.newOutgoingControlPacket pendingAcknowledgmentCount buffer with
  | (.ok (some packet), channel) =>
    { s with channel := channel, outbox := s.outbox ++ [⟨packet, none⟩] }
  | (_, channel) => { s with channel := channel }

def softReset : TimedSender :=
  match s.channel.outgoing.insertOutgoingPacket maximumAcknowledgmentsPerPacket
      s.channel.softResetPacketWith with
  | (.ok (some (packet, ())), outgoing) => { s with
      channel := { s.channel with outgoing := outgoing }
      outbox := s.outbox ++ [⟨packet, none⟩]
      softResetSent := true }
  | (_, outgoing) => { s with
      channel := { s.channel with outgoing := outgoing }
      softResetSent := true }

def acknowledge : TimedSender :=
  match s.channel.newAcknowledgmentPacket with
  | (some packet, channel) =>
    { s with channel := channel, outbox := s.outbox ++ [⟨packet, none⟩] }
  | (none, channel) => { s with channel := channel }

/-- The log entry of a control packet that is put on the link. -/
def transmission (departure : Departure) : Transmission where
  id := departure.packet.id
  time := s.clock
  delay := departure.picked.elim 0 (s.clock - ·)
  interval := retransmissionInterval
    ((s.inFlight departure.packet.id).elim 0 InFlightPacket.retransmissionCount)
  counted := (s.inFlight departure.packet.id).elim 0 InFlightPacket.higherPacketAcknowledges
  heard := s.heard

def link (index : Nat) (reachesLink : Bool) : Option TimedSender :=
  match s.outbox[index]? with
  | none => none
  | some departure =>
    let outbox := s.outbox.eraseIdx index
    let packet := departure.packet
    if packet.opcode = .acknowledgmentV1 then
      if reachesLink then some { s with outbox := outbox }
      else some { s with
        outbox := outbox
        channel := { s.channel with
          outgoing := s.channel.outgoing.returnAcknowledgmentIDsLocked packet.acknowledgmentIDs } }
    else if reachesLink then
      some { s with
        outbox := outbox
        transmissions := s.transmission departure :: s.transmissions }
    else some { s with outbox := outbox }

def pick (reading : Time) : TimedSender :=
  let (readyPackets, outgoing) := s.channel.outgoing.packetsReadyToSend reading
  { s with
    channel := { s.channel with outgoing := outgoing }
    reading := reading
    outbox := s.outbox ++ readyPackets.map (⟨·, some reading⟩) }

def record (packet : Packet) : TimedSender :=
  { s with
    channel := { s.channel with outgoing := s.channel.outgoing.onIncomingPacket packet }
    heard := s.heard ++ packet.acknowledgmentIDs }

def seed (packet : Packet) : TimedSender :=
  if s.channel.sessionManager.validateIncomingRemoteSessionID packet = false then s
  else s.record packet

def receive (packet : Packet) : TimedSender :=
  match s.channel.admitControlPacket packet with
  | .dropped | .softReset => s
  | .recorded _ | .inserting _ => s.record packet

def act : SenderEvent → Option TimedSender
  | .write pendingAcknowledgmentCount buffer =>
    if buffer.length = 0 then none else some (s.write pendingAcknowledgmentCount buffer)
  | .softReset => if s.softResetSent then none else some s.softReset
  | .acknowledge => some s.acknowledge
  | .link index reachesLink => s.link index reachesLink
  | .pick reading =>
    -- the reading is made between the last round and now, and a round ends before the next
    if s.reading ≤ reading ∧ reading ≤ s.clock ∧
      ∀ departure ∈ s.outbox, departure.picked = none then
      some (s.pick reading)
    else none
  | .seed packet => some (s.seed packet)
  | .receive packet => some (s.receive packet)

/-- An event at a given moment; the clock never goes back. -/
def step (event : Time × SenderEvent) : Option TimedSender :=
  if event.1 < s.clock then none else { s with clock := event.1 }.act event.2

end TimedSender

def senderSystem : System TimedSender (Time × SenderEvent) where
  initial s := ∃ (sessionManager : SessionManager) (handlesSoftReset : Bool)
    (wrappedClientKey : Bytes) (protectionOverhead datagramOverhead : Nat) (clock : Time),
    sessionManager.localControlPacketID = 1 ∧
    s = ⟨newTLSControlChannel sessionManager handlesSoftReset wrappedClientKey protectionOverhead
      datagramOverhead, clock, clock, [], false, [], []⟩
  step := TimedSender.step

/-! ### A run that sends too early -/

def freshSender : TimedSender :=
  ⟨newTLSControlChannel
    ((newSessionManagerWithLocalID (List.Vector.replicate 8 1)).setRemoteSessionID
    (List.Vector.replicate 8 2)) false [] 0 28, 0, 0, [], false, [], []⟩

theorem senderSystem_initial_freshSender : senderSystem.initial freshSender :=
  ⟨_, _, _, _, _, _, rfl, rfl⟩

/-- `Write` puts packet 1 on the link and a tenth of a second later the sender does it
again. -/
theorem retransmission_too_early :
    ∃ s earlier later, Reachable senderSystem s ∧ Consecutive s.transmissions earlier later ∧
      ¬ earlier.Released later.time later.heard := by
  obtain ⟨s, hreachable, htransmissions⟩ : ∃ s, Reachable senderSystem s ∧
      s.transmissions = [⟨1, 10 ^ 8, 0, 2 * 10 ^ 9, 0, []⟩, ⟨1, 0, 0, 2 * 10 ^ 9, 0, []⟩] :=
    exists_reachableBy senderSystem_initial_freshSender
      [(0, .write 0 [7]), (0, .link 0 true), (10 ^ 8, .pick (10 ^ 8)), (10 ^ 8, .link 0 true)]
      (by decide +kernel)
  refine ⟨s, ⟨1, 0, 0, 2 * 10 ^ 9, 0, []⟩, ⟨1, 10 ^ 8, 0, 2 * 10 ^ 9, 0, []⟩, hreachable, ?_,
    by decide⟩
  rw [htransmissions]
  exact ⟨[], [], [], rfl, rfl, by simp⟩

end SingOpenVPN
