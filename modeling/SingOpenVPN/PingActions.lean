import SingOpenVPN.ClientTunnel
import SingOpenVPN.OptionLines

/-!
# Pushed ping actions (`pull_options.go`, `client_tunnel.go`)

A push may name `ping-restart` and `ping-exit` any number of times.  The decoder keeps the last
value of each and which of the two came last, the conversion drops the other one, and merging
into the configuration clears it there (`last_ping_action_in_force`).
-/

namespace SingOpenVPN

/-! ### Pull filters -/

inductive PullFilterAction where
  | accept
  | ignore
  | reject
deriving DecidableEq

structure PullFilter where
  action : PullFilterAction
  text : Text

def applyPullFilters (filters : List PullFilter) (optionLine : Text) : PullFilterAction :=
  ((filters.find? fun filter => filter.text.isPrefixOf optionLine).map (·.action)).getD .accept

def trimLeftSpaces (text : Text) : Text :=
  text.dropWhile (· ∈ ([0x20, 0x09, 0x0A, 0x0B, 0x0C, 0x0D] : List UInt8))

/-- The lines `decodePushReplyOptionLines` reads: a rejected line ends the loop. -/
def readLines (filters : List PullFilter) : List Text → List Text
  | [] => []
  | payloadLine :: rest =>
    match applyPullFilters filters (trimLeftSpaces payloadLine) with
    | .reject => []
    | .ignore => readLines filters rest
    | .accept => payloadLine :: readLines filters rest

/-! ### Decoding -/

/-- The result as an `int`; `bmod` is the conversion to `int32`. -/
def parsePushedPositiveInteger (value : Text) : Int :=
  let text := trimLeftSpaces value
  let sign := (text.take 1).filter fun byte => byte = 0x2B || byte = 0x2D
  let digits := (text.drop sign.length).takeWhile fun byte => (decimalDigit byte).isSome
  if digits = [] then 0
  else
    let parsed :=
      (parseInt (sign ++ digits)).getD (if text.head? = some 0x2D then -2 ^ 63 else 2 ^ 63 - 1)
    max 0 (parsed.bmod (2 ^ 32))

def parsePushedSecondCount (value : Text) : Duration := parsePushedPositiveInteger value * 10 ^ 9

inductive PushedPingTimeoutAction where
  | restart
  | exit
deriving DecidableEq

/-- The fields of `wirePushedOptions` that the two options set. -/
structure WirePingOptions where
  pingRestart : Duration := 0
  pingRestartEnabled : Bool := false
  pingExit : Duration := 0
  pingExitSet : Bool := false
  pingTimeoutAction : Option PushedPingTimeoutAction := none

def namedPing (payloadLine : Text) : Option (PushedPingTimeoutAction × Duration) :=
  (parsePushedOptionLine payloadLine).bind fun parameters =>
    let optionName := toLower (parameters.headD [])
    let optionValue := joinText [0x20] parameters.tail
    if optionValue = [] then none
    else if optionName = ascii "ping-restart" then
      some (.restart, parsePushedSecondCount optionValue)
    else if optionName = ascii "ping-exit" then some (.exit, parsePushedSecondCount optionValue)
    else none

namespace WirePingOptions

def read (wire : WirePingOptions) (payloadLine : Text) : WirePingOptions :=
  match namedPing payloadLine with
  | some (.restart, value) =>
    { wire with
      pingRestart := value, pingRestartEnabled := true, pingTimeoutAction := some .restart }
  | some (.exit, value) =>
    { wire with pingExit := value, pingExitSet := true, pingTimeoutAction := some .exit }
  | none => wire

/-- `pushedOptionsFromWire`, on the options of all other lines. -/
def pushedOptions (wire : WirePingOptions) (options : PushedOptions) : PushedOptions :=
  let exits := wire.pingTimeoutAction = some .exit
  let restarts := wire.pingTimeoutAction = some .restart
  { options with
    pingRestart := if exits then 0 else wire.pingRestart
    pingRestartEnabled := !exits && wire.pingRestartEnabled
    pingExit := if restarts then 0 else wire.pingExit
    pingExitSet := !restarts && wire.pingExitSet }

end WirePingOptions

/-- A push message: its option lines, and what they say about anything else. -/
structure PingPush where
  optionLines : List Text
  options : PushedOptions

section Pushes

variable (filters : List PullFilter)

def PingPush.decode (push : PingPush) : PushedOptions :=
  ((readLines filters push.optionLines).foldl WirePingOptions.read {}).pushedOptions push.options

def PingPush.lastPing (push : PingPush) : Option (PushedPingTimeoutAction × Duration) :=
  ((readLines filters push.optionLines).filterMap namedPing).getLast?

end Pushes

/-! ### The action in force -/

/-- The options set the timer of the action and no other. -/
def PushedOptions.Sets (options : PushedOptions) :
    Option (PushedPingTimeoutAction × Duration) → Prop
  | none => options.pingRestartEnabled = false ∧ options.pingExitSet = false
  | some (.restart, value) => options.pingRestartEnabled = true ∧ options.pingRestart = value ∧
      options.pingExitSet = false
  | some (.exit, value) => options.pingExitSet = true ∧ options.pingExit = value ∧
      options.pingRestartEnabled = false

/-- The timer of the action has its value and the other is off; without an action one of the two
is off. -/
def TunnelConfiguration.InForce (configuration : TunnelConfiguration) :
    Option (PushedPingTimeoutAction × Duration) → Prop
  | none => configuration.pingRestart = 0 ∨ configuration.pingExit = 0
  | some (.restart, value) => configuration.pingRestart = value ∧ configuration.pingExit = 0
  | some (.exit, value) => configuration.pingExit = value ∧ configuration.pingRestart = 0

/-- What the decoder knows of the last action. -/
def WirePingOptions.Keeps (wire : WirePingOptions) :
    Option (PushedPingTimeoutAction × Duration) → Prop
  | none => wire = {}
  | some (.restart, value) => wire.pingTimeoutAction = some .restart ∧
      wire.pingRestartEnabled = true ∧ wire.pingRestart = value
  | some (.exit, value) => wire.pingTimeoutAction = some .exit ∧
      wire.pingExitSet = true ∧ wire.pingExit = value

theorem WirePingOptions.keeps_read {wire : WirePingOptions}
    {last : Option (PushedPingTimeoutAction × Duration)} (h : wire.Keeps last)
    (payloadLine : Text) : (wire.read payloadLine).Keeps ((namedPing payloadLine).or last) := by
  unfold WirePingOptions.read
  split
  · next value hnamed =>
    rw [hnamed]
    exact ⟨rfl, rfl, rfl⟩
  · next value hnamed =>
    rw [hnamed]
    exact ⟨rfl, rfl, rfl⟩
  · next hnamed =>
    rw [hnamed]
    exact h

theorem WirePingOptions.keeps_foldl (lines : List Text) :
    (lines.foldl read {}).Keeps (lines.filterMap namedPing).getLast? := by
  induction lines using List.reverseRecOn with
  | nil => rfl
  | append_singleton lines line ih =>
    have hread := keeps_read ih line
    cases hnamed : namedPing line with
    | none => simpa [hnamed] using hread
    | some ping => simpa [hnamed] using hread

theorem PushedOptions.sets_decode (filters : List PullFilter) (push : PingPush) :
    (push.decode filters).Sets (push.lastPing filters) := by
  have hkeeps := WirePingOptions.keeps_foldl (readLines filters push.optionLines)
  unfold PingPush.decode PingPush.lastPing
  generalize List.foldl _ _ _ = wire at *
  generalize List.getLast? _ = last at *
  rcases last with _ | ⟨_ | _, value⟩
  · cases hkeeps
    exact ⟨rfl, rfl⟩
  · obtain ⟨haction, henabled, hvalue⟩ := hkeeps
    simp [PushedOptions.Sets, WirePingOptions.pushedOptions, haction, henabled, hvalue]
  · obtain ⟨haction, henabled, hvalue⟩ := hkeeps
    simp [PushedOptions.Sets, WirePingOptions.pushedOptions, haction, henabled, hvalue]

theorem applyPushedDNS_pings (configuration : TunnelConfiguration) (options : PushedOptions)
    (modernDNSConfigured : Bool) (modernSearchDomains : List Text) :
    let updated := applyPushedDNS configuration options modernDNSConfigured modernSearchDomains
    updated.pingRestart = configuration.pingRestart ∧
      updated.pingExit = configuration.pingExit := by
  unfold applyPushedDNS
  split_ifs <;> exact ⟨rfl, rfl⟩

theorem applyPushedOptions_pings (routeNoPull : Bool) (tunnel : ClientTunnelState)
    (options : PushedOptions) :
    let updated := (applyPushedOptions routeNoPull tunnel options).configuration
    updated.pingRestart =
      (if options.pingRestartEnabled then options.pingRestart
        else if options.pingExitSet then 0 else tunnel.configuration.pingRestart) ∧
    updated.pingExit =
      if options.pingExitSet then options.pingExit
      else if options.pingRestartEnabled then 0 else tunnel.configuration.pingExit := by
  cases routeNoPull <;> cases hrestart : options.pingRestartEnabled <;>
    cases hexit : options.pingExitSet <;>
    simp [applyPushedOptions, pushedConfiguration, completeRoutes, applyPushedRoutes,
      applyPushedSettings, applyPushedDNS_pings, applyPushedAddresses, hrestart, hexit]

/-- One push: what it names is in force afterwards, or else what was before. -/
theorem TunnelConfiguration.InForce.push (routeNoPull : Bool) {tunnel : ClientTunnelState}
    {last named : Option (PushedPingTimeoutAction × Duration)}
    (h : tunnel.configuration.InForce last)
    {options : PushedOptions} (hsets : options.Sets named) :
    (applyPushedOptions routeNoPull tunnel options).configuration.InForce (named.or last) := by
  obtain ⟨hrestart, hexit⟩ := applyPushedOptions_pings routeNoPull tunnel options
  rcases named with _ | ⟨_ | _, value⟩
  · obtain ⟨hnone, hnone'⟩ := hsets
    simp only [hnone, hnone', Bool.false_eq_true, if_false] at hrestart hexit
    unfold InForce
    rwa [hrestart, hexit]
  · obtain ⟨henabled, hvalue, hother⟩ := hsets
    simp [InForce, hrestart, hexit, henabled, hvalue, hother]
  · obtain ⟨henabled, hvalue, hother⟩ := hsets
    simp [InForce, hrestart, hexit, henabled, hvalue, hother]

/-- **Only the last pushed ping action is in force.** -/
theorem last_ping_action_in_force (routeNoPull : Bool) (filters : List PullFilter)
    (tunnel : ClientTunnelState) (pushes : List PingPush)
    (h : tunnel.configuration.pingRestart = 0 ∨ tunnel.configuration.pingExit = 0) :
    let configuration := (pushes.foldl (fun tunnel push =>
      applyPushedOptions routeNoPull tunnel (push.decode filters)) tunnel).configuration
    (configuration.pingRestart = 0 ∨ configuration.pingExit = 0) ∧
      configuration.InForce (pushes.filterMap (PingPush.lastPing filters)).getLast? := by
  have hrun : (pushes.foldl (fun tunnel push =>
      applyPushedOptions routeNoPull tunnel (push.decode filters)) tunnel).configuration.InForce
        (pushes.filterMap (PingPush.lastPing filters)).getLast? := by
    induction pushes using List.reverseRecOn with
    | nil => exact h
    | append_singleton pushes push ih =>
      have hpush := TunnelConfiguration.InForce.push routeNoPull ih
        (PushedOptions.sets_decode filters push)
      cases hlast : push.lastPing filters with
      | none => simpa [hlast] using hpush
      | some ping => simpa [hlast] using hpush
  refine ⟨?_, hrun⟩
  generalize List.getLast? _ = last at hrun
  rcases last with _ | ⟨_ | _, value⟩
  · exact hrun
  · exact .inr hrun.2
  · exact .inl hrun.2

theorem last_ping_action_in_force_restart :
    let push : PingPush := ⟨[ascii "ping-exit 5", ascii "ping-restart 7"], {}⟩
    (applyPushedOptions false { configuration := {} } (push.decode [])).configuration.InForce
      (some (.restart, 7 * 10 ^ 9)) :=
  (last_ping_action_in_force false [] _ [⟨[ascii "ping-exit 5", ascii "ping-restart 7"], {}⟩]
    (.inl rfl)).2

end SingOpenVPN
