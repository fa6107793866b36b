import SingOpenVPN.Challenges
import SingOpenVPN.ClientSlots
import SingOpenVPN.ControlOrder
import SingOpenVPN.ControlReader
import SingOpenVPN.ControlRoundTrip
import SingOpenVPN.ControlWrite
import SingOpenVPN.DataFramingRoundTrip
import SingOpenVPN.DataRoundTrip
import SingOpenVPN.DataWriters
import SingOpenVPN.FragmentCompletion
import SingOpenVPN.FragmentMemory
import SingOpenVPN.IdentityReplacement
import SingOpenVPN.KeyMethod
import SingOpenVPN.LZOBounds
import SingOpenVPN.PacketCodec
import SingOpenVPN.PendingAcknowledgments
import SingOpenVPN.PingActions
import SingOpenVPN.PoolInvariant
import SingOpenVPN.PushIdempotence
import SingOpenVPN.PushReplies
import SingOpenVPN.QueueWakeups
import SingOpenVPN.ReceiveKeys
import SingOpenVPN.RejectedPushes
import SingOpenVPN.RekeyBudget
import SingOpenVPN.RetiredKeyStates
import SingOpenVPN.RetransmissionDiscipline
import SingOpenVPN.RevocationLists
import SingOpenVPN.StreamRead
import SingOpenVPN.TunnelOwnership
import SingOpenVPN.UDPFloat
import SingOpenVPN.WaitReady
