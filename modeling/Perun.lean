import Perun.Outcome
import Perun.BigEndian
import Perun.HeadTail
import Perun.MachineWord
import Perun.Ser
import Perun.Passes
import Perun.AbiErrors
import Perun.AbiEncode
import Perun.PassSizes
import Perun.PanicFree
import Perun.IntegerSlots
import Perun.AbiDecode
import Perun.AbiTypes
import Perun.Payment
import Perun.DomainSeparation
import Perun.Messages
import Perun.Wire
import Perun.WireRoundTrip
import Perun.WireForms
import Perun.Screen
import Perun.WireStrictness
import Perun.TwoParty
import Perun.MessageBus
import Perun.Active
import Perun.Opening
import Perun.ChannelRun
import Perun.UpdateSafety
import Perun.SignatureSafety
import Perun.OpeningAgreement
import Perun.ProposalPhase
import Perun.Lifecycle
import Perun.HandlerSafety
import Perun.K256
import Perun.UpdateAgreement
import Perun.DemoChannel
import Perun.DemoRun
import Perun.DemoClosing
import Perun.DemoAgreement
import Perun.DemoDelivery
import Perun.DemoPayment
import Perun.Button
import Perun.Framing
import Perun.DemoStream
import Perun.Encoding
import Perun.WireOpening
import Perun.Triple
import Perun.DemoApplication
import Perun.ApplicationRun
import Perun.ApplicationDelivery
import Perun.ApplicationStream
import Perun.DemoPhases
import Perun.DemoLifecycle
import Perun.DemoChain
import Perun.ApplicationSafety
import Perun.ApplicationHistory
import Perun.MainLoop
import Perun.MainLoopMessages
import Perun.ApplicationServices
