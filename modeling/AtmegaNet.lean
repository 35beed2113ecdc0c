import AtmegaNet.Refinement
import AtmegaNet.CallRefinement
import AtmegaNet.Agreement
import AtmegaNet.Resolution
import AtmegaNet.NotEstablished
import AtmegaNet.Ownership
import AtmegaNet.PendingLookups
import AtmegaNet.SMTPLines
import AtmegaNet.Rejection
import AtmegaNet.PeerMSS
import AtmegaNet.HandlerPointer
import AtmegaNet.TimerRegistry
import AtmegaNet.Redelivery
import AtmegaNet.Wraparound
import AtmegaNet.BusyClients
import AtmegaNet.CalmClients
import AtmegaNet.NextHop
import AtmegaNet.FrameLengths
import AtmegaNet.UDPChecksum
import AtmegaNet.DNSAnswers
import AtmegaNet.DNSWalk
import AtmegaNet.DNSQuestion
import AtmegaNet.DNSEntries
import AtmegaNet.InternetChecksum
import AtmegaNet.LookupErrors
import AtmegaNet.CacheLifetime
import AtmegaNet.Reactions
import AtmegaNet.BoundedRetry
import AtmegaNet.Stashes
import AtmegaNet.SendData
import AtmegaNet.FirstTransmission
import AtmegaNet.Retransmission
import AtmegaNet.Transfer
import AtmegaNet.Completion
import AtmegaNet.BufferedTransfer
import AtmegaNet.BufferedSocket
import AtmegaNet.ENC28J60Driver
import AtmegaNet.ENC28J60Buffer
import AtmegaNet.CopyShortcut
import AtmegaNet.DeviceCopy
import AtmegaNet.RegisterBank
import AtmegaNet.ReceiveRing
import AtmegaNet.RemoteClose
import AtmegaNet.Base64
import AtmegaNet.Registries
import AtmegaNet.TimerPass
import AtmegaNet.ViewConfinement
import AtmegaNet.Receive
import AtmegaNet.RoundTrip
import AtmegaNet.SMTPDialogue
import AtmegaNet.SMTPMessage
import AtmegaNet.HTTPRequest
import AtmegaNet.SMTPStrings
