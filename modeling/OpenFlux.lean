import OpenFlux.Spec.NativeArgsOwned
import OpenFlux.Model.ViewModel
import OpenFlux.Spec.ViewModelStep
import OpenFlux.Spec.ViewModelSerial
import OpenFlux.Spec.ViewModelCancel
import OpenFlux.Spec.ViewModelTeardown
import OpenFlux.Spec.ViewModelStarts
import OpenFlux.Spec.ViewModelStore
import OpenFlux.Spec.ViewModelSessions
import OpenFlux.Model.EncryptionKey
import OpenFlux.Model.Supervisor
import OpenFlux.Spec.SupervisorStep
import OpenFlux.Spec.SupervisorStale
import OpenFlux.Spec.SupervisorStop
import OpenFlux.Spec.SupervisorRun
import OpenFlux.Model.App
import OpenFlux.Spec.AppStep
import OpenFlux.Spec.AppReports
import OpenFlux.Spec.AppRunning
import OpenFlux.Model.VpnService
import OpenFlux.Spec.VpnServiceTruth
import OpenFlux.ForStd.BigEndian
import OpenFlux.Model.DnsRedirect
import OpenFlux.Spec.PacketCheck
import OpenFlux.Model.DnsExchange
import OpenFlux.Spec.DnsWellFormed
import OpenFlux.Spec.DnsAnswers
import OpenFlux.Spec.NativeArgsKept
import OpenFlux.Model.TunnelPayload
import OpenFlux.Spec.TunnelPayloadRoundTrip
import OpenFlux.Spec.TunnelPayloadAgrees
import OpenFlux.Model.LogsFragment
import OpenFlux.Spec.LogsFlush
import OpenFlux.Model.EventBus
import OpenFlux.Spec.EventBusReports
import OpenFlux.Model.DnsTcpRelay
import OpenFlux.Spec.DnsTcpRelayClose
import OpenFlux.Spec.NativeArgsRedacted
import OpenFlux.ForStd.GoStrings
import OpenFlux.Spec.EncryptionKeyAgrees
import OpenFlux.ForStd.OnesComplement
import OpenFlux.Spec.DnsOutstanding
import OpenFlux.Spec.DnsValidQueries
import OpenFlux.Model.DeviceRead
import OpenFlux.Spec.DeviceReject
import OpenFlux.Spec.LogsLines
import OpenFlux.ForStd.Pipe
import OpenFlux.Model.Socks5
import OpenFlux.Model.DnsTcpSession
import OpenFlux.Spec.Socks5Handshake
import OpenFlux.Spec.DnsTcpStreams
import OpenFlux.Spec.DnsTcpDelivers
import OpenFlux.Model.BSocksClient
import OpenFlux.Model.TcpClient
import OpenFlux.Spec.BSocksClientHandshake
import OpenFlux.Spec.TcpClientStep
import OpenFlux.Spec.TcpClientOk
import OpenFlux.Spec.TcpClientStreams
import OpenFlux.Spec.TcpClientDelivers
import OpenFlux.ForStd.Asserting
import OpenFlux.ForStd.Avl
import OpenFlux.Model.BAVL
import OpenFlux.Spec.BAVLHeap
import OpenFlux.Spec.BAVLRebalance
import OpenFlux.Spec.BAVLSwap
import OpenFlux.Spec.BAVLInsert
import OpenFlux.Spec.BAVLRemove
import OpenFlux.Spec.BAVLOrder
import OpenFlux.Spec.BAVLRuns
import OpenFlux.Model.DnsConnections
import OpenFlux.Spec.DnsConnectionsRefine
import OpenFlux.ForStd.ByteMemory
import OpenFlux.Model.ChunkBuffer2
import OpenFlux.Spec.ChunkBuffer2Ring
import OpenFlux.Model.PacketProtoFlow
import OpenFlux.Spec.PacketProtoFlowFifo
import OpenFlux.Model.PacketProtoDecoder
import OpenFlux.Spec.PacketProtoDecode
