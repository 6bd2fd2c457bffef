import Asio.Lib.Transition
import Asio.Lib.Loop
import Asio.Lib.FamilySum
import Asio.Lib.MinHeap
import Asio.Lib.IntrusiveList
import Asio.Lib.Memory
import Asio.Lib.Occurrence
import Asio.Lib.Progress
import Asio.Lib.CheckedInt
import Asio.Lib.NodeList
import Asio.Lib.Cylinder
import Asio.Lib.Simulation
import Asio.Lib.Custody
import Asio.Lib.Scanner
import Asio.Lib.OwnedHeap
import Asio.Error
import Asio.Timer.Queue
import Asio.Timer.QueueInvariant
import Asio.Timer.QueueOperations
import Asio.Timer.QueueRuns
import Asio.Timer.Reactor
import Asio.Timer.Deadline
import Asio.Timer.Chrono
import Asio.Timer.Service
import Asio.Timer.Contract
import Asio.Timer.WaitDuration
import Asio.Timer.Saturation
import Asio.Timer.DurationCast
import Asio.Timer.QueueSet
import Asio.Timer.QueueReady
import Asio.Timer.FailedEnqueue
import Asio.Scheduler.Model
import Asio.Scheduler.Machine
import Asio.Scheduler.Effect
import Asio.Scheduler.Turn
import Asio.Scheduler.Shape
import Asio.Scheduler.Accounting
import Asio.Scheduler.WorkCount
import Asio.Scheduler.EarlyStop
import Asio.Scheduler.TaskQueue
import Asio.Scheduler.Task
import Asio.Scheduler.Closing
import Asio.Scheduler.Custody
import Asio.Scheduler.Order
import Asio.Scheduler.Wakeup
import Asio.Scheduler.Stop
import Asio.Scheduler.TimedWait
import Asio.Reactor.OpQueue
import Asio.Reactor.SelectReactor
import Asio.Reactor.SelectInterrupter
import Asio.Reactor.SelectBlocking
import Asio.Reactor.OpTable
import Asio.Reactor.EpollTimers
import Asio.Reactor.EpollTimersWatch
import Asio.Reactor.EpollDescriptor
import Asio.Reactor.EpollDescriptorWatch
import Asio.Reactor.EpollReactor
import Asio.Reactor.EpollReactorSound
import Asio.Reactor.EpollReactorPerform
import Asio.Reactor.EpollReactorRuns
import Asio.Reactor.SelectFdSets
import Asio.Reactor.EpollFork
import Asio.Reactor.SelectCustody
import Asio.Transmit.Buffer
import Asio.Transmit.Stream
import Asio.Transmit.DynamicBuffer
import Asio.Transmit.Composed
import Asio.Transmit.Transfer
import Asio.Transmit.Async
import Asio.Transmit.ReadUntil
import Asio.Transmit.ReadUntilAsync
import Asio.Transmit.Connect
import Asio.Transmit.ConsumingRuns
import Asio.Transmit.BuffersIterator
import Asio.Transmit.BuffersIteratorIndex
import Asio.Transmit.BuffersIteratorRuns
import Asio.Transmit.BufferCopy
import Asio.Transmit.DynamicBufferRuns
import Asio.Transmit.Overfull
import Asio.Network.SocketStreambuf
import Asio.Core.ServiceRegistry
import Asio.Core.ServiceOrder
import Asio.Network.Resolver
import Asio.Network.ResolverProtocol
import Asio.Network.ResolverDelivery
import Asio.Core.HashMap
import Asio.Core.HashMapInvariant
import Asio.Core.HashMapRuns
import Asio.Network.SocketTransfer
import Asio.Network.AddrInfo
import Asio.Network.AddrInfoList
import Asio.Network.AddrInfoPorts
import Asio.Network.AddrInfoOffers
import Asio.Network.GetAddrInfo
import Asio.Network.GetAddrInfoResolve
import Asio.Network.ReactiveSocketService
import Asio.Network.SocketHolder
import Asio.Network.SocketOwner
import Asio.Network.SocketHolderRuns
import Asio.Core.ThreadInfo
import Asio.Core.ThreadInfoRuns
import Asio.Ip.NetworkV4
import Asio.Network.SocketStreambufGet
import Asio.Ip.NetworkV6
import Asio.Ip.Hosts
import Asio.Ip.Netmask
import Asio.Ip.Subnet
import Asio.Ip.AddressText
import Asio.Ip.SpelledOut
import Asio.Ip.ScopeText
import Asio.Ip.Endpoint
import Asio.Ip.NetworkText
import Asio.Ip.ResolverResults
import Asio.Ip.ResolverObjects
import Asio.Core.ObjectPool
import Asio.Core.OpQueue
import Asio.Core.OpQueueRun
import Asio.Core.RegistryMutex
import Asio.Core.RegistryCallbacks
import Asio.Core.Executor
import Asio.Core.WorkDispatcher
import Asio.Core.WorkDispatcherOrder
import Asio.Core.WorkDispatcherWork
import Asio.Core.WorkDispatcherRuns
import Asio.Http.RequestParser
import Asio.Http.RequestText
import Asio.Http.RequestSound
import Asio.Http.RequestComplete
import Asio.Http.Connection
import Asio.Chat.ChatMessage
import Asio.Chat.ChatServer
import Asio.Chat.ChatRelay
