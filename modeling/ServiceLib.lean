import ServiceLib.SerdeHostile
import ServiceLib.HttpClientWire
import ServiceLib.CronActivations
import ServiceLib.CronTrigger
import ServiceLib.JoinStorageMaps
import ServiceLib.JoinOperator
import ServiceLib.RotatingMapRefinement
import ServiceLib.QueuedPoolDispatch
import ServiceLib.QueuedPoolOrderRuns
import ServiceLib.DelayPoolDue
import ServiceLib.SubStreamRuns
import ServiceLib.SourceEndpointWait
import ServiceLib.SourceEndpointOutcome
import ServiceLib.SourceEndpointRelease
import ServiceLib.CallbackReentry
import ServiceLib.ServiceApp
import ServiceLib.ServiceShutdownOrder
import ServiceLib.AsyncCompletionTree
import ServiceLib.TopologyReach
import ServiceLib.KafkaStop
import ServiceLib.ClientWriteQueueRuns
import ServiceLib.CooperativeSharedMutexRuns
import ServiceLib.ConfigSubstitutionEnds
import ServiceLib.CallerConfig
import ServiceLib.ConfigMerge
import ServiceLib.ContextHeaders
import ServiceLib.GrpcSender
import ServiceLib.SerdeOrder
import ServiceLib.CommandLine
import ServiceLib.ConfigExpansion
import ServiceLib.SourceEndpointCallbacks
import ServiceLib.HttpClientQueue
import ServiceLib.HttpClientCancel
import ServiceLib.SplitDispatch
import ServiceLib.ContextValues
