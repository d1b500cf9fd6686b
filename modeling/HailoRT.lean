import HailoRT.Common
import HailoRT.Hef.Action
import HailoRT.Hef.Runs
import HailoRT.Hef.RepeatedActions
import HailoRT.Hef.FetchConfig
import HailoRT.Hef.EdgeLayerActivation
import HailoRT.Hef.ContextRecipes
import HailoRT.ContextSwitch.Actions
import HailoRT.StreamCommon.QueuedStreamBufferPool
import HailoRT.Vdma.CircularStreamBufferPool
import HailoRT.Hef.CcwWrites
import HailoRT.Hef.NnStreamConfig
import HailoRT.Hef.LayerInfo
import HailoRT.Hef.DdrPairs
import HailoRT.Hef.CcwBuffer
import HailoRT.ContextSwitch.EdgeLayerLookup
import HailoRT.Hef.EdgeLayerMapping
import HailoRT.StreamCommon.TransferBuffer
import HailoRT.Hef.AllLayersInfo
import HailoRT.Hef.LastCcwWrite
import HailoRT.Hef.StreamNames
import HailoRT.ThreadSafeQueue
import HailoRT.Hef.NetworkGroups
import HailoRT.Hef.OriginalNames
import HailoRT.ContextSwitch.HcpConfigManager
import HailoRT.Status
import HailoRT.Vdevice.MultiplexerWrapper
import HailoRT.Pipeline.VStream
