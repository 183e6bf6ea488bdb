import RemixBridge.Channel.AtomicCircularQueue
import RemixBridge.Channel.WaitForCommand
import RemixBridge.Channel.NoOverwrite
import RemixBridge.Device.StateBatch
import RemixBridge.Channel.DataQueue
import RemixBridge.Calls.Message
import RemixBridge.Calls.DeviceCall
import RemixBridge.Calls.PresentCall
import RemixBridge.Calls.ResourceCall
import RemixBridge.Calls.RemixCall
import RemixBridge.Channel.BatchedPublish
import RemixBridge.Channel.RoundTrip
import RemixBridge.Objects.RefCounted
import RemixBridge.Objects.ParentTree
import RemixBridge.Channel.CommandHistory
import RemixBridge.Channel.CommandUID
import RemixBridge.Device.Shadow
import RemixBridge.Device.StateBlock
import RemixBridge.Device.Setters
import RemixBridge.Device.Recording
import RemixBridge.Device.Cells
import RemixBridge.Device.ConcurrentSetters
import RemixBridge.Remix.RemixApi
import RemixBridge.Remix.Serialization
import RemixBridge.Remix.RoundTrips
import RemixBridge.Heap.SharedHeap
import RemixBridge.Heap.Allocations
import RemixBridge.Heap.Reuse
import RemixBridge.Channel.RingBounds
import RemixBridge.Channel.PullResult
import RemixBridge.Channel.WrapPrediction
import RemixBridge.Heap.Completeness
import RemixBridge.Device.Covers
import RemixBridge.Device.RecordingIsolation
import RemixBridge.Device.Redundancy
import RemixBridge.Device.Transparency
import RemixBridge.Device.CaptureFlags
import RemixBridge.Device.PendingFlush
import RemixBridge.Channel.CachedPosition
import RemixBridge.Channel.OverwriteStall
import RemixBridge.Remix.ExtensionChain
import RemixBridge.Remix.ExtensionWalk
import RemixBridge.Device.ShaderConstants
import RemixBridge.Image.Layout
import RemixBridge.Image.LockRect
import RemixBridge.Image.Transfer
import RemixBridge.Image.Volume
import RemixBridge.Buffer.LockableBuffer
import RemixBridge.Buffer.ReservedIntegrity
import RemixBridge.Buffer.Transfer
import RemixBridge.Remix.MeshBounds
import RemixBridge.Shader.CommonShader
import RemixBridge.Shader.TokenStream
import RemixBridge.Calls.ModuleCall
import RemixBridge.Image.MipLevels
import RemixBridge.Device.FramePacer
import RemixBridge.Channel.SrwRecursiveLock
import RemixBridge.Remix.HandleMap
import RemixBridge.Device.IndexRange
import RemixBridge.Device.Defaults
import RemixBridge.Heap.AllocateReturns
import RemixBridge.Config.OptionValue
import RemixBridge.Calls.WireAgreement
import RemixBridge.Calls.ResponsePayload
import RemixBridge.Calls.ResponseContract
import RemixBridge.Heap.UniqueIds
import RemixBridge.Device.PresentThrottle
import RemixBridge.Input.WndProc
import RemixBridge.Objects.PrivateData
import RemixBridge.Config.Guid
import RemixBridge.Input.Mouse
import RemixBridge.Input.Keyboard
import RemixBridge.Calls.AdapterQueries
import RemixBridge.Objects.DeviceLifetime
import RemixBridge.Objects.DeviceCounts
import RemixBridge.Objects.DeviceRuns
import RemixBridge.Support.Mailbox
import RemixBridge.Channel.Delivery
import RemixBridge.Calls.RemoteCalls
import RemixBridge.Channel.Session
import RemixBridge.Config.UserConfig
