import NwbLot.Library.CallbackLedger
import NwbLot.Library.ClosedPaths
import NwbLot.Library.FirstFit
import NwbLot.Library.PodCodec
import NwbLot.Library.IndexLists
import NwbLot.Library.KahnOrder
import NwbLot.Library.FallibleLists
import NwbLot.Library.Region
import NwbLot.Library.Runs
import NwbLot.Library.Spans
import NwbLot.Library.Tallies
import NwbLot.Library.TextSegments
import NwbLot.TaskGraph.CycleDiagnostics
import NwbLot.TaskGraph.HazardSoundness
import NwbLot.TaskGraph.OrderStability
import NwbLot.TaskGraph.ExportContract
import NwbLot.TaskGraph.OwnershipProtocol
import NwbLot.TaskGraph.RangePartitions
import NwbLot.TaskGraph.RouteDamping
import NwbLot.TaskGraph.StateContinuity
import NwbLot.TaskGraph.UavDependency
import NwbLot.PacketRuntime.CallbackContract
import NwbLot.PacketRuntime.TransactionContract
import NwbLot.PacketRuntime.RetryableDiscard
import NwbLot.PacketRuntime.InitialOwnerTokens
import NwbLot.PacketRuntime.StatisticsContract
import NwbLot.Ecs.ComponentStorage
import NwbLot.Ecs.EntityHandles
import NwbLot.Ecs.SystemStages
import NwbLot.Ecs.ViewEnumeration
import NwbLot.Vulkan.SlotReuse
import NwbLot.Vulkan.TextureBarriers
import NwbLot.Vulkan.TimelineContract
import NwbLot.Capture.CaptureRuns
import NwbLot.Telemetry.StreamContract
import NwbLot.Crash.ArchiveContract
import NwbLot.Filesystem.LexicalContract
import NwbLot.GpuTiming.QueryContract
import NwbLot.Textures.UploadContract
import NwbLot.Textures.StagingContract
import NwbLot.Vulkan.UploadSafety
import NwbLot.Alloc.JobContract
import NwbLot.Library.KeyedEntries
import NwbLot.Shader.VariantContract
import NwbLot.Shader.ArchiveContract
import NwbLot.TaskGraph.CalibrationBounds
import NwbLot.Library.MemoryMoves
import NwbLot.Volume.MoveBytes
import NwbLot.Volume.VolumeRuns
import NwbLot.Library.DirectoryTree
import NwbLot.Volume.VolumePromotion
import NwbLot.Metascript.ExactArithmetic
import NwbLot.TaskGraph.PacketStateSeeds
