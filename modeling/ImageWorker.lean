import ImageWorker.Broker.Address
import ImageWorker.Broker.Link
import ImageWorker.Broker.SharedLink
import ImageWorker.Broker.StatusPublisher
import ImageWorker.Broker.TimedPublish
import ImageWorker.Decimal.Shortest
import ImageWorker.Disk.FileTree
import ImageWorker.Disk.Path
import ImageWorker.Disk.Staging
import ImageWorker.Failure.ErrorClass
import ImageWorker.Failure.IoClass
import ImageWorker.Failure.IoError
import ImageWorker.Failure.JobError
import ImageWorker.Failure.KeyFault
import ImageWorker.Failure.MediaError
import ImageWorker.Failure.QueueError
import ImageWorker.Failure.StorageError
import ImageWorker.Flow.Clock
import ImageWorker.Flow.FailureStreak
import ImageWorker.Flow.Interleaving
import ImageWorker.Flow.Loop
import ImageWorker.Flow.Program
import ImageWorker.Flow.Race
import ImageWorker.Flow.Retry
import ImageWorker.Flow.Shutdown
import ImageWorker.Image.BitSource
import ImageWorker.Image.Bmp.Decode
import ImageWorker.Image.Bmp.Encode
import ImageWorker.Image.Bmp.RunLengths
import ImageWorker.Image.Checksum
import ImageWorker.Image.DecodeFault
import ImageWorker.Image.Geometry
import ImageWorker.Image.Gif.Decode
import ImageWorker.Image.Gif.Encode
import ImageWorker.Image.Gif.Learned
import ImageWorker.Image.Gif.Palette
import ImageWorker.Image.GrowingCodes
import ImageWorker.Image.Inflate
import ImageWorker.Image.Jpeg.ColorCoding
import ImageWorker.Image.Jpeg.Decode
import ImageWorker.Image.Jpeg.Encode
import ImageWorker.Image.Jpeg.Frequency
import ImageWorker.Image.Jpeg.Header
import ImageWorker.Image.Jpeg.Tables
import ImageWorker.Image.Library
import ImageWorker.Image.Octets
import ImageWorker.Image.Picture
import ImageWorker.Image.Png.Decode
import ImageWorker.Image.Png.Encode
import ImageWorker.Image.Png.Format
import ImageWorker.Image.PrefixCode
import ImageWorker.Image.Raster
import ImageWorker.Image.Recognition
import ImageWorker.Image.Resample
import ImageWorker.Image.Tiff.Decode
import ImageWorker.Image.Tiff.Encode
import ImageWorker.Image.Transformed
import ImageWorker.Image.Transformer
import ImageWorker.Job.Cleanup
import ImageWorker.Job.CleanupTracker
import ImageWorker.Job.Pipeline
import ImageWorker.Job.Resolution
import ImageWorker.Json.Codec
import ImageWorker.Json.Error
import ImageWorker.Json.Number
import ImageWorker.Json.Record
import ImageWorker.Json.Scanner
import ImageWorker.Json.Skip
import ImageWorker.Json.Value
import ImageWorker.Keyed
import ImageWorker.Main
import ImageWorker.Message.Error
import ImageWorker.Message.Job
import ImageWorker.Message.Status
import ImageWorker.Message.Timestamp
import ImageWorker.Message.Transformation
import ImageWorker.Pool.Consumer
import ImageWorker.Pool.Lifecycle
import ImageWorker.Pool.Settings
import ImageWorker.Power
import ImageWorker.Proofs.CleanupAccounts
import ImageWorker.Proofs.CleanupReach
import ImageWorker.Proofs.CleanupSteps
import ImageWorker.Proofs.ClockwiseTurns
import ImageWorker.Proofs.CodecRoundTrip
import ImageWorker.Proofs.Conformance
import ImageWorker.Proofs.ConsumerProtocol
import ImageWorker.Proofs.Containment
import ImageWorker.Proofs.DeliveryHandling
import ImageWorker.Proofs.DestinationKeys
import ImageWorker.Proofs.DirectoryWays
import ImageWorker.Proofs.EnvelopeGrammar
import ImageWorker.Proofs.FileSaving
import ImageWorker.Proofs.FileTreeChanges
import ImageWorker.Proofs.Halting
import ImageWorker.Proofs.HostExhaustion
import ImageWorker.Proofs.JobCargo
import ImageWorker.Proofs.JobCourse
import ImageWorker.Proofs.JobEffects
import ImageWorker.Proofs.JobProgress
import ImageWorker.Proofs.JobStore
import ImageWorker.Proofs.JobTrace
import ImageWorker.Proofs.KeyPaths
import ImageWorker.Proofs.KeySegments
import ImageWorker.Proofs.LinkCustody
import ImageWorker.Proofs.LinkLifecycle
import ImageWorker.Proofs.LinkRenewal
import ImageWorker.Proofs.MessageRoundTrip
import ImageWorker.Proofs.OutageLog
import ImageWorker.Proofs.PathComponents
import ImageWorker.Proofs.PoolCourse
import ImageWorker.Proofs.PoolLifecycle
import ImageWorker.Proofs.PoolLocks
import ImageWorker.Proofs.PoolPhases
import ImageWorker.Proofs.PoolReturn
import ImageWorker.Proofs.ProgramRuns
import ImageWorker.Proofs.PublicUrls
import ImageWorker.Proofs.PublishSteps
import ImageWorker.Proofs.PublisherAttempts
import ImageWorker.Proofs.PublisherCalls
import ImageWorker.Proofs.PublisherHabits
import ImageWorker.Proofs.QueueLists
import ImageWorker.Proofs.Redelivery
import ImageWorker.Proofs.ResultSurvival
import ImageWorker.Proofs.RetryCourse
import ImageWorker.Proofs.ScaledSides
import ImageWorker.Proofs.SharedHistories
import ImageWorker.Proofs.SharedReconnect
import ImageWorker.Proofs.StagingIndependence
import ImageWorker.Proofs.StagingResidue
import ImageWorker.Proofs.StagingRoots
import ImageWorker.Proofs.StoppingJobs
import ImageWorker.Proofs.StorageCall
import ImageWorker.Proofs.TransformationGrammar
import ImageWorker.Rehearsal.Attempts
import ImageWorker.Rehearsal.Cleanups
import ImageWorker.Rehearsal.Home
import ImageWorker.Rehearsal.Jobs
import ImageWorker.Rehearsal.Offline
import ImageWorker.Rehearsal.Scene
import ImageWorker.Rehearsal.Script
import ImageWorker.Report.JobLog
import ImageWorker.Report.Log
import ImageWorker.Report.Metric
import ImageWorker.Report.Note
import ImageWorker.Report.Record
import ImageWorker.Settings.Broker
import ImageWorker.Settings.DotEnv
import ImageWorker.Settings.Environment
import ImageWorker.Settings.Store
import ImageWorker.Settings.Worker
import ImageWorker.Startup.SelfCheck
import ImageWorker.Startup.Service
import ImageWorker.Storage.Client
import ImageWorker.Storage.DestinationKey
import ImageWorker.Storage.ObjectMap
import ImageWorker.Storage.PublicUrl
import ImageWorker.Text.Blank
import ImageWorker.Text.Bytes
import ImageWorker.Text.Count
import ImageWorker.Text.Duration
import ImageWorker.Text.Hidden
import ImageWorker.Text.Quoted
