import NetworkLantern.Lib.Act
import NetworkLantern.Lib.Checks
import NetworkLantern.Lib.Text
import NetworkLantern.Lib.Digits
import NetworkLantern.Lib.Utf16
import NetworkLantern.Lib.Lines
import NetworkLantern.Lib.Xml
import NetworkLantern.Lib.XmlScan
import NetworkLantern.Lib.Csv
import NetworkLantern.Lib.CsvScan
import NetworkLantern.Lib.Runs
import NetworkLantern.Lib.Table
import NetworkLantern.Lib.Spends
import NetworkLantern.Lib.Timed
import NetworkLantern.Lib.Entries
import NetworkLantern.Lib.Blocks
import NetworkLantern.Lib.Cursor
import NetworkLantern.Lib.SeenRing
import NetworkLantern.Lib.Checked
import NetworkLantern.Lib.Lossy
import NetworkLantern.Lib.Json
import NetworkLantern.Lib.JsonSize
import NetworkLantern.Lib.JsonPretty
import NetworkLantern.Lib.JsonReread
import NetworkLantern.Lib.Serde
import NetworkLantern.Lib.ParseFloat
import NetworkLantern.Lib.HalfEven
import NetworkLantern.Lib.Binary64
import NetworkLantern.Lib.Ipv6Text
import NetworkLantern.Lib.Dialogue
import NetworkLantern.Throughput.Config
import NetworkLantern.Throughput.Plan
import NetworkLantern.Throughput.PlanCount
import NetworkLantern.Throughput.Enumeration
import NetworkLantern.Throughput.Executable
import NetworkLantern.Throughput.Failure
import NetworkLantern.Throughput.Datagrams
import NetworkLantern.Throughput.Streams
import NetworkLantern.Throughput.Pacer
import NetworkLantern.Throughput.Metrics
import NetworkLantern.Throughput.ResultSound
import NetworkLantern.Throughput.Retarget
import NetworkLantern.Path.Types
import NetworkLantern.Path.Basic
import NetworkLantern.Path.Trace
import NetworkLantern.Path.Totals
import NetworkLantern.Lib.RunningMean
import NetworkLantern.Lib.FirstSeen
import NetworkLantern.Lib.Spaced
import NetworkLantern.Path.Settings
import NetworkLantern.Path.Identity
import NetworkLantern.Path.Pacing
import NetworkLantern.Packet.Checksum
import NetworkLantern.Packet.Types
import NetworkLantern.Packet.Parse
import NetworkLantern.Packet.Safety
import NetworkLantern.Packet.Headers
import NetworkLantern.Packet.Framing
import NetworkLantern.Packet.Build
import NetworkLantern.Packet.Quote
import NetworkLantern.Packet.QuoteSound
import NetworkLantern.Packet.IcmpFraming
import NetworkLantern.Packet.Mpls
import NetworkLantern.Lib.OnesComplement
import NetworkLantern.Packet.ChecksumSound
import NetworkLantern.Lib.Collected
import NetworkLantern.Throughput.Control
import NetworkLantern.Throughput.Loops
import NetworkLantern.Throughput.Conversation
import NetworkLantern.Throughput.Completion
import NetworkLantern.Path.Cycles
import NetworkLantern.Path.CycleAccounting
import NetworkLantern.Path.CadenceRuns
import NetworkLantern.Path.Statistics
import NetworkLantern.Path.HopAccumulator
import NetworkLantern.Path.HopStatistics
import NetworkLantern.Path.ErrorText
import NetworkLantern.Path.Diagnostics
import NetworkLantern.Path.Dns
import NetworkLantern.Tuning.Types
import NetworkLantern.Tuning.Plan
import NetworkLantern.Tuning.Canonical
import NetworkLantern.Tuning.QosPolicy
import NetworkLantern.Tuning.AdapterCsv
import NetworkLantern.Tuning.NicRoundTrip
import NetworkLantern.Tuning.Manifest
import NetworkLantern.Tuning.Machine
import NetworkLantern.Tuning.PlainEnv
import NetworkLantern.Tuning.Effects
import NetworkLantern.Tuning.QosXml
import NetworkLantern.Tuning.QosRoundTrip
import NetworkLantern.Tuning.DesiredQos
import NetworkLantern.Tuning.DesiredArtifact
import NetworkLantern.Tuning.Reconcile
import NetworkLantern.Tuning.ReconcileRuns
import NetworkLantern.Tuning.ReconcileRollback
import NetworkLantern.Tuning.RegFile
import NetworkLantern.Tuning.RegRoundTrip
import NetworkLantern.Tuning.Registry
import NetworkLantern.Tuning.Adapters
import NetworkLantern.Tuning.Bundle
import NetworkLantern.Tuning.Contents
import NetworkLantern.Tuning.SecurityDescriptor
import NetworkLantern.Tuning.Publication
import NetworkLantern.Tuning.PublicationErrors
import NetworkLantern.Tuning.Backup
import NetworkLantern.Tuning.Restore
import NetworkLantern.Tuning.Execute
import NetworkLantern.Tuning.ApplyRuns
import NetworkLantern.Tuning.Recovery
import NetworkLantern.Tuning.Unmanaged
import NetworkLantern.Tuning.VerifyApplied
import NetworkLantern.Tuning.ReadBack
import NetworkLantern.Runtime.Contracts
import NetworkLantern.Runtime.Layers
import NetworkLantern.Runtime.PathConfig
import NetworkLantern.Runtime.Spelling
import NetworkLantern.Runtime.SpellingExact
import NetworkLantern.Runtime.Request
import NetworkLantern.Runtime.Workflow
import NetworkLantern.Runtime.Application
import NetworkLantern.Runtime.Replan
import NetworkLantern.Runtime.Execution
import NetworkLantern.Runtime.TraceRuns
import NetworkLantern.Runtime.Measurements
import NetworkLantern.Runtime.Accounting
import NetworkLantern.Runtime.Warnings
import NetworkLantern.Runtime.Saturation
import NetworkLantern.Runtime.AtomicFile
import NetworkLantern.Runtime.Published
import NetworkLantern.Runtime.Manager
import NetworkLantern.Runtime.Worker
import NetworkLantern.Runtime.Reports
import NetworkLantern.Runtime.Paging
import NetworkLantern.Runtime.CsvPages
import NetworkLantern.Runtime.Exchange
import NetworkLantern.Runtime.ThroughputRetry
import NetworkLantern.Helper.Types
import NetworkLantern.Helper.Protocol
import NetworkLantern.Helper.Request
import NetworkLantern.Helper.Planned
import NetworkLantern.Helper.Replay
import NetworkLantern.Helper.Admission
import NetworkLantern.Helper.Service
import NetworkLantern.Helper.Transport
import NetworkLantern.Runtime.ProfileRuns
import NetworkLantern.Lib.Waiting
import NetworkLantern.Path.Answers
import NetworkLantern.Path.TracedPath
