import VFlow.Base.Loop
import VFlow.Base.Cursor
import VFlow.Base.BigEndian
import VFlow.Base.Fnv
import VFlow.Base.Runs
import VFlow.Base.Chan
import VFlow.Base.Goroutines
import VFlow.Base.Ledger
import VFlow.Base.Json
import VFlow.Base.JsonText
import VFlow.Base.JsonNumber
import VFlow.Base.JsonPrint
import VFlow.Base.JsonCut
import VFlow.Base.Registry
import VFlow.Base.Passes
import VFlow.Base.Cut
import VFlow.Base.Buffer
import VFlow.Net
import VFlow.Error
import VFlow.Reader
import VFlow.Wire
import VFlow.MemCache
import VFlow.InfoModel
import VFlow.RecordLoop
import VFlow.SetLoop
import VFlow.Packet
import VFlow.Ipfix.Decoder
import VFlow.Ipfix.Records
import VFlow.Ipfix.Set
import VFlow.Ipfix.Message
import VFlow.Ipfix.Fields
import VFlow.Ipfix.Lookup
import VFlow.Ipfix.Termination
import VFlow.Ipfix.Framing
import VFlow.Ipfix.Walk
import VFlow.Ipfix.Wire
import VFlow.Ipfix.Collector
import VFlow.Ipfix.Skipping
import VFlow.Ipfix.RoundTrip
import VFlow.Ipfix.Padding
import VFlow.Ipfix.Grammar
import VFlow.Ipfix.Containment
import VFlow.Netflow9.Decoder
import VFlow.Netflow9.Records
import VFlow.Netflow9.Set
import VFlow.Netflow9.Packet
import VFlow.Netflow9.Fields
import VFlow.Netflow9.Lookup
import VFlow.Netflow9.Termination
import VFlow.Netflow9.Framing
import VFlow.Netflow9.Templates
import VFlow.Netflow9.Wire
import VFlow.Netflow9.Collector
import VFlow.Netflow9.RoundTrip
import VFlow.Progress
import VFlow.Marshal
import VFlow.Ipfix.Identity
import VFlow.Printed
import VFlow.MarshalJson
import VFlow.Published
import VFlow.Integers
import VFlow.Elements
import VFlow.Consumer.ClickHouse
import VFlow.Consumer.Accepts
import VFlow.Consumer.Rows
import VFlow.CacheFile
import VFlow.Codec
import VFlow.CacheDump
import VFlow.Discovery
import VFlow.FatalErrors
import VFlow.ShortRecords
import VFlow.Options
import VFlow.Isolation
import VFlow.Ipfix.Templates
import VFlow.Domains
import VFlow.Ipfix.Worker
import VFlow.Ipfix.Undisturbed
import VFlow.Netflow9.Worker
import VFlow.Ipfix.Cluster
import VFlow.Ipfix.Peers
import VFlow.Ipfix.Provenance
import VFlow.Ipfix.Refresh
import VFlow.Producer.Kafka
import VFlow.Producer.RawSocket
import VFlow.Daemon.Shutdown
import VFlow.Daemon.IPFIX
import VFlow.Daemon.Refinement
import VFlow.Daemon.Dispatcher
import VFlow.Daemon.DynWorkers
import VFlow.Daemon.Custody
import VFlow.Daemon.Pipeline
import VFlow.Daemon.Texts
import VFlow.Daemon.Copies
import VFlow.Daemon.Accounting
import VFlow.Daemon.Services
import VFlow.Daemon.Status
import VFlow.Sflow.Packet
import VFlow.Sflow.Reader
import VFlow.Sflow.Records
import VFlow.Sflow.Flow
import VFlow.Sflow.Counter
import VFlow.Sflow.Decoder
import VFlow.Sflow.Work
import VFlow.Sflow.Panics
import VFlow.Sflow.Framing
import VFlow.Sflow.Wire
import VFlow.Sflow.Values
import VFlow.Sflow.RoundTrip
import VFlow.Sflow.Expanded
import VFlow.Sflow.Bounds
import VFlow.Sflow.Tags
import VFlow.Sflow.Headers
import VFlow.Sflow.Layers
import VFlow.Sflow.Verdicts
import VFlow.Sflow.Truncation
import VFlow.Sflow.Filter
import VFlow.Sflow.Marshal
import VFlow.Sflow.Independent
import VFlow.Mirror.Exchanger
import VFlow.Mirror.Reencode
import VFlow.Mirror.Delivery
import VFlow.Mirror.Rules
import VFlow.Mirror.Raw
import VFlow.Mirror.RawPackets
import VFlow.Monitor.Store
import VFlow.Monitor.Rates
import VFlow.Monitor.Watch
import VFlow.Exporter
