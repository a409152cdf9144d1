import SpanIntake.Collector.Grpc
import SpanIntake.Delivery.Sink
import SpanIntake.Intake.ToThrift
import SpanIntake.Main
import SpanIntake.Proofs.Collector.Runs
import SpanIntake.Proofs.Intake.Agreement
import SpanIntake.Proofs.Intake.Provenance
import SpanIntake.Proofs.Intake.Sifting
import SpanIntake.Proofs.Intake.Unchanged
import SpanIntake.Proofs.Otlp.TimeOrder
import SpanIntake.Proofs.Thrift.Canonical
import SpanIntake.Proofs.Thrift.Truncation
import SpanIntake.Proofs.Thrift.UnknownFields
import SpanIntake.Sample
import SpanIntake.Proofs.Protobuf.Reading
import SpanIntake.Proofs.Protobuf.RoundTrip
import SpanIntake.Proofs.Decimal.Digits
import SpanIntake.Proofs.Time.Calendar
import SpanIntake.Proofs.Time.Rfc3339
import SpanIntake.Proofs.Json.Numeral
import SpanIntake.Proofs.Json.Reading
import SpanIntake.Proofs.Trace.JsonForm
import SpanIntake.Proofs.Report.Json
import SpanIntake.Proofs.Otlp.Keys
import SpanIntake.Proofs.Otlp.Links
import SpanIntake.Proofs.Intake.Demands
import SpanIntake.Proofs.Intake.Refusal
import SpanIntake.Proofs.Keyed.Last
import SpanIntake.Proofs.Thrift.FieldOrder
import SpanIntake.Proofs.Intake.LastTag
import SpanIntake.Proofs.Trace.Partition
import SpanIntake.Proofs.Trace.DecimalCode
import SpanIntake.Proofs.Intake.UnknownType
import SpanIntake.Proofs.Trace.JsonTypes
import SpanIntake.Proofs.Report.Lines
import SpanIntake.Proofs.Config.HeaderGrammar
import SpanIntake.Proofs.Config.Layering
import SpanIntake.Proofs.Forward.Deadline
import SpanIntake.Proofs.Report.Colours
import SpanIntake.Proofs.Trace.Identifiers
import SpanIntake.Proofs.Collector.Deadlines
import SpanIntake.Proofs.Thrift.ElementType
import SpanIntake.Proofs.Thrift.Progress
