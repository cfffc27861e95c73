import TerseSchema.OrderedMap
import TerseSchema.Number.Binary64
import TerseSchema.Number.Decimal
import TerseSchema.Json.Value
import TerseSchema.Json.Printer
import TerseSchema.Json.Reader
import TerseSchema.Text.Blank
import TerseSchema.Text.Lowercase
import TerseSchema.StorageName
import TerseSchema.Column.Size
import TerseSchema.Column.Type
import TerseSchema.Column.Uuid
import TerseSchema.Column.Default
import TerseSchema.Column.Record
import TerseSchema.Schema
import TerseSchema.Descriptor.Basic
import TerseSchema.Descriptor.Slot
import TerseSchema.Compilation.Options
import TerseSchema.Compilation.Warning
import TerseSchema.Compilation.Basic
import TerseSchema.Compilation.File
import TerseSchema.Registry.Database
import TerseSchema.Registry.Table
import TerseSchema.Registry.Basic
import TerseSchema.CommandLine.Arguments
import TerseSchema.CommandLine.Outcome
import TerseSchema.Main
import TerseSchema.Proofs.Column.Merge
import TerseSchema.Proofs.Column.TypeText
import TerseSchema.Proofs.Column.ReadBack
import TerseSchema.Proofs.Compilation.RoundTrip
import TerseSchema.Proofs.Registry.Consistency
import TerseSchema.Proofs.Registry.Loading
import TerseSchema.Proofs.Registry.Init
import TerseSchema.Proofs.Compilation.InPlace
import TerseSchema.Proofs.Compilation.Append
import TerseSchema.Proofs.Column.LeadingNumber
import TerseSchema.Proofs.Compilation.Warnings
import TerseSchema.Proofs.Column.Respelling
import TerseSchema.Proofs.Compilation.FixedPoint
import TerseSchema.Proofs.Column.LastObject
import TerseSchema.Proofs.Column.Canonical
import TerseSchema.Proofs.Compilation.Strict
import TerseSchema.Proofs.Compilation.StorageField
import TerseSchema.Proofs.Compilation.KeysApart
import TerseSchema.Proofs.Compilation.OptionsReach
import TerseSchema.Proofs.Registry.Growth
import TerseSchema.Proofs.Text.Lowercase
import TerseSchema.Proofs.StorageName.Separators
import TerseSchema.Proofs.StorageName.Settled
import TerseSchema.Proofs.StorageName.Underscores
import TerseSchema.Proofs.Compilation.Inline
import TerseSchema.Proofs.Registry.Duplicates
import TerseSchema.Proofs.Compilation.WarnedColumns
import TerseSchema.Proofs.Text.Bytes
import TerseSchema.Proofs.Column.SizeReaders
