import DocFilter.Field
import DocFilter.Json.Settings
import DocFilter.Json.Query
import DocFilter.Settings.Log
import DocFilter.Proofs.Reading
import DocFilter.Proofs.Equality
import DocFilter.Proofs.Rereading
import DocFilter.Proofs.RoundTrip
import DocFilter.Proofs.Compiled
import DocFilter.Proofs.SpelledOut
import DocFilter.Proofs.Congruence
import DocFilter.Proofs.OperatorForm
import DocFilter.Proofs.Containers
import DocFilter.Proofs.PrefixCode
import DocFilter.Proofs.EqualDocuments
import DocFilter.Proofs.EqualReadings
import DocFilter.Proofs.Order
import DocFilter.Proofs.Operands
import DocFilter.Proofs.Parts
import DocFilter.Proofs.NormalForm
import DocFilter.Proofs.Configurations
import DocFilter.Proofs.JsonText
import DocFilter.Proofs.JsonValues
import DocFilter.Proofs.JsonQueries
import DocFilter.Proofs.DepthLimit
import DocFilter.Proofs.Resumption
import DocFilter.Proofs.Fallbacks
import DocFilter.Proofs.PatternOptions
import DocFilter.Proofs.GeometryEquality
import DocFilter.Proofs.ListShape
import DocFilter.Proofs.Rings
import DocFilter.Proofs.Lookup
import DocFilter.Proofs.ByteSequences
import DocFilter.Proofs.CompiledKeys
import DocFilter.Proofs.Elements
