import KeyNotation.Casing.Sign
import KeyNotation.Join.Steps
import KeyNotation.Json.Codec
import KeyNotation.Json.Normalize
import KeyNotation.Json.Reader
import KeyNotation.Json.Writer
import KeyNotation.Toggles.Discovery
import KeyNotation.Proofs.Ending
import KeyNotation.Proofs.Relation.LongestSuffix
import KeyNotation.Proofs.Clause.RoundTrip
import KeyNotation.Proofs.Json.Normalize
import KeyNotation.Proofs.Casing.Signs
import KeyNotation.Proofs.KeyFormat.Signs
import KeyNotation.Proofs.KeyPolicy.Settled
import KeyNotation.Proofs.Json.NormalForm
import KeyNotation.Proofs.Json.Settling
import KeyNotation.Proofs.Json.Shape
import KeyNotation.Proofs.Json.Reading
import KeyNotation.Proofs.Join.Run
import KeyNotation.Proofs.Json.Agreement
import KeyNotation.Proofs.Join.Pushing
import KeyNotation.Proofs.Json.Restated
import KeyNotation.Proofs.Json.Decoding
import KeyNotation.Proofs.Clause.Formatted
import KeyNotation.Proofs.Join.Created
import KeyNotation.Proofs.TableKey.Longest
import KeyNotation.Proofs.Reference
import KeyNotation.Proofs.Clause.Faults
import KeyNotation.Proofs.KeyFormat.LastDivider
import KeyNotation.Proofs.KeyFormat.FirstCharacter
import KeyNotation.Proofs.Words.Camel
import KeyNotation.Proofs.Words.Parting
import KeyNotation.Proofs.KeyPolicy.VariableName
