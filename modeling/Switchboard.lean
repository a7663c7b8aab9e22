import Switchboard.Main
import Switchboard.Rehearsal.Bench
import Switchboard.Sink
import Switchboard.Proofs.Course
import Switchboard.Proofs.Watch
import Switchboard.Proofs.Stages
import Switchboard.Proofs.UsageErrors
import Switchboard.Proofs.Json.Atoms
import Switchboard.Proofs.Json.Control
import Switchboard.Proofs.Json.Reading
import Switchboard.Proofs.Literal.Lexemes
import Switchboard.Proofs.Literal.Loosening
import Switchboard.Proofs.Literal.TwoReadings
import Switchboard.Proofs.Literal.Pieces
import Switchboard.Proofs.Literal.Composition
import Switchboard.Proofs.Literal.Agreement
import Switchboard.Proofs.Literal.Spelling
import Switchboard.Proofs.Literal.Decoding
import Switchboard.Proofs.Encoding
import Switchboard.Proofs.Literal.Radix
import Switchboard.Proofs.Literal.Brackets
import Switchboard.Proofs.Registries
import Switchboard.Proofs.Inheritance
import Switchboard.Proofs.Detection
import Switchboard.Proofs.Json.Strings
import Switchboard.Proofs.Literal.Escapes
import Switchboard.Proofs.CommandLine.Given
import Switchboard.Proofs.CommandLine.Values
import Switchboard.Proofs.CommandLine.Fronts
import Switchboard.Proofs.CommandLine.Veil
import Switchboard.Proofs.Parameters
import Switchboard.Proofs.Dispatch
import Switchboard.Proofs.Device.Requests
import Switchboard.Proofs.Strategies
import Switchboard.Proofs.Recovery
import Switchboard.Proofs.Template.Concatenation
import Switchboard.Proofs.Announcement
import Switchboard.Proofs.Device.PlugRecord
import Switchboard.Proofs.MachineReadable
import Switchboard.Proofs.Device.RawRequests
import Switchboard.Proofs.Hearing
import Switchboard.Proofs.BrokenSinks
import Switchboard.Proofs.OutputOnly
import Switchboard.Proofs.ExitCodes
import Switchboard.Proofs.Secrecy
import Switchboard.Proofs.Layout
import Switchboard.Proofs.RunningOnce
import Switchboard.Proofs.Device.PropertyStore
import Switchboard.Proofs.Device.Identity
import Switchboard.Proofs.ArgumentChanges
import Switchboard.Proofs.TextOutput
import Switchboard.Proofs.TableColumns
import Switchboard.Proofs.Choices
import Switchboard.Proofs.Numerals
import Switchboard.Proofs.ParameterKinds
import Switchboard.Proofs.Declarations
import Switchboard.Proofs.Catalogs
import Switchboard.Proofs.Settings
