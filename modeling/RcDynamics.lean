import RcDynamics.Effect
import RcDynamics.Budget
import RcDynamics.Words
import RcDynamics.Cursor
import RcDynamics.CellList
import RcDynamics.Pattern
import RcDynamics.Rounding
import RcDynamics.Retry
import RcDynamics.Ledger
import RcDynamics.Decimal
import RcDynamics.Masks
import RcDynamics.Checked
import RcDynamics.Utf8
import RcDynamics.CommandLine
import RcDynamics.CsvReader
import RcDynamics.Exception
import RcDynamics.Json
import RcDynamics.NetUtils
import RcDynamics.Addresses
import RcDynamics.Protobuf
import RcDynamics.System
import RcDynamics.Http
import RcDynamics.Firmware
import RcDynamics.DataReceiver
import RcDynamics.Trajectory
import RcDynamics.TimeSpecifications
import RcDynamics.RemoteInterface
import RcDynamics.Device
import RcDynamics.Documents
import RcDynamics.Reads
import RcDynamics.Calls
import RcDynamics.Services
import RcDynamics.Initialisation
import RcDynamics.Destinations
import RcDynamics.Frames
import RcDynamics.Session
import RcDynamics.Moves
import RcDynamics.Tracking
import RcDynamics.CleanUp
import RcDynamics.Leaks
import RcDynamics.Receivers
import RcDynamics.FirstMessage
import RcDynamics.Ports
import RcDynamics.Sockets
import RcDynamics.Decoders
import RcDynamics.Description
import RcDynamics.Consistency
import RcDynamics.Versions
import RcDynamics.Csv
import RcDynamics.Recording
import RcDynamics.Datagrams
import RcDynamics.Rendering
import RcDynamics.Retries
import RcDynamics.Iteration
import RcDynamics.Serializer
import RcDynamics.Lexer
import RcDynamics.JsonText
import RcDynamics.Parser
import RcDynamics.Escapes
import RcDynamics.Strings
import RcDynamics.ScanNumber
import RcDynamics.Numerals
import RcDynamics.Grammar
import RcDynamics.Acceptance
import RcDynamics.RoundTrip
import RcDynamics.Canonical
import RcDynamics.Transcripts
import RcDynamics.Scripts
import RcDynamics.Bodies
import RcDynamics.Fleet
import RcDynamics.Footprints
import RcDynamics.Programs
import RcDynamics.StreamTool
import RcDynamics.StreamServices
import RcDynamics.StreamCleanUp
import RcDynamics.Listening
import RcDynamics.StreamRecording
import RcDynamics.Fuel
import RcDynamics.StreamEndings
