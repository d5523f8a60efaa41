import CrumbleCracker.Errors
import CrumbleCracker.Wire.Bytes
import CrumbleCracker.Wire.Utf8
import CrumbleCracker.Wire.Encoder
import CrumbleCracker.Wire.Decoder
import CrumbleCracker.Wire.Readers
import CrumbleCracker.Wire.RoundTrip
import CrumbleCracker.Wire.Schema
import CrumbleCracker.Client.Recv
import CrumbleCracker.Client.Threads
import CrumbleCracker.Client.Isolation
import CrumbleCracker.Client.Progress
import CrumbleCracker.Client.Faults
import CrumbleCracker.Backend.Ops
import CrumbleCracker.Backend.Truncation
import CrumbleCracker.Backend.ErrorRecords
import CrumbleCracker.Client.Spawn
import CrumbleCracker.Backend.Sources
import CrumbleCracker.Backend.Lifecycle
import CrumbleCracker.Wrappers.Handles
import CrumbleCracker.Wrappers.Branches
import CrumbleCracker.Hvf.GenConsts
import CrumbleCracker.Digits
import CrumbleCracker.Client.SocketPaths
import CrumbleCracker.Backend.Helpers
import CrumbleCracker.Wrappers.CmdOrder
import CrumbleCracker.Wrappers.FileRead
import CrumbleCracker.Hvf.Literals
import CrumbleCracker.Hvf.Blocks
import CrumbleCracker.Hvf.Meaning
import CrumbleCracker.Hvf.GoText
import CrumbleCracker.Hvf.KernTypes
import CrumbleCracker.Hvf.Generate
