import SignalPods.Machine.Reach
import SignalPods.Machine.History
import SignalPods.Machine.Registry
import SignalPods.Machine.Ledger
import SignalPods.Machine.Handlers
import SignalPods.Machine.Custody
import SignalPods.Machine.Calls
import SignalPods.Machine.Holders
import SignalPods.Machine.Scopes
import SignalPods.RingRTC.VideoCaptureController
import SignalPods.RingRTC.CameraPrivacy
import SignalPods.RingRTC.Requests
import SignalPods.RingRTC.RequestTracking
import SignalPods.RingRTC.CallContext
import SignalPods.RingRTC.CallManagerAudio
import SignalPods.RingRTC.MicrophoneRequests
import SignalPods.RingRTC.GroupCallData
import SignalPods.RingRTC.GroupCall
import SignalPods.RingRTC.GroupCallWorld
import SignalPods.RingRTC.GroupCallRouting
import SignalPods.RingRTC.GroupCallMute
import SignalPods.RingRTC.RemoteDeviceHistory
import SignalPods.RingRTC.GroupCallConnect
import SignalPods.RingRTC.CallManagerVideo
import SignalPods.RingRTC.VideoRequests
import SignalPods.RingRTC.CallReferences
import SignalPods.RingRTC.ReferenceBalance
import SignalPods.LibSignal.ColdAsyncStream
import SignalPods.LibSignal.PullStream
import SignalPods.LibSignal.CancellationHandoff
import SignalPods.LibSignal.Completer
import SignalPods.LibSignal.AsyncCompletion
import SignalPods.LibSignal.ChatListener
import SignalPods.LibSignal.ListenerOwnership
import SignalPods.LibSignal.FfiStrings
import SignalPods.LibSignal.BytestringArrays
import SignalPods.LibSignal.BorrowUtils
import SignalPods.LibSignal.RegistrationService
import SignalPods.LibSignal.RegistrationSession
import SignalPods.LibSignal.ErrorHandlingContext
import SignalPods.LibSignal.CallbackErrors
import SignalPods.LibSignal.NativeHandleOwner
import SignalPods.LibSignal.HandleCustody
import SignalPods.LibSignal.StoreBoundary
import SignalPods.LibSignal.ReturnConverters
import SignalPods.LibSignal.ReturnConversion
import SignalPods.LibSignal.InMemorySignalProtocolStore
import SignalPods.LibSignal.ProtocolStoreHistory
import SignalPods.LibSignal.ProtocolStoreRefinement
import SignalPods.LibSignal.Net
import SignalPods.LibSignal.ProxySetting
import SignalPods.LibSignal.IoProtocols
import SignalPods.LibSignal.StreamAgreement
import SignalPods.LibSignal.ChatServiceTypes
import SignalPods.LibSignal.ChatResponseHeaders
import SignalPods.Foundation.Strings
import SignalPods.Foundation.Unicode
import SignalPods.Foundation.RegularExpressions
import SignalPods.Foundation.Returns
import SignalPods.Foundation.Objects
import SignalPods.Foundation.Relations
import SignalPods.Foundation.Positional
import SignalPods.BlurHash.Base83
import SignalPods.BlurHash.BlurHash
import SignalPods.PhoneNumber.Metadata
import SignalPods.PhoneNumber.PhoneNumberUtil
import SignalPods.PhoneNumber.Normalization
import SignalPods.PhoneNumber.Parsing
import SignalPods.PhoneNumber.ParsingSafety
import SignalPods.PhoneNumber.NationalPrefix
import SignalPods.PhoneNumber.PhoneContext
import SignalPods.PhoneNumber.RunExpressions
import SignalPods.PhoneNumber.LeadingPlus
import SignalPods.PhoneNumber.RawInput
import SignalPods.PhoneNumber.PlainExpressions
import SignalPods.PhoneNumber.EntryPoints
import SignalPods.PhoneNumber.Matching
import SignalPods.PhoneNumber.MatchingValues
import SignalPods.PhoneNumber.ParsingExceptions
import SignalPods.PhoneNumber.MatchingSymmetry
import SignalPods.Foundation.Decimals
import SignalPods.Foundation.Doubles
import SignalPods.Foundation.Templates
import SignalPods.PhoneNumber.AsYouTypeFormatter
import SignalPods.PhoneNumber.CallingCodes
import SignalPods.PhoneNumber.DigitConservation
import SignalPods.PhoneNumber.DiallingFormats
import SignalPods.PhoneNumber.MobileDialling
import SignalPods.PhoneNumber.OutOfCountry
import SignalPods.PhoneNumber.ErrorVariants
import SignalPods.PhoneNumber.Formatting
import SignalPods.PhoneNumber.NumberLengths
import SignalPods.PhoneNumber.ParsedNumbers
import SignalPods.PhoneNumber.StoredNumbers
import SignalPods.PhoneNumber.EncodedNumbers
import SignalPods.PhoneNumber.ParserExpressions
import SignalPods.PhoneNumber.KeptDigits
import SignalPods.PhoneNumber.RoundTrip
import SignalPods.PhoneNumber.Truncation
import SignalPods.PhoneNumber.DigitScripts
import SignalPods.PhoneNumber.TypedDigits
import SignalPods.PhoneNumber.FormatterFrames
import SignalPods.PhoneNumber.RememberedPosition
import SignalPods.PhoneNumber.FormatterTwins
import SignalPods.PhoneNumber.DeletedDigits
import SignalPods.Foundation.LinearProbing
import SignalPods.Foundation.SearchTrees
import SignalPods.SQLite.Memory
import SignalPods.SQLite.Bitvec
import SignalPods.SQLite.BitvecSets
import SignalPods.SQLite.RowSet
import SignalPods.SQLite.RowSetOrder
import SignalPods.Foundation.IntervalCoding
import SignalPods.WebP.BooleanCoder
import SignalPods.WebP.BooleanWriting
import SignalPods.WebP.BooleanReading
import SignalPods.WebP.ReaderVariants
import SignalPods.Foundation.ProbeChains
import SignalPods.Foundation.Snapshots
import SignalPods.SQLite.WalIndex
import SignalPods.SQLite.WalIndexed
import SignalPods.SQLite.WalLog
import SignalPods.SQLite.WalIterator
import SignalPods.SQLite.WalIteration
import SignalPods.SQLite.WalProtocol
import SignalPods.SQLite.WalSound
import SignalPods.SQLite.WalReaders
import SignalPods.SQLite.WalCheckpoints
import SignalPods.SQLite.WalWriters
import SignalPods.SQLite.WalTransactions
import SignalPods.SQLite.SnapshotIsolation
