import SadLayer.Status
import SadLayer.HandleTable
import SadLayer.HandleEffects
import SadLayer.Library.Tally
import SadLayer.HandleLedger
import SadLayer.HandleDestruction
import SadLayer.Library.BitFields
import SadLayer.HandleTokens
import SadLayer.Library.Bytes
import SadLayer.Pe
import SadLayer.Loader
import SadLayer.Module
import SadLayer.ModuleRegistry
import SadLayer.ForwarderGrammar
import SadLayer.Library.Walk
import SadLayer.PeFacts
import SadLayer.SymbolResolution
import SadLayer.ImageViews
import SadLayer.ParsedMapping
import SadLayer.ExportLookups
import SadLayer.ImportBinding
import SadLayer.Relocation
import SadLayer.RelocationPaths
import SadLayer.Library.Segments
import SadLayer.Library.Utf
import SadLayer.Search
import SadLayer.SearchPaths
import SadLayer.Library.Wildcard
import SadLayer.Wildcards
import SadLayer.FindEnumeration
import SadLayer.PrologueUnwinding
import SadLayer.HandlerUnwind
import SadLayer.Transcoding
import SadLayer.LossyTranscoding
import SadLayer.SizeQueries
import SadLayer.CodePageRoundTrips
import SadLayer.WorkerAgreement
import SadLayer.CloneSnapshots
import SadLayer.ImageSealing
import SadLayer.LocalFreshness
import SadLayer.ProcAddress
import SadLayer.SpaceAdoption
import SadLayer.EpilogueCuts
import SadLayer.SplitFunctions
import SadLayer.CodeWalks
import SadLayer.DeclaredEpilogues
import SadLayer.SpaceLifecycle
import SadLayer.ReferenceAccounting
import SadLayer.FunctionLookup
import SadLayer.ImportCursors
import SadLayer.EnvironmentBlocks
import SadLayer.RestoredRegisters
import SadLayer.AlignedReservations
import SadLayer.EpilogueRanges
import SadLayer.UnwindFailures
import SadLayer.UnwindAnswers
import SadLayer.ValidatedUnwinds
import SadLayer.Filetimes
import SadLayer.Library.Blocks
import SadLayer.Heap
import SadLayer.HeapContents
import SadLayer.HeapRefinement
import SadLayer.HeapLedger
import SadLayer.Files
import SadLayer.ObjectHolders
import SadLayer.KernelObjects
import SadLayer.ObjectLifetimes
import SadLayer.ObjectOrigins
import SadLayer.Library.Directories
import SadLayer.SearchDirectories
import SadLayer.Library.Fields
import SadLayer.WorkerWire
import SadLayer.WorkerSupervision
import SadLayer.WorkerVerdicts
import SadLayer.FileCalls
import SadLayer.RunnableImages
import SadLayer.ModuleNames
import SadLayer.ModuleHandles
import SadLayer.CommandLine
import SadLayer.Locale
import SadLayer.EnvironmentList
import SadLayer.EnvironmentListSteps
import SadLayer.EnvironmentListRuns
import SadLayer.WorkerResources
