import ModuleBridge.Text.Blank
import ModuleBridge.Json
import ModuleBridge.Resource
import ModuleBridge.Request
import ModuleBridge.Digest
import ModuleBridge.Change
import ModuleBridge.Filter
import ModuleBridge.Diagnostic
import ModuleBridge.Extraction
import ModuleBridge.Stub
import ModuleBridge.Config.File
import ModuleBridge.Encode
import ModuleBridge.Bridge.Start
import ModuleBridge.Bridge.Load
import ModuleBridge.Bridge.HotUpdate
import ModuleBridge.Bridge.Batch
import ModuleBridge.Script
import ModuleBridge.Main
import ModuleBridge.Proofs.Record.Coherence
import ModuleBridge.Proofs.Record.History
import ModuleBridge.Proofs.Bridge.Work
import ModuleBridge.Proofs.Bridge.Arrivals
import ModuleBridge.Proofs.Bridge.Settling
import ModuleBridge.Proofs.Bridge.Evolution
import ModuleBridge.Proofs.Bridge.Builds
import ModuleBridge.Proofs.Bridge.Serving
import ModuleBridge.Proofs.Bridge.Quiet
import ModuleBridge.Proofs.Bridge.Answers
import ModuleBridge.Proofs.Bridge.Dealings
import ModuleBridge.Proofs.Bridge.Staleness
import ModuleBridge.Proofs.Bridge.Refusals
import ModuleBridge.Proofs.Bridge.Intakes
import ModuleBridge.Proofs.Rings
import ModuleBridge.Proofs.Bridge.Calls
import ModuleBridge.Proofs.Bridge.Imports
import ModuleBridge.Proofs.Bridge.Walks
import ModuleBridge.Proofs.Bridge.Reach
import ModuleBridge.Proofs.Bridge.Jobs
import ModuleBridge.Proofs.Bridge.Privacy
import ModuleBridge.Proofs.Path
import ModuleBridge.Proofs.Disk
import ModuleBridge.Proofs.Graph
import ModuleBridge.Proofs.Bridge.Influx
import ModuleBridge.Proofs.Bridge.Outcomes
import ModuleBridge.Proofs.Bridge.Chronicle
import ModuleBridge.Proofs.Bridge.Slots
import ModuleBridge.Proofs.Bridge.Reuse
import ModuleBridge.Proofs.Bridge.Importers
import ModuleBridge.Proofs.Bridge.ModuleKeys
import ModuleBridge.Proofs.Percent
import ModuleBridge.Proofs.Tags
import ModuleBridge.Proofs.Bridge.Asides
import ModuleBridge.Proofs.Bridge.Declarations
import ModuleBridge.Proofs.Bridge.Watcher
import ModuleBridge.Proofs.Bridge.Retries
import ModuleBridge.Proofs.Bridge.Upkeep
import ModuleBridge.Proofs.Bridge.Exits
import ModuleBridge.Proofs.Creations
import ModuleBridge.Proofs.Bridge.Keys
import ModuleBridge.Proofs.Bridge.Listings
import ModuleBridge.Proofs.Bridge.Analyses
import ModuleBridge.Proofs.Windows
import ModuleBridge.Proofs.Bridge.Batches
import ModuleBridge.Proofs.Debouncer.Runs
import ModuleBridge.Proofs.Debouncer.Timing
import ModuleBridge.Proofs.Debouncer.Existence
import ModuleBridge.Proofs.Sections
import ModuleBridge.Proofs.Layout
import ModuleBridge.Proofs.Bridge.Reformatting
import ModuleBridge.Proofs.Edits
import ModuleBridge.Proofs.Queries
import ModuleBridge.Proofs.Escapes
import ModuleBridge.Proofs.Writes
import ModuleBridge.Proofs.Formation
import ModuleBridge.Proofs.Cleaning
import ModuleBridge.Proofs.Literals
import ModuleBridge.Proofs.Bridge.Ownership
import ModuleBridge.Proofs.Contexts
import ModuleBridge.Proofs.Bridge.Folders
import ModuleBridge.Proofs.Bridge.Releases
import ModuleBridge.Proofs.Configurations
import ModuleBridge.Proofs.Bridge.Starting
import ModuleBridge.Proofs.Bridge.Indexing
import ModuleBridge.Proofs.Bridge.Enlisting
import ModuleBridge.Proofs.Bridge.Independence
import ModuleBridge.Proofs.Bridge.Emptiness
import ModuleBridge.Proofs.Extractions
import ModuleBridge.Proofs.StatusBlock
import ModuleBridge.Proofs.LanguageFiles
