import FlowGuard.Address
import FlowGuard.Code.Captured
import FlowGuard.Code.Dialogue
import FlowGuard.Code.HashLoad
import FlowGuard.Code.Snapshot
import FlowGuard.CommandLine.Arguments
import FlowGuard.CommandLine.Run
import FlowGuard.Folder
import FlowGuard.Guard.Entry
import FlowGuard.Guard.Table
import FlowGuard.Header.Error
import FlowGuard.Header.GuardBlock
import FlowGuard.Host.Annotations
import FlowGuard.Host.Basic
import FlowGuard.Host.Debugger
import FlowGuard.Host.Module
import FlowGuard.Image.Bytes
import FlowGuard.Image.Error
import FlowGuard.Image.Exports
import FlowGuard.Image.Foreign.Coff
import FlowGuard.Image.Foreign.Elf
import FlowGuard.Image.Foreign.MachO
import FlowGuard.Image.Foreign.Xcoff
import FlowGuard.Image.Format
import FlowGuard.Image.Load
import FlowGuard.Image.Machine
import FlowGuard.Image.Specimen
import FlowGuard.Image.Symbols
import FlowGuard.Json.Basic
import FlowGuard.Json.Codec
import FlowGuard.Json.Parser
import FlowGuard.Json.Printer
import FlowGuard.LittleEndian
import FlowGuard.Main
import FlowGuard.Memory.Basic
import FlowGuard.Memory.Cursor
import FlowGuard.Memory.Error
import FlowGuard.Memory.Page
import FlowGuard.Plugin.Command
import FlowGuard.Plugin.Menu
import FlowGuard.Proofs.Captured
import FlowGuard.Proofs.Memory.Bytes
import FlowGuard.Proofs.Correlation
import FlowGuard.Proofs.HashIndex
import FlowGuard.Proofs.HashLoad
import FlowGuard.Proofs.Header
import FlowGuard.Proofs.LittleEndian
import FlowGuard.Proofs.Requests
import FlowGuard.Proofs.Runs
import FlowGuard.Proofs.Snapshot
import FlowGuard.Proofs.Table
import FlowGuard.Run.Codecs
import FlowGuard.Run.Correlation
import FlowGuard.Run.Error
import FlowGuard.Run.Event
import FlowGuard.Run.HashIndex
import FlowGuard.Run.Marker
import FlowGuard.Run.Naming
import FlowGuard.Run.Result
import FlowGuard.Settings.Config
import FlowGuard.Settings.File
import FlowGuard.Settings.Store
import FlowGuard.Symbol.CratePath
import FlowGuard.Symbol.CratePath.Hashed
import FlowGuard.Symbol.CratePath.Punycode
import FlowGuard.Symbol.CratePath.Scan
import FlowGuard.Symbol.CratePath.Sheet
import FlowGuard.Symbol.CratePath.Spelling
import FlowGuard.Symbol.CratePath.Tree
import FlowGuard.Symbol.Decorated
import FlowGuard.Symbol.Decorated.Letters
import FlowGuard.Symbol.Decorated.Reader
import FlowGuard.Symbol.Decorated.Spelling
import FlowGuard.Symbol.Itanium
import FlowGuard.Symbol.Itanium.Grammar
import FlowGuard.Symbol.Itanium.Printer
import FlowGuard.Symbol.Itanium.Reader
import FlowGuard.Symbol.Itanium.Syntax
import FlowGuard.Symbol.Name
import FlowGuard.Text.Utf8
import FlowGuard.Text.Visible
import FlowGuard.Width
import FlowGuard.Proofs.Marker
import FlowGuard.Proofs.Failure
import FlowGuard.Proofs.Annotations
import FlowGuard.Proofs.Memory.Update
import FlowGuard.Proofs.Patches
import FlowGuard.Proofs.Specimen.Layout
import FlowGuard.Proofs.Specimen.Mapped
import FlowGuard.Proofs.Specimen.Calls
import FlowGuard.Proofs.Specimen.Guard
import FlowGuard.Proofs.Specimen.Parse
import FlowGuard.Proofs.Specimen.Load
import FlowGuard.Proofs.Names
import FlowGuard.Proofs.Offline
import FlowGuard.Proofs.Specimen.Code
import FlowGuard.Proofs.Memory.Flat
import FlowGuard.Proofs.Effects
import FlowGuard.Proofs.Footprint
import FlowGuard.Proofs.Accounting
import FlowGuard.Proofs.Rerun
import FlowGuard.Proofs.Switches
import FlowGuard.Proofs.Log
import FlowGuard.Proofs.ReadRefinement
import FlowGuard.Proofs.Degradation
import FlowGuard.Proofs.Granularity
import FlowGuard.Proofs.Shift
import FlowGuard.Proofs.Specimen.Rebase
import FlowGuard.Proofs.Json.Literals
import FlowGuard.Proofs.Json.RoundTrip
import FlowGuard.Proofs.SettingsFile
import FlowGuard.Proofs.Menu
import FlowGuard.Proofs.Scan
import FlowGuard.Proofs.Lookup
import FlowGuard.Proofs.Partition
import FlowGuard.Proofs.Containment
import FlowGuard.Proofs.Recomputation
import FlowGuard.Proofs.TableOrder
import FlowGuard.Proofs.HeaderBlocks
import FlowGuard.Proofs.SectionMapping
import FlowGuard.Proofs.Summary
import FlowGuard.Proofs.SymbolNames
import FlowGuard.Proofs.Codecs
import FlowGuard.Proofs.Coverage
