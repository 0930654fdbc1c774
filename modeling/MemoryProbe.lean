import MemoryProbe.Main
import MemoryProbe.Proofs.CommandLine.Bindings
import MemoryProbe.Proofs.MountTable.KernelTable
import MemoryProbe.Proofs.Native.HugePageSize
import MemoryProbe.Proofs.HugePage.OddLines
import MemoryProbe.Proofs.Files.Path
import MemoryProbe.Proofs.Native.Symbol
import MemoryProbe.Proofs.Text.Blank
import MemoryProbe.Proofs.HugePage.MountPoint
import MemoryProbe.Proofs.Report.Narrowing
import MemoryProbe.Proofs.Amount.Grammar
import MemoryProbe.Proofs.Library.Queries
import MemoryProbe.Proofs.CommandLine.Export
import MemoryProbe.Proofs.Amount.Printing
import MemoryProbe.Proofs.Text.Lines
import MemoryProbe.Proofs.Meminfo.Entries
import MemoryProbe.Proofs.Meminfo.Rendering
import MemoryProbe.Proofs.Text.Lossy
import MemoryProbe.Proofs.Files.Spelling
import MemoryProbe.Proofs.MountTable.Decoding
import MemoryProbe.Proofs.MountTable.Search
import MemoryProbe.Proofs.MountTable.Scan
import MemoryProbe.Proofs.Amount.Order
import MemoryProbe.Proofs.Native.SizeGates
import MemoryProbe.Proofs.Native.Warnings
import MemoryProbe.Proofs.Native.Segment
import MemoryProbe.Proofs.Report.Signed
import MemoryProbe.Proofs.Native.Faults
import MemoryProbe.Proofs.HugePage.LineEnds
import MemoryProbe.Proofs.Meminfo.Counts
import MemoryProbe.Proofs.Library.Own
