import FragmentRunner.Main
import FragmentRunner.SharedInterpreter
import FragmentRunner.Proofs.Build.LibraryPath
import FragmentRunner.Proofs.Build.Log
import FragmentRunner.Proofs.Build.Source
import FragmentRunner.Proofs.Diagnostic.LogFile
import FragmentRunner.Proofs.Diagnostic.Severity
import FragmentRunner.Proofs.Dialogue.Conversation
import FragmentRunner.Proofs.Dialogue.Directory
import FragmentRunner.Proofs.Dialogue.Grammar
import FragmentRunner.Proofs.Dialogue.Margins
import FragmentRunner.Proofs.Dialogue.Validation
import FragmentRunner.Proofs.Fragment.FirstWords
import FragmentRunner.Proofs.Fragment.Order
import FragmentRunner.Proofs.Fragment.Regions
import FragmentRunner.Proofs.Loading.Snapshot
import FragmentRunner.Proofs.Program.Compiler
import FragmentRunner.Proofs.Program.Execution
import FragmentRunner.Proofs.Run.Footprint
import FragmentRunner.Proofs.Run.Freshness
import FragmentRunner.Proofs.Run.Reset
import FragmentRunner.Proofs.Settings.HistoryFile
import FragmentRunner.Proofs.Settings.KnownKeys
import FragmentRunner.Proofs.Settings.Place
import FragmentRunner.Proofs.Sharing.Interleaving
