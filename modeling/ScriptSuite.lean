import ScriptSuite.Main
import ScriptSuite.Proofs.Dependency.Resolve
import ScriptSuite.Proofs.Discovery.Collection
import ScriptSuite.Proofs.Discovery.Completeness
import ScriptSuite.Proofs.Discovery.Matching
import ScriptSuite.Proofs.Discovery.Segments
import ScriptSuite.Proofs.Engine.Interleaving
import ScriptSuite.Proofs.Result.Announcement
import ScriptSuite.Proofs.Run.Green
import ScriptSuite.Proofs.Run.Independence
import ScriptSuite.Proofs.Run.Leftovers
import ScriptSuite.Proofs.Run.Sources
import ScriptSuite.Proofs.Script.ArrowLookahead
import ScriptSuite.Proofs.Script.Concatenation
import ScriptSuite.Proofs.Script.ErrorPlaces
import ScriptSuite.Proofs.Script.Lexer.Capturing
import ScriptSuite.Proofs.Script.Lexer.CodeUnits
import ScriptSuite.Proofs.Script.Lexer.Layout
import ScriptSuite.Proofs.Script.Lexer.Numerals
import ScriptSuite.Proofs.Script.Lexer.Rendering
import ScriptSuite.Proofs.Script.MovedNodes
import ScriptSuite.Proofs.Script.Nesting
import ScriptSuite.Proofs.Script.Progress
import ScriptSuite.Proofs.Script.Registers.Restored
import ScriptSuite.Proofs.Script.Semicolon.Ending
import ScriptSuite.Proofs.Staging.Mirroring
import ScriptSuite.Proofs.Staging.Requires
import ScriptSuite.Run.Cancellation
