import SnippetServer.Main
import SnippetServer.Proofs.Completion.Replacement
import SnippetServer.Proofs.Snippet.RoundTrip
import SnippetServer.Proofs.Snippet.Summary
import SnippetServer.Proofs.Snippet.Directory
import SnippetServer.Proofs.Server.CurrentText
import SnippetServer.Proofs.Server.EventFileStatus
import SnippetServer.Proofs.Server.ServedIndex
import SnippetServer.Proofs.Server.CompletionAnswer
import SnippetServer.Proofs.Snippet.Splitting
import SnippetServer.Proofs.Settings.Precedence
import SnippetServer.Proofs.Server.SettingsInForce
import SnippetServer.Proofs.Server.CompileTarget
import SnippetServer.Proofs.Snippet.Rebuilding
import SnippetServer.Proofs.Snippet.Resaving
import SnippetServer.Proofs.Snippet.Growth
import SnippetServer.Proofs.Server.CompileVerdict
import SnippetServer.Proofs.Completion.Ranking
import SnippetServer.Proofs.Compiler.Checks
import SnippetServer.Proofs.Completion.Matching
import SnippetServer.Proofs.Compiler.Forwarding
import SnippetServer.Proofs.Completion.SortKeys
import SnippetServer.Proofs.Document.Header
import SnippetServer.Proofs.Compiler.ExecutableName
import SnippetServer.Proofs.Completion.Candidates
import SnippetServer.Proofs.Path
import SnippetServer.Proofs.Server.ReloadFilter
import SnippetServer.Proofs.Document.Cursor
import SnippetServer.Proofs.Snippet.Shadowing
import SnippetServer.Proofs.Snippet.BodyText
import SnippetServer.Proofs.Compiler.InputPath
