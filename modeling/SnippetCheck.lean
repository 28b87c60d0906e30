import SnippetCheck.Report.Text
import SnippetCheck.Report.Json
import SnippetCheck.Shader
import SnippetCheck.Config.Layers
import SnippetCheck.Http.Client
import SnippetCheck.Toolchain
import SnippetCheck.Main
import SnippetCheck.Proofs.Compiler.Blocks
import SnippetCheck.Proofs.Service.Check
import SnippetCheck.Proofs.Service.Runs
import SnippetCheck.Proofs.Json.RoundTrip
import SnippetCheck.Proofs.Report.Verdict
import SnippetCheck.Proofs.Json.Decoder
import SnippetCheck.Proofs.Report.Json
import SnippetCheck.Proofs.Toml.Quoted
import SnippetCheck.Proofs.Toml.Document
import SnippetCheck.Proofs.Toolchain.Manifest
import SnippetCheck.Proofs.Compiler.Rendering
import SnippetCheck.Proofs.Compiler.Totals
import SnippetCheck.Proofs.Config.Layers
import SnippetCheck.Proofs.Arguments
import SnippetCheck.Proofs.Command.Status
import SnippetCheck.Proofs.Request
import SnippetCheck.Proofs.Service.Requests
import SnippetCheck.Proofs.Report.Completion
import SnippetCheck.Proofs.Json.Fault
import SnippetCheck.Proofs.Service.Replies
import SnippetCheck.Proofs.Compiler.Demand
import SnippetCheck.Proofs.Compiler.Grammar
import SnippetCheck.Proofs.Shader
import SnippetCheck.Proofs.Service.Program
import SnippetCheck.Proofs.Service.Interleaving
import SnippetCheck.Proofs.Compiler.Layout
import SnippetCheck.Proofs.Report.Text
import SnippetCheck.Proofs.Path
import SnippetCheck.Proofs.Toolchain.Message
import SnippetCheck.Proofs.Http.Client
import SnippetCheck.Proofs.Dependency
import SnippetCheck.Proofs.Report.Indentation
