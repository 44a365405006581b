import GrammarLint.Check.Outline
import GrammarLint.Check.Validate
import GrammarLint.Command.Run
import GrammarLint.Diagnostic.Board
import GrammarLint.Main
import GrammarLint.Project.Discovery
import GrammarLint.Project.Version
import GrammarLint.Server.Session
import GrammarLint.Proofs.Columns
import GrammarLint.Proofs.Bindings
import GrammarLint.Proofs.TableBuild
import GrammarLint.Proofs.UnusedReport
import GrammarLint.Proofs.TableRuns
import GrammarLint.Proofs.RepeatedScan
import GrammarLint.Proofs.UndefinedReport
import GrammarLint.Proofs.Masking
import GrammarLint.Proofs.QuotedText
import GrammarLint.Proofs.ReferenceUse
import GrammarLint.Proofs.Relocation
import GrammarLint.Proofs.LineOrder
import GrammarLint.Proofs.SkippedLines
import GrammarLint.Proofs.HeadText
import GrammarLint.Proofs.HeadGrammar
import GrammarLint.Proofs.NameLists
import GrammarLint.Proofs.DirectiveText
import GrammarLint.Proofs.DirectiveNames
import GrammarLint.Proofs.InvalidHeads
import GrammarLint.Proofs.OutlineTable
import GrammarLint.Proofs.Tokens
import GrammarLint.Proofs.TokenLines
import GrammarLint.Proofs.ErrorSites
import GrammarLint.Proofs.Literals
import GrammarLint.Proofs.StringContents
import GrammarLint.Proofs.FileText
import GrammarLint.Proofs.ClientView
import GrammarLint.Proofs.ClientPositions
import GrammarLint.Proofs.EscapedText
import GrammarLint.Proofs.JsonText
import GrammarLint.Proofs.Reports
import GrammarLint.Proofs.PrintedReports
import GrammarLint.Proofs.CheckOutcome
import GrammarLint.Proofs.ResolvedPaths
import GrammarLint.Proofs.FoundPaths
import GrammarLint.Proofs.ReportedFiles
import GrammarLint.Proofs.SettingsFaults
import GrammarLint.Proofs.Indentation
import GrammarLint.Proofs.MaskedText
import GrammarLint.Proofs.NearestSettings
import GrammarLint.Proofs.DiscoveredFiles
import GrammarLint.Proofs.LineBreaks
