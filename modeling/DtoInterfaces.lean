import DtoInterfaces.Main
import DtoInterfaces.Proofs.Interface.EndToEnd
import DtoInterfaces.Proofs.TypeExpr.FixedPoint
import DtoInterfaces.Session.Step
import DtoInterfaces.Proofs.Source.Fillers
import DtoInterfaces.Proofs.Interface.Naming
import DtoInterfaces.Proofs.Interface.Notices
import DtoInterfaces.Proofs.Text.Lines
import DtoInterfaces.Proofs.Interface.ReadBack
import DtoInterfaces.Proofs.Disk.Tree
import DtoInterfaces.Proofs.Disk.Replacement
import DtoInterfaces.Proofs.Session.Batch
import DtoInterfaces.Proofs.Session.Independence
import DtoInterfaces.Proofs.Source.Extracted
import DtoInterfaces.Proofs.Source.Occurrences
import DtoInterfaces.Proofs.Source.Concatenation
import DtoInterfaces.Proofs.Interface.LineCount
import DtoInterfaces.Proofs.Source.TypeLanguage
import DtoInterfaces.Proofs.Interface.References
import DtoInterfaces.Proofs.CommandLine.Files
import DtoInterfaces.Proofs.CommandLine.Regeneration
import DtoInterfaces.Proofs.TypeExpr.Arguments
import DtoInterfaces.Proofs.Diagnostic.Reports
import DtoInterfaces.Proofs.Config.Validation
import DtoInterfaces.Proofs.Config.Initialization
import DtoInterfaces.Proofs.Disk.AbsolutePatterns
import DtoInterfaces.Proofs.TypeExpr.Parentheses
import DtoInterfaces.Proofs.Text.LetterCase
import DtoInterfaces.Proofs.Interface.Renaming
import DtoInterfaces.Proofs.Session.Sources
import DtoInterfaces.Proofs.Disk.ReadBack
