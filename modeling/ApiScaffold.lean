import ApiScaffold.Main
import ApiScaffold.Proofs.Collection.LenientOrder
import ApiScaffold.Proofs.Collection.ReachedOrder
import ApiScaffold.Proofs.Collection.Matching
import ApiScaffold.Proofs.Collection.StrictOrder
import ApiScaffold.Proofs.Document.Definitions
import ApiScaffold.Proofs.Emission.Spelling
import ApiScaffold.Proofs.Model.Mapping
import ApiScaffold.Proofs.Model.Pointers
import ApiScaffold.Proofs.Model.Shaped
import ApiScaffold.Proofs.Model.Unfolding
import ApiScaffold.Proofs.Naming.Numbered
import ApiScaffold.Proofs.Outcome
import ApiScaffold.Proofs.Service.Dangling
import ApiScaffold.Proofs.Service.Draft
import ApiScaffold.Proofs.Service.Expansion
import ApiScaffold.Proofs.Service.Follows
import ApiScaffold.Proofs.Service.Hoisted
import ApiScaffold.Proofs.Service.HoistedMeaning
import ApiScaffold.Proofs.Service.Hoisting
import ApiScaffold.Proofs.Service.Meaning
import ApiScaffold.Proofs.Service.Operations
import ApiScaffold.Proofs.Service.Places
import ApiScaffold.Proofs.Service.Registration
import ApiScaffold.Proofs.Service.Settling
import ApiScaffold.Proofs.Service.UniqueTypeNames
import ApiScaffold.Proofs.Service.WellFormed
import ApiScaffold.Proofs.Service.ModelOrder
import ApiScaffold.Proofs.Emission.Held
import ApiScaffold.Proofs.Emission.Boxing
import ApiScaffold.Proofs.Document.Agreement
import ApiScaffold.Proofs.Service.Reserved
import ApiScaffold.Proofs.Service.Agreement
import ApiScaffold.Proofs.Collection.Rearrangement
import ApiScaffold.Proofs.Service.Rearrangement
import ApiScaffold.Proofs.Service.Inlining
import ApiScaffold.Proofs.Service.Failing
import ApiScaffold.Proofs.Service.InventedNames
import ApiScaffold.Proofs.Service.Declared
import ApiScaffold.Proofs.Service.SelectedOutput
import ApiScaffold.Proofs.Emission.EmptyName
import ApiScaffold.Proofs.Emission.RustFailing
import ApiScaffold.Proofs.Compilation.Failing
import ApiScaffold.Proofs.Storage.Writing
import ApiScaffold.Proofs.Compilation.Delivery
import ApiScaffold.Proofs.Compilation.UnusableFiles
import ApiScaffold.Proofs.Emission.NamesUsed
import ApiScaffold.Proofs.Emission.ClosedModules
import ApiScaffold.Proofs.Naming.Shape
import ApiScaffold.Proofs.Emission.DistinctNames
import ApiScaffold.Proofs.Emission.Mentions
import ApiScaffold.Proofs.Emission.Modules
import ApiScaffold.Proofs.Emission.PackageFiles
import ApiScaffold.Proofs.Emission.ClassParts
import ApiScaffold.Proofs.Emission.ImportedNames
import ApiScaffold.Proofs.Emission.LegalNames
import ApiScaffold.Proofs.Emission.Nesting
import ApiScaffold.Proofs.Emission.Unchecked
import ApiScaffold.Proofs.Emission.Readable
import ApiScaffold.Proofs.Emission.TemplateNames
import ApiScaffold.Proofs.Emission.RustItems
import ApiScaffold.Proofs.Emission.RustModules
import ApiScaffold.Proofs.Emission.RustContents
import ApiScaffold.Proofs.Emission.CapturedNames
import ApiScaffold.Proofs.Emission.QuotedTexts
import ApiScaffold.Proofs.Document.Chains
import ApiScaffold.Proofs.Model.Visits
import ApiScaffold.Proofs.Service.MergedParameters
import ApiScaffold.Proofs.Service.AccountedResponses
import ApiScaffold.Proofs.Emission.RecursiveFields
import ApiScaffold.Proofs.Emission.WireNames
import ApiScaffold.Proofs.Emission.CanonicalImports
import ApiScaffold.Proofs.Service.FailingAlike
import ApiScaffold.Proofs.Service.FirstFailure
import ApiScaffold.Proofs.Service.NameSearch
import ApiScaffold.Proofs.Naming.Stability
import ApiScaffold.Proofs.Naming.RustName
import ApiScaffold.Proofs.Collection.SetStore
