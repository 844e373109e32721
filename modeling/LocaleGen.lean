import LocaleGen.Artifact
import LocaleGen.BuildLog.Query
import LocaleGen.CommandLine.Run
import LocaleGen.Main
import LocaleGen.Pass.Ledger
import LocaleGen.Proofs.AllOrNothing
import LocaleGen.Proofs.BuildCommand
import LocaleGen.Proofs.Cancellation
import LocaleGen.Proofs.Coercion
import LocaleGen.Proofs.CommandEnd
import LocaleGen.Proofs.ControlCharacters
import LocaleGen.Proofs.Declaration
import LocaleGen.Proofs.Delivery
import LocaleGen.Proofs.Disclosure
import LocaleGen.Proofs.DocumentContent
import LocaleGen.Proofs.FailureContext
import LocaleGen.Proofs.Fallback
import LocaleGen.Proofs.Fingerprint
import LocaleGen.Proofs.FirstAtFault
import LocaleGen.Proofs.Generation
import LocaleGen.Proofs.Interleaving
import LocaleGen.Proofs.LogRoundTrip
import LocaleGen.Proofs.LogTransparency
import LocaleGen.Proofs.OutputNames
import LocaleGen.Proofs.Persistence
import LocaleGen.Proofs.PythonRaw
import LocaleGen.Proofs.Resolution
import LocaleGen.Proofs.Retrieval
import LocaleGen.Proofs.Session
import LocaleGen.Proofs.SettingsCache
import LocaleGen.Proofs.SettingsRenewal
import LocaleGen.Proofs.Substitution
import LocaleGen.Proofs.Trigger
import LocaleGen.Proofs.Validation
import LocaleGen.Proofs.WidthFolding
import LocaleGen.Session
