import Acceptance.DiagnosticReport
import Acceptance.Gherkin.Source
import Acceptance.Context
import Acceptance.Harness
import Acceptance.Proofs.Pattern.Search
import Acceptance.Proofs.Resolution
import Acceptance.Proofs.Duplicates
import Acceptance.Proofs.Binding
import Acceptance.Proofs.Recording
import Acceptance.Proofs.Running
import Acceptance.Proofs.Calls
import Acceptance.Proofs.Gherkin.Rows
import Acceptance.Proofs.Anchoring
import Acceptance.Proofs.Order
import Acceptance.Proofs.Keywords
import Acceptance.Proofs.Spelling
import Acceptance.Proofs.Records
import Acceptance.Proofs.Contexts
import Acceptance.Proofs.Gherkin.Substitution
import Acceptance.Proofs.Gherkin.Scenarios
import Acceptance.Proofs.Policy
import Acceptance.Proofs.Verdict
import Acceptance.Proofs.Extension
import Acceptance.Proofs.Json.Report
