import Conformance.CommandLine.Run
import Conformance.Diagnostic
import Conformance.Document.Load
import Conformance.Draft.Check
import Conformance.Json.Canonical
import Conformance.Json.Reader
import Conformance.Main
import Conformance.Schema.Node
import Conformance.Schema.Reference
import Conformance.Validator.Check
import Conformance.Proofs.Answer
import Conformance.Proofs.Agreement
import Conformance.Proofs.Built
import Conformance.Proofs.Verdict
import Conformance.Proofs.Session
import Conformance.Proofs.Meaning
import Conformance.Proofs.Compiling
import Conformance.Proofs.Correctness
import Conformance.Proofs.Passes
import Conformance.Proofs.Reachable
import Conformance.Proofs.Faults
import Conformance.Proofs.Guarded
import Conformance.Proofs.Inlining
import Conformance.Proofs.Places
import Conformance.Proofs.Subchecks
import Conformance.Proofs.Findings
import Conformance.Proofs.Origins
import Conformance.Proofs.Reports
import Conformance.Proofs.Requests
import Conformance.Proofs.Outline
import Conformance.Proofs.Outermost
import Conformance.Proofs.Endings
import Conformance.Proofs.Draft
import Conformance.Proofs.Unreached
import Conformance.Proofs.Respelling
import Conformance.Proofs.Stages
import Conformance.Proofs.Cycles
import Conformance.Proofs.NormalForm
import Conformance.Proofs.PlainForm
import Conformance.Proofs.Rewording
import Conformance.Proofs.MalformedItems
import Conformance.Proofs.Addresses
import Conformance.Proofs.Operands
import Conformance.Proofs.EqualityLaws
import Conformance.Proofs.Surrogates
import Conformance.Proofs.Overlay
import Conformance.Proofs.Rendering
import Conformance.Proofs.Leaves
