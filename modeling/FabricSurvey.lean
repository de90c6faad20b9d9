import FabricSurvey.Json.Draft.Steps
import FabricSurvey.Main
import FabricSurvey.Store.Lemmas
import FabricSurvey.Address.Domain
import FabricSurvey.Address.Url.Path
import FabricSurvey.Proofs.Survey
import FabricSurvey.Proofs.Stream
import FabricSurvey.Proofs.Outage
import FabricSurvey.Proofs.Operation
import FabricSurvey.Proofs.History
import FabricSurvey.Proofs.RoundTrip
import FabricSurvey.Proofs.Body
import FabricSurvey.Proofs.Dialling
import FabricSurvey.Proofs.Deletion
import FabricSurvey.Proofs.Count
import FabricSurvey.Proofs.Tables
import FabricSurvey.Proofs.Grammar.Extent
import FabricSurvey.Proofs.Truncation
import FabricSurvey.Proofs.Diagnosis
import FabricSurvey.Proofs.Independence
import FabricSurvey.Proofs.Reordering
import FabricSurvey.Proofs.Seeding
import FabricSurvey.Proofs.Canonical
import FabricSurvey.Proofs.Spelling
import FabricSurvey.Node.Identity
import FabricSurvey.Proofs.Slicing
import FabricSurvey.Proofs.Hosts
import FabricSurvey.Proofs.ExplicitPort
import FabricSurvey.Proofs.Indices
import FabricSurvey.Proofs.Misfit
import FabricSurvey.Proofs.Projection
