import A3SCloud.NodeAgent.ReleaseFencing
import A3SCloud.NodeAgent.Exclusivity
import A3SCloud.Protocol.Acknowledgement
import A3SCloud.Protocol.Admission
import A3SCloud.Protocol.ExactlyOnce
import A3SCloud.Workloads.ClaimSafety
import A3SCloud.Edge.DomainClaim
import A3SCloud.Workloads.Reconciliation
import A3SCloud.Workloads.Placement
import A3SCloud.Inference.Conservation
import A3SCloud.Inference.Ingestion
import A3SCloud.Automations.Fencing
import A3SCloud.Automations.Triggers
import A3SCloud.Automations.Candidates
import A3SCloud.Operations.Fairness
import A3SCloud.NodeAgent.Containment
import A3SCloud.NodeAgent.Recording
import A3SCloud.IntegrationEvents.Delivery
import A3SCloud.NodeAgent.Failure
import A3SCloud.Workflow.Graph
