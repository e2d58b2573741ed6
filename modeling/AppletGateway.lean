import AppletGateway.Main
import AppletGateway.Proofs.Admission
import AppletGateway.Proofs.Belongings
import AppletGateway.Proofs.Bindings
import AppletGateway.Proofs.Capacities
import AppletGateway.Proofs.Cuttings
import AppletGateway.Proofs.DirectCalls
import AppletGateway.Proofs.FailedRegistrations
import AppletGateway.Proofs.Fields
import AppletGateway.Proofs.Instances
import AppletGateway.Proofs.Isolation
import AppletGateway.Proofs.Lending
import AppletGateway.Proofs.LostHandles
import AppletGateway.Proofs.Messages
import AppletGateway.Proofs.Outcomes
import AppletGateway.Proofs.Pieces
import AppletGateway.Proofs.Positions
import AppletGateway.Proofs.Refusals
import AppletGateway.Proofs.Registrations
import AppletGateway.Proofs.Relaying
import AppletGateway.Proofs.Replies
import AppletGateway.Proofs.Resets
import AppletGateway.Proofs.Retries
import AppletGateway.Proofs.Shortages
import AppletGateway.Proofs.Stacks
import AppletGateway.Proofs.StandIns
import AppletGateway.Proofs.Stranding
import AppletGateway.Proofs.Subscriptions
import AppletGateway.Proofs.Switches
import AppletGateway.Proofs.Teardown
import AppletGateway.Proofs.Transparency
import AppletGateway.Proofs.Widths
import AppletGateway.Socket.Form
import AppletGateway.Transport.Scripted
