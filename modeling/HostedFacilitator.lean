import HostedFacilitator.Postgres.LostSettlement
import HostedFacilitator.Postgres.LeaseFencing
import HostedFacilitator.Ledger
import HostedFacilitator.Evidence
import HostedFacilitator.FastPath
import HostedFacilitator.Replay
import HostedFacilitator.Duplicates
import HostedFacilitator.Limits.Isolation
import HostedFacilitator.Limits.Equivalence
import HostedFacilitator.Postgres.Operator
import HostedFacilitator.Postgres.Pool
import HostedFacilitator.Migrations
import HostedFacilitator.ControlPlane.Pause
import HostedFacilitator.Sellers.Binding
import HostedFacilitator.Postgres.ReconcilerRun
import HostedFacilitator.ExactEvm.Reconcile
import HostedFacilitator.Nanopayments.Coverage
import HostedFacilitator.Nanopayments.Declines
import HostedFacilitator.Engine.Rejection
import HostedFacilitator.Totals
import HostedFacilitator.Supported
import HostedFacilitator.Sellers.Bootstrap
import HostedFacilitator.Limits.Accounting
import HostedFacilitator.Limits.PolicyJson
import HostedFacilitator.ControlPlane.Queue
import HostedFacilitator.Reconciliation.Runner
import HostedFacilitator.Limits.ClientHost
import HostedFacilitator.Nanopayments.Adapter
import HostedFacilitator.Nanopayments.Amounts
import HostedFacilitator.Nanopayments.Balance
import HostedFacilitator.ControlPlane.LeaseOwner
import HostedFacilitator.ControlPlane.QueueRows
import HostedFacilitator.ExactEvm.Slots
import HostedFacilitator.Nanopayments.Interop
import HostedFacilitator.Operations.Mediation
import HostedFacilitator.Console.Proxy
import HostedFacilitator.Console.Operator
