import Vdba.Interaction.Prog
import Vdba.Interaction.Ensures
import Vdba.Interaction.Pool
import Vdba.Config
import Vdba.StatementBuilder
import Vdba.Store
import Vdba.Portal
import Vdba.DbIntrospect
import Vdba.Grants
import Vdba.Sql
import Vdba.World
import Vdba.Ownership
import Vdba.Effects
import Vdba.Statements
import Vdba.Objects
import Vdba.Rows
import Vdba.Interaction.Triple
import Vdba.Discipline
import Vdba.Work
import Vdba.VaultCalls
import Vdba.RevokeCalls
import Vdba.HelperCalls
import Vdba.SearchCalls
import Vdba.Lockout
import Vdba.TeardownSteps
import Vdba.Teardown
import Vdba.Sections
import Vdba.Query.Closure
import Vdba.Query.Ternary
import Vdba.Setup
import Vdba.Probes
import Vdba.Issue
import Vdba.Operations
import Vdba.Adequacy
import Vdba.Scenario
import Vdba.Calls
import Vdba.Interaction.Staff
import Vdba.Staff
import Vdba.Races
import Vdba.Interaction.All
import Vdba.LedgerWork
import Vdba.LedgerSteps
import Vdba.LedgerTeardown
import Vdba.LedgerLocks
import Vdba.LedgerOperations
import Vdba.LedgerIssue
import Vdba.LedgerRuns
import Vdba.Lifecycle
import Vdba.Interaction.Durable
import Vdba.Durability
import Vdba.AuditTrail
import Vdba.Leftovers
import Vdba.IssueOutcome
import Vdba.Main
import Vdba.Admission
import Vdba.OriginCheck
import Vdba.Identity
import Vdba.ServiceCall
import Vdba.AccountNames
import Vdba.Privileges
import Vdba.CatalogGrants
import Vdba.ServicePolicy
import Vdba.RoleCleanup
import Vdba.Guard
import Vdba.CsrfGate
import Vdba.Bootstrap
import Vdba.Interaction.Record
import Vdba.TokenCustody
import Vdba.Discovery
import Vdba.Interaction.Steps
import Vdba.Transactions
import Vdba.SharedIdentity
import Vdba.Endings
import Vdba.Exclusion
import Vdba.Interaction.Narrow
import Vdba.Recovery
import Vdba.Interaction.Relate
import Vdba.Secrecy
import Vdba.Freshness
import Vdba.Provisioned
