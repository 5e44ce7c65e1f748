import Turnstile.Foundation.Rounding
import Turnstile.Foundation.Guard
import Turnstile.Foundation.Store
import Turnstile.Foundation.Table
import Turnstile.Foundation.Program
import Turnstile.Foundation.Serial
import Turnstile.Foundation.Selection
import Turnstile.Foundation.Graph
import Turnstile.Domain.Values
import Turnstile.Domain.Price
import Turnstile.Domain.Evidence
import Turnstile.Domain.Pricing
import Turnstile.Domain.Admission
import Turnstile.Domain.Ledger
import Turnstile.Domain.Documents
import Turnstile.Domain.Completion
import Turnstile.Domain.Operations
import Turnstile.Domain.Effects
import Turnstile.Domain.Dispatch
import Turnstile.Domain.BudgetEvidence
import Turnstile.Domain.BillableRequests
import Turnstile.Domain.ModelRouter
import Turnstile.Ledger.State
import Turnstile.Ledger.Absorption
import Turnstile.Ledger.Balance
import Turnstile.Ledger.Revalidation
import Turnstile.Ledger.Errors
import Turnstile.Ledger.Conservation
import Turnstile.Ledger.UsdConservation
import Turnstile.Ledger.UsdEvidence
import Turnstile.Ledger.Confluence
import Turnstile.Integrations.AtomicLedger
import Turnstile.Integrations.Policy
import Turnstile.Integrations.UnitSwitch
import Turnstile.Integrations.Dispatch
import Turnstile.Integrations.DispatchProtocol
import Turnstile.Integrations.DispatchSafety
import Turnstile.Integrations.Linearizability
import Turnstile.Integrations.PriceProjection
import Turnstile.Persistence.BudgetEvidence
import Turnstile.Persistence.EvidenceOrder
import Turnstile.Persistence.BillableRequests
import Turnstile.Persistence.BillableBudget
import Turnstile.Persistence.BillableRuns
import Turnstile.Services.PolicySwitch
import Turnstile.Services.RouterExecution
import Turnstile.Services.RouterValidation
import Turnstile.Domain.ModelRouterV3
import Turnstile.Services.RouterCompiler
import Turnstile.Services.RouterSoundness
import Turnstile.Services.RouterEligibility
import Turnstile.Domain.StorageRoutes
import Turnstile.Foundation.Client
import Turnstile.Integrations.StorageRouteIntents
import Turnstile.Integrations.RouteWorld
import Turnstile.Integrations.StorageRouteProjection
import Turnstile.Services.RouteWorkers
import Turnstile.Services.RouteContract
import Turnstile.Services.RouteJournals
import Turnstile.Domain.GatewayTargets
import Turnstile.Foundation.Merge
import Turnstile.Persistence.GatewayTargets
import Turnstile.Persistence.GatewayMerges
import Turnstile.Domain.ModelAvailability
import Turnstile.Services.AvailabilityProjection
import Turnstile.Services.AvailabilitySafety
import Turnstile.Domain.ProgramUpgrades
import Turnstile.Domain.RouterInvocation
import Turnstile.Services.RouterInvocation
import Turnstile.Services.RouterConfinement
import Turnstile.Domain.Publications
import Turnstile.Foundation.Procedure
import Turnstile.Foundation.Rows
import Turnstile.Persistence.PublicationWorkers
import Turnstile.Persistence.Activations
import Turnstile.Persistence.ReleaseBoard
import Turnstile.Persistence.PublicationMoves
import Turnstile.Persistence.WorkerMoves
import Turnstile.Persistence.ActivationMoves
import Turnstile.Persistence.PublicationRuns
import Turnstile.Persistence.PublicationSafety
import Turnstile.Persistence.MonthlyCharges
import Turnstile.Foundation.Entities
import Turnstile.Integrations.RouterTableProjection
import Turnstile.Integrations.RouterCatalog
import Turnstile.Domain.BudgetTree
import Turnstile.Persistence.TokenBudgets
import Turnstile.Persistence.BudgetHierarchy
import Turnstile.Persistence.BudgetSwitch
import Turnstile.Persistence.BudgetRuns
import Turnstile.Foundation.ReadCommitted
import Turnstile.Persistence.BudgetTransactions
import Turnstile.Persistence.BudgetWrites
import Turnstile.Persistence.BudgetInterleavings
import Turnstile.Persistence.BudgetSchedules
import Turnstile.Pricing.Catalog
import Turnstile.Pricing.ContextPrices
import Turnstile.Pricing.PriceSync
import Turnstile.Persistence.PriceRegistry
import Turnstile.Persistence.PriceSyncRuns
import Turnstile.Domain.RouteRenewals
import Turnstile.Integrations.RouteProofWorld
import Turnstile.Integrations.RouteProofs
import Turnstile.Integrations.RouteProofRuns
import Turnstile.Services.RouterFairness
import Turnstile.Domain.RouterUpgrade
import Turnstile.Domain.RouterUpgradeLaws
import Turnstile.Domain.RouterUpgradeTimeouts
import Turnstile.Persistence.BulkAllocations
import Turnstile.Domain.RejectionPath
import Turnstile.Domain.RouteSnapshots
import Turnstile.Domain.ProgramHistory
import Turnstile.Foundation.Ranking
import Turnstile.Persistence.OperationFrames
import Turnstile.Persistence.ReleaseHistory
import Turnstile.Services.ReleaseRetention
import Turnstile.Services.RouterOrder
import Turnstile.Foundation.Dictionary
import Turnstile.Pricing.AzureRetail
import Turnstile.Pricing.AzureReferences
import Turnstile.Pricing.AzureOrder
import Turnstile.Pricing.CatalogCache
import Turnstile.Pricing.StoredReferences
import Turnstile.Services.RouteJournalRules
import Turnstile.Services.RouteRecovery
import Turnstile.Services.RouteWriterRules
import Turnstile.Services.RouteStagingRules
import Turnstile.Services.RouteActivationRules
import Turnstile.Services.RouteRuns
import Turnstile.Services.RouteRows
import Turnstile.Services.RouteSteps
import Turnstile.Services.RouteAgreement
import Turnstile.Services.RouteTruth
import Turnstile.Services.RouteBacking
import Turnstile.Domain.BudgetContracts
import Turnstile.Domain.BudgetContractLaws
import Turnstile.Services.PolicyDeliveries
