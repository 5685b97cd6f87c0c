import PagedTable.Act
import PagedTable.Action.Basic
import PagedTable.Action.Condition
import PagedTable.Application.Acting
import PagedTable.Application.Loading
import PagedTable.Application.Mutating
import PagedTable.Application.Running
import PagedTable.Application.State
import PagedTable.Application.Step
import PagedTable.Busy
import PagedTable.Calendar
import PagedTable.Calendar.Pattern
import PagedTable.Dialog.Basic
import PagedTable.Dialog.Mediator
import PagedTable.Dialog.Size
import PagedTable.Entries
import PagedTable.Failure
import PagedTable.Filter.Basic
import PagedTable.Filter.State
import PagedTable.Hooks
import PagedTable.Json.Basic
import PagedTable.Json.Definitions
import PagedTable.Json.Reader
import PagedTable.Json.Reports
import PagedTable.Json.Values
import PagedTable.Json.Writer
import PagedTable.Logging
import PagedTable.Number.Basic
import PagedTable.Number.Binary64
import PagedTable.Number.Notation
import PagedTable.Number.Shortest
import PagedTable.Page
import PagedTable.Paging
import PagedTable.Proofs.AskedValues
import PagedTable.Proofs.AssignmentTarget
import PagedTable.Proofs.BuiltQueries
import PagedTable.Proofs.BusyState
import PagedTable.Proofs.CanonicalForms
import PagedTable.Proofs.ChangeReports
import PagedTable.Proofs.ClosedTable
import PagedTable.Proofs.CoherentDescriptions
import PagedTable.Proofs.ConfirmedSelection
import PagedTable.Proofs.DeliveredPage
import PagedTable.Proofs.DependentFilters
import PagedTable.Proofs.DescriptionCache
import PagedTable.Proofs.DialogResults
import PagedTable.Proofs.Entries
import PagedTable.Proofs.EqualMaps
import PagedTable.Proofs.ExactSelection
import PagedTable.Proofs.FailedReload
import PagedTable.Proofs.FilterOperations
import PagedTable.Proofs.FilterWrites
import PagedTable.Proofs.FreshStates
import PagedTable.Proofs.Identities
import PagedTable.Proofs.IndependentChanges
import PagedTable.Proofs.Indicator
import PagedTable.Proofs.IndicatorEvents
import PagedTable.Proofs.Instants
import PagedTable.Proofs.Lasting
import PagedTable.Proofs.Lasting.Running
import PagedTable.Proofs.LatestRequest
import PagedTable.Proofs.LegiblePages
import PagedTable.Proofs.Listening
import PagedTable.Proofs.MutationAccounts
import PagedTable.Proofs.MutationCalls
import PagedTable.Proofs.MutationOutcome
import PagedTable.Proofs.NewestRequest
import PagedTable.Proofs.NormalForms
import PagedTable.Proofs.OpenDialogs
import PagedTable.Proofs.Outcomes
import PagedTable.Proofs.PageOrder
import PagedTable.Proofs.PageSelection
import PagedTable.Proofs.ParentBinding
import PagedTable.Proofs.ProviderModes
import PagedTable.Proofs.ProviderPort
import PagedTable.Proofs.ProviderSteps
import PagedTable.Proofs.RaisingProvider
import PagedTable.Proofs.RefusedOperations
import PagedTable.Proofs.RelayOrder
import PagedTable.Proofs.RelayPaths
import PagedTable.Proofs.RememberedSizes
import PagedTable.Proofs.ReportedFailures
import PagedTable.Proofs.RequestLife
import PagedTable.Proofs.RequestQueries
import PagedTable.Proofs.Requests
import PagedTable.Proofs.RestForm
import PagedTable.Proofs.RowOrder
import PagedTable.Proofs.SavingProtocol
import PagedTable.Proofs.Scene
import PagedTable.Proofs.SelectionRules
import PagedTable.Proofs.SettingPaths
import PagedTable.Proofs.SharedBusy
import PagedTable.Proofs.SharedIds
import PagedTable.Proofs.SiteScope
import PagedTable.Proofs.SortColumn
import PagedTable.Proofs.StaticRestrictions
import PagedTable.Proofs.StoppedThread
import PagedTable.Proofs.Strand
import PagedTable.Proofs.Texts
import PagedTable.Proofs.Triggering
import PagedTable.Proofs.UnreportedChanges
import PagedTable.Proofs.UnsetValues
import PagedTable.Proofs.VerbatimMessages
import PagedTable.Proofs.ViewChange
import PagedTable.Proofs.Weaving
import PagedTable.Proofs.Weaving.Acting
import PagedTable.Proofs.Weaving.Issuing
import PagedTable.Proofs.Weaving.Loading
import PagedTable.Proofs.Weaving.Mutating
import PagedTable.Proofs.Weaving.Running
import PagedTable.Proofs.WellFormedQueries
import PagedTable.Proofs.Wordings
import PagedTable.Provider
import PagedTable.Query.Basic
import PagedTable.Query.Build
import PagedTable.Relay
import PagedTable.Request.Basic
import PagedTable.Request.Book
import PagedTable.Request.Session
import PagedTable.Script
import PagedTable.Settings.Format
import PagedTable.Settings.Saving
import PagedTable.Settings.Store
import PagedTable.Table.Descriptor
import PagedTable.Table.Plan
import PagedTable.Table.SiteUsers
import PagedTable.Table.State
import PagedTable.Template.Align
import PagedTable.Template.Basic
import PagedTable.Text.Blank
import PagedTable.Text.Digits
import PagedTable.Text.Order
import PagedTable.Text.Printable
import PagedTable.Text.Quoted
import PagedTable.Value.Basic
import PagedTable.Value.Members
import PagedTable.Value.Path
import PagedTable.Value.Text
import PagedTable.Workspace
import PagedTable.Yaml.Cursor
import PagedTable.Yaml.Reader
import PagedTable.Yaml.Scalar
import PagedTable.Yaml.Words
import PagedTable.Yaml.Writer
import PagedTable.Proofs.SelectionOnPage
