import ConferenceContact.Foundation.Process
import ConferenceContact.Foundation.Respects
import ConferenceContact.Foundation.Moves
import ConferenceContact.Foundation.Ensures
import ConferenceContact.Foundation.Advances
import ConferenceContact.Foundation.Runs
import ConferenceContact.Foundation.Purging
import ConferenceContact.Foundation.Interleaving
import ConferenceContact.Foundation.Machine
import ConferenceContact.Foundation.Senders
import ConferenceContact.Foundation.Crews
import ConferenceContact.Foundation.Reliance
import ConferenceContact.Foundation.Parts
import ConferenceContact.Foundation.Histories
import ConferenceContact.Foundation.Ownership
import ConferenceContact.Foundation.Alike
import ConferenceContact.Foundation.Endowments
import ConferenceContact.Foundation.Text
import ConferenceContact.Foundation.Base64
import ConferenceContact.Foundation.Substitution
import ConferenceContact.Foundation.Succession
import ConferenceContact.Foundation.Landing
import ConferenceContact.Foundation.Table
import ConferenceContact.Foundation.Queries
import ConferenceContact.Foundation.Deciding
import ConferenceContact.Foundation.LastWriter
import ConferenceContact.Foundation.Paging
import ConferenceContact.Foundation.Grouping
import ConferenceContact.Foundation.Lockout
import ConferenceContact.Foundation.SingleUse
import ConferenceContact.Foundation.Rationing
import ConferenceContact.Foundation.Serial
import ConferenceContact.Foundation.QueryStrings
import ConferenceContact.Model.World
import ConferenceContact.Model.Service
import ConferenceContact.Model.Sessions
import ConferenceContact.Model.Auth
import ConferenceContact.Model.Billing
import ConferenceContact.Model.Leads
import ConferenceContact.Model.Campaign
import ConferenceContact.Model.Mail
import ConferenceContact.Model.Directory
import ConferenceContact.Model.Revenue
import ConferenceContact.Model.Moderation
import ConferenceContact.Model.CreditPacks
import ConferenceContact.Model.EmailTemplate
import ConferenceContact.Model.Browsers
import ConferenceContact.Model.Invites
import ConferenceContact.Model.Prospects
import ConferenceContact.Auth.Footprints
import ConferenceContact.Billing.Footprints
import ConferenceContact.Auth.UserRows
import ConferenceContact.Auth.TwoFactor
import ConferenceContact.Auth.EncryptedSecrets
import ConferenceContact.Auth.SessionStore
import ConferenceContact.Auth.Refresh
import ConferenceContact.Auth.Requests
import ConferenceContact.Auth.DeviceChallenge
import ConferenceContact.Auth.ReplayResponse
import ConferenceContact.Auth.HonestClient
import ConferenceContact.Auth.RevokeAll
import ConferenceContact.Auth.RefreshStages
import ConferenceContact.Auth.ConcurrentRefreshes
import ConferenceContact.Auth.TokenStore
import ConferenceContact.Auth.TokenRequests
import ConferenceContact.Auth.ActiveAccounts
import ConferenceContact.Auth.Revocation
import ConferenceContact.Auth.LaterTokens
import ConferenceContact.Auth.SessionOwners
import ConferenceContact.Auth.Browsers
import ConferenceContact.Auth.AccountAddresses
import ConferenceContact.Auth.Invitations
import ConferenceContact.Billing.Requests
import ConferenceContact.Billing.RowWrites
import ConferenceContact.Billing.Frames
import ConferenceContact.Billing.Changes
import ConferenceContact.Billing.Ledger
import ConferenceContact.Billing.Deliveries
import ConferenceContact.Billing.Records
import ConferenceContact.Billing.DirectoryGuard
import ConferenceContact.Billing.DirectoryAccess
import ConferenceContact.Billing.DirectoryStatus
import ConferenceContact.Billing.Prospects
import ConferenceContact.Billing.AccountErasure
import ConferenceContact.Billing.Duplicates
import ConferenceContact.Billing.DeliveryOrder
import ConferenceContact.Billing.PastDueStreaks
import ConferenceContact.Billing.Invoices
import ConferenceContact.Billing.Ownership
import ConferenceContact.Billing.WriteCalls
import ConferenceContact.Billing.CurrentRow
import ConferenceContact.Billing.RejectedDuplicates
import ConferenceContact.Billing.FailureMails
import ConferenceContact.Billing.Credits
import ConferenceContact.Billing.Grants
import ConferenceContact.Billing.CustomerIds
import ConferenceContact.Billing.StatusChanges
import ConferenceContact.Billing.Purchases
import ConferenceContact.Billing.RevenueRecords
import ConferenceContact.Billing.RevenueRequests
import ConferenceContact.Billing.Revenue
import ConferenceContact.Directory.Moderation
import ConferenceContact.Directory.Submissions
import ConferenceContact.Directory.Preview
import ConferenceContact.Directory.AdminLeads
import ConferenceContact.Directory.Paging
import ConferenceContact.Leads.SearchRun
import ConferenceContact.Leads.SearchEffects
import ConferenceContact.Leads.Requests
import ConferenceContact.Leads.Balance
import ConferenceContact.Leads.Solvency
import ConferenceContact.Leads.Refunds
import ConferenceContact.Leads.Cancellation
import ConferenceContact.Leads.Compensation
import ConferenceContact.Leads.Failures
import ConferenceContact.Leads.Executions
import ConferenceContact.Leads.Settlement
import ConferenceContact.Leads.AnonymousSearches
import ConferenceContact.Leads.DemoBudget
import ConferenceContact.Leads.RequestStages
import ConferenceContact.Leads.LeadSystem
import ConferenceContact.Leads.RunningJobs
import ConferenceContact.Leads.Openings
import ConferenceContact.Leads.Uniqueness
import ConferenceContact.Leads.Extensions
import ConferenceContact.Auth.RedisEntries
import ConferenceContact.Auth.ChallengeAttempts
import ConferenceContact.Auth.PasswordChecks
import ConferenceContact.Auth.LoginAttempts
import ConferenceContact.Auth.VerificationTokens
import ConferenceContact.Auth.Enumeration
import ConferenceContact.Auth.CompletedLogins
import ConferenceContact.Auth.RecentFailures
import ConferenceContact.Auth.SessionLimit
import ConferenceContact.Auth.RiskHistory
import ConferenceContact.Isolation.Owners
import ConferenceContact.Isolation.Incidental
import ConferenceContact.Isolation.Requests
import ConferenceContact.Isolation.Reachable
import ConferenceContact.Isolation.Rows
import ConferenceContact.Isolation.Responses
import ConferenceContact.Privileges.Harmless
import ConferenceContact.Privileges.Requests
import ConferenceContact.Privileges.Provenance
import ConferenceContact.Outreach.Addresses
import ConferenceContact.Outreach.OutreachRequests
import ConferenceContact.Outreach.DailyDrip
import ConferenceContact.Outreach.Uploads
import ConferenceContact.Outreach.ColdInvites
import ConferenceContact.Outreach.Dashboard
import ConferenceContact.Outreach.UnsubscribeLinks
import ConferenceContact.Outreach.DripStages
import ConferenceContact.Outreach.ReminderStages
import ConferenceContact.Outreach.Reminders
import ConferenceContact.Outreach.SentMarkers
import ConferenceContact.Outreach.DripHands
import ConferenceContact.Outreach.OverlappingDrips
import ConferenceContact.Mail.Escaping
import ConferenceContact.Mail.Templates
import ConferenceContact.Mail.ColdMails
