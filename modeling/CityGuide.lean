import CityGuide.Account.Password
import CityGuide.Account.Permission
import CityGuide.Account.Session
import CityGuide.Account.Token
import CityGuide.Account.User
import CityGuide.Account.UserType
import CityGuide.Api.Auth
import CityGuide.Api.Bookmarks
import CityGuide.Api.Businesses
import CityGuide.Api.Categories
import CityGuide.Api.Error
import CityGuide.Api.Events
import CityGuide.Api.Follows
import CityGuide.Api.Guard
import CityGuide.Api.Handling
import CityGuide.Api.Notifications
import CityGuide.Api.Promotions
import CityGuide.Api.Reports
import CityGuide.Api.Reviews
import CityGuide.Api.Routes
import CityGuide.Api.Server
import CityGuide.Api.Users
import CityGuide.Config
import CityGuide.Crypto.Argon2
import CityGuide.Crypto.Base64
import CityGuide.Crypto.Blake2b
import CityGuide.Crypto.Bytes
import CityGuide.Crypto.Hmac
import CityGuide.Crypto.Sha256
import CityGuide.Decimal.Shortest
import CityGuide.Decimal.Text
import CityGuide.Guide.Attachment
import CityGuide.Guide.Bookmark
import CityGuide.Guide.Business
import CityGuide.Guide.Category
import CityGuide.Guide.Details
import CityGuide.Guide.Event
import CityGuide.Guide.Promotion
import CityGuide.Guide.Report
import CityGuide.Guide.Review
import CityGuide.Http.Cors
import CityGuide.Http.MediaType
import CityGuide.Http.Message
import CityGuide.Http.Target
import CityGuide.Invalid
import CityGuide.Json.Decode
import CityGuide.Json.Document
import CityGuide.Json.Number
import CityGuide.Json.Scalar
import CityGuide.Json.Token
import CityGuide.Json.Value
import CityGuide.Json.Writer
import CityGuide.Listing.Filter
import CityGuide.Listing.Page
import CityGuide.Listing.Params
import CityGuide.Listing.Source
import CityGuide.Main
import CityGuide.Operator.Arguments
import CityGuide.Operator.Task
import CityGuide.Proofs.Api.Endpoints
import CityGuide.Proofs.Api.Serving
import CityGuide.Proofs.Store.Actions
import CityGuide.Proofs.Store.Runs
import CityGuide.Proofs.Store.Sends
import CityGuide.Social.Follow
import CityGuide.Social.Notification
import CityGuide.Sql.Part
import CityGuide.Sql.Predicate
import CityGuide.Sql.Select
import CityGuide.Sql.Statement
import CityGuide.Sql.Value
import CityGuide.Store.Failure
import CityGuide.Store.Listing
import CityGuide.Store.Deadline
import CityGuide.Store.Program
import CityGuide.Store.Row
import CityGuide.Store.Schema
import CityGuide.Store.Scripted
import CityGuide.Text.Blank
import CityGuide.Text.Digits
import CityGuide.Text.Hex
import CityGuide.Text.Quoted
import CityGuide.Text.Shown
import CityGuide.Text.Utf8
import CityGuide.Time.Calendar
import CityGuide.Time.Instant
import CityGuide.Time.Rfc3339
import CityGuide.Uuid
import CityGuide.Proofs.Api.Authentication
import CityGuide.Proofs.Store.Entities
import CityGuide.Proofs.Api.Footprint
import CityGuide.Proofs.Api.Handlers
import CityGuide.Proofs.Api.Escalation
import CityGuide.Proofs.Api.OwnRows
import CityGuide.Proofs.Api.Ownership
import CityGuide.Proofs.Api.Guarded
import CityGuide.Proofs.Account.SignedToken
import CityGuide.Proofs.Api.SignedRequests
import CityGuide.Proofs.Listing.Meaning
import CityGuide.Proofs.Sql.Rendering
import CityGuide.Proofs.Listing.Counting
import CityGuide.Proofs.Sql.Shape
import CityGuide.Proofs.Listing.Blindness
import CityGuide.Proofs.Api.Revocation
import CityGuide.Proofs.Sql.Bound
import CityGuide.Proofs.Api.ActingCaller
import CityGuide.Proofs.Store.Brackets
import CityGuide.Proofs.Store.Conversations
import CityGuide.Proofs.Store.Deadlines
import CityGuide.Proofs.Api.Transactions
import CityGuide.Proofs.Store.Tables
import CityGuide.Proofs.Store.World
import CityGuide.Proofs.Store.Minting
import CityGuide.Proofs.Store.Origins
import CityGuide.Proofs.Store.Segments
import CityGuide.Proofs.Store.SessionRows
import CityGuide.Proofs.Account.FreshHash
import CityGuide.Proofs.Api.FreshRows
import CityGuide.Proofs.Api.Races
import CityGuide.Proofs.Api.Logins
import CityGuide.Proofs.Api.PasswordChange
import CityGuide.Proofs.Text.Utf8
import CityGuide.Proofs.Outcomes
import CityGuide.Proofs.Json.Lexing
import CityGuide.Proofs.Json.ReadBack
import CityGuide.Proofs.Json.Overlooking
import CityGuide.Proofs.Json.Tracking
import CityGuide.Proofs.Account.ReadableClaims
import CityGuide.Proofs.Store.Readings
import CityGuide.Proofs.Store.Parallel
import CityGuide.Proofs.Store.Breaking
import CityGuide.Proofs.Store.Veiling
import CityGuide.Proofs.Api.Composition
import CityGuide.Proofs.Api.Parallel
import CityGuide.Proofs.Api.Failures
import CityGuide.Proofs.Api.IssuedTokens
import CityGuide.Proofs.Api.TokenTypes
import CityGuide.Proofs.Api.Veiling
import CityGuide.Proofs.Api.Credentials
import CityGuide.Proofs.Listing.Paging
import CityGuide.Proofs.Listing.Refusals
import CityGuide.Proofs.Store.Pages
import CityGuide.Proofs.Api.Lists
import CityGuide.Proofs.Api.UnknownColumns
import CityGuide.Proofs.Sql.Ordering
import CityGuide.Proofs.Listing.Ties
import CityGuide.Proofs.Api.ListPages
import CityGuide.Proofs.Text.Trimming
import CityGuide.Proofs.Operator.AdminAccounts
import CityGuide.Proofs.Store.AccountRows
import CityGuide.Proofs.Api.Emails
import CityGuide.Proofs.Sql.Answers
import CityGuide.Proofs.Listing.Items
import CityGuide.Proofs.Sql.Numbering
import CityGuide.Proofs.Operator.Tasks
import CityGuide.Proofs.Api.Placeholders
import CityGuide.Proofs.Json.Parts
import CityGuide.Proofs.Store.Changes
import CityGuide.Proofs.Api.Acceptance
import CityGuide.Proofs.Api.PartialUpdates
import CityGuide.Proofs.Api.AccountValidity
import CityGuide.Proofs.Sql.Like
import CityGuide.Proofs.Listing.Searches
import CityGuide.Proofs.Time.ReadBack
import CityGuide.Proofs.Json.Restating
import CityGuide.Proofs.StoredForms
import CityGuide.Proofs.Store.Seats
import CityGuide.Proofs.Store.Toggling
import CityGuide.Proofs.Store.Toggled
import CityGuide.Proofs.Api.FollowToggles
import CityGuide.Proofs.Api.Wordings
import CityGuide.Proofs.Api.Rewordings
import CityGuide.Proofs.Api.AcceptedChanges
import CityGuide.Proofs.Json.Wholeness
import CityGuide.Proofs.Account.GenuineToken
import CityGuide.Proofs.Api.LoginVerdicts
import CityGuide.Proofs.Sql.Rows
import CityGuide.Proofs.Store.Attachments
import CityGuide.Proofs.Api.AttachmentSets
import CityGuide.Proofs.Time.StoreClock
import CityGuide.Proofs.Store.Checks
import CityGuide.Proofs.Api.PromotionTerms
import CityGuide.Proofs.Api.EventWindows
import CityGuide.Proofs.Settings
import CityGuide.Proofs.Api.TokenLifetimes
import CityGuide.Proofs.Api.AllowedOrigins
import CityGuide.Proofs.Text.Items
import CityGuide.Proofs.Text.Numerals
import CityGuide.Proofs.Text.Boundaries
import CityGuide.Proofs.Listing.SortKeys
import CityGuide.Proofs.Listing.PageNumbers
import CityGuide.Proofs.Api.OriginHeaders
