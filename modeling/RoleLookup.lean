import RoleLookup.Cache
import RoleLookup.Certificate.Anchor
import RoleLookup.Certificate.Base64
import RoleLookup.Certificate.Pem
import RoleLookup.CommandLine.Arguments
import RoleLookup.CommandLine.Help
import RoleLookup.Configuration.Basic
import RoleLookup.Configuration.Document
import RoleLookup.Directory.Client
import RoleLookup.Directory.Entry
import RoleLookup.Directory.Error
import RoleLookup.Directory.Filter
import RoleLookup.Directory.Network
import RoleLookup.Directory.Pool.Basic
import RoleLookup.Directory.Settings
import RoleLookup.Directory.TrustStore
import RoleLookup.DistinguishedName
import RoleLookup.Files
import RoleLookup.Health.Basic
import RoleLookup.Health.Cadence
import RoleLookup.Json.Basic
import RoleLookup.Json.Double
import RoleLookup.Json.Reader
import RoleLookup.Log.Directive
import RoleLookup.Log.Event
import RoleLookup.Log.Filter
import RoleLookup.Log.Layout
import RoleLookup.Log.Moment
import RoleLookup.Log.Pattern
import RoleLookup.Log.Settings
import RoleLookup.Main
import RoleLookup.Program
import RoleLookup.Proofs.Cache.History
import RoleLookup.Proofs.Client.Accounting
import RoleLookup.Proofs.Client.Answers
import RoleLookup.Proofs.Client.Checks
import RoleLookup.Proofs.Client.Errors
import RoleLookup.Proofs.Client.Links
import RoleLookup.Proofs.Client.OneCheck
import RoleLookup.Proofs.Client.Outcomes
import RoleLookup.Proofs.Client.Passwords
import RoleLookup.Proofs.Client.Searches
import RoleLookup.Proofs.Client.Step
import RoleLookup.Proofs.Configuration.Defaults
import RoleLookup.Proofs.Configuration.Lengths
import RoleLookup.Proofs.Configuration.Shapes
import RoleLookup.Proofs.Directory.Address
import RoleLookup.Proofs.Directory.AttributeType
import RoleLookup.Proofs.Directory.FilterGrammar
import RoleLookup.Proofs.Directory.FilterReading
import RoleLookup.Proofs.Directory.RolesOfEntry
import RoleLookup.Proofs.Directory.UnusableValues
import RoleLookup.Proofs.Directory.UserFilter
import RoleLookup.Proofs.DistinguishedName.Acceptance
import RoleLookup.Proofs.DistinguishedName.Decoding
import RoleLookup.Proofs.DistinguishedName.Flaws
import RoleLookup.Proofs.DistinguishedName.Grammar
import RoleLookup.Proofs.DistinguishedName.Joining
import RoleLookup.Proofs.DistinguishedName.Positions
import RoleLookup.Proofs.DistinguishedName.Scanners
import RoleLookup.Proofs.DistinguishedName.Spelling
import RoleLookup.Proofs.DistinguishedName.Walk
import RoleLookup.Proofs.Health.Schedule
import RoleLookup.Proofs.Json.Reading
import RoleLookup.Proofs.Json.Tokens
import RoleLookup.Proofs.Pool.Acquires
import RoleLookup.Proofs.Pool.Books
import RoleLookup.Proofs.Pool.Connections
import RoleLookup.Proofs.Pool.Conservation
import RoleLookup.Proofs.Pool.Course
import RoleLookup.Proofs.Pool.Initialisation
import RoleLookup.Proofs.Pool.Lending
import RoleLookup.Proofs.Pool.Opening
import RoleLookup.Proofs.Pool.Passwords
import RoleLookup.Proofs.Pool.Progress
import RoleLookup.Proofs.Pool.Requests
import RoleLookup.Proofs.Pool.Restart
import RoleLookup.Proofs.Pool.Step
import RoleLookup.Proofs.Pool.Whereabouts
import RoleLookup.Proofs.Program.PrintedRoles
import RoleLookup.Proofs.Provider.Availability
import RoleLookup.Proofs.Provider.FailedCalls
import RoleLookup.Proofs.Provider.GivingUp
import RoleLookup.Proofs.Provider.InFlight
import RoleLookup.Proofs.Provider.Invalidation
import RoleLookup.Proofs.Provider.Links
import RoleLookup.Proofs.Provider.OneCall
import RoleLookup.Proofs.Provider.Origins
import RoleLookup.Proofs.Provider.Parts
import RoleLookup.Proofs.Provider.Provenance
import RoleLookup.Proofs.Provider.Sequential
import RoleLookup.Proofs.Provider.SharingInTurn
import RoleLookup.Proofs.Provider.SideBySide
import RoleLookup.Proofs.Provider.SingleFlight
import RoleLookup.Proofs.Provider.Step
import RoleLookup.Proofs.Provider.Timelines
import RoleLookup.Proofs.Results
import RoleLookup.Proofs.Service.CompleteSearch
import RoleLookup.Proofs.Service.Construction
import RoleLookup.Proofs.Service.HealthChecks
import RoleLookup.Proofs.Service.Passwords
import RoleLookup.Proofs.Service.Secrecy
import RoleLookup.Proofs.Text.Lexical
import RoleLookup.Proofs.Text.Lines
import RoleLookup.Proofs.Text.Numerals
import RoleLookup.Proofs.Text.Utf8
import RoleLookup.Proofs.Url.Authority
import RoleLookup.Proofs.Url.Host
import RoleLookup.Proofs.Url.Octets
import RoleLookup.Proofs.Yaml.Amendments
import RoleLookup.Proofs.Yaml.Records
import RoleLookup.Proofs.Yaml.Shape
import RoleLookup.Provider.Basic
import RoleLookup.Provider.Timeline
import RoleLookup.Roles
import RoleLookup.Service
import RoleLookup.Text.Alphanumeric
import RoleLookup.Text.Blank
import RoleLookup.Text.Digits
import RoleLookup.Text.Duration
import RoleLookup.Text.Printable
import RoleLookup.Text.Quoted
import RoleLookup.Text.Utf8
import RoleLookup.Url.Basic
import RoleLookup.Url.Ipv6
import RoleLookup.Yaml.Cursor
import RoleLookup.Yaml.Decode
import RoleLookup.Yaml.Meaning
import RoleLookup.Yaml.Node
import RoleLookup.Yaml.Scalar
import RoleLookup.Yaml.Scanner
import RoleLookup.Yaml.Token
