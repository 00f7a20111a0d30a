import RecordMapper.Activity
import RecordMapper.Activity.Together
import RecordMapper.Adapter.Basic
import RecordMapper.Adapter.File
import RecordMapper.Adapter.Operations
import RecordMapper.Calendar.Date
import RecordMapper.Calendar.Moment
import RecordMapper.Calendar.Reader
import RecordMapper.Client
import RecordMapper.Client.Health
import RecordMapper.Config.Address
import RecordMapper.Config.Basic
import RecordMapper.Config.Environment
import RecordMapper.Config.IpAddress
import RecordMapper.Config.SettingsFile
import RecordMapper.Config.Url
import RecordMapper.Fault.Basic
import RecordMapper.Fault.Failure
import RecordMapper.Fault.Transient
import RecordMapper.Json.Reader
import RecordMapper.Json.Writer
import RecordMapper.Model.Chain
import RecordMapper.Model.Class
import RecordMapper.Model.Hydration
import RecordMapper.Model.Rounds
import RecordMapper.Model.Terminal
import RecordMapper.Number.Basic
import RecordMapper.Number.Binary64
import RecordMapper.Number.Numeral
import RecordMapper.Number.Power
import RecordMapper.Number.Shortest
import RecordMapper.Proofs.Adapters
import RecordMapper.Proofs.AlikeIntents
import RecordMapper.Proofs.Alternatives
import RecordMapper.Proofs.BlankSettings
import RecordMapper.Proofs.CastColumns
import RecordMapper.Proofs.CastRows
import RecordMapper.Proofs.Chains
import RecordMapper.Proofs.ClauseOrder
import RecordMapper.Proofs.ClientRuns
import RecordMapper.Proofs.ConditionShapes
import RecordMapper.Proofs.ConnectTries
import RecordMapper.Proofs.ConnectionFlags
import RecordMapper.Proofs.Counts
import RecordMapper.Proofs.Credentials
import RecordMapper.Proofs.Cuts
import RecordMapper.Proofs.DatabaseNames
import RecordMapper.Proofs.Delays
import RecordMapper.Proofs.DoubledNumber
import RecordMapper.Proofs.EscapedDelimiters
import RecordMapper.Proofs.ExactNumber
import RecordMapper.Proofs.Expansion
import RecordMapper.Proofs.FailedCalls
import RecordMapper.Proofs.FilePaths
import RecordMapper.Proofs.FileStatements
import RecordMapper.Proofs.FileWrites
import RecordMapper.Proofs.FinishedRows
import RecordMapper.Proofs.FirstTry
import RecordMapper.Proofs.HealthReports
import RecordMapper.Proofs.HiddenColumns
import RecordMapper.Proofs.HiddenPasswords
import RecordMapper.Proofs.InheritedRelations
import RecordMapper.Proofs.IntegerCasts
import RecordMapper.Proofs.IntegerTexts
import RecordMapper.Proofs.JsonTexts
import RecordMapper.Proofs.JsonTokens
import RecordMapper.Proofs.KeyLookup
import RecordMapper.Proofs.LimitedWrites
import RecordMapper.Proofs.Lineages
import RecordMapper.Proofs.ListSlots
import RecordMapper.Proofs.Literals
import RecordMapper.Proofs.MomentTexts
import RecordMapper.Proofs.NameLists
import RecordMapper.Proofs.NearestNumber
import RecordMapper.Proofs.Operation
import RecordMapper.Proofs.PageStatements
import RecordMapper.Proofs.PageWalk
import RecordMapper.Proofs.PagedRows
import RecordMapper.Proofs.ParentCasts
import RecordMapper.Proofs.PercentTexts
import RecordMapper.Proofs.ReadableUrls
import RecordMapper.Proofs.Readings
import RecordMapper.Proofs.RedactedUrls
import RecordMapper.Proofs.RefusedSettings
import RecordMapper.Proofs.RefusedValues
import RecordMapper.Proofs.Rejections
import RecordMapper.Proofs.RelatedRows
import RecordMapper.Proofs.Requests
import RecordMapper.Proofs.Retries
import RecordMapper.Proofs.RowLimits
import RecordMapper.Proofs.SameShape
import RecordMapper.Proofs.Scripts
import RecordMapper.Proofs.Sent
import RecordMapper.Proofs.ServerPool
import RecordMapper.Proofs.ServerText
import RecordMapper.Proofs.SettingTexts
import RecordMapper.Proofs.SeveralRelations
import RecordMapper.Proofs.ShortBindings
import RecordMapper.Proofs.ShownRows
import RecordMapper.Proofs.Slots
import RecordMapper.Proofs.SoftDelete
import RecordMapper.Proofs.Statement
import RecordMapper.Proofs.Terminals
import RecordMapper.Proofs.TransientErrors
import RecordMapper.Proofs.UpsertedColumns
import RecordMapper.Proofs.UrlTexts
import RecordMapper.Proofs.UsedModels
import RecordMapper.Proofs.Waits
import RecordMapper.Proofs.Written
import RecordMapper.Proofs.WrittenRecords
import RecordMapper.Query.Compile
import RecordMapper.Query.Dialect
import RecordMapper.Query.Intent
import RecordMapper.Query.Placeholder
import RecordMapper.Query.Statement
import RecordMapper.Record.Cast
import RecordMapper.Record.Guard
import RecordMapper.Row
import RecordMapper.Session
import RecordMapper.Store.Basic
import RecordMapper.System
import RecordMapper.Text.Blank
import RecordMapper.Text.CaseTable
import RecordMapper.Text.CasedTable
import RecordMapper.Text.Digit
import RecordMapper.Text.DigitTable
import RecordMapper.Text.Letter
import RecordMapper.Text.Percent
import RecordMapper.Text.PrintableTable
import RecordMapper.Text.Quoted
import RecordMapper.Text.Split
import RecordMapper.Text.Utf8
import RecordMapper.Text.WordTable
import RecordMapper.Value
import RecordMapper.Value.Shown
import RecordMapper.Value.Whole
