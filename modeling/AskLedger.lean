import AskLedger.Calendar.Date
import AskLedger.Calendar.Layout
import AskLedger.Calendar.Moment
import AskLedger.Calendar.Window
import AskLedger.Calendar.Written
import AskLedger.Calendar.Zone
import AskLedger.Chat.Context
import AskLedger.Chat.FixedReplies
import AskLedger.Chat.Memory
import AskLedger.Chat.Prompt
import AskLedger.Chat.Turn
import AskLedger.Command.Arguments
import AskLedger.Command.Basic
import AskLedger.Command.Host
import AskLedger.Command.Run
import AskLedger.Command.Session
import AskLedger.Decimal.Binary
import AskLedger.Decimal.Fixed
import AskLedger.Decimal.Reading
import AskLedger.Decimal.Shortest
import AskLedger.Json.Decode
import AskLedger.Json.Reader
import AskLedger.Json.Value
import AskLedger.Json.Writer
import AskLedger.Ledger.Category
import AskLedger.Ledger.Entry
import AskLedger.Ledger.EntryJson
import AskLedger.Ledger.Line
import AskLedger.Ledger.LongOrder
import AskLedger.Ledger.Order
import AskLedger.Ledger.Summary
import AskLedger.Main
import AskLedger.Model.Client
import AskLedger.Model.Reply
import AskLedger.Pattern.Basic
import AskLedger.Pattern.Search
import AskLedger.Proofs.AddedWords
import AskLedger.Proofs.AlikeMessages
import AskLedger.Proofs.AlikeTexts
import AskLedger.Proofs.AmountPhrases
import AskLedger.Proofs.AmountsBetween
import AskLedger.Proofs.AnswerCases
import AskLedger.Proofs.Conversation
import AskLedger.Proofs.CountPhrases
import AskLedger.Proofs.DayNumbers
import AskLedger.Proofs.DaysBetween
import AskLedger.Proofs.DrawnTables
import AskLedger.Proofs.GateDates
import AskLedger.Proofs.GateFilters
import AskLedger.Proofs.GivenRows
import AskLedger.Proofs.JsonRecords
import AskLedger.Proofs.LayoutTexts
import AskLedger.Proofs.LetterCase
import AskLedger.Proofs.LocalTimes
import AskLedger.Proofs.LongSorting
import AskLedger.Proofs.Magnitudes
import AskLedger.Proofs.MemoryCalls
import AskLedger.Proofs.Merging
import AskLedger.Proofs.MessagePhrases
import AskLedger.Proofs.ModelInForce
import AskLedger.Proofs.MonthBuckets
import AskLedger.Proofs.NamedValues
import AskLedger.Proofs.Narrowing
import AskLedger.Proofs.NearestNumbers
import AskLedger.Proofs.NewestEntries
import AskLedger.Proofs.Numerals
import AskLedger.Proofs.OtherUsers
import AskLedger.Proofs.OuterBlanks
import AskLedger.Proofs.OverlookedDates
import AskLedger.Proofs.PatternContext
import AskLedger.Proofs.PatternGroups
import AskLedger.Proofs.PatternPaths
import AskLedger.Proofs.PatternReading
import AskLedger.Proofs.PeriodWindows
import AskLedger.Proofs.Positions
import AskLedger.Proofs.RankedEntries
import AskLedger.Proofs.ReadNumerals
import AskLedger.Proofs.RecordLines
import AskLedger.Proofs.Replacements
import AskLedger.Proofs.ReplySources
import AskLedger.Proofs.Rounding
import AskLedger.Proofs.SameLedgers
import AskLedger.Proofs.SameReading
import AskLedger.Proofs.SameStory
import AskLedger.Proofs.ScaledNumerals
import AskLedger.Proofs.SentTexts
import AskLedger.Proofs.ShortRecords
import AskLedger.Proofs.SpelledDates
import AskLedger.Proofs.SpelledRanges
import AskLedger.Proofs.StableOrder
import AskLedger.Proofs.TextLines
import AskLedger.Proofs.TidyEntries
import AskLedger.Proofs.TimestampForms
import AskLedger.Proofs.ToldRows
import AskLedger.Proofs.TopEntries
import AskLedger.Proofs.Totals
import AskLedger.Proofs.WholeDays
import AskLedger.Proofs.WordCharacters
import AskLedger.Proofs.WrittenEntries
import AskLedger.Proofs.WrittenJson
import AskLedger.Proofs.WrittenMoments
import AskLedger.Proofs.WrittenNumerals
import AskLedger.Proofs.WrittenRecords
import AskLedger.Proofs.YearNumerals
import AskLedger.Proofs.YearSummary
import AskLedger.Proofs.YearsBesideDates
import AskLedger.Question.Answer
import AskLedger.Question.DatePhrase
import AskLedger.Question.Filter
import AskLedger.Question.Gate
import AskLedger.Question.Keyword
import AskLedger.Question.Period
import AskLedger.Question.Ranking
import AskLedger.Report.Answer
import AskLedger.Report.Table
import AskLedger.Settings.Document
import AskLedger.Settings.Model
import AskLedger.Store.Csv
import AskLedger.Store.CsvLedger
import AskLedger.Store.Error
import AskLedger.Store.File
import AskLedger.Store.JsonLedger
import AskLedger.Store.Memory
import AskLedger.Text.Blank
import AskLedger.Text.CaseTable
import AskLedger.Text.CharSet
import AskLedger.Text.Columns
import AskLedger.Text.EmojiSequence
import AskLedger.Text.Find
import AskLedger.Text.Hex
import AskLedger.Text.Ligature
import AskLedger.Text.Lowercase
import AskLedger.Text.WidthTable
import AskLedger.Text.Word
import AskLedger.Text.WordTable
import AskLedger.Toml.Document
import AskLedger.Toml.Reader
import AskLedger.Toml.Scalar
import AskLedger.Toml.Text
import AskLedger.Toml.Value
import AskLedger.Toml.Writer
import AskLedger.Web.Authority
import AskLedger.Web.Message
import AskLedger.Web.Url
