import JournalSite.Boundary.Failure
import JournalSite.Boundary.State
import JournalSite.Boundary.View
import JournalSite.Calendar.Day
import JournalSite.Calendar.DayNumber
import JournalSite.Calendar.DayText
import JournalSite.Calendar.Weekday
import JournalSite.Component.Layout
import JournalSite.Component.StatusPill
import JournalSite.Component.ViewTree
import JournalSite.Host.EnvFile.Assignment
import JournalSite.Host.EnvFile.Statement
import JournalSite.Host.EnvFile.Value
import JournalSite.Host.Environment
import JournalSite.Host.Error
import JournalSite.Host.Log
import JournalSite.Host.LogFilter
import JournalSite.Host.PageSettings
import JournalSite.Host.Settings
import JournalSite.Host.Startup
import JournalSite.Http.ByteRange
import JournalSite.Http.Coding
import JournalSite.Http.Message
import JournalSite.Http.Moment
import JournalSite.Http.Target
import JournalSite.Journal.Address
import JournalSite.Journal.Entry
import JournalSite.Journal.Page
import JournalSite.Journal.Redirect
import JournalSite.Json.Basic
import JournalSite.Json.NumberToken
import JournalSite.Json.Skip
import JournalSite.Json.StringToken
import JournalSite.Main
import JournalSite.Markup
import JournalSite.Network.Address
import JournalSite.Network.IPv4
import JournalSite.Network.IPv6
import JournalSite.Number.Binary64
import JournalSite.Number.Shortest
import JournalSite.Persona.Basic
import JournalSite.Persona.Json
import JournalSite.Persona.Selector
import JournalSite.Proofs.Boundary.Account
import JournalSite.Proofs.Boundary.Causes
import JournalSite.Proofs.Boundary.Page
import JournalSite.Proofs.Boundary.PanelMessage
import JournalSite.Proofs.Boundary.Run
import JournalSite.Proofs.Calendar.DateGrammar
import JournalSite.Proofs.Calendar.Numbering
import JournalSite.Proofs.Component.Containment
import JournalSite.Proofs.Component.StatusLabel
import JournalSite.Proofs.Host.Environment
import JournalSite.Proofs.Host.ErrorLine
import JournalSite.Proofs.Host.HostAddress
import JournalSite.Proofs.Host.Port
import JournalSite.Proofs.Journal.ClockTarget
import JournalSite.Proofs.Journal.DailyAddress
import JournalSite.Proofs.Journal.DailyHash
import JournalSite.Proofs.Journal.DayLinks
import JournalSite.Proofs.Journal.EntryMarkup
import JournalSite.Proofs.Journal.Heading
import JournalSite.Proofs.Journal.Redirect
import JournalSite.Proofs.Journal.Selection
import JournalSite.Proofs.Json.NumberGrammar
import JournalSite.Proofs.Json.StringGrammar
import JournalSite.Proofs.Json.ValueGrammar
import JournalSite.Proofs.Markup.Pieces
import JournalSite.Proofs.Network.AddressText
import JournalSite.Proofs.Network.IPv4Grammar
import JournalSite.Proofs.Network.IPv6Grammar
import JournalSite.Proofs.Persona.Choice
import JournalSite.Proofs.Persona.JsonGrammar
import JournalSite.Proofs.Persona.JsonRoundTrip
import JournalSite.Proofs.Persona.JsonShape
import JournalSite.Proofs.Persona.SelectorMarkup
import JournalSite.Proofs.Runs
import JournalSite.Proofs.Text.Hexadecimal
import JournalSite.Proofs.Text.Leading
import JournalSite.Proofs.Text.Numeral
import JournalSite.Proofs.Text.Padding
import JournalSite.Proofs.Web.DotSegments
import JournalSite.Proofs.Web.Routing
import JournalSite.Text.Alphanumeric
import JournalSite.Text.Blank
import JournalSite.Text.Bytes
import JournalSite.Text.Digits
import JournalSite.Text.Hidden
import JournalSite.Text.Numeral
import JournalSite.Text.Quoted
import JournalSite.Text.UpperCase
import JournalSite.Web.Document
import JournalSite.Web.FileTree
import JournalSite.Web.PolicyPages
import JournalSite.Web.ReloadScript
import JournalSite.Web.Screen
import JournalSite.Web.Site
import JournalSite.Web.StaticFiles
import JournalSite.Web.StyleSheet
import JournalSite.Web.UrlPath
