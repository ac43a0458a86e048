import HealthBoard.Text.Quoted
import HealthBoard.Text.Blank
import HealthBoard.Decimal.Layout
import HealthBoard.Json.Printer
import HealthBoard.Json.ShapeReader
import HealthBoard.Json.ShapeConversion
import HealthBoard.Health.Window
import HealthBoard.Health.Summary
import HealthBoard.Health.Encoding
import HealthBoard.Decimal.Reading
import HealthBoard.Fingerprint.Throttle
import HealthBoard.Gateway.ModelList
import HealthBoard.Gateway.Envelope
import HealthBoard.Dashboard.Response
import HealthBoard.Gateway.Exchange
import HealthBoard.Dashboard.Board
import HealthBoard.Settings.Loading
import HealthBoard.CommandLine.Launch
import HealthBoard.Main
import HealthBoard.Proofs.Decimal
import HealthBoard.Proofs.Decimal.Denotes
import HealthBoard.Proofs.Health.Conservation
import HealthBoard.Proofs.Health.Cells
import HealthBoard.Proofs.Health.Ranking
import HealthBoard.Proofs.Health.Agreement
import HealthBoard.Proofs.Health.Search
import HealthBoard.Proofs.Health.Splitting
import HealthBoard.Proofs.Health.OneModel
import HealthBoard.Proofs.Health.Average
import HealthBoard.Proofs.Health.Shown
import HealthBoard.Proofs.Fingerprint.Call
import HealthBoard.Proofs.Fingerprint.Run
import HealthBoard.Proofs.Fingerprint.Interval
import HealthBoard.Proofs.Dashboard.Display
import HealthBoard.Proofs.Dashboard.Inquiry
import HealthBoard.Proofs.Gateway.Call
import HealthBoard.Proofs.Gateway.ModelNames
import HealthBoard.Proofs.Dashboard.Overview
import HealthBoard.Proofs.Dashboard.CellRate
import HealthBoard.Proofs.Health.Bounds
import HealthBoard.Proofs.Health.Axis
import HealthBoard.Proofs.Health.Clipped
import HealthBoard.Proofs.Health.Bands
import HealthBoard.Proofs.Dashboard.WindowAsked
import HealthBoard.Proofs.Dashboard.Refusal
import HealthBoard.Proofs.Dashboard.Trend
import HealthBoard.Proofs.Dashboard.Run
import HealthBoard.Proofs.Dashboard.Kept
import HealthBoard.Proofs.Fingerprint.CachedId
import HealthBoard.Proofs.Fingerprint.Restart
import HealthBoard.Proofs.Fingerprint.Retry
import HealthBoard.Proofs.Fingerprint.Due
import HealthBoard.Proofs.Text.Utf8
import HealthBoard.Proofs.Text.Lowercase
import HealthBoard.Proofs.Text.Trim
import HealthBoard.Proofs.Hash.Digits
import HealthBoard.Proofs.Fingerprint.Host
import HealthBoard.Proofs.Url.Form
import HealthBoard.Proofs.Dashboard.Listing
import HealthBoard.Proofs.Gateway.Arguments
import HealthBoard.Proofs.Dashboard.Report
import HealthBoard.Proofs.Json.Number
import HealthBoard.Proofs.Json.RoundTrip
import HealthBoard.Proofs.Json.Steps
import HealthBoard.Proofs.Json.Skipped
import HealthBoard.Proofs.Json.Names
import HealthBoard.Proofs.Json.Slots
import HealthBoard.Proofs.Json.Direct
import HealthBoard.Proofs.Gateway.Direct
import HealthBoard.Proofs.Gateway.Spelling
import HealthBoard.Proofs.CommandLine.StateFile
import HealthBoard.Proofs.CommandLine.Report
import HealthBoard.Proofs.Health.Extremes
import HealthBoard.Proofs.Fingerprint.Identity
import HealthBoard.Proofs.Dashboard.ContentType
import HealthBoard.Proofs.Settings.Apart
import HealthBoard.Proofs.Settings.Numerals
import HealthBoard.Proofs.Settings.Reread
import HealthBoard.Proofs.Settings.Token
