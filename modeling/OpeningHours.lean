import OpeningHours.Text.Blank
import OpeningHours.Text.Digit
import OpeningHours.Text.Word
import OpeningHours.Text.Printable
import OpeningHours.Text.LowerCase
import OpeningHours.Text.CaseFold
import OpeningHours.Text.Numeral
import OpeningHours.Text.Quoted
import OpeningHours.Text.Scan
import OpeningHours.DaySet
import OpeningHours.Listing.Reading
import OpeningHours.Json.Writer
import OpeningHours.Json.Reader
import OpeningHours.Status.Announcement
import OpeningHours.Status.Order
import OpeningHours.Validation.Written
import OpeningHours.Calendar.Notation
import OpeningHours.Clock
import OpeningHours.Text.Utf8
import OpeningHours.Text.Lines
import OpeningHours.Journal.Recorder
import OpeningHours.Directory
import OpeningHours.Command.Run
import OpeningHours.Session
import OpeningHours.Main
import OpeningHours.Proofs.Status.NextOpening
import OpeningHours.Proofs.Listing.DailyRange
import OpeningHours.Proofs.Listing.PrintedListing
import OpeningHours.Proofs.Listing.CheckedReading
import OpeningHours.Proofs.Command.Course
import OpeningHours.Proofs.Command.Failure
import OpeningHours.Proofs.Command.Trace
import OpeningHours.Proofs.Text.Margin
import OpeningHours.Proofs.Listing.Margin
import OpeningHours.Proofs.Status.Order
import OpeningHours.Proofs.Directory.Sorted
import OpeningHours.Proofs.Calendar.CivilTime
import OpeningHours.Proofs.Directory.Groups
import OpeningHours.Inquiry
import OpeningHours.Proofs.Inquiry.DefaultClock
import OpeningHours.Proofs.Listing.DayLists
import OpeningHours.Proofs.Validation.Admission
import OpeningHours.Proofs.Command.Arguments
import OpeningHours.Proofs.Text.Lines
import OpeningHours.Proofs.Text.Utf8
import OpeningHours.Proofs.Command.FileInput
import OpeningHours.Proofs.Json.ReadBack
import OpeningHours.Proofs.Command.JsonOutput
import OpeningHours.Proofs.Command.TextOutput
import OpeningHours.Proofs.Listing.StatedRange
import OpeningHours.Proofs.Listing.Clauses
import OpeningHours.Proofs.Listing.MealListing
import OpeningHours.Proofs.Json.OneLine
import OpeningHours.Proofs.Journal.Runs
import OpeningHours.Proofs.Status.Countdown
import OpeningHours.Proofs.Listing.ClockNumerals
import OpeningHours.Proofs.Listing.FinalSigma
