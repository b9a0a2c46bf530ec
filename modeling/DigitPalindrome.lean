import DigitPalindrome.Word
import DigitPalindrome.Digits
import DigitPalindrome.Whitespace
import DigitPalindrome.Unicode.GraphemeExtend
import DigitPalindrome.Unicode.Printable
import DigitPalindrome.Error
import DigitPalindrome.Literal
import DigitPalindrome.Center
import DigitPalindrome.Range
import DigitPalindrome.Scan
import DigitPalindrome.Mirror
import DigitPalindrome.Machine
import DigitPalindrome.Json.Tree
import DigitPalindrome.Report
import DigitPalindrome.Binary64
import DigitPalindrome.Json.Reader
import DigitPalindrome.Json.Message
import DigitPalindrome.Settings.Basic
import DigitPalindrome.Settings.Decode
import DigitPalindrome.Disk
import DigitPalindrome.Files
import DigitPalindrome.Settings.Store
import DigitPalindrome.Cmdline.Spec
import DigitPalindrome.Cmdline.Similarity
import DigitPalindrome.Cmdline.Text
import DigitPalindrome.Cmdline.Help
import DigitPalindrome.Cmdline.Failure
import DigitPalindrome.Cmdline.Parse
import DigitPalindrome.Cmdline.Terminal
import DigitPalindrome.Tool.Interface
import DigitPalindrome.Report.Format
import DigitPalindrome.Tool.Run
import DigitPalindrome.Tool.Standard
import DigitPalindrome.Main
import DigitPalindrome.Proofs.Positional
import DigitPalindrome.Proofs.Literal
import DigitPalindrome.Proofs.RoundTrip
import DigitPalindrome.Proofs.Expansion
import DigitPalindrome.Proofs.LongestRun
import DigitPalindrome.Proofs.WholeSequence
import DigitPalindrome.Proofs.RangeReading
import DigitPalindrome.Proofs.CommandOutcome
import DigitPalindrome.Proofs.Construction
import DigitPalindrome.Proofs.TrapFreedom
