import LibAudit.Go.Runtime
import LibAudit.Go.Strconv
import LibAudit.Go.Utf8
import LibAudit.Go.Binary
import LibAudit.Go.Hex
import LibAudit.Go.Net
import LibAudit.Go.Bitmask
import LibAudit.Go.Loop
import LibAudit.Go.Counter
import LibAudit.Go.Regexp
import LibAudit.Go.Switch
import LibAudit.Constants
import LibAudit.Parser.Scan
import LibAudit.Parser.Fields
import LibAudit.Parser.Total
import LibAudit.Netlink.Message
import LibAudit.Netlink.Events
import LibAudit.Netlink.Reply
import LibAudit.Netlink.RawStream
import LibAudit.Rules.Data
import LibAudit.Rules.Fields
import LibAudit.Rules.Layout
import LibAudit.Rules.Wire
import LibAudit.Parser.Interpret
import LibAudit.Parser.Flags
import LibAudit.Parser.Regex
import LibAudit.Rules.Print
import LibAudit.Parser.Printers
import LibAudit.Parser.Arguments
import LibAudit.Parser.SockAddr
import LibAudit.Rules.Watch
import LibAudit.Rules.Syscalls
import LibAudit.Rules.Mask
import LibAudit.Rules.Listing
import LibAudit.Netlink.AuditEvents
import LibAudit.Rules.Removal
import LibAudit.Rules.SetRules
import LibAudit.Rules.Runs
import LibAudit.Rules.Decimal
import LibAudit.Session
