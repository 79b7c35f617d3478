import SocksProxy.Wire.Reply
import SocksProxy.Wire.Negotiation
import SocksProxy.Wire.Datagram
import SocksProxy.Dialogue
import SocksProxy.Net.Schedule
import SocksProxy.Relay.PortMap
import SocksProxy.Poll.Batch
import SocksProxy.Text.Blank
import SocksProxy.Text.LowerCase
import SocksProxy.Text.Quoted
import SocksProxy.Text.Utf8
import SocksProxy.Script.Writes
import SocksProxy.Dns.Cursor
import SocksProxy.Dns.Message
import SocksProxy.Dns.Response
import SocksProxy.Dns.ResolverFile
import SocksProxy.Toml.Document
import SocksProxy.Config.File
import SocksProxy.Server.Serve
import SocksProxy.Script.Network
import SocksProxy.CommandLine.Launch
import SocksProxy.Main
import SocksProxy.Proofs.Candidates
import SocksProxy.Proofs.Conversation
import SocksProxy.Proofs.Wakeup
import SocksProxy.Proofs.Gate
import SocksProxy.Proofs.Segments
import SocksProxy.Proofs.Fallback
import SocksProxy.Proofs.Dispatch
import SocksProxy.Proofs.Strays
import SocksProxy.Proofs.Notices
import SocksProxy.Proofs.Backlog
import SocksProxy.Proofs.Replies
import SocksProxy.Proofs.Pipelined
import SocksProxy.Proofs.Rerouting
import SocksProxy.Proofs.Registry
import SocksProxy.Proofs.Backpressure
import SocksProxy.Proofs.Isolation
import SocksProxy.Proofs.Lifecycle
import SocksProxy.Proofs.Interests
import SocksProxy.Proofs.Passwords
import SocksProxy.Proofs.Schedules
import SocksProxy.Proofs.Flushing
import SocksProxy.Proofs.Mappings
import SocksProxy.Proofs.FinalDots
import SocksProxy.Proofs.Lookups
import SocksProxy.Proofs.Overrides
import SocksProxy.Proofs.SettingTexts
import SocksProxy.Proofs.Reparsing
import SocksProxy.Proofs.Tokens
