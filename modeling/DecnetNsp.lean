import DecnetNsp.Wire
import DecnetNsp.Conn
import DecnetNsp.Ack
import DecnetNsp.Control
import DecnetNsp.Data
import DecnetNsp.Backlog
import DecnetNsp.Delivery
import DecnetNsp.Lifecycle
import DecnetNsp.Acknowledgment
import DecnetNsp.FlowControl
import DecnetNsp.Receive
import DecnetNsp.FrameBounds
import DecnetNsp.Malformed
import DecnetNsp.AckReference
import DecnetNsp.AckReordering
import DecnetNsp.ListenerGrammar
import DecnetNsp.Bookkeeping
import DecnetNsp.Calls
import DecnetNsp.EntryRuns
import DecnetNsp.SegmentFormat
import DecnetNsp.RunInvariants
import DecnetNsp.Noninterference
