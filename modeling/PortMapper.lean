import PortMapper.Address.Parser
import PortMapper.Address.Printer
import PortMapper.Client.Incoming
import PortMapper.Client.Names
import PortMapper.Client.Registrations
import PortMapper.Control.Basic
import PortMapper.Daemon.Basic
import PortMapper.Daemon.Conversation
import PortMapper.Daemon.Start
import PortMapper.Dispatcher
import PortMapper.Frame.Stream
import PortMapper.Main
import PortMapper.Reader.Log
import PortMapper.Registry.Activity
import PortMapper.Registry.Operation
import PortMapper.Reply.Json
import PortMapper.Settings.FileTree
import PortMapper.Proofs.Registry.Activity
import PortMapper.Proofs.Registry.Holding
import PortMapper.Proofs.Registry.Tenure
import PortMapper.Proofs.Registry.Conservation
import PortMapper.Proofs.Reader
import PortMapper.Proofs.Reader.Accounting
import PortMapper.Proofs.Request.Description
import PortMapper.Proofs.Request.Frame
import PortMapper.Proofs.Request.Canonical
import PortMapper.Proofs.Request.Fitting
import PortMapper.Proofs.Frame.Stream
import PortMapper.Proofs.Dispatcher
import PortMapper.Proofs.Reply.Listing
import PortMapper.Proofs.Text.Decimal
import PortMapper.Proofs.Reply.Names
import PortMapper.Proofs.Reply.Dump
import PortMapper.Proofs.Reply.NodeInfo
import PortMapper.Proofs.Reply.Registration
import PortMapper.Proofs.Client.Replies
import PortMapper.Proofs.Registry.Listing
import PortMapper.Traffic
import PortMapper.Traffic.Probing
import PortMapper.Proofs.Traffic.Framed
import PortMapper.Proofs.Traffic.Listing
import PortMapper.Proofs.Traffic.Answering
import PortMapper.Proofs.Traffic.Overlapping
import PortMapper.Proofs.Traffic.Strict
import PortMapper.Proofs.Traffic.Echo
import PortMapper.Proofs.Traffic.Dumping
import PortMapper.Proofs.Registry.Checking
import PortMapper.Daemon.Ledger
import PortMapper.Proofs.Daemon.Connection
import PortMapper.Proofs.Daemon.Ledger
import PortMapper.Proofs.Daemon.Ending
import PortMapper.Proofs.Daemon.Conversation
import PortMapper.Proofs.Daemon.Service
import PortMapper.Proofs.Creation
import PortMapper.Proofs.Registry.Numbering
import PortMapper.Proofs.Client.Names
import PortMapper.Proofs.Client.Registrations
import PortMapper.Proofs.Text.Order
import PortMapper.Proofs.Registry.Sweeping
import PortMapper.Proofs.Registry.Commuting
import PortMapper.Proofs.Fields
import PortMapper.Proofs.Arrival
import PortMapper.Proofs.Settings.AllowList
import PortMapper.Proofs.Registry.Clearing
import PortMapper.Proofs.Traffic.Relaxed
import PortMapper.Proofs.Client.Abandoning
import PortMapper.Proofs.Control.Exit
import PortMapper.Proofs.Daemon.Arguments
import PortMapper.Proofs.Daemon.Layers
