import OpenLawsVpn.Text
import OpenLawsVpn.Core.Client
import OpenLawsVpn.Core.Challenge
import OpenLawsVpn.Lib.Shell
import OpenLawsVpn.Cli.Browser
import OpenLawsVpn.Cli.Connect
import OpenLawsVpn.Lib.Form
import OpenLawsVpn.Saml.Token
import OpenLawsVpn.Lib.Segmented
import OpenLawsVpn.Saml.Request
import OpenLawsVpn.DBus.Client
import OpenLawsVpn.Lib.Wp
import OpenLawsVpn.Config
import OpenLawsVpn.DBus.Connect
import OpenLawsVpn.DBus.Cleanup
import OpenLawsVpn.DBus.Connected
import OpenLawsVpn.Client
import OpenLawsVpn.Disconnect
import OpenLawsVpn.Gui.LogCallback
import OpenLawsVpn.Gui.Service
import OpenLawsVpn.Gui.Attempt
import OpenLawsVpn.Gui.Phase2
import OpenLawsVpn.DBus.Received
import OpenLawsVpn.Core.History
import OpenLawsVpn.Failure
import OpenLawsVpn.DBus.Paths
import OpenLawsVpn.DBus.Timing
import OpenLawsVpn.Password
import OpenLawsVpn.Saml.Capture
import OpenLawsVpn.Gui.SamlServer
import OpenLawsVpn.Saml.Agreement
import OpenLawsVpn.Remotes
import OpenLawsVpn.Gui.Actions
import OpenLawsVpn.Gui.Screen
import OpenLawsVpn.Gui.ScreenRuns
import OpenLawsVpn.Core.Reauth
import OpenLawsVpn.Gui.ConnectTask
import OpenLawsVpn.Saml.Canonical
import OpenLawsVpn.Lib.FileTree
import OpenLawsVpn.Lib.Posix
import OpenLawsVpn.Gui.ProfileStore
import OpenLawsVpn.Gui.ProfileRuns
import OpenLawsVpn.Gui.ProfileImport
import OpenLawsVpn.Gui.ProfileDelete
import OpenLawsVpn.Lib.Runs
import OpenLawsVpn.Ownership
import OpenLawsVpn.DBus.Secrecy
import OpenLawsVpn.Secrecy
import OpenLawsVpn.Saml.UrlDecode
import OpenLawsVpn.Gui.ProfileOrder
import OpenLawsVpn.Gui.ConnectionScreen
import OpenLawsVpn.DBus.Protocol
import OpenLawsVpn.DBus.Order
import OpenLawsVpn.Cli.Main
import OpenLawsVpn.Cli.Rounds
import OpenLawsVpn.Cli.Credentials
import OpenLawsVpn.Cli.Login
import OpenLawsVpn.Core.Wakeups
import OpenLawsVpn.Gui.Handles
import OpenLawsVpn.Gui.Login
import OpenLawsVpn.Gui.Handshake
import OpenLawsVpn.Gui.Desktop
import OpenLawsVpn.Gui.EventLoop
import OpenLawsVpn.Cli.Secrecy
import OpenLawsVpn.Cli.SignalHandler
import OpenLawsVpn.Gui.Secrecy
