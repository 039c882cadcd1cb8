import V2xRosDriver.Theory.Transition
import V2xRosDriver.Theory.SuffixScan
import V2xRosDriver.Theory.Numerals
import V2xRosDriver.Radio.BaseRadioClient
import V2xRosDriver.Radio.Scanner
import V2xRosDriver.Radio.LookAhead
import V2xRosDriver.Radio.Framing
import V2xRosDriver.Radio.Transparency
import V2xRosDriver.Radio.PsidHeuristic
import V2xRosDriver.Mqtt.Session
import V2xRosDriver.Mqtt.MqttRadioClient
import V2xRosDriver.Mqtt.Ownership
import V2xRosDriver.Mqtt.Routing
import V2xRosDriver.Mqtt.EttifosPsid
import V2xRosDriver.Udp.UdpRadioClient
import V2xRosDriver.Driver.RadioClient
import V2xRosDriver.Driver.Machine
import V2xRosDriver.Driver.PendingConnect
import V2xRosDriver.Driver.Sessions
import V2xRosDriver.Mqtt.PsidStrings
import V2xRosDriver.Driver.Outbound
import V2xRosDriver.Scripts.Forwarder
import V2xRosDriver.Driver.WaveText
import V2xRosDriver.Driver.OutboundTotal
import V2xRosDriver.Radio.ConnectionContract
import V2xRosDriver.Driver.Signals
import V2xRosDriver.Mqtt.ConnectedFlag
import V2xRosDriver.Driver.Parameters
import V2xRosDriver.Driver.Steps
import V2xRosDriver.Driver.TransportFormat
import V2xRosDriver.Driver.Reconfigure
import V2xRosDriver.Driver.Lifecycle
import V2xRosDriver.Radio.ProcessSteps
import V2xRosDriver.Driver.Inbound
import V2xRosDriver.Driver.FallbackPsid
import V2xRosDriver.Udp.ClientRun
import V2xRosDriver.Udp.Generations
import V2xRosDriver.Udp.ReceivePath
import V2xRosDriver.Radio.InFlight
import V2xRosDriver.Radio.Scanning
import V2xRosDriver.Udp.Traffic
import V2xRosDriver.Udp.IoThread
import V2xRosDriver.Driver.Callbacks
import V2xRosDriver.Driver.RoundTrip
import V2xRosDriver.Driver.SendQueue
import V2xRosDriver.Driver.ConnectingFlag
import V2xRosDriver.Mqtt.Subscription
import V2xRosDriver.Driver.ParameterUpdates
import V2xRosDriver.Mqtt.LibraryCount
import V2xRosDriver.Mqtt.Listening
import V2xRosDriver.Radio.WaveTables
import V2xRosDriver.Theory.JsonSchema
import V2xRosDriver.Radio.WaveDocument
import V2xRosDriver.Driver.Preparation
import V2xRosDriver.Driver.Publishing
import V2xRosDriver.Scripts.ForwarderLoop
import V2xRosDriver.Driver.Silence
import V2xRosDriver.Driver.Recovery
import V2xRosDriver.Driver.Reconnecting
import V2xRosDriver.Driver.Status
import V2xRosDriver.Driver.Starting
