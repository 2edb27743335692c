import Espp.Socket.Basic
import Espp.Socket.Lifecycle
import Espp.Socket.ServerLoop
import Espp.Socket.Network
import Espp.Socket.Delivery
import Espp.Socket.Serving
import Espp.Display.Ili9341
import Espp.Display.Window
import Espp.Display.Stream
import Espp.Display.Commands
import Espp.Display.Controller
import Espp.Nvs.Handle
import Espp.Nvs.Properties
import Espp.Nvs.Session
