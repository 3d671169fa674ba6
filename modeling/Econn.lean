import Econn.Basic
import Econn.Fmt
import Econn.Codec
import Econn.Conn
import Econn.Step
import Econn.Run
import Econn.Inbound
import Econn.Calls
import Econn.Glare
import Econn.Agreement
import Econn.Pair
import Econn.Simulation
import Econn.Orphan
import Econn.Callbacks
import Econn.Phases
import Econn.Wire
import Econn.Ending
import Econn.Exchanges
