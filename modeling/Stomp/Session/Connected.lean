import Stomp.Client.Basic
import Stomp.Session.Basic

/-!
# Sessions over clients
-/

namespace Stomp

instance {κ R : Type} [Scale R] [Channel κ R] : Session.Client (Client κ R) R where
  protocol := Client.protocol
  sendFrame := Client.sendFrame
  sendBody := Client.sendBody
  sendPrepared := Client.sendPrepared
  readFrame := Client.readFrame
  isBufferEmpty := Client.isBufferEmpty
  ids := Client.ids
  setIds c ids := { c with ids }
  logNotice n c := { c with transport := { c.transport with link := c.transport.link.notify n } }

end Stomp
