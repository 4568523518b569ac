/-!
# Names on the wire

The commands, headers and fixed texts of the protocol.
-/

namespace Stomp

namespace Verb

def abort := "ABORT"
def ack := "ACK"
def begin := "BEGIN"
def commit := "COMMIT"
def connect := "CONNECT"
def disconnect := "DISCONNECT"
def nack := "NACK"
def send := "SEND"
def subscribe := "SUBSCRIBE"
def unsubscribe := "UNSUBSCRIBE"
def connected := "CONNECTED"
def error := "ERROR"
def message := "MESSAGE"
def receipt := "RECEIPT"

end Verb

namespace Name

def acceptVersion := "accept-version"
def ack := "ack"
def clientId := "client-id"
def contentLength := "content-length"
def destination := "destination"
def heartBeat := "heart-beat"
def host := "host"
def id := "id"
def login := "login"
def message := "message"
def messageId := "message-id"
def passcode := "passcode"
def receipt := "receipt"
def receiptId := "receipt-id"
def selector := "selector"
def server := "server"
def session := "session"
def subscription := "subscription"
def transaction := "transaction"
def transformation := "transformation"
def version := "version"

def prefetchSize := "activemq.prefetchSize"
def prefetchCount := "prefetch-count"
def subscriptionName := "activemq.subscriptionName"
def subscriberName := "durable-subscriber-name"
def persistent := "persistent"
def requeue := "requeue"

end Name

/-- The transformation of frames whose body is a map in JSON. -/
def mapTransformation := "jms-map-json"

end Stomp
