import StreamMux.Connection.Basic

/-!
The watchdog of a connection. At every tick it either reports to the peer or, if the peer was
silent for longer than the lifetime, ends the connection.
-/
namespace StreamMux

/-- The time between two ticks is never below a millisecond. -/
def ConnectionConfig.tickInterval (c : ConnectionConfig) : Duration :=
  if c.keepAlive < Duration.ofMillis 1 then Duration.ofMillis 1 else c.keepAlive

namespace Connection

/-- The peer was silent for longer than the lifetime. -/
def isSilent (c : Connection) (now : Duration) : Bool := c.config.lifetime < now - c.lastHeard

/-- One tick of the watchdog. -/
def tick (c : Connection) (now : Duration) : Connection :=
  if c.isSilent now then c.terminate (.keepAliveTimeout c.config.lifetime)
  else c.enqueuePriority (.keepAlive true 0 ByteArray.empty)

end Connection
end StreamMux
