import StreamMux.Frame.Basic

/-!
Settings of a connection: how often it says that it is alive, how long it bears silence, and how
many items a consumer asks for at a time.
-/
namespace StreamMux

/-- A number of items that can be asked for: at least one, at most the largest. -/
def clampRequest (n : UInt32) : UInt32 := max 1 (min n maxRequestN)

/-- Settings that both ends of a connection choose for themselves. -/
structure ConnectionConfig where
  keepAlive : Duration := Duration.ofSeconds 20
  lifetime : Duration := Duration.ofSeconds 90
  prefetch : UInt32 := 64
  deriving DecidableEq, Repr, Inhabited

namespace ConnectionConfig

def withKeepAlive (c : ConnectionConfig) (keepAlive lifetime : Duration) : ConnectionConfig :=
  { c with keepAlive, lifetime }

def withPrefetch (c : ConnectionConfig) (n : UInt32) : ConnectionConfig :=
  { c with prefetch := clampRequest n }

end ConnectionConfig
end StreamMux
