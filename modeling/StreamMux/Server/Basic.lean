import StreamMux.Settings

/-!
The accept loop of a server and its books. Every connection that is taken on has a task until it
ends; when as many tasks run as are allowed, further connections are turned away.
-/
namespace StreamMux

/-- Counts of connections. -/
structure Tally where
  total : Nat := 0
  active : Nat := 0
  rejected : Nat := 0
  errors : Nat := 0
  deriving DecidableEq, Repr, Inhabited

/-- A server at work. -/
structure Server where
  settings : Settings
  running : Bool := true
  /-- The connections whose tasks have not ended, by number. -/
  tasks : List Nat := []
  tally : Tally := {}
  deriving DecidableEq, Repr, Inhabited

/-- What can happen to a server. -/
inductive ServerEvent where
  /-- A connection is there to be taken. -/
  | arrival
  /-- The task of a connection ended, with an error or without. -/
  | ending (task : Nat) (failed : Bool)
  | shutdown
  deriving DecidableEq, Repr

namespace Server

/-- As many tasks run as are allowed. -/
def isFull (s : Server) : Bool := s.settings.maxConnections ≤ s.tally.active

/-- Takes a connection on, or turns it away. Tasks are numbered as they come. -/
def accept (s : Server) : Server :=
  if s.isFull then { s with tally.rejected := s.tally.rejected + 1 }
  else
    { s with
      tasks := s.tally.total :: s.tasks
      tally.total := s.tally.total + 1
      tally.active := s.tally.active + 1 }

/-- Books the end of a task. -/
def finish (s : Server) (task : Nat) (failed : Bool) : Server :=
  if task ∈ s.tasks then
    { s with
      tasks := s.tasks.erase task
      tally.active := s.tally.active - 1
      tally.errors := if failed then s.tally.errors + 1 else s.tally.errors }
  else s

/-- A server that was shut down takes no connection, but its tasks still end. -/
def step (s : Server) : ServerEvent → Server
  | .arrival => if s.running then s.accept else s
  | .ending task failed => s.finish task failed
  | .shutdown => { s with running := false }

def run (s : Server) (events : List ServerEvent) : Server := events.foldl step s

end Server
end StreamMux
