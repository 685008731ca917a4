import ScanQuery.Log.Event

/-!
A log with a threshold. Events that are handed to the log are kept when their level is admitted;
events recorded directly are kept in any case.
-/

namespace ScanQuery.Log

/-- The least severe level that is kept, and the events kept so far. -/
structure Service where
  threshold : Level
  kept : List Event

namespace Service

/-- Whether events of a level are kept. -/
def admits (s : Service) (level : Level) : Bool :=
  level ≤ s.threshold

/-- The events that a threshold lets through. -/
def admitted (threshold : Level) (events : List Event) : List Event :=
  events.filter (·.level ≤ threshold)

/-- Keeps an event whatever its level. -/
def record (s : Service) (e : Event) : Service :=
  { s with kept := s.kept ++ [e] }

/-- Keeps an event when its level is admitted. -/
def emit (s : Service) (e : Event) : Service :=
  if s.admits e.level then s.record e else s

/-- Forgets the events kept so far. -/
def clear (s : Service) : Service :=
  { s with kept := [] }

/-- The warnings among the kept events. -/
def warnings (s : Service) : List Event :=
  s.kept.filter (·.level = .warning)

/-- Whether an event with a code was kept. -/
def hasCode (s : Service) (code : Code) : Bool :=
  s.kept.any (·.code = code)

/-- The kept events with a code whose context has a value under a key. -/
def withContext (s : Service) (code : Code) (key value : String) : List Event :=
  s.kept.filter fun e => e.code = code && e.context.get? key = some value

end Service

end ScanQuery.Log
