/-!
Contract: the record of what a shell has done.

Owns:
- `Level`, how serious an event is, and `Entry`, one event.
- `Journal`, the events so far, of which a capacity may keep only the newest, and
  `record`, `select` and `clear`.
-/

namespace VirtualShell

/-- How serious an event is. -/
inductive Level where
  | debug
  | info
  | warning
  | error
deriving DecidableEq, Repr

namespace Level

/-- The levels from the least serious to the most serious. -/
def rank : Level → Nat
  | debug => 0
  | info => 1
  | warning => 2
  | error => 3

/-- The name of a level. -/
def name : Level → String
  | debug => "DEBUG"
  | info => "INFO"
  | warning => "WARNING"
  | error => "ERROR"

/-- The level with a name. -/
def ofName? (text : String) : Option Level :=
  [debug, info, warning, error].find? fun level => level.name == text

end Level

/-- One event: how serious it is, what happened, which part of the shell reports it, and
how many function calls were active. -/
structure Entry where
  level : Level
  message : String
  source : String
  depth : Int
deriving DecidableEq, Repr

/-- The wording of an event. -/
def Entry.text (entry : Entry) : String :=
  "[" ++ entry.level.name ++ "] " ++ entry.source ++ ": " ++ entry.message

/-- The events so far, latest first, and how many of them are kept. -/
structure Journal where
  capacity : Option Nat
  recent : List Entry
deriving DecidableEq, Repr

namespace Journal

/-- The journal without events. -/
def empty (capacity : Option Nat) : Journal := ⟨capacity, []⟩

/-- Why there is no journal with some capacity. -/
inductive CapacityDefect where
  | negative
  | tooLarge
deriving DecidableEq, Repr

/-- The wording of a defect. -/
def CapacityDefect.message : CapacityDefect → String
  | .negative => "maxlen must be non-negative"
  | .tooLarge => "maxlen is too large"

/-- The capacities that are counted with one machine word lie below this, and above its
negative. -/
def capacityBound : Int := 0x8000000000000000

/-- The journal without events for a capacity. -/
def ofCapacity : Option Int → Except CapacityDefect Journal
  | none => .ok (empty none)
  | some capacity =>
      if capacity < -capacityBound ∨ capacityBound ≤ capacity then .error .tooLarge
      else if capacity < 0 then .error .negative
      else .ok (empty (some capacity.toNat))

/-- The journal with one more event. -/
def record (journal : Journal) (entry : Entry) : Journal :=
  let all := entry :: journal.recent
  { journal with
    recent := match journal.capacity with
      | none => all
      | some capacity => all.take capacity }

/-- The events, the oldest first. -/
def entries (journal : Journal) : List Entry :=
  journal.recent.reverse

/-- The events at a level or above it, from one part of the shell. -/
def select (journal : Journal) (least : Option Level) (source : Option String) : List Entry :=
  journal.entries.filter fun entry =>
    least.all (fun level => level.rank ≤ entry.level.rank) && source.all (· == entry.source)

/-- The journal without its events. -/
def clear (journal : Journal) : Journal := { journal with recent := [] }

end Journal

end VirtualShell
