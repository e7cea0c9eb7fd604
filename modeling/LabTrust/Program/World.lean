/-
Programs on a disk.

* `World`: a disk, the time, and for each source the state of an authority.
* `World.handle`: what effects do to it. A write that the list of refusals refuses changes nothing.
* `World.run`: a program on it.
-/
import LabTrust.Program

namespace LabTrust

/-- All that a program works on. -/
structure World (σ : Type) where
  disk : Disk
  now : Instant
  /-- The state of the authority, for each source of random values. -/
  states : Nat → σ
  /-- Whether each coming write is refused; the writes after these are not. -/
  refusals : List (Option IoFailure) := []

namespace World

variable {σ : Type}

/-- The world with another state for one source. -/
def setState (w : World σ) (source : Nat) (s : σ) : World σ :=
  { w with states := fun i => if i = source then s else w.states i }

/-- Writes a file, unless the write is refused. -/
def write (w : World σ) (path : Path) (content : Bytes) : Except IoFailure Unit × World σ :=
  match w.refusals with
  | some failure :: later => (.error failure, { w with refusals := later })
  | refusals =>
    match w.disk.write path content with
    | .ok disk => (.ok (), { w with disk, refusals := refusals.tail })
    | .error failure => (.error failure, { w with refusals := refusals.tail })

/-- What an effect does to a world. -/
def handle (authority : Authority σ) : Program.Handler (World σ)
  | .lookUp path, w => ((w.disk.lookUp path).map Entry.kind, w)
  | .read path, w => (w.disk.read path, w)
  | .makeDirectories path, w =>
    ((w.disk.makeDirectories path).1, { w with disk := (w.disk.makeDirectories path).2 })
  | .write path content, w => w.write path content
  | .consult source call, w =>
    ((authority.answer w.now call (w.states source)).1,
      w.setState source (authority.answer w.now call (w.states source)).2)
  | .clock, w => (w.now, w)

/-- The result of a program, and the world it leaves. -/
def run {α : Type} (authority : Authority σ) (p : Program α) (w : World σ) : α × World σ :=
  p.run (handle authority) w

end World

end LabTrust
