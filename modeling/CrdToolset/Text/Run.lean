/-!
# Runs of code points

Properties of characters are given as short lists of runs. A run is an arithmetic progression,
because capital and small letters often alternate, so that every second code point has the property.
The way to the other case is given with a run, too.
-/

namespace CrdToolset.Text

/-- A run of code points: every `step`-th from `first` up to `last`. -/
structure Run where
  /-- The least code point of the run. -/
  first : Nat
  /-- No code point of the run lies above it. -/
  last : Nat
  /-- The distance between neighbours. -/
  step : Nat

/-- The code point lies on the run: between its ends, and a whole number of steps from the first. -/
def Run.covers (r : Run) (n : Nat) : Bool :=
  r.first ≤ n && n ≤ r.last && (n - r.first) % r.step == 0

/-- Some run of the list covers the character, which then has the property that the list is for. -/
def onRuns (runs : List Run) (c : Char) : Bool :=
  runs.any fun r => r.covers c.toNat

/-- A run whose members all have their partner in the other case at the same distance. -/
structure Shift where
  /-- The characters that are moved. -/
  run : Run
  /-- How far each of them is moved. -/
  distance : Int

/-- Moves the character by the first shift that covers it; a character that none covers stays. -/
def shiftBy (shifts : List Shift) (c : Char) : Char :=
  match shifts.find? fun s => s.run.covers c.toNat with
  | some s => Char.ofNat (c.toNat + s.distance).toNat
  | none => c

end CrdToolset.Text
