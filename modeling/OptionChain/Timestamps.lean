import Mathlib.Algebra.Order.Group.Int

/-!
# Wall clocks with and without a zone

A timestamp is a wall-clock reading in microseconds, which may come with the
offset of its zone. Two readings with offsets are compared by the instants they
name, two without by the wall clock, and one with and one without not at all.
-/

namespace OptionChain.Timestamps

/-- A wall-clock reading, aware of its zone or naive. -/
structure Stamp where
  wall : Int
  offset : Option Int := none
deriving DecidableEq

/-- The comparison of an aware and a naive reading. -/
inductive MixedZones where
  | mixed
deriving DecidableEq

/-- The reading knows its zone. -/
def Stamp.aware (stamp : Stamp) : Bool := stamp.offset.isSome

/-- Compare two readings, with a test on what they stand for. -/
def Stamp.compare (test : Int → Int → Bool) (stamp other : Stamp) : Except MixedZones Bool :=
  match stamp.offset, other.offset with
  | none, none => .ok (test stamp.wall other.wall)
  | some own, some its => .ok (test (stamp.wall - own) (other.wall - its))
  | some _, none => .error .mixed
  | none, some _ => .error .mixed

/-- `stamp <= other`. -/
def Stamp.le : Stamp → Stamp → Except MixedZones Bool :=
  Stamp.compare (fun first second => decide (first ≤ second))

/-- `stamp < other`. -/
def Stamp.lt : Stamp → Stamp → Except MixedZones Bool :=
  Stamp.compare (fun first second => decide (first < second))

/-- The reading without its zone. -/
def Stamp.naive (stamp : Stamp) : Stamp := ⟨stamp.wall, none⟩

/-- The reading some microseconds later. -/
def Stamp.add (stamp : Stamp) (microseconds : Int) : Stamp :=
  { stamp with wall := stamp.wall + microseconds }

/-- The start of the interval of a given length that the reading lies in. -/
def Stamp.floor (stamp : Stamp) (length : Int) : Stamp :=
  { stamp with wall := stamp.wall - stamp.wall % length }

section Compare

variable (test : Int → Int → Bool) (stamp other : Stamp)

/-- Readings compare exactly where both know their zone or neither does. -/
theorem compare_ok_iff :
    (∃ answer, stamp.compare test other = .ok answer) ↔ stamp.aware = other.aware := by
  cases own : stamp.offset with
  | none => cases its : other.offset <;> simp [Stamp.compare, Stamp.aware, own, its]
  | some offset => cases its : other.offset <;> simp [Stamp.compare, Stamp.aware, own, its]

/-- Else they raise. -/
theorem compare_error (mixed : stamp.aware ≠ other.aware) :
    stamp.compare test other = .error .mixed := by
  cases own : stamp.offset with
  | none => cases its : other.offset <;> simp_all [Stamp.compare, Stamp.aware]
  | some offset => cases its : other.offset <;> simp_all [Stamp.compare, Stamp.aware]

@[simp] theorem floor_aware (length : Int) : (stamp.floor length).aware = stamp.aware := rfl

@[simp] theorem add_aware (microseconds : Int) :
    (stamp.add microseconds).aware = stamp.aware := rfl

@[simp] theorem naive_aware : stamp.naive.aware = false := rfl

end Compare

end OptionChain.Timestamps
