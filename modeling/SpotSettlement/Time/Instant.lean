namespace SpotSettlement

/-! # Moments and lengths of time

A moment counts nanoseconds from the start of 1970 in UTC, a length of time counts nanoseconds.
Moments live between the first of January of the year −262143 and the end of the year 262142;
moving past either end stops there.  A moment may be told as the leap second of a minute, that of
the last minute too; the count knows no leap seconds and takes it for the start of the next minute.
-/

structure Duration where
  nanoseconds : Nat
  deriving DecidableEq, Inhabited, Repr

namespace Duration

def ofMillis (count : Nat) : Duration := ⟨count * 1000000⟩

def ofSeconds (count : Nat) : Duration := ⟨count * 1000000000⟩

/-- The whole milliseconds in it. -/
def toMillis (d : Duration) : Nat := d.nanoseconds / 1000000

def min (a b : Duration) : Duration := if a.nanoseconds ≤ b.nanoseconds then a else b

instance : LE Duration := ⟨fun a b => a.nanoseconds ≤ b.nanoseconds⟩

instance (a b : Duration) : Decidable (a ≤ b) :=
  inferInstanceAs (Decidable (a.nanoseconds ≤ b.nanoseconds))

instance : Add Duration := ⟨fun a b => ⟨a.nanoseconds + b.nanoseconds⟩⟩

end Duration

/-- A moment.  Only the start of a minute, and the second after it, can be told as a leap second. -/
structure Instant where
  nanoseconds : Int
  /-- Whether the moment was told as the sixty-first second of its minute. -/
  leap : Bool := false
  leap_starts_minute : leap = true → nanoseconds.fdiv 1000000000 % 60 = 0 := by nofun
  deriving DecidableEq, Repr

namespace Instant

instance : Inhabited Instant := ⟨{ nanoseconds := 0 }⟩

/-- The moment at a count of nanoseconds, told as a leap second where it can be one. -/
def ofLeap (nanoseconds : Int) : Instant :=
  if starts : nanoseconds.fdiv 1000000000 % 60 = 0 then
    { nanoseconds, leap := true, leap_starts_minute := fun _ => starts }
  else { nanoseconds }

def first : Instant := { nanoseconds := -8334601228800000000000 }

def last : Instant := { nanoseconds := 8210266876799999999999 }

instance : LE Instant := ⟨fun a b => a.nanoseconds ≤ b.nanoseconds⟩

instance : LT Instant := ⟨fun a b => a.nanoseconds < b.nanoseconds⟩

instance (a b : Instant) : Decidable (a ≤ b) :=
  inferInstanceAs (Decidable (a.nanoseconds ≤ b.nanoseconds))

instance (a b : Instant) : Decidable (a < b) :=
  inferInstanceAs (Decidable (a.nanoseconds < b.nanoseconds))

/-- The moment so many milliseconds after the start of 1970. -/
def ofMillis (count : Int) : Instant := { nanoseconds := count * 1000000 }

/-- The whole milliseconds since the start of 1970, rounded down. -/
def toMillis (t : Instant) : Int := t.nanoseconds.fdiv 1000000

/-- The nanoseconds at which the moment's second is counted: those of a leap second go with the
second before it. -/
def counted (t : Instant) : Int := t.nanoseconds - if t.leap then 1000000000 else 0

/-- Whether the second in which the moment is counted lies between the first and the last one. -/
def inRange (t : Instant) : Bool :=
  decide (first.nanoseconds ≤ t.counted ∧ t.counted ≤ last.nanoseconds)

/-- The moment so many milliseconds after the start of 1970, if there is one. -/
def ofMillis? (count : Int) : Option Instant :=
  let t := ofMillis count
  if t.inRange then some t else none

/-- The moment a length of time later, at most the last one. -/
def after (t : Instant) (delay : Duration) : Instant :=
  { nanoseconds := Min.min (t.nanoseconds + delay.nanoseconds) last.nanoseconds }

/-- The moment a length of time earlier, at least the first one. -/
def before (t : Instant) (delay : Duration) : Instant :=
  { nanoseconds := Max.max (t.nanoseconds - delay.nanoseconds) first.nanoseconds }

@[simp] theorem le_iff {a b : Instant} : a ≤ b ↔ a.nanoseconds ≤ b.nanoseconds := Iff.rfl

@[simp] theorem lt_iff {a b : Instant} : a < b ↔ a.nanoseconds < b.nanoseconds := Iff.rfl

theorem before_le {t : Instant} (bounded : first ≤ t) (delay : Duration) :
    t.before delay ≤ t := by
  simp only [le_iff, before] at *
  omega

end Instant

end SpotSettlement
