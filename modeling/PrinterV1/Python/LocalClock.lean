import PrinterV1.Python.IsoRoundTrip

/-!
# The local clock of a host

`astimezone` takes a datetime without an offset for local time. The clock of a
host is its offset at every second of UTC, and the second that a local time
stands for is searched for as `datetime` does it: of two seconds with one local
time it takes the earlier, and for a local time that is skipped it goes by the
offset on the far side of the gap.
-/

namespace PrinterV1.Python

/-- The offset of a host's local time at a second of UTC, in seconds and less than a day. -/
structure LocalClock where
  offset : ℤ → ℤ
  within : ∀ u, -86400 < offset u ∧ offset u < 86400

/-- The clock of a host that keeps one offset. -/
def LocalClock.fixed (offset : ℤ) (h : -86400 < offset ∧ offset < 86400) : LocalClock where
  offset _ := offset
  within _ := h

def LocalClock.utc : LocalClock := LocalClock.fixed 0 (by decide)

namespace LocalClock

variable (clock : LocalClock)

/-- `local`: the local time at a second of UTC; `none` stands for the `ValueError` of a year
outside the calendar. -/
def shown (u : ℤ) : Option ℤ :=
  if InRange (seconds (u + clock.offset u)) then some (u + clock.offset u) else none

/-- The second search of `local_to_seconds`, by the offset `b`. -/
def searchBy (t u1 t1 b : ℤ) : Option ℤ := do
  let u2 := t - b
  let t2 ← clock.shown u2
  if t2 = t then return u2
  if t1 = t then return u1
  return max u1 u2

/-- `local_to_seconds`, of a time without a fold. -/
def localToSeconds (t : ℤ) : Option ℤ := do
  let lt ← clock.shown t
  let a := lt - t
  let u1 := t - a
  let t1 ← clock.shown u1
  if t1 = t then
    -- an earlier second may show the same time
    let u2 := u1 - 86400
    let lt ← clock.shown u2
    let b := lt - u2
    if a = b then return u1
    clock.searchBy t u1 t1 b
  else clock.searchBy t u1 t1 (t1 - u1)

end LocalClock

/-- The instant `astimezone` gives a datetime on a host. Its `ValueError` is `none`, and its
`OverflowError` an instant outside the calendar. -/
def Datetime.instantOn (clock : LocalClock) (d : Datetime) : Option Instant :=
  match d.utcoffset with
  | some offset => some (d.wall - offset)
  | none => (clock.localToSeconds (d.wall / microsPerSecond)).map fun u =>
      d.wall - seconds (clock.offset u)

/-- On a host in UTC a time without an offset is that of UTC, where it has one. -/
theorem Datetime.instantOn_utc {d : Datetime} {t : Instant} (h : d.instantOn .utc = some t) :
    d.instantUtc = t := by
  unfold instantOn at h
  unfold instantUtc
  cases hoffset : d.utcoffset with
  | some offset =>
    rw [hoffset] at h
    exact Option.some.inj h
  | none =>
    rw [hoffset] at h
    obtain ⟨u, -, ht⟩ := Option.map_eq_some_iff.mp h
    exact ht

end PrinterV1.Python
