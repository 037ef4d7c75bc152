import PrinterV1.Python.IsoOrder
import PrinterV1.Python.Value

/-!
# Aware datetimes

A clock of the calendar in a zone, which gives the offset of every clock. The
instant is the clock without its offset. It may lie outside the calendar of UTC,
and then `astimezone` raises; where it does not, the timestamp written of it
compares with other timestamps as the instants do.
-/

namespace PrinterV1.Python

/-- A `tzinfo`: the offset at a clock and its fold, less than a day. -/
structure Zone where
  utcoffset : ℤ → Bool → ℤ
  within : ∀ wall fold, -microsPerDay < utcoffset wall fold ∧ utcoffset wall fold < microsPerDay

/-- The zone of one offset: `timezone(offset)`. -/
def Zone.fixed (offset : ℤ) (h : -microsPerDay < offset ∧ offset < microsPerDay) : Zone where
  utcoffset _ _ := offset
  within _ _ := h

def Zone.utc : Zone := Zone.fixed 0 (by decide)

structure AwareDatetime where
  wall : ℤ
  fold : Bool := false
  zone : Zone
  shown : InRange wall

namespace AwareDatetime

def instant (d : AwareDatetime) : Instant := d.wall - d.zone.utcoffset d.wall d.fold

/-- The datetime of UTC at an instant of its calendar. -/
def ofInstant (i : Instant) (h : InRange i) : AwareDatetime where
  wall := i
  zone := Zone.utc
  shown := h

@[simp] theorem instant_ofInstant (i : Instant) (h : InRange i) : (ofInstant i h).instant = i :=
  Int.sub_zero i

/-- `value.astimezone(timezone.utc)` -/
def astimezoneUtc (d : AwareDatetime) : Except PyError AwareDatetime :=
  if h : InRange d.instant then .ok (ofInstant d.instant h)
  else .error (.overflowError "date value out of range")

/-- `value - timedelta`: the clock moves, in its zone. -/
def sub (d : AwareDatetime) (micros : ℤ) : Except PyError AwareDatetime :=
  if h : InRange (d.wall - micros) then .ok { wall := d.wall - micros, zone := d.zone, shown := h }
  else .error (.overflowError "date value out of range")

/-- `value.astimezone(timezone.utc).isoformat()` -/
def toTimestamp (d : AwareDatetime) : Except PyError String := do
  let utc ← d.astimezoneUtc
  return isoformat utc.wall

/-- A timestamp is written of every datetime whose instant UTC has a clock for. -/
theorem toTimestamp_ok_iff {d : AwareDatetime} {text : String} :
    d.toTimestamp = .ok text ↔ InRange d.instant ∧ text = isoformat d.instant := by
  unfold toTimestamp astimezoneUtc
  by_cases h : InRange d.instant
  · rw [dif_pos h]
    constructor
    · intro htext
      exact ⟨h, (Except.ok.inj htext).symm⟩
    · rintro ⟨-, rfl⟩
      rfl
  · rw [dif_neg h]
    refine iff_of_false (fun htext => ?_) fun htext => h htext.1
    cases htext

theorem toTimestamp_ofInstant {i : Instant} (h : InRange i) :
    (ofInstant i h).toTimestamp = .ok (isoformat i) := by
  rw [toTimestamp_ok_iff, instant_ofInstant]
  exact ⟨h, rfl⟩

section Order

variable {a b : AwareDatetime} {s t : String}

theorem timestamp_le_iff (ha : a.toTimestamp = .ok s) (hb : b.toTimestamp = .ok t) :
    s ≤ t ↔ a.instant ≤ b.instant := by
  obtain ⟨hrange, rfl⟩ := toTimestamp_ok_iff.mp ha
  obtain ⟨hrange', rfl⟩ := toTimestamp_ok_iff.mp hb
  exact isoformat_le_iff hrange hrange'

theorem timestamp_lt_iff (ha : a.toTimestamp = .ok s) (hb : b.toTimestamp = .ok t) :
    s < t ↔ a.instant < b.instant := by
  rw [← not_le, ← not_le, timestamp_le_iff hb ha]

end Order

end AwareDatetime
end PrinterV1.Python
