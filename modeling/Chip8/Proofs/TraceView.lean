import Chip8.Proofs.Step

/-!
# The trace as a window

What the ring shows of a history of records is its end: the last sixteen of
them, or all as long as there are fewer (`Trace.latest`). A push moves this
window on by one record, so the ring has forgotten nothing but what the window
has left behind. A step pushes the record of its instruction.
-/

namespace Chip8

namespace Trace

/-- The last sixteen records of a history, or all of a shorter one. -/
def latest (history : List Record) : List Record :=
  history.drop (history.length - min 16 history.length)

@[simp] theorem latest_nil : latest [] = [] := rfl

theorem length_latest (history : List Record) :
    (latest history).length = min 16 history.length := by
  rw [latest, List.length_drop]
  omega

theorem mem_of_mem_latest {r : Record} {history : List Record} (h : r ∈ latest history) :
    r ∈ history :=
  List.mem_of_mem_drop h

/-- What has left the window does not come back. -/
theorem latest_latest_append (history more : List Record) :
    latest (latest history ++ more) = latest (history ++ more) := by
  have hle : history.length - min 16 history.length ≤ history.length := Nat.sub_le _ _
  have hlength := length_latest history
  have hwhole : latest history ++ more =
      (history ++ more).drop (history.length - min 16 history.length) := by
    rw [latest, List.drop_append_of_le_length hle]
  -- both windows end where the history does, so only their starts are compared
  rw [latest, List.length_append, hlength, hwhole, List.drop_drop, latest]
  congr 1
  simp only [List.length_append]
  omega

theorem records_push_eq (t : Trace) (r : Record) :
    (t.push r).records = latest (t.records ++ [r]) := by
  have hsize : t.records.length = t.size.val := t.length_records
  have hle := t.size.isLt
  rw [records_push, latest]
  congr 1
  simp only [List.length_append, List.length_singleton]
  omega

/-- The window ends where the history does. -/
theorem getLast?_latest_append (history : List Record) (r : Record) :
    (latest (history ++ [r])).getLast? = some r := by
  have hshown : ¬ (history ++ [r]).length ≤
      (history ++ [r]).length - min 16 (history ++ [r]).length := by
    simp only [List.length_append, List.length_singleton]
    omega
  rw [latest, List.getLast?_drop, if_neg hshown, List.getLast?_concat]

/-- Adds records one after the other. -/
def pushAll (t : Trace) (records : List Record) : Trace := records.foldl push t

theorem pushAll_append (t : Trace) (records more : List Record) :
    t.pushAll (records ++ more) = (t.pushAll records).pushAll more :=
  List.foldl_append

/-- The ring that records were added to shows the end of all that it has been
given. -/
theorem records_pushAll (t : Trace) (records : List Record) :
    (t.pushAll records).records = latest (t.records ++ records) := by
  induction records generalizing t with
  | nil =>
      have hle : t.records.length ≤ 16 := t.length_records ▸ Nat.le_of_lt_succ t.size.isLt
      rw [List.append_nil, latest, Nat.min_eq_right hle, Nat.sub_self]
      rfl
  | cons r records ih =>
      show ((t.push r).pushAll records).records = _
      rw [ih, records_push_eq, latest_latest_append, List.append_assoc]
      rfl

end Trace

/-- A step that succeeds adds its record to the trace, and the oldest one
makes room for it if there were sixteen. -/
theorem State.records_step {s s' : State} (hs : s.step = .ok s') :
    s'.trace.records = Trace.latest (s.trace.records ++ [⟨s.pc, s.nextWord⟩]) := by
  obtain ⟨op, -, -, rfl⟩ := step_eq_ok_iff.mp hs
  exact Trace.records_push_eq s.trace _

end Chip8
