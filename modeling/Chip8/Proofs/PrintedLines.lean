import Chip8.Console
import Mathlib.Data.List.Forall2

/-!
# Printed lines

A logger prints a line for every entry whose level is not below its own
(`Console.lines_eq_mapIdx`). Whatever else a line shows, it shows the level of its
entry, the name of the logger and at its end the message (`Console.Shows`); a logger
with neither seconds nor colours shows nothing else (`Entry.text`).
-/

namespace Chip8

namespace Log

/-! ## The level of a logger -/

/-- A logger whose level was changed. -/
def Logger.atLevel (l : Logger) (level : Level) : Logger := { l with level := level.name }

theorem Logger.level_atLevel (l : Logger) (level : Level) :
    (l.atLevel level).level = level.name := rfl

theorem Logger.setLevel_name (l : Logger) (level : Level) :
    l.setLevel level.name = .ok (l.atLevel level) := by
  rw [setLevel, Level.upper_name, Level.ofName?_name]
  rfl

theorem Logger.shows_name {l : Logger} {level : Level} (hl : l.level = level.name)
    (level' : Level) : l.shows level'.name = true ↔ level.rank ≤ level'.rank := by
  rw [shows, hl, Level.upper_name, Level.rankOf_name, Level.rankOf_name, decide_eq_true_eq]

/-! ## One line -/

/-- The reading that a clock gives after `k` others. -/
def Clock.reading (c : Clock) : Nat → Float
  | 0 => c.read.1
  | k + 1 => c.read.2.reading k

/-- A line without seconds does not hang on the moment. -/
theorem Logger.line_eq_of_timestamps {l : Logger} (h : ¬ l.timestamps = true) (now now' : Float)
    (level message : String) : l.line now level message = l.line now' level message := by
  rw [line, line, if_neg h, if_neg h]

/-- A message that is high enough is printed as a line with the next reading, and
the lines behind it are those of the readings behind it. -/
theorem Logger.log_of_shows {l : Logger} {level : String} (h : l.shows level = true)
    (message : String) :
    ∃ l' : Logger, l.log level message = (some (l.line (l.clock.reading 0) level message), l') ∧
      l'.level = l.level ∧ ∀ k level message,
        l'.line (l'.clock.reading k) level message = l.line (l.clock.reading (k + 1)) level message := by
  unfold log
  rw [if_pos h]
  by_cases htime : l.timestamps = true
  · rw [if_pos htime]
    exact ⟨_, rfl, rfl, fun _ _ _ => rfl⟩
  · rw [if_neg htime]
    have hline := line_eq_of_timestamps htime
    exact ⟨l, by rw [hline], rfl, fun _ _ _ => hline _ _ _ _⟩

theorem Logger.log_of_not_shows {l : Logger} {level : String} (h : ¬ l.shows level = true)
    (message : String) : l.log level message = (none, l) := if_neg h

/-- The name of a level, filled up with blanks to eight characters. -/
def Level.label : Level → String
  | debug => "   DEBUG"
  | info => "    INFO"
  | warning => " WARNING"
  | error => "   ERROR"
  | critical => "CRITICAL"

theorem Level.label_eq (level : Level) :
    String.ofList (level.name.toList.leftpad 8 ' ') = level.label := by
  cases level <;> decide

/-- The level in square brackets stands between two colours, if there are any. -/
theorem Logger.badge_name (l : Logger) (level : Level) :
    ∃ on off : String, l.badge level.name = on ++ "[" ++ level.label ++ "]" ++ off ∧
      (l.colors = false → on = "" ∧ off = "") := by
  unfold badge
  rw [Level.label_eq]
  cases l.colors with
  | false => exact ⟨"", "", by simp, fun _ => ⟨rfl, rfl⟩⟩
  | true => exact ⟨colorOn level.name, escape "0", by simp [String.append_assoc], nofun⟩

/-- A logger that shows neither seconds nor colours. -/
structure Logger.Bare (l : Logger) : Prop where
  timestamps : l.timestamps = false
  colors : l.colors = false

theorem Logger.Bare.atLevel {l : Logger} (h : l.Bare) (level : Level) : (l.atLevel level).Bare :=
  ⟨h.timestamps, h.colors⟩

end Log

open Log

/-- An entry as a logger of that name prints it, if it shows nothing else. -/
def Entry.text (name : String) (e : Entry) : String :=
  "[" ++ e.level.label ++ "]" ++ "[" ++ name ++ "] " ++ e.message

namespace Console

/-- A line of a logger shows an entry: its level, the name of the logger and, at the
end, its message. Seconds stand in front, colours around the level. -/
def Shows (l : Logger) (line : String) (e : Entry) : Prop :=
  ∃ seconds on off : String,
    line = seconds ++ on ++ "[" ++ e.level.label ++ "]" ++ off ++ "[" ++ l.name ++ "] " ++ e.message ∧
    (l.timestamps = false → seconds = "") ∧ (l.colors = false → on = "" ∧ off = "")

theorem shows_line (l : Logger) (now : Float) (e : Entry) :
    Shows l (l.line now e.level.name e.message) e := by
  obtain ⟨on, off, hbadge, hcolors⟩ := l.badge_name e.level
  refine ⟨if l.timestamps then Logger.stamp (now - l.start) else "", on, off, ?_, ?_, hcolors⟩
  · rw [Logger.line, hbadge]
    simp only [String.append_assoc]
  · intro htime
    simp [htime]

theorem Shows.eq_text {l : Logger} {line : String} {e : Entry} (h : Shows l line e)
    (hbare : l.Bare) : line = e.text l.name := by
  obtain ⟨seconds, on, off, rfl, hseconds, hcolors⟩ := h
  obtain ⟨rfl, rfl⟩ := hcolors hbare.colors
  simp [hseconds hbare.timestamps, Entry.text]

/-! ## The lines of some entries -/

/-- A logger prints a line for every entry whose level is not below its own, in
their order. The seconds in a line are those of the reading at its place. -/
theorem lines_eq_mapIdx {l : Logger} {level : Level} (hl : l.level = level.name)
    (entries : List Entry) :
    lines l entries = (entries.filter fun e => level.rank ≤ e.level.rank).mapIdx
      fun k e => l.line (l.clock.reading k) e.level.name e.message := by
  induction entries generalizing l with
  | nil => rfl
  | cons e entries ih =>
      rw [lines, List.filter_cons]
      have hshows := Logger.shows_name hl e.level
      by_cases hrank : level.rank ≤ e.level.rank
      · obtain ⟨l', hlog, hlevel, hline⟩ := Logger.log_of_shows (hshows.mpr hrank) e.message
        simp only [hlog, hrank, decide_true, if_true, List.mapIdx_cons, ← hline]
        exact congrArg (_ :: ·) (ih (hlevel.trans hl))
      · simp only [Logger.log_of_not_shows (mt hshows.mp hrank), hrank, decide_false,
          Bool.false_eq_true, if_false]
        exact ih hl

/-- Every line shows its entry. -/
theorem shows_lines {l : Logger} {level : Level} (hl : l.level = level.name)
    (entries : List Entry) :
    List.Forall₂ (Shows l) (lines l entries)
      (entries.filter fun e => level.rank ≤ e.level.rank) := by
  rw [lines_eq_mapIdx hl, List.forall₂_iff_get]
  refine ⟨List.length_mapIdx, fun k _ hk => ?_⟩
  rw [List.get_eq_getElem, List.getElem_mapIdx]
  exact shows_line l _ _

/-- Without seconds a line hangs on its entry alone. -/
theorem lines_eq_map {l : Logger} {level : Level} (hl : l.level = level.name)
    (htime : ¬ l.timestamps = true) (entries : List Entry) :
    lines l entries = (entries.filter fun e => level.rank ≤ e.level.rank).map
      fun e => l.line l.start e.level.name e.message := by
  rw [lines_eq_mapIdx hl]
  refine List.ext_getElem (by simp) fun k _ _ => ?_
  rw [List.getElem_mapIdx, List.getElem_map]
  exact Logger.line_eq_of_timestamps htime _ _ _ _

/-- Without seconds and colours a line is the text of its entry. -/
theorem lines_eq_text {l : Logger} {level : Level} (hl : l.level = level.name) (hbare : l.Bare)
    (entries : List Entry) :
    lines l entries =
      (entries.filter fun e => level.rank ≤ e.level.rank).map (Entry.text l.name) := by
  have htime : ¬ l.timestamps = true := by simp [hbare.timestamps]
  rw [lines_eq_map hl htime]
  exact List.map_congr_left fun e _ => (shows_line l l.start e).eq_text hbare

/-- No level is below the lowest. -/
theorem filter_debug (entries : List Entry) :
    (entries.filter fun e => Level.debug.rank ≤ e.level.rank) = entries :=
  List.filter_eq_self.mpr fun _ _ => decide_eq_true (Nat.zero_le _)

theorem lines_debug (l : Logger) (entries : List Entry) :
    lines (l.atLevel .debug) entries =
      entries.mapIdx fun k e => l.line (l.clock.reading k) e.level.name e.message := by
  have hlines := lines_eq_mapIdx (l.level_atLevel .debug) entries
  rw [filter_debug] at hlines
  exact hlines

/-- Without seconds a logger prints at any level some of the lines that it prints at
the lowest. -/
theorem lines_sublist {l : Logger} (htime : ¬ l.timestamps = true) (level : Level)
    (entries : List Entry) :
    (lines (l.atLevel level) entries).Sublist (lines (l.atLevel .debug) entries) := by
  have hsome := lines_eq_map (l.level_atLevel level) htime entries
  have hall := lines_eq_map (l.level_atLevel .debug) htime entries
  rw [filter_debug] at hall
  rw [hsome, hall]
  exact List.Sublist.map _ List.filter_sublist

end Console

end Chip8
