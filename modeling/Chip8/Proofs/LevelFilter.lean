import Chip8.Log.Logger
import Mathlib.Data.List.Basic

/-!
# Which messages are printed

Levels are named in three places: when a logger is opened, when its level is changed,
and with every message. Only the change is checked, but all three read a name the same
way: in capital letters, and one that is no level stands where `INFO` stands
(`standing`). A message is printed if its name does not stand below the name in force,
and the name in force is the last one that a change was allowed to set (`levelAfter`).
`Logger.messages_filtered_by_standing` says so of whole runs, and that a higher level
leaves fewer of the same lines.
-/

namespace Chip8.Log

open Text

/-! ## Names of levels -/

/-- Whether a name is that of a level, be it in capital letters or not. -/
def Known (name : String) : Prop := ∃ level : Level, upper name = level.name

theorem isSome_ofName?_iff {name : String} :
    (Level.ofName? (upper name)).isSome = true ↔ Known name := by
  simp only [Option.isSome_iff_exists, Level.ofName?_eq_some_iff, Known]

instance (name : String) : Decidable (Known name) := decidable_of_iff _ isSome_ofName?_iff

/-- How high a name stands, be it in capital letters or not. -/
def standing (name : String) : Nat := Level.rankOf (upper name)

theorem standing_of_upper_eq {name : String} {level : Level} (h : upper name = level.name) :
    standing name = level.rank := by
  rw [standing, h, Level.rankOf_name]

theorem standing_of_not_known {name : String} (h : ¬ Known name) :
    standing name = Level.info.rank := by
  rw [← isSome_ofName?_iff, Option.not_isSome_iff_eq_none] at h
  rw [standing, Level.rankOf, h]
  rfl

/-! ## The level in force -/

/-- The name that a request gives to the level, if it is that of a level. -/
def Request.newLevel? : Request → Option String
  | log _ _ => none
  | setLevel name => if Known name then some name else none

/-- The name in force after some requests: the last one that they gave to the level,
or else the one at the opening. -/
def levelAfter (first : String) (requests : List Request) : String :=
  (requests.filterMap Request.newLevel?).getLast?.getD first

theorem levelAfter_cons (first : String) (r : Request) (requests : List Request) :
    levelAfter first (r :: requests) = levelAfter (r.newLevel?.getD first) requests := by
  unfold levelAfter
  rw [List.filterMap_cons]
  cases r.newLevel? with
  | none => rfl
  | some name => rw [List.getLast?_cons, Option.getD_some, Option.getD_some]

namespace Logger

/-- The logger that is opened with a name for its level, whatever the settings name. -/
def openedAt (settings : Settings) (terminal : Bool) (clock : Clock) (name : String) : Logger :=
  ofSettings { settings with level := name } terminal clock

/-- The logger with another level, as it would be opened with that name. -/
def withLevel (l : Logger) (name : String) : Logger := { l with level := upper name }

/-- The answer to a request while a name is in force, by a logger whose lines show no
seconds. -/
def answer (l : Logger) (current : String) : Request → Except UnknownLevel (Option String)
  | .log level message =>
    .ok (if standing current ≤ standing level then some (l.line l.start level message) else none)
  | .setLevel name => if Known name then .ok none else .error ⟨name⟩

theorem shows_withLevel (l : Logger) (current level : String) :
    (l.withLevel current).shows level = decide (standing current ≤ standing level) := rfl

theorem setLevel_of_known {name : String} (h : Known name) (l : Logger) :
    l.setLevel name = .ok (l.withLevel name) := by
  obtain ⟨level, hlevel⟩ := Option.isSome_iff_exists.mp (isSome_ofName?_iff.mpr h)
  rw [setLevel, hlevel]
  rfl

theorem setLevel_of_not_known {name : String} (h : ¬ Known name) (l : Logger) :
    l.setLevel name = .error ⟨name⟩ := by
  rw [← isSome_ofName?_iff, Option.not_isSome_iff_eq_none] at h
  rw [setLevel, h]

/-- A name that is no level is refused, and the logger stays as it was. -/
theorem serve_setLevel_of_not_known {name : String} (h : ¬ Known name) (l : Logger) :
    l.serve (.setLevel name) = (.error ⟨name⟩, l) := by
  rw [serve, setLevel_of_not_known h]

/-- The answer to one request, and the name in force behind it. -/
theorem serve_withLevel {l : Logger} (hplain : l.timestamps = false) (current : String)
    (r : Request) :
    (l.withLevel current).serve r =
      (l.answer current r, l.withLevel (r.newLevel?.getD current)) := by
  cases r with
  | log level message =>
      have hseconds : ¬ (l.withLevel current).timestamps = true := Bool.eq_false_iff.mp hplain
      rw [serve, log, answer, shows_withLevel, if_neg hseconds]
      by_cases h : standing current ≤ standing level
      · rw [if_pos (decide_eq_true h), if_pos h]
        rfl
      · rw [if_neg (mt of_decide_eq_true h), if_neg h]
        rfl
  | setLevel name =>
      by_cases h : Known name
      · rw [serve, setLevel_of_known h, answer, if_pos h, Request.newLevel?, if_pos h]
        rfl
      · rw [serve_setLevel_of_not_known h, answer, if_neg h, Request.newLevel?, if_neg h]
        rfl

/-! ## Runs -/

theorem serveAll_append (l : Logger) (before after : List Request) :
    l.serveAll (before ++ after) =
      ((l.serveAll before).1 ++ ((l.serveAll before).2.serveAll after).1,
        ((l.serveAll before).2.serveAll after).2) := by
  induction before generalizing l with
  | nil => rfl
  | cons r before ih =>
      rw [List.cons_append, serveAll_cons, serveAll_cons, ih]
      rfl

/-- The answers to some requests, each while the name is in force that those before it
left, and the name in force behind them all. -/
theorem serveAll_withLevel {l : Logger} (hplain : l.timestamps = false) (first : String)
    (requests : List Request) :
    (l.withLevel first).serveAll requests =
      (requests.mapIdx fun k r => l.answer (levelAfter first (requests.take k)) r,
        l.withLevel (levelAfter first requests)) := by
  induction requests generalizing first with
  | nil => rfl
  | cons r requests ih =>
      -- the others are served as if the logger had been opened with the name that `r` leaves
      rw [serveAll_cons, serve_withLevel hplain]
      simp only [ih, List.mapIdx_cons, List.take_succ_cons, levelAfter_cons]
      rfl

/-- The lines printed of some messages, each logged under a name. -/
def printed (l : Logger) (messages : List (String × String)) : List String :=
  (l.serveAll (messages.map fun m => .log m.1 m.2)).1.filterMap fun reply => reply.toOption.join

/-- Of messages alone, those are printed whose names do not stand below the level. -/
theorem printed_withLevel {l : Logger} (hplain : l.timestamps = false) (current : String)
    (messages : List (String × String)) :
    (l.withLevel current).printed messages =
      (messages.filter fun m => standing current ≤ standing m.1).map
        fun m => l.line l.start m.1 m.2 := by
  induction messages with
  | nil => rfl
  | cons m messages ih =>
      unfold printed at ih ⊢
      rw [List.map_cons, serveAll_cons, serve_withLevel hplain, List.filter_cons]
      by_cases h : standing current ≤ standing m.1
      · simp only [answer, if_pos h, decide_eq_true h]
        exact congrArg (l.line l.start m.1 m.2 :: ·) ih
      · simp only [answer, if_neg h, decide_eq_false h]
        exact ih

/-- A higher level leaves fewer of the same lines. -/
theorem printed_sublist {l : Logger} (hplain : l.timestamps = false) {low high : String}
    (h : standing low ≤ standing high) (messages : List (String × String)) :
    ((l.withLevel high).printed messages).Sublist ((l.withLevel low).printed messages) := by
  rw [printed_withLevel hplain, printed_withLevel hplain]
  refine List.Sublist.map _ (List.monotone_filter_right messages fun m hm => ?_)
  exact decide_eq_true (Nat.le_trans h (of_decide_eq_true hm))

/-- **Messages are filtered by the standing of their names.** A logger without seconds is
opened with any name for its level and serves any requests. Each message is answered with
its line if its name does not stand below the name in force, and with none otherwise; a
change of the level is answered with nothing if the name is that of a level, and with an
error otherwise. The name in force is the last one that was changed to without an error, or
else the one at the opening, and the logger keeps it in capital letters. A change that
fails leaves all answers behind it as they would be without it. Of the same messages, a logger
whose level stands higher prints some of the lines that one with a lower level prints, in
the same order. Names that agree in capital letters stand alike, those of the five levels
at their ranks and all others at that of `INFO`; so a message that is logged at one of the
five levels stands at the rank of the level. In ASCII, capital letters are what they are
everywhere. -/
theorem messages_filtered_by_standing (settings : Settings) (terminal : Bool) (clock : Clock)
    (hplain : settings.timestamps = false) :
    let opened := openedAt settings terminal clock
    (∀ (first : String) (requests : List Request),
      ((opened first).serveAll requests).1 = requests.mapIdx (fun k r =>
        (opened first).answer (levelAfter first (requests.take k)) r) ∧
      ((opened first).serveAll requests).2 = opened (levelAfter first requests) ∧
      ((opened first).serveAll requests).2.level = upper (levelAfter first requests)) ∧
    (∀ (first name : String) (before after : List Request), ¬ Known name → ∃ later,
      ((opened first).serveAll (before ++ after)).1 =
        ((opened first).serveAll before).1 ++ later ∧
      ((opened first).serveAll (before ++ .setLevel name :: after)).1 =
        ((opened first).serveAll before).1 ++ .error ⟨name⟩ :: later) ∧
    (∀ low high : String, standing low ≤ standing high → ∀ messages : List (String × String),
      ((opened high).printed messages).Sublist ((opened low).printed messages)) ∧
    (∀ (level : Level) (message current : String),
      (opened current).answer current (.say level message) = .ok
        (if standing current ≤ level.rank then
          some ((opened current).line (opened current).start level.name message) else none)) ∧
    (∀ name : String,
      (∀ level : Level, upper name = level.name → standing name = level.rank) ∧
      ((∀ level : Level, upper name ≠ level.name) → standing name = Level.info.rank) ∧
      ((∀ c ∈ name.toList, c.toNat < 0x80) → upper name = name.toUpper)) := by
  intro opened
  let l := ofSettings settings terminal clock
  have hl : l.timestamps = false := hplain
  refine ⟨fun first requests => ?_, fun first name before after hname => ?_,
    fun low high h messages => ?_, fun level message current => ?_, fun name => ⟨fun level h => ?_,
    fun h => ?_, upper_ascii⟩⟩
  · have hrun := serveAll_withLevel hl first requests
    exact ⟨congrArg Prod.fst hrun, congrArg Prod.snd hrun, congrArg (·.2.level) hrun⟩
  · refine ⟨(((opened first).serveAll before).2.serveAll after).1, ?_, ?_⟩
    · rw [serveAll_append]
    · rw [serveAll_append, serveAll_cons, serve_setLevel_of_not_known hname]
  · exact printed_sublist hl h messages
  · rw [Request.say, answer, standing_of_upper_eq level.upper_name]
  · exact standing_of_upper_eq h
  · exact standing_of_not_known fun ⟨level, hlevel⟩ => h level hlevel

/-- Opened with a name that is no level, so that `INFO` is in force; then `ERROR` is, after a
change that fails. -/
theorem messages_filtered_by_standing_unknown_name :
    let settings : Settings := { name := "host", timestamps := false }
    let requests : List Request := [.say .debug "a", .log "Warning" "b", .setLevel "loud",
      .setLevel "error", .log "trace" "c", .say .critical "d"]
    let messages := [("info", "e"), ("error", "f"), ("Critical", "g")]
    ((openedAt settings false .stopped "verbose").serveAll requests).1 =
        [.ok none, .ok (some "[ Warning][host] b"), .error ⟨"loud"⟩, .ok none, .ok none,
          .ok (some "[CRITICAL][host] d")] ∧
      ((openedAt settings false .stopped "verbose").serveAll requests).2.level = "ERROR" ∧
      ((openedAt settings false .stopped "Error").printed messages).Sublist
        ((openedAt settings false .stopped "verbose").printed messages) ∧
      (openedAt settings false .stopped "Error").printed messages =
        ["[   error][host] f", "[Critical][host] g"] := by
  intro settings requests messages
  obtain ⟨hruns, -, hraised, -⟩ := messages_filtered_by_standing settings false .stopped rfl
  obtain ⟨hreplies, -, hlevel⟩ := hruns "verbose" requests
  exact ⟨hreplies.trans (by decide +kernel), hlevel.trans (by decide +kernel),
    hraised "verbose" "Error" (by decide +kernel) messages, by decide +kernel⟩

end Logger

end Chip8.Log
