/-
**The check of the settings and the logger.**

The level and the destination of the log are looked at twice: by the check of the settings, and by the
logger when it is set up.  Each has its own way to tell which texts it knows.  They know the same
levels, and every destination that the check takes is one that the logger knows.  The converse fails
for one text only, a file without a path, and there it is the opening of the file that fails.  So a
logger that is set up by settings that have been checked fails for reasons outside of the settings.

Main definitions:

* `HookBridge.Level.Names`, `HookBridge.Appender.Names` — what the texts of the settings stand for;
* `HookBridge.Host.Opens` — the place that an appender writes to, made ready;
* `HookBridge.Host.FailsToInit` — there is no logger, and why;
* `HookBridge.LoggerError.Answers` — the words that a failed set-up begins with;
* `HookBridge.Settings.TakesLevel`, `HookBridge.Settings.TakesDestination` — what the check takes.

Main results:

* `HookBridge.Level.ofSetting?_eq_some_iff`, `HookBridge.Appender.ofSetting?_eq_some_iff` — what the
  logger knows;
* `HookBridge.Settings.takesLevel_iff`, `HookBridge.Settings.takesDestination_iff` — what the check
  takes;
* `HookBridge.Host.failsToInit_of_error` — every reason for which there is no logger;
* `HookBridge.Host.FailsToInit.of_supported` — with settings that the check takes, only two of them
  are left;
* `HookBridge.Host.initLogger_agrees` — **the logger knows what the check takes**, and fails for the
  rest.
-/

import HookBridge.Proofs.Launch

set_option relaxedAutoImplicit false
set_option autoImplicit false

namespace HookBridge

open Settings (NamesDestination NamesLevel)

/-! ### Levels -/

namespace Level

/-- What the name of a level in the settings stands for. -/
inductive Names : Level → String → Prop
  | error : Names .error "error"
  | warn : Names .warn "warn"
  | info : Names .info "info"
  | debug : Names .debug "debug"

theorem namesLevel_iff (level : String) : NamesLevel level ↔ ∃ l : Level, l.Names level := by
  constructor
  · rintro (rfl | rfl | rfl | rfl)
    · exact ⟨_, .error⟩
    · exact ⟨_, .warn⟩
    · exact ⟨_, .info⟩
    · exact ⟨_, .debug⟩
  · rintro ⟨l, h⟩
    cases h with
    | error => exact Or.inl rfl
    | warn => exact Or.inr (Or.inl rfl)
    | info => exact Or.inr (Or.inr (Or.inl rfl))
    | debug => exact Or.inr (Or.inr (Or.inr rfl))

/-- **The levels that the logger knows** are those that are named. -/
theorem ofSetting?_eq_some_iff (level : String) (l : Level) :
    ofSetting? level = some l ↔ l.Names level := by
  constructor
  · intro h
    unfold ofSetting? at h
    split at h
    · obtain rfl := Option.some.inj h
      exact .error
    · obtain rfl := Option.some.inj h
      exact .warn
    · obtain rfl := Option.some.inj h
      exact .info
    · obtain rfl := Option.some.inj h
      exact .debug
    · exact absurd h (by simp)
  · intro h
    cases h <;> rfl

theorem ofSetting?_eq_none_iff (level : String) : ofSetting? level = none ↔ ¬ NamesLevel level := by
  rw [Option.eq_none_iff_forall_ne_some, namesLevel_iff]
  simp only [ne_eq, ofSetting?_eq_some_iff, not_exists]

end Level

/-! ### Destinations -/

namespace Appender

/-- What a destination names: an output of the process, or a file by its path. -/
inductive Names : Appender → String → Prop
  | stdout : Names .stdout "stdout"
  | stderr : Names .stderr "stderr"
  | file {path : String} (h : path ≠ "") : Names (.file path) ("file:" ++ path)

theorem namesDestination_iff (destination : String) :
    NamesDestination destination ↔ ∃ appender : Appender, appender.Names destination := by
  constructor
  · rintro (rfl | rfl | ⟨path, hpath, rfl⟩)
    · exact ⟨_, .stdout⟩
    · exact ⟨_, .stderr⟩
    · exact ⟨_, .file hpath⟩
  · rintro ⟨appender, h⟩
    cases h with
    | stdout => exact Or.inl rfl
    | stderr => exact Or.inr (Or.inl rfl)
    | file hpath => exact Or.inr (Or.inr ⟨_, hpath, rfl⟩)

/-- What stands behind the scheme of a file. -/
theorem isPrefixOf?_fileScheme_iff (destination path : String) :
    fileScheme.toList.isPrefixOf? destination.toList = some path.toList ↔
      destination = "file:" ++ path := by
  rw [List.isPrefixOf?_eq_some_iff_append_eq, ← String.toList_inj, String.toList_append, eq_comm]
  rfl

/-- A file is told from the outputs by its first character. -/
theorem file_ne {path output : String} (h : output.toList.head? ≠ some 'f') :
    "file:" ++ path ≠ output := by
  rintro rfl
  rw [String.toList_append] at h
  exact h rfl

/-- **The destinations that the logger knows** are those that name an appender, and a file without a
path. -/
theorem ofSetting?_eq_some_iff (destination : String) (appender : Appender) :
    ofSetting? destination = some appender ↔
      appender.Names destination ∨ destination = "file:" ∧ appender = .file "" := by
  constructor
  · intro h
    unfold ofSetting? at h
    split at h
    · next hstdout =>
      obtain rfl := Option.some.inj h
      exact Or.inl (hstdout ▸ .stdout)
    · split at h
      · next hstderr =>
        obtain rfl := Option.some.inj h
        exact Or.inl (hstderr ▸ .stderr)
      · obtain ⟨path, hpath, rfl⟩ := Option.map_eq_some_iff.1 h
        rw [← String.toList_ofList (l := path), isPrefixOf?_fileScheme_iff] at hpath
        subst hpath
        by_cases hempty : String.ofList path = ""
        · rw [hempty]
          exact Or.inr ⟨rfl, rfl⟩
        · exact Or.inl (.file hempty)
  · have hfile (path : String) : ofSetting? ("file:" ++ path) = some (.file path) := by
      have hstdout : "file:" ++ path ≠ "stdout" := file_ne (by decide)
      have hstderr : "file:" ++ path ≠ "stderr" := file_ne (by decide)
      rw [ofSetting?, if_neg hstdout, if_neg hstderr, (isPrefixOf?_fileScheme_iff _ path).2 rfl,
        Option.map_some, String.ofList_toList]
    rintro (h | ⟨rfl, rfl⟩)
    · cases h with
      | stdout => rfl
      | stderr => rfl
      | file hpath => exact hfile _
    · exact hfile ""

/-- A file is written to under the path that the destination has. -/
theorem eq_of_ofSetting?_file {destination path : String}
    (h : ofSetting? destination = some (.file path)) : destination = "file:" ++ path := by
  rcases (ofSetting?_eq_some_iff destination _).1 h with hnames | ⟨rfl, hpath⟩
  · cases hnames with
    | file => rfl
  · obtain rfl := Appender.file.inj hpath
    rfl

/-- A destination that the logger does not know names no appender. -/
theorem ofSetting?_eq_none_iff (destination : String) :
    ofSetting? destination = none ↔ ¬ NamesDestination destination ∧ destination ≠ "file:" := by
  rw [Option.eq_none_iff_forall_ne_some, namesDestination_iff]
  simp only [ne_eq, ofSetting?_eq_some_iff, not_or, not_exists, not_and, forall_and]
  exact and_congr_right fun _ => ⟨fun h hfile => h _ hfile rfl, fun h _ hfile => absurd hfile h⟩

end Appender

/-! ### Words -/

namespace LoggerError

/-- The words for a failed set-up begin with these. -/
def Answers (words : String) (e : LoggerError) : Prop := ∃ rest, e.message = words ++ rest

/-- The first character at which the words for all reasons differ. -/
def sixteenth : LoggerError → Char
  | unsupportedLevel _ => 'g'
  | unsupportedDestination _ => ' '
  | cannotOpen _ _ => 'l'
  | alreadySet => 'a'

theorem getElem?_append_of_front {front : String} {c : Char} (rest : String)
    (h : front.toList[15]? = some c) : (front ++ rest).toList[15]? = some c := by
  obtain ⟨hlt, -⟩ := List.getElem?_eq_some_iff.1 h
  rw [String.toList_append, List.getElem?_append_left hlt, h]

theorem message_getElem? (e : LoggerError) : e.message.toList[15]? = some e.sixteenth := by
  cases e with
  | unsupportedLevel level => exact getElem?_append_of_front (c := 'g') level (by decide)
  | unsupportedDestination destination =>
      exact getElem?_append_of_front (c := ' ') destination (by decide)
  | cannotOpen path error =>
      have hfront : "Unable to open log file ".toList[15]? = some 'l' := by decide
      exact getElem?_append_of_front error.message
        (getElem?_append_of_front ": " (getElem?_append_of_front path hfront))
  | alreadySet => decide

/-- What the words begin with tells the reason. -/
theorem Answers.sixteenth_eq {words : String} {e : LoggerError} {c : Char} (h : e.Answers words)
    (hwords : words.toList[15]? = some c) : e.sixteenth = c := by
  obtain ⟨rest, hrest⟩ := h
  have hmessage := message_getElem? e
  rw [hrest, getElem?_append_of_front rest hwords] at hmessage
  exact (Option.some.inj hmessage).symm

theorem answers_level_iff (e : LoggerError) :
    e.Answers "Unsupported logging level" ↔ ∃ level, e = .unsupportedLevel level := by
  constructor
  · intro h
    have hmark : e.sixteenth = 'g' := h.sixteenth_eq (by decide)
    cases e with
    | unsupportedLevel level => exact ⟨level, rfl⟩
    | _ => exact absurd hmark (by simp [sixteenth])
  · rintro ⟨level, rfl⟩
    exact ⟨" " ++ level, by rw [← String.append_assoc]; rfl⟩

theorem answers_destination_iff (e : LoggerError) :
    e.Answers "Unsupported log destination" ↔
      ∃ destination, e = .unsupportedDestination destination := by
  constructor
  · intro h
    have hmark : e.sixteenth = ' ' := h.sixteenth_eq (by decide)
    cases e with
    | unsupportedDestination destination => exact ⟨destination, rfl⟩
    | _ => exact absurd hmark (by simp [sixteenth])
  · rintro ⟨destination, rfl⟩
    exact ⟨" " ++ destination, by rw [← String.append_assoc]; rfl⟩

end LoggerError

/-! ### The check -/

namespace Settings

/-- The check takes a level: a source that gives only this is taken. -/
def TakesLevel (level : String) : Prop :=
  ∃ s, check { Source.empty with logLevel := some level } = .ok s

/-- The check takes a destination: a source that gives only this is taken. -/
def TakesDestination (destination : String) : Prop :=
  ∃ s, check { Source.empty with logDestination := some destination } = .ok s

/-- A file without a path is no destination. -/
theorem not_namesDestination_file : ¬ NamesDestination "file:" := by
  rw [← isDestination_iff]
  decide

theorem takesLevel_iff (level : String) : TakesLevel level ↔ NamesLevel level := by
  have hempty := Source.isSupported_empty
  simp only [TakesLevel, check_eq_ok_iff, exists_and_left, exists_eq, and_true]
  constructor
  · exact fun h => h.logLevel level rfl
  · intro h
    exact { hempty with logLevel := fun v hv => Option.some.inj hv ▸ h }

theorem takesDestination_iff (destination : String) :
    TakesDestination destination ↔ NamesDestination destination := by
  have hempty := Source.isSupported_empty
  simp only [TakesDestination, check_eq_ok_iff, exists_and_left, exists_eq, and_true]
  constructor
  · exact fun h => h.logDestination destination rfl
  · intro h
    exact { hempty with logDestination := fun v hv => Option.some.inj hv ▸ h }

end Settings

/-! ### Set-up -/

namespace Host

/-- The place that an appender writes to, and the files once it has been made ready.  Outputs are
always ready; a file is opened, its path filled in. -/
inductive Opens (host : Host) : Appender → Appender → Files → Prop
  | stdout : Opens host .stdout .stdout host.files
  | stderr : Opens host .stderr .stderr host.files
  | file {path : String} {files : Files}
      (h : host.files.openLog (LogPath.fill host.environment host.now path) = .ok files) :
      Opens host (.file path) (.file (LogPath.fill host.environment host.now path)) files

/-- A file cannot be opened, its path filled in. -/
def FailsToOpen (host : Host) (path : String) (fault : FileError) : Prop :=
  host.files.openLog (LogPath.fill host.environment host.now path) = .error fault

/-- There is no logger, and why: the level or the destination is not known, the file of the
destination cannot be opened, or there is a logger already. -/
inductive FailsToInit (host : Host) (level destination : String) : LoggerError → Prop
  | level (h : ¬ NamesLevel level) : FailsToInit host level destination (.unsupportedLevel level)
  | destination (hlevel : NamesLevel level) (h : ¬ NamesDestination destination)
      (hfile : destination ≠ "file:") :
      FailsToInit host level destination (.unsupportedDestination destination)
  | file {path : String} {fault : FileError} (hlevel : NamesLevel level)
      (h : destination = "file:" ++ path) (hopen : host.FailsToOpen path fault) :
      FailsToInit host level destination (.cannotOpen path fault)
  | alreadySet {appender place : Appender} {files : Files} (hlevel : NamesLevel level)
      (h : appender.Names destination) (hopens : host.Opens appender place files)
      (hset : host.logger ≠ none) : FailsToInit host level destination .alreadySet

variable {host : Host} {level destination : String} {appender place : Appender}

theorem openAppender_eq_ok_iff {host' : Host} :
    host.openAppender appender = .ok (place, host') ↔
      ∃ files, host.Opens appender place files ∧ host' = { host with files := files } := by
  constructor
  · intro h
    cases appender with
    | stdout =>
        obtain ⟨rfl, rfl⟩ := Prod.mk.inj (Except.ok.inj h)
        exact ⟨_, .stdout, rfl⟩
    | stderr =>
        obtain ⟨rfl, rfl⟩ := Prod.mk.inj (Except.ok.inj h)
        exact ⟨_, .stderr, rfl⟩
    | file path =>
        rw [openAppender] at h
        split at h
        · next files hfiles =>
          obtain ⟨rfl, rfl⟩ := Prod.mk.inj (Except.ok.inj h)
          exact ⟨files, .file hfiles, rfl⟩
        · exact absurd h (by simp)
  · rintro ⟨files, hopens, rfl⟩
    cases hopens with
    | stdout => rfl
    | stderr => rfl
    | file hfiles => simp [openAppender, hfiles]

theorem openAppender_eq_error_iff {e : LoggerError} :
    host.openAppender appender = .error e ↔
      ∃ path fault, appender = .file path ∧ host.FailsToOpen path fault ∧
        e = .cannotOpen path fault := by
  constructor
  · intro h
    cases appender with
    | stdout => exact absurd h (by simp [openAppender])
    | stderr => exact absurd h (by simp [openAppender])
    | file path =>
        rw [openAppender] at h
        split at h
        · exact absurd h (by simp)
        · next fault hfault => exact ⟨path, fault, rfl, hfault, (Except.error.inj h).symm⟩
  · rintro ⟨path, fault, rfl, hfault, rfl⟩
    rw [FailsToOpen] at hfault
    simp [openAppender, hfault]

/-- A file without a path cannot be opened. -/
theorem failsToOpen_empty (host : Host) : host.FailsToOpen "" .notFound := by rfl

theorem not_opens_empty (host : Host) {files : Files} :
    ¬ host.Opens (.file "") place files := by
  rintro ⟨⟩
  next h =>
  rw [host.failsToOpen_empty] at h
  exact absurd h (by simp)

theorem initLogger_of_opens {l : Level} {files : Files} (hlevel : Level.ofSetting? level = some l)
    (happender : Appender.ofSetting? destination = some appender)
    (hopens : host.Opens appender place files) :
    host.initLogger level destination =
      if host.logger = none then
        (.ok (), { host with files := files, logger := some ⟨l, place⟩ })
      else (.error .alreadySet, { host with files := files }) := by
  have hopen := openAppender_eq_ok_iff.2 ⟨files, hopens, rfl⟩
  cases hlogger : host.logger with
  | none => simp [initLogger, hlevel, happender, hopen, hlogger]
  | some logger => simp [initLogger, hlevel, happender, hopen, hlogger]

theorem initLogger_of_failsToOpen {l : Level} {path : String} {fault : FileError}
    (hlevel : Level.ofSetting? level = some l)
    (happender : Appender.ofSetting? destination = some (.file path))
    (hopen : host.FailsToOpen path fault) :
    host.initLogger level destination = (.error (.cannotOpen path fault), host) := by
  simp [initLogger, hlevel, happender, openAppender_eq_error_iff.2 ⟨path, fault, rfl, hopen, rfl⟩]

theorem initLogger_of_not_namesLevel (hlevel : ¬ NamesLevel level) :
    host.initLogger level destination = (.error (.unsupportedLevel level), host) := by
  simp [initLogger, (Level.ofSetting?_eq_none_iff level).2 hlevel]

theorem initLogger_of_not_namesDestination {l : Level} (hlevel : Level.ofSetting? level = some l)
    (h : ¬ NamesDestination destination) (hfile : destination ≠ "file:") :
    host.initLogger level destination = (.error (.unsupportedDestination destination), host) := by
  simp [initLogger, hlevel, (Appender.ofSetting?_eq_none_iff destination).2 ⟨h, hfile⟩]

/-- **Every reason for which there is no logger.** -/
theorem failsToInit_of_error {e : LoggerError}
    (h : (host.initLogger level destination).1 = .error e) :
    host.FailsToInit level destination e := by
  cases hlevel : Level.ofSetting? level with
  | none =>
      have hnames := (Level.ofSetting?_eq_none_iff level).1 hlevel
      rw [initLogger_of_not_namesLevel hnames] at h
      obtain rfl := Except.error.inj h
      exact .level hnames
  | some l =>
      have hnames : NamesLevel level :=
        (Level.namesLevel_iff level).2 ⟨l, (Level.ofSetting?_eq_some_iff level l).1 hlevel⟩
      cases happender : Appender.ofSetting? destination with
      | none =>
          obtain ⟨hnot, hfile⟩ := (Appender.ofSetting?_eq_none_iff destination).1 happender
          rw [initLogger_of_not_namesDestination hlevel hnot hfile] at h
          obtain rfl := Except.error.inj h
          exact .destination hnames hnot hfile
      | some appender =>
          cases hopen : host.openAppender appender with
          | error e' =>
              obtain ⟨path, fault, rfl, hfails, rfl⟩ := openAppender_eq_error_iff.1 hopen
              rw [initLogger_of_failsToOpen hlevel happender hfails] at h
              obtain rfl := Except.error.inj h
              exact .file hnames (Appender.eq_of_ofSetting?_file happender) hfails
          | ok opened =>
              obtain ⟨files, hopens, -⟩ := openAppender_eq_ok_iff.1 hopen
              rw [initLogger_of_opens hlevel happender hopens] at h
              split at h
              · exact absurd h (by simp)
              · next hset =>
                obtain rfl := Except.error.inj h
                rcases (Appender.ofSetting?_eq_some_iff _ _).1 happender with hnamed | ⟨-, rfl⟩
                · exact .alreadySet hnames hnamed hopens hset
                · exact absurd hopens host.not_opens_empty

/-- With settings that the check takes, it is the file or another logger that stands in the way. -/
theorem FailsToInit.of_supported {e : LoggerError} (h : host.FailsToInit level destination e)
    (hlevel : NamesLevel level) (hdestination : NamesDestination destination) :
    e = .alreadySet ∨ ∃ path fault, path ≠ "" ∧ destination = "file:" ++ path ∧
      host.FailsToOpen path fault ∧ e = .cannotOpen path fault := by
  cases h with
  | level hnot => exact absurd hlevel hnot
  | destination hlevel hnot hfile => exact absurd hdestination hnot
  | alreadySet hlevel hnames hopens hset => exact Or.inl rfl
  | file hlevel hpath hopen =>
      refine Or.inr ⟨_, _, ?_, hpath, hopen, rfl⟩
      rintro rfl
      rw [hpath, String.append_empty] at hdestination
      exact Settings.not_namesDestination_file hdestination

/-- The logger answers that a level is not supported exactly if it does not know the level. -/
theorem answers_level_iff_not_namesLevel :
    (∃ e, (host.initLogger level destination).1 = .error e ∧
      e.Answers "Unsupported logging level") ↔ ¬ NamesLevel level := by
  constructor
  · rintro ⟨e, he, hwords⟩
    obtain ⟨level', rfl⟩ := (LoggerError.answers_level_iff e).1 hwords
    cases failsToInit_of_error he with
    | level hnot => exact hnot
  · intro hnot
    refine ⟨.unsupportedLevel level, ?_, (LoggerError.answers_level_iff _).2 ⟨level, rfl⟩⟩
    rw [initLogger_of_not_namesLevel hnot]

/-- The logger never answers that a destination is not supported if this one names an appender. -/
theorem not_answers_destination {e : LoggerError} (hnames : NamesDestination destination)
    (he : (host.initLogger level destination).1 = .error e) :
    ¬ e.Answers "Unsupported log destination" := by
  intro hwords
  obtain ⟨destination', rfl⟩ := (LoggerError.answers_destination_iff e).1 hwords
  cases failsToInit_of_error he with
  | destination hlevel hnot hfile => exact hnot hnames

open Settings (TakesLevel TakesDestination takesLevel_iff takesDestination_iff)

/-- **The logger knows what the check takes.**  It answers that a level is not supported exactly if the
check refuses it.  A destination that the check takes names an appender; the logger writes to this
one, once it has been made ready, from the level of that name on, and never answers that the
destination is not supported.  With a destination that the check refuses there is no logger either:
for a file without a path the opening fails, and everything else is not supported.  So a logger that is
set up by the settings of a command line can only fail because the log file cannot be opened, or
because there is a logger already. -/
theorem initLogger_agrees (level destination : String) (host : Host) :
    let outcome := host.initLogger level destination
    (TakesLevel level ↔
      ∀ e, outcome.1 = .error e → ¬ e.Answers "Unsupported logging level") ∧
    (TakesDestination destination ↔ ∃ appender : Appender, appender.Names destination) ∧
    (∀ appender : Appender, appender.Names destination →
      (∀ e, outcome.1 = .error e → ¬ e.Answers "Unsupported log destination") ∧
      (TakesLevel level → ∃ l : Level, l.Names level ∧
        (∀ place files, host.Opens appender place files →
          outcome =
            if host.logger = none then
              (.ok (), { host with files := files, logger := some ⟨l, place⟩ })
            else (.error .alreadySet, { host with files := files })) ∧
        ∀ path fault, appender = .file path → host.FailsToOpen path fault →
          outcome = (.error (.cannotOpen path fault), host))) ∧
    (¬ TakesDestination destination → TakesLevel level →
      (destination = "file:" → outcome = (.error (.cannotOpen "" .notFound), host)) ∧
      (destination ≠ "file:" →
        ∃ e : LoggerError, outcome = (.error e, host) ∧
          e.message = "Unsupported log destination " ++ destination)) ∧
    ∀ files line s, Launch.settings files line = .ok s →
      ∀ e, (host.initLogger s.logLevel s.logDestination).1 = .error e →
        e = .alreadySet ∨ ∃ path fault, path ≠ "" ∧ s.logDestination = "file:" ++ path ∧
          host.FailsToOpen path fault ∧ e = .cannotOpen path fault := by
  intro outcome
  refine ⟨?_, ?_, ?_, ?_, ?_⟩
  · have hanswers := @answers_level_iff_not_namesLevel host level destination
    rw [takesLevel_iff, ← not_iff_not, ← hanswers]
    push Not
    rfl
  · rw [takesDestination_iff, Appender.namesDestination_iff]
  · intro appender hnames
    have happender := (Appender.ofSetting?_eq_some_iff destination appender).2 (Or.inl hnames)
    have hdestination := (Appender.namesDestination_iff destination).2 ⟨appender, hnames⟩
    refine ⟨fun e he => not_answers_destination hdestination he, fun hlevel => ?_⟩
    obtain ⟨l, hl⟩ := (Level.namesLevel_iff level).1 ((takesLevel_iff level).1 hlevel)
    have hknown := (Level.ofSetting?_eq_some_iff level l).2 hl
    refine ⟨l, hl, fun place files hopens => initLogger_of_opens hknown happender hopens, ?_⟩
    rintro path fault rfl hopen
    exact initLogger_of_failsToOpen hknown happender hopen
  · rw [takesLevel_iff, takesDestination_iff]
    intro hnot hlevel
    obtain ⟨l, hl⟩ := (Level.namesLevel_iff level).1 hlevel
    have hknown := (Level.ofSetting?_eq_some_iff level l).2 hl
    refine ⟨?_, ?_⟩
    · rintro rfl
      exact initLogger_of_failsToOpen hknown ((Appender.ofSetting?_eq_some_iff "file:" _).2
        (Or.inr ⟨rfl, rfl⟩)) host.failsToOpen_empty
    · intro hfile
      exact ⟨_, initLogger_of_not_namesDestination hknown hnot hfile, rfl⟩
  · intro files line s hs e he
    have hsupported := Launch.isSupported_of_settings hs
    exact (failsToInit_of_error he).of_supported (hsupported.logLevel _ rfl)
      (hsupported.logDestination _ rfl)

theorem initLogger_agrees_near_misses :
    (∃ e, (Launch.loggingHost.initLogger "INFO" "stdout").1 = .error e ∧
      e.Answers "Unsupported logging level") ∧
    (∃ e : LoggerError,
      Launch.loggingHost.initLogger "info" "Stdout" = (.error e, Launch.loggingHost) ∧
      e.message = "Unsupported log destination Stdout") ∧
    Launch.loggingHost.initLogger "info" "file:" =
      (.error (.cannotOpen "" .notFound), Launch.loggingHost) ∧
    Launch.loggingHost.initLogger "info" "stderr" =
      (.ok (), { Launch.loggingHost with logger := some ⟨.info, .stderr⟩ }) ∧
    Launch.loggingHost.initLogger "info" "file:bridge.log" =
      (.ok (), { Launch.loggingHost with
        files := Launch.loggingHost.files.put ["bridge.log"] (.regular [])
        logger := some ⟨.info, .file "bridge.log"⟩ }) ∧
    ∀ e, (Launch.loggingHost.initLogger "info" "stdout").1 = .error e → e = .alreadySet := by
  have hinfo : TakesLevel "info" := (takesLevel_iff _).2 (Or.inr (Or.inr (Or.inl rfl)))
  have hknown : ∀ l : Level, l.Names "info" → Level.info = l := fun l hl =>
    Option.some.inj ((Level.ofSetting?_eq_some_iff "info" l).2 hl)
  refine ⟨?_, ?_, ?_, ?_, ?_, ?_⟩
  · obtain ⟨hlevel, -⟩ := initLogger_agrees "INFO" "stdout" Launch.loggingHost
    have hnot : ¬ TakesLevel "INFO" := by simp [takesLevel_iff, NamesLevel]
    have hanswer := mt hlevel.2 hnot
    push Not at hanswer
    exact hanswer
  · obtain ⟨-, -, -, hrefused, -⟩ := initLogger_agrees "info" "Stdout" Launch.loggingHost
    have hnot : ¬ TakesDestination "Stdout" := by
      rw [takesDestination_iff, ← Settings.isDestination_iff]
      decide
    exact (hrefused hnot hinfo).2 (by decide)
  · obtain ⟨-, -, -, hrefused, -⟩ := initLogger_agrees "info" "file:" Launch.loggingHost
    exact (hrefused (mt (takesDestination_iff _).1 Settings.not_namesDestination_file) hinfo).1 rfl
  · obtain ⟨-, -, htaken, -⟩ := initLogger_agrees "info" "stderr" Launch.loggingHost
    obtain ⟨l, hl, hopens, -⟩ := (htaken _ .stderr).2 hinfo
    obtain rfl := hknown l hl
    exact hopens _ _ .stderr
  · obtain ⟨-, -, htaken, -⟩ := initLogger_agrees "info" "file:bridge.log" Launch.loggingHost
    obtain ⟨l, hl, hopens, -⟩ := (htaken (.file "bridge.log") (.file (by decide))).2 hinfo
    obtain rfl := hknown l hl
    exact hopens _ _ (.file rfl)
  · obtain ⟨-, -, -, -, hstart⟩ := initLogger_agrees "info" "stdout" Launch.loggingHost
    intro e he
    rcases hstart .empty ⟨none, none⟩ Settings.default rfl e he with hset | ⟨path, -, -, hpath, -⟩
    · exact hset
    · exact absurd hpath.symm (Appender.file_ne (by decide))

end Host

end HookBridge
