import UsageScan.Command
import UsageScan.Proofs.Arguments
import UsageScan.Proofs.Files
import UsageScan.Proofs.Telling
import UsageScan.Proofs.Trace
/-!
# Runs of the command

Before the command prints anything it needs options and an input, in this order. If it does not get
them it fails, prints nothing to the standard output and leaves all files as they are. Otherwise it
prints the trace of the scan, all of it, and replaces one file by the report. That can still fail,
but then no file is changed, and what has been printed stays printed.

## Main definitions

* `FileStore.text?` — the text that can be read at a path
* `Command.Arguments.over` — options under the flags of a command line
* `Command.configured` — the options of a configuration, before the flags
* `Command.Printed` — what a command prints when it scans a source
* `Command.Scanned` — what a command leaves behind when it has scanned a source
* `Command.Ending` — how a command that names a file ends

## Main results

* `Command.run_resolveOptions` — flags override the configuration field by field
* `Command.printed_text` — the trace is what has to be printed
* `Command.ending_run` — how any command that names a file ends
-/

set_option autoImplicit false

namespace UsageScan

open FileAccess

/-- The text of the file at a path, if there is a file that can be read and its contents are a
text. -/
def FileStore.text? {σ : Type} [FileAccess (StateM σ)] (s : σ) (path : String) : Option String :=
  (readFrom s path).1.toOption.bind String.fromUTF8?

/-- The contents of the report of a run. -/
def Run.reportBytes (source : String) (options : Options) : ByteArray :=
  ((Report.ofResult (ofSource source options).result).render ++ "\n").toUTF8

/-- The failures of a configuration file: it cannot be read as a text, or it is malformed. -/
inductive Failure.OfConfig (path : String) : Failure → Prop
  | unreadable (cause : Files.Fault) : OfConfig path (.readConfig path cause)
  | malformed (cause : Options.Fault) : OfConfig path (.parseConfig path cause)

/-- The failures of an input file: it cannot be read, or it is not a text. -/
inductive Failure.OfInput (path : String) : Failure → Prop
  | unreadable (cause : Files.Fault) : OfInput path (.readInput path cause)
  | notText : OfInput path (.inputNotText path)

namespace Command

/-- Options with every flag of a command line over its field. -/
def Arguments.over (a : Arguments) (o : Options) : Options where
  checkSemicolons := a.checkSemicolons || o.checkSemicolons
  maxTokenLength := a.maxTokenLength.or o.maxTokenLength
  statsPath := a.stats.or o.statsPath
  trace := !a.quiet && o.trace

theorem run_bind {σ α β : Type} (s : σ) (x : StateM σ α) (f : α → StateM σ β) :
    (x >>= f).run s = (f (x.run s).1).run (x.run s).2 := rfl

variable {σ : Type} [FileAccess (StateM σ)]

/-- The options of the configuration file if one is given, and the default otherwise. -/
def configured (s : σ) : Option String → Option Options
  | none => some .default
  | some path => (FileStore.text? s path).bind fun text => (Options.read text).toOption

/-- What a command prints to the standard output when it scans a source. -/
structure Printed (source : String) (o : Options) (output : String) : Prop where
  /-- It is what the run, while it goes on, writes to an outlet that takes everything. -/
  streamed (w : Trace.Writing) :
    let sink := (Run.into (TraceSink.put w) (.start (.start none true) o.trace) source o).1
    sink.outlet.written = output.toUTF8 ∧ sink.finish = none
  /-- With tokens, every event of the run is a line. -/
  with_tokens : o.trace = true →
    output = String.join ((Run.ofSource source o).events.map Trace.line)
  /-- Without tokens, every warning of the run is a line. -/
  without_tokens : o.trace = false → output =
    String.join ((Run.ofSource source o).result.log.toList.map fun w => Trace.line (.warning w))

/-- What a command leaves behind when it has scanned a source. That it has no `errors` says that it
tells of no failure; a log that it was asked for is not part of them. -/
structure Scanned [FileStore σ] (source : String) (o : Options) (s : σ) (r : Outcome × σ) :
    Prop where
  printed : Printed source o r.1.output
  /-- Either the command succeeds, and the report is the only file that has changed, or the report
  could not be written, and no file has changed. -/
  reported :
    ((writeTo s o.reportPath (Run.reportBytes source o)).1 = .ok () ∧
      r.1.code = 0 ∧ r.1.errors = "" ∧
      FileStore.Replaced s o.reportPath (Run.reportBytes source o) r.2) ∨
    ∃ fault, (writeTo s o.reportPath (Run.reportBytes source o)).1 = .error fault ∧
      r.1.code = 1 ∧ r.1.errors = failureText (.writeReport o.reportPath fault) ∧ r.2 = s

/-- How a command that names a file ends. -/
structure Ending [FileStore σ] (arguments : List String) (a : Arguments) (file : String) (s : σ)
    (r : Outcome × σ) : Prop where
  /-- The flags and the values are those that the command line gives. -/
  given : ∃ filesOnly gs, Spells filesOnly arguments gs ∧ a.Holds gs
  /-- Without options the command fails, whatever the input is. -/
  config_failure : configured s a.config = none → ∃ path failure, a.config = some path ∧
    Failure.OfConfig path failure ∧ r = (⟨1, "", failureText failure⟩, s)
  /-- Without an input the command fails. -/
  input_failure : configured s a.config ≠ none → FileStore.text? s file = none →
    ∃ failure, Failure.OfInput file failure ∧ r = (⟨1, "", failureText failure⟩, s)
  /-- With both the input is scanned, under the options that the flags leave. -/
  scanned (o : Options) (source : String) : configured s a.config = some o →
    FileStore.text? s file = some source → Scanned source (a.over o) s r

/-! ### Reading -/

section Reading

variable {s : σ} {path text : String}

theorem text?_eq_some : FileStore.text? s path = some text ↔
    ∃ bytes, (readFrom s path).1 = .ok bytes ∧ String.fromUTF8? bytes = some text := by
  simp only [FileStore.text?, Option.bind_eq_some_iff, toOption_eq_some]

theorem text?_eq_none : FileStore.text? s path = none ↔
    (∃ fault, (readFrom s path).1 = .error fault) ∨
      ∃ bytes, (readFrom s path).1 = .ok bytes ∧ String.fromUTF8? bytes = none := by
  rw [FileStore.text?]
  cases (readFrom s path).1 <;> simp [Except.toOption]

variable [FileStore σ]

/-- Reading a file leaves the store as it is. -/
theorem run_read (s : σ) (path : String) :
    (read path : StateM σ (Except Files.Fault ByteArray)).run s = ((readFrom s path).1, s) :=
  Prod.ext rfl (FileStore.snd_readFrom s path)

theorem run_readSource (h : FileStore.text? s path = some text) :
    (readSource path : StateM σ (Except Failure String)).run s = (.ok text, s) := by
  obtain ⟨bytes, hread, htext⟩ := text?_eq_some.mp h
  simp only [readSource, run_bind, run_read, hread, htext]
  rfl

theorem run_readSource_of_none (h : FileStore.text? s path = none) :
    ∃ failure, Failure.OfInput path failure ∧
      (readSource path : StateM σ (Except Failure String)).run s = (.error failure, s) := by
  obtain ⟨fault, hread⟩ | ⟨bytes, hread, htext⟩ := text?_eq_none.mp h
  · refine ⟨_, .unreadable fault, ?_⟩
    simp only [readSource, run_bind, run_read, hread]
    rfl
  · refine ⟨_, .notText, ?_⟩
    simp only [readSource, run_bind, run_read, hread, htext]
    rfl

theorem run_load (h : FileStore.text? s path = some text) (o : Options) :
    (Session.load path o : StateM σ (Except Failure Session)).run s = (.ok ⟨o, text⟩, s) := by
  simp only [Session.load, run_bind, run_readSource h]
  rfl

theorem run_load_of_none (h : FileStore.text? s path = none) (o : Options) :
    ∃ failure, Failure.OfInput path failure ∧
      (Session.load path o : StateM σ (Except Failure Session)).run s = (.error failure, s) := by
  obtain ⟨failure, hfailure, hrun⟩ := run_readSource_of_none h
  refine ⟨failure, hfailure, ?_⟩
  simp only [Session.load, run_bind, hrun]
  rfl

theorem run_readConfig (h : FileStore.text? s path = some text) :
    (readConfig path : StateM σ (Except Failure Options)).run s =
      ((Options.read text).mapError (.parseConfig path), s) := by
  obtain ⟨bytes, hread, htext⟩ := text?_eq_some.mp h
  simp only [readConfig, run_bind, run_read, hread, htext]
  rfl

theorem run_readConfig_of_none (h : FileStore.text? s path = none) :
    ∃ cause, (readConfig path : StateM σ (Except Failure Options)).run s =
      (.error (.readConfig path cause), s) := by
  obtain ⟨fault, hread⟩ | ⟨bytes, hread, htext⟩ := text?_eq_none.mp h
  · refine ⟨fault, ?_⟩
    simp only [readConfig, run_bind, run_read, hread]
    rfl
  · refine ⟨.invalidData, ?_⟩
    simp only [readConfig, run_bind, run_read, hread, htext]
    rfl

end Reading

/-! ### Options -/

/-- The settings of a command line override options field by field. -/
theorem applyAll_settings (a : Arguments) (o : Options) : o.applyAll a.settings = a.over o := by
  obtain ⟨file, stats, config, limit, check, quiet, verbose⟩ := a
  cases stats <;> cases limit <;> cases check <;> cases quiet <;> rfl

section Options

variable [FileStore σ] {s : σ} {a : Arguments}

/-- The flags override what was configured. -/
theorem run_resolveOptions {o : Options} (h : configured s a.config = some o) :
    (resolveOptions a : StateM σ (Except Failure Options)).run s = (.ok (a.over o), s) := by
  rw [resolveOptions, ← applyAll_settings]
  cases hconfig : a.config with
  | none =>
    rw [hconfig] at h
    cases h
    rfl
  | some path =>
    rw [hconfig, configured, Option.bind_eq_some_iff] at h
    obtain ⟨text, htext, hread⟩ := h
    simp only [run_bind, run_readConfig htext, toOption_eq_some.mp hread]
    rfl

theorem run_resolveOptions_of_none (h : configured s a.config = none) :
    ∃ path failure, a.config = some path ∧ Failure.OfConfig path failure ∧
      (resolveOptions a : StateM σ (Except Failure Options)).run s = (.error failure, s) := by
  rw [resolveOptions]
  cases hconfig : a.config with
  | none =>
    rw [hconfig] at h
    cases h
  | some path =>
    cases htext : FileStore.text? s path with
    | none =>
      obtain ⟨cause, hrun⟩ := run_readConfig_of_none htext
      refine ⟨path, _, rfl, .unreadable cause, ?_⟩
      simp only [run_bind, hrun]
      rfl
    | some text =>
      rw [hconfig, configured, htext, Option.bind_some] at h
      obtain ⟨cause, hread⟩ := toOption_eq_none.mp h
      refine ⟨path, _, rfl, .malformed cause, ?_⟩
      simp only [run_bind, run_readConfig htext, hread]
      rfl

end Options

/-! ### What is printed -/

section Printed

variable (source : String) (o : Options)

/-- The trace is what a command has to print. -/
theorem printed_text : Printed source o (Trace.text o.trace (Run.ofSource source o).events) where
  streamed w := by
    rw [Run.fst_into_put]
    exact ⟨ByteArray.empty_append, rfl⟩
  with_tokens htokens := by
    rw [htokens, Trace.text_true]
  without_tokens htokens := by
    rw [htokens, Trace.text_false, Run.filterMap_warning?_events]

end Printed

/-! ### Scanning -/

section Scanning

variable [FileStore σ] {s : σ} {a : Arguments} {source : String} {o : Options}

omit [FileStore σ] in
/-- The report of a run is written where the options say. -/
theorem run_write (s : σ) (source : String) (o : Options) :
    (write o.reportPath (Report.ofResult (Run.ofSource source o).result).fileText.toUTF8 :
      StateM σ (Except Files.Fault Unit)).run s =
        writeTo s o.reportPath (Run.reportBytes source o) := rfl

omit [FileStore σ] in
theorem run_session_of_ok (h : (writeTo s o.reportPath (Run.reportBytes source o)).1 = .ok ()) :
    (Session.run ⟨o, source⟩ : StateM σ (List Event × Except Failure ScanResult)).run s =
      (((Run.ofSource source o).events, .ok (Run.ofSource source o).result),
        (writeTo s o.reportPath (Run.reportBytes source o)).2) := by
  simp only [Session.run, Session.toRun, run_bind, run_write, h]
  rfl

theorem run_session_of_error {fault : Files.Fault}
    (h : (writeTo s o.reportPath (Run.reportBytes source o)).1 = .error fault) :
    (Session.run ⟨o, source⟩ : StateM σ (List Event × Except Failure ScanResult)).run s =
      (((Run.ofSource source o).events, .error (.writeReport o.reportPath fault)), s) := by
  simp only [Session.run, Session.toRun, run_bind, run_write, h, FileStore.snd_writeTo_of_error h]
  rfl

/-- How any command that names a file ends. -/
theorem ending_run {arguments : List String} {file : String}
    (hread : Request.read arguments = .ok (.scan a)) (hfile : a.file = some file) (s : σ) :
    Ending arguments a file s ((run arguments : StateM σ Outcome).run s) := by
  have hrun : (run arguments : StateM σ Outcome).run s =
      (scanFile a file : StateM σ Outcome).run s := by
    rw [run, hread]
    simp only [hfile]
  rw [hrun]
  constructor
  case given => exact exists_spells_of_read hread
  case config_failure =>
    intro hnone
    obtain ⟨path, failure, hconfig, hfailure, hoptions⟩ := run_resolveOptions_of_none hnone
    refine ⟨path, failure, hconfig, hfailure, ?_⟩
    simp only [scanFile, run_bind, hoptions]
    rfl
  case input_failure =>
    intro hsome htext
    obtain ⟨o, hoptions⟩ := Option.ne_none_iff_exists'.mp hsome
    obtain ⟨failure, hfailure, hload⟩ := run_load_of_none htext (a.over o)
    refine ⟨failure, hfailure, ?_⟩
    simp only [scanFile, run_bind, run_resolveOptions hoptions, hload]
    rfl
  case scanned =>
    intro o source hoptions htext
    simp only [scanFile, run_bind, run_resolveOptions hoptions, run_load htext]
    -- So far files were only read. What was printed no longer depends on how the write ends.
    cases hwrite : (writeTo s (a.over o).reportPath (Run.reportBytes source (a.over o))).1 with
    | ok _ =>
      rw [run_session_of_ok hwrite]
      exact ⟨printed_text source _, .inl ⟨hwrite, rfl, rfl, FileStore.replaced_of_ok hwrite⟩⟩
    | error fault =>
      rw [run_session_of_error hwrite]
      exact ⟨printed_text source _, .inr ⟨fault, hwrite, rfl, rfl, rfl⟩⟩

end Scanning

/-- A script alone in the working directory. -/
def oneScript : Files :=
  ⟨["home", "work"], [(["home", "work", "a"], .file "let x;".toUTF8)]⟩

theorem target?_oneScript : oneScript.target? "a" = some ["home", "work", "a"] := by
  have hsplit : "a".splitOn "/" = ["a"] := by
    rw [String.splitOn, if_neg (by decide), String.splitOnAux, if_neg (by decide),
      if_neg (by decide), String.splitOnAux, if_pos (by decide)]
    decide
  have hparts : Files.parts "a" = ["a"] := by
    rw [Files.parts, hsplit]
    decide
  have hcheck : Files.checkPath "a" = .ok () := by
    rw [Files.checkPath, if_neg (by simp), if_neg (by decide)]
  have horigin : oneScript.origin "a" = ["home", "work"] := by
    rw [Files.origin, if_neg (by simp)]
    rfl
  refine Files.target?_eq_some.mpr ⟨by decide, Files.resolve_eq_ok.mpr ⟨hcheck, by decide, ?_⟩⟩
  rw [horigin, hparts]
  decide

/-- The script is scanned without tokens, and the report takes its place. -/
theorem ending_run_oneScript :
    let arguments := ["--quiet", "--stats=a", "a"]
    let r := (run arguments : StateM Files Outcome).run oneScript
    Request.read arguments = .ok (.scan ⟨some "a", some "a", none, none, false, true, false⟩) ∧
      r.1 = ⟨0, "[WARNING] Unused variable: x\n", ""⟩ ∧
      FileStore.Replaced oneScript "a"
        (Run.reportBytes "let x;" ⟨false, none, some "a", false⟩) r.2 := by
  intro arguments r
  have hread : Request.read arguments =
      .ok (.scan ⟨some "a", some "a", none, none, false, true, false⟩) := by decide
  have hfind : oneScript.find? ["home", "work", "a"] = some (.file "let x;".toUTF8) := rfl
  have htext : FileStore.text? oneScript "a" = some "let x;" :=
    text?_eq_some.mpr ⟨_, Files.read_eq_ok.mpr ⟨_, target?_oneScript, Files.held_eq_some.mpr hfind⟩,
      by decide +kernel⟩
  have hscanned : Scanned "let x;" ⟨false, none, some "a", false⟩ oneScript r :=
    (ending_run hread rfl oneScript).scanned .default "let x;" rfl htext
  have hwrite (bytes : ByteArray) : (writeTo oneScript "a" bytes).1 = .ok () := by
    rw [Files.writeTo_eq,
      Files.write_eq_ok.mpr ⟨_, target?_oneScript, by rw [hfind]; nofun, rfl⟩]
  obtain ⟨-, hcode, herrors, hreplaced⟩ | ⟨fault, herror, -⟩ := hscanned.reported
  · have houtput : r.1.output = "[WARNING] Unused variable: x\n" :=
      (hscanned.printed.without_tokens rfl).trans (by decide +kernel)
    exact ⟨hread, by rw [← hcode, ← herrors, ← houtput], hreplaced⟩
  · cases (hwrite _).symm.trans herror

end Command

end UsageScan
