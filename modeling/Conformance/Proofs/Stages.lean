import Conformance.Proofs.Endings
/-!
# What the command reports

The stages of a run come one after the other, and the first one that fails is what is reported, if it does not stop
the run. If none of them fails, the report is the verdict of the validator that the documents compile to on the value
in the input file. Whatever is logged besides changes nothing but the lines on standard error. Which schemas the
checker of drafts takes and how many frames there are make no difference to any of this.
-/

namespace Conformance

/-! ## Paths of one name -/

namespace Path

theorem split_of_not_mem {name : List Char} (h : '/' ∉ name) : split name = [name] := by
  induction name with
  | nil => rfl
  | cons c name ih =>
    obtain ⟨hc, hname⟩ := not_or.1 (mt List.mem_cons.2 h)
    rw [split, if_neg (Ne.symm hc), ih hname]

/-- Below the root, a name that begins with a plain letter is the whole path. -/
theorem resolve_name {name : List Char} (hslash : '/' ∉ 'x' :: name) (hnull : '\x00' ∉ 'x' :: name) :
    resolve ⟨['/'], ['/'], []⟩ (String.ofList ('x' :: name)) = .ok (String.ofList ('/' :: 'x' :: name)) := by
  have hsplit := split_of_not_mem hslash
  have hexpand : expandHome ⟨['/'], ['/'], []⟩ ('x' :: name) = .ok ('x' :: name) := by
    have hproper : properNames ('x' :: name) = ['x' :: name] := by
      rw [properNames, hsplit]
      simp
    rw [expandHome, hproper]
    rfl
  have hnames : names ⟨['/'], ['/'], []⟩ ('x' :: name) = [[], 'x' :: name] := by
    show ((split ('x' :: name)).foldl step [[]]).reverse = _
    rw [hsplit]
    simp [step]
  have hcontains : ('x' :: name).contains '\x00' = false := by simpa using hnull
  rw [resolve, String.toList_ofList, hexpand]
  show (if ('x' :: name).contains '\x00' then _ else _) = _
  rw [hcontains, if_neg Bool.false_ne_true, hnames]
  simp [join, List.intercalate, pure, Except.pure]

end Path

namespace CommandLine

variable {w : World} {o : Options} {paths : Paths} {f : Failure}

/-! ## Stages that fail -/

/-- The failure is that of the first stage that fails: the paths that every run has, the schema, the definitions, the
draft check, compiling, the input. -/
inductive World.Fails (w : World) (o : Options) : Failure → Prop
  | path {f : Failure} (h : w.paths o = .error f) : Fails w o f
  | schema {paths : Paths} {f : Failure} (hp : w.paths o = .ok paths)
    (h : w.document .schema paths.schema = .error f) : Fails w o f
  | definitions {paths : Paths} {schema : Value} {f : Failure} (hp : w.paths o = .ok paths)
    (hs : w.document .schema paths.schema = .ok schema) (h : w.named o = .error f) : Fails w o f
  | draft {paths : Paths} {schema definitions : Value} {f : Failure} (hp : w.paths o = .ok paths)
    (hs : w.document .schema paths.schema = .ok schema) (hn : w.named o = .ok definitions)
    (h : w.drafted o schema = .error f) : Fails w o f
  | compile {paths : Paths} {schema definitions : Value} {e : SchemaError} {marks : List Mark}
    (hp : w.paths o = .ok paths) (hs : w.document .schema paths.schema = .ok schema) (hn : w.named o = .ok definitions)
    (hd : w.drafted o schema = .ok ()) (h : (compileDocument 0 schema definitions).run [] = (.error e, marks)) :
    Fails w o (.compile e)
  | input {paths : Paths} {schema definitions : Value} {v : Validator} {marks : List Mark} {e : FileError}
    (hp : w.paths o = .ok paths) (hs : w.document .schema paths.schema = .ok schema) (hn : w.named o = .ok definitions)
    (hd : w.drafted o schema = .ok ()) (hc : (compileDocument 0 schema definitions).run [] = (.ok v, marks))
    (h : (w.entry paths.input).value paths.input = .error e) : Fails w o (.input e)

/-- No stage fails: the documents compile to the validator, and the value is in the input file. -/
structure World.Reaches (w : World) (o : Options) (paths : Paths) (v : Validator) (marks : List Mark) (x : Value) :
    Prop where
  resolved : w.paths o = .ok paths
  documents : ∃ schema definitions, w.document .schema paths.schema = .ok schema ∧ w.named o = .ok definitions ∧
    w.drafted o schema = .ok () ∧ (compileDocument 0 schema definitions).run [] = (.ok v, marks)
  input : (w.entry paths.input).value paths.input = .ok x

/-- Some stage is the first to fail, or none does. -/
theorem fails_or_reaches (w : World) (o : Options) :
    (∃ f, w.Fails o f) ∨ ∃ paths v marks x, w.Reaches o paths v marks x := by
  cases hp : w.paths o with
  | error f => exact .inl ⟨f, .path hp⟩
  | ok paths =>
    cases hs : w.document .schema paths.schema with
    | error f => exact .inl ⟨f, .schema hp hs⟩
    | ok schema =>
      cases hn : w.named o with
      | error f => exact .inl ⟨f, .definitions hp hs hn⟩
      | ok definitions =>
        cases hd : w.drafted o schema with
        | error f => exact .inl ⟨f, .draft hp hs hn hd⟩
        | ok _ =>
          rcases hc : (compileDocument 0 schema definitions).run [] with ⟨e | v, marks⟩
          · exact .inl ⟨_, .compile hp hs hn hd hc⟩
          · cases hx : (w.entry paths.input).value paths.input with
            | error e => exact .inl ⟨_, .input hp hs hn hd hc hx⟩
            | ok x => exact .inr ⟨paths, v, marks, x, hp, ⟨schema, definitions, hs, hn, hd, hc⟩, hx⟩

/-! ## Runs that fail -/

theorem documents_ok {schema definitions : Value} (hs : w.document .schema paths.schema = .ok schema)
    (hn : w.named o = .ok definitions) (hd : w.drafted o schema = .ok ()) :
    w.documents o paths = .ok ⟨schema, definitions⟩ := by
  rw [documents_eq]
  exact except_bind_ok.2 ⟨_, hs, except_bind_ok.2 ⟨_, hn, except_bind_ok.2 ⟨_, hd, rfl⟩⟩⟩

/-- The first stage that fails is one of those up to the documents, or it comes behind them. -/
theorem World.Fails.cases_started (h : w.Fails o f) : w.started o = .error f ∨
    (∃ paths d e marks, w.paths o = .ok paths ∧ w.documents o paths = .ok d ∧
      (compileDocument 0 d.schema d.definitions).run [] = (.error e, marks) ∧ f = .compile e) ∨
    ∃ paths d v marks e, w.paths o = .ok paths ∧ w.documents o paths = .ok d ∧
      (compileDocument 0 d.schema d.definitions).run [] = (.ok v, marks) ∧
      (w.entry paths.input).value paths.input = .error e ∧ f = .input e := by
  cases h with
  | path h => exact .inl (except_bind_error.2 (.inl h))
  | schema hp h =>
    refine .inl (started_of_error hp ?_)
    rw [documents_eq]
    exact except_bind_error.2 (.inl h)
  | definitions hp hs h =>
    refine .inl (started_of_error hp ?_)
    rw [documents_eq]
    exact except_bind_error.2 (.inr ⟨_, hs, except_bind_error.2 (.inl h)⟩)
  | draft hp hs hn h =>
    refine .inl (started_of_error hp ?_)
    rw [documents_eq]
    refine except_bind_error.2 (.inr ⟨_, hs, ?_⟩)
    exact except_bind_error.2 (.inr ⟨_, hn, except_bind_error.2 (.inl h)⟩)
  | compile hp hs hn hd h => exact .inr (.inl ⟨_, _, _, _, hp, documents_ok hs hn hd, h, rfl⟩)
  | input hp hs hn hd hc h => exact .inr (.inr ⟨_, _, _, _, _, hp, documents_ok hs hn hd, hc, h, rfl⟩)

/-- The run ends with the failure. The log is empty unless it is asked for. -/
theorem World.Fails.run (h : w.Fails o f) :
    ∃ log, w.runOptions o = conclude (if o.verbose then log else []) (.error f) := by
  rcases h.cases_started with hs | ⟨paths, d, e, marks, hp, hd, hc, rfl⟩ | ⟨paths, d, v, marks, e, hp, hd, hc, hx, rfl⟩
  · refine ⟨[], ?_⟩
    rw [ite_self, runOptions_of_error hs]
  · exact runOptions_of_compile_error (started_of_documents hp hd) hc
  · obtain ⟨log, hrun⟩ := runOptions_of_compiled (started_of_documents hp hd) hc
    refine ⟨log, ?_⟩
    rw [hrun, World.verdict, hx]
    rfl

/-- If the failure stops the run, it does so for one of the reasons for which runs stop. -/
theorem World.Fails.stops {s : Stop} (h : w.Fails o f) (hs : f.line = .error s) : w.Stops o s := by
  rcases h.cases_started with h | ⟨paths, d, e, marks, _, hd, hc, rfl⟩ | ⟨paths, d, v, marks, e, hp, hd, hc, hx, rfl⟩
  · exact stops_of_mishap (started_error h) hs
  · obtain ⟨text, hline⟩ := line_of_compile hd hc
    rw [hline] at hs
    cases hs
  · refine stops_of_mishap (.file (.input hp hd hc) ?_) hs
    rw [World.opened, hx]
    rfl

/-- What is reported is announced as an error. -/
theorem Failure.line_announced {line : String} (h : f.line = .ok line) : ∃ text, line = "ERR: " ++ text := by
  unfold Failure.line at h
  split at h
  any_goals cases h
  · next e _ _ _ => exact ⟨"schema load failure: " ++ e.message, by rw [← String.append_assoc]; rfl⟩
  · next e _ => exact ⟨"schema load failure: " ++ e.message, by rw [← String.append_assoc]; rfl⟩
  · next e =>
    split at h
    · next message _ =>
      cases h
      exact ⟨"schema compilation failure: " ++ message, by rw [← String.append_assoc]; rfl⟩
    · cases h
  · next e _ _ => exact ⟨"cannot read/parse JSON: " ++ e.message, by rw [← String.append_assoc]; rfl⟩
  · next e => exact ⟨"canonical hash failed: " ++ e.message, by rw [← String.append_assoc]; rfl⟩

/-- The failure is reported, with nothing on standard output, or stops the run. -/
theorem World.Fails.outcome (h : w.Fails o f) :
    (∃ text log, f.line = .ok ("ERR: " ++ text) ∧
      w.runOptions o = .reported ⟨2, [], (if o.verbose then log else []) ++ ["ERR: " ++ text]⟩) ∨
    ∃ s, f.line = .error s ∧ w.Stops o s ∧ w.runOptions o = .stopped s := by
  obtain ⟨log, hrun⟩ := h.run
  cases hl : f.line with
  | ok line =>
    obtain ⟨text, rfl⟩ := Failure.line_announced hl
    exact .inl ⟨text, log, rfl, hrun.trans (conclude_of_line hl)⟩
  | error s => exact .inr ⟨s, rfl, h.stops hl, hrun.trans (conclude_of_stop hl)⟩

/-! ## Runs that reach a verdict -/

/-- A value from a file that passes has a hash, so nothing is left that can go wrong. -/
theorem report_of_passed (paths : Paths) {path : String} {entry : FileEntry} {x : Value}
    (h : entry.value path = .ok x) : ∃ c, Json.canonical x = .ok c ∧
      report paths ⟨x, none⟩ = .ok ⟨0, [placesLine "OK" paths, s!"CANON_SHA256={c.sha256}"], []⟩ := by
  obtain ⟨c, hc⟩ := FileEntry.canonical_of_value h
  have hreport : report paths ⟨x, none⟩ = ((Json.canonical x).mapError Failure.canonical >>= fun c =>
      pure ⟨0, [placesLine "OK" paths, s!"CANON_SHA256={c.sha256}"], []⟩) := rfl
  refine ⟨c, hc, ?_⟩
  rw [hreport, hc]
  rfl

/-- The report is made of what the validator finds in the value. The log is empty unless it is asked for. -/
theorem World.Reaches.reported {v : Validator} {marks : List Mark} {x : Value} (h : w.Reaches o paths v marks x) :
    ∃ d log, (v.diagnose w.limit x).run marks = (.ok d, marks) ∧
      (v.message? w.limit x).run marks = (.ok (d.map (·.text)), marks) ∧
      (d = none → ∃ c, Json.canonical x = .ok c ∧ w.runOptions o =
        .reported ⟨0, [placesLine "OK" paths, s!"CANON_SHA256={c.sha256}"], if o.verbose then log else []⟩) ∧
      ∀ tree, d = some tree → w.runOptions o =
        .reported ⟨1, [placesLine "FAIL" paths, tree.text], if o.verbose then log else []⟩ := by
  obtain ⟨schema, definitions, hs, hn, hd, hc⟩ := h.documents
  obtain ⟨d, hdiagnose, hmessage, hverdict⟩ := verdict_of_compiled hc h.input
  obtain ⟨log, hrun⟩ := runOptions_of_compiled (started_of_documents h.resolved (documents_ok hs hn hd)) hc
  rw [hverdict] at hrun
  refine ⟨d, log, hdiagnose, hmessage, ?_, ?_⟩
  · rintro rfl
    obtain ⟨c, hc, hreport⟩ := report_of_passed paths h.input
    refine ⟨c, hc, hrun.trans ?_⟩
    show conclude _ (report paths ⟨x, none⟩) = _
    rw [hreport, conclude, List.append_nil]
  · rintro tree rfl
    refine hrun.trans ?_
    show Outcome.reported ⟨1, [placesLine "FAIL" paths, tree.text], _⟩ = _
    rw [List.append_nil]

/-! ## Logging -/

/-- The outcomes differ in the lines on standard error at most. -/
inductive Outcome.SameButErrors : Outcome → Outcome → Prop
  | reported {r r' : Report} (hcode : r'.exitCode = r.exitCode) (houtput : r'.output = r.output) :
    SameButErrors (.reported r) (.reported r')
  | stopped (s : Stop) : SameButErrors (.stopped s) (.stopped s)

theorem conclude_log (log log' : List String) (x : Except Failure Report) :
    (conclude log x).SameButErrors (conclude log' x) := by
  cases x with
  | ok r => exact .reported rfl rfl
  | error f =>
    cases hl : f.line with
    | ok line =>
      rw [conclude_of_line hl, conclude_of_line hl]
      exact .reported rfl rfl
    | error s =>
      rw [conclude_of_stop hl, conclude_of_stop hl]
      exact .stopped s

/-- The options with the log asked for. -/
def Options.logged (o : Options) : Options := { o with verbose := true }

/-- The log is all that is different if it is asked for. -/
theorem runOptions_logged (w : World) (o : Options) : (w.runOptions o).SameButErrors (w.runOptions o.logged) := by
  have hstarted : w.started o.logged = w.started o := rfl
  cases hs : w.started o with
  | error f =>
    rw [runOptions_of_error hs, runOptions_of_error (hstarted.trans hs)]
    exact conclude_log _ _ _
  | ok started =>
    obtain ⟨paths, d⟩ := started
    rcases hc : (compileDocument 0 d.schema d.definitions).run [] with ⟨e | v, marks⟩
    · obtain ⟨_, hrun⟩ := runOptions_of_compile_error hs hc
      obtain ⟨_, hrun'⟩ := runOptions_of_compile_error (hstarted.trans hs) hc
      rw [hrun, hrun']
      exact conclude_log _ _ _
    · obtain ⟨_, hrun⟩ := runOptions_of_compiled hs hc
      obtain ⟨_, hrun'⟩ := runOptions_of_compiled (hstarted.trans hs) hc
      rw [hrun, hrun']
      exact conclude_log _ _ _

theorem readWords_flag {s : Switch} (hs : ¬ s.takesValue = true) (d : Given) (rest : List Word) :
    readWords d (.long s none :: rest) = if s = .help then throw .help else readWords (d.setFlag s) rest := by
  rw [readWords.eq_def]
  simp only [if_neg hs]

theorem readWords_verbose (d : Given) (words : List Word) :
    readWords (d.setFlag .verbose) words = (·.setFlag .verbose) <$> readWords d words := by
  have hvalue : ∀ (d : Given) value s,
      (d.setFlag .verbose).setValue value s = (d.setValue value s).setFlag .verbose := by
    intro d value s
    cases s <;> rfl
  have hflag : ∀ (d : Given) s, (d.setFlag .verbose).setFlag s = (d.setFlag s).setFlag .verbose := by
    intro d s
    cases s <;> rfl
  fun_induction readWords d words with
  | case1 d => rw [readWords]; rfl
  | case2 d s value rest hs ih => rw [readWords, if_pos hs, hvalue, ih]
  | case3 d s value rest hs => rw [readWords, if_neg hs]; rfl
  | case4 d s hs value rest ih => rw [readWords, if_pos hs, hvalue, ih]
  | case5 d s rest hs hrest =>
    rw [readWords, if_pos hs]
    · rfl
    · exact hrest
  | case6 d rest hs => rw [readWords_flag hs, if_pos rfl]; rfl
  | case7 d s rest hs hne ih => rw [readWords_flag hs, if_neg hne, hflag, ih]
  | case8 d attached rest => rw [readWords]; rfl
  | case9 d text rest ih => rw [readWords]; exact ih
  | case10 d rest ih => rw [readWords]; exact ih
  | case11 d rest ih => rw [readWords]; exact ih

theorem finish_verbose (d : Given) : (d.setFlag .verbose).finish = Options.logged <$> d.finish := by
  obtain ⟨schema, path, definitions, checkSchema, verbose, stray⟩ := d
  cases schema with
  | none => rfl
  | some schema =>
    cases path with
    | none => rfl
    | some path =>
      cases stray with
      | true => rfl
      | false => cases schema <;> cases path <;> rfl

/-- The log may be asked for in front of all other arguments. -/
theorem ofArguments_verbose {arguments : List String} (h : Options.ofArguments arguments = .ok o) :
    Options.ofArguments ("--verbose" :: arguments) = .ok o.logged := by
  obtain ⟨words, hwords, h⟩ := except_bind_ok.1 h
  obtain ⟨d, hd, h⟩ := except_bind_ok.1 h
  have hclassify : classifyAll (("--verbose" :: arguments).map String.toList) = .ok (.long .verbose none :: words) :=
    except_bind_ok.2 ⟨.long .verbose none, rfl, except_bind_ok.2 ⟨words, hwords, rfl⟩⟩
  have hread : readWords .empty (.long .verbose none :: words) = .ok (d.setFlag .verbose) := by
    have hflag : readWords .empty (.long .verbose none :: words) =
        readWords (Given.empty.setFlag .verbose) words := by
      have hs : ¬ Switch.verbose.takesValue = true := Bool.false_ne_true
      rw [readWords_flag hs, if_neg nofun]
    rw [hflag, readWords_verbose, hd]
    rfl
  refine except_bind_ok.2 ⟨_, hclassify, except_bind_ok.2 ⟨_, hread, ?_⟩⟩
  rw [finish_verbose, h]
  rfl

/-! ## Reports -/

theorem run_of_arguments {arguments : List String} (w : World) (ho : Options.ofArguments arguments = .ok o) :
    w.run arguments = w.runOptions o := by
  rw [World.run, ho]

/-- The command reports the verdict of the validator, whatever the checker of drafts says and however many frames
there are. Some stage is the first to fail or none is. The first one that fails ends the run with exit code 2: nothing
is printed, and the message, which is announced as an error, is the only line besides the log. Or it stops the run, for
one of the reasons for which runs stop. If none fails the run ends with 0 and the hash of the value if the diagnosis
finds nothing, and with 1 and the message if it does. A value from a file can always be hashed. To ask for the log is
to get more lines on standard error, and nothing else is different. -/
theorem run_reports_verdict (w : World) {arguments : List String} (ho : Options.ofArguments arguments = .ok o) :
    ((∃ f, w.Fails o f) ∨ ∃ paths v marks x, w.Reaches o paths v marks x) ∧
    (∀ f, w.Fails o f →
      (∃ text log, f.line = .ok ("ERR: " ++ text) ∧
        w.run arguments = .reported ⟨2, [], (if o.verbose then log else []) ++ ["ERR: " ++ text]⟩) ∨
      ∃ s, f.line = .error s ∧ w.Stops o s ∧ w.run arguments = .stopped s) ∧
    (∀ paths v marks x, w.Reaches o paths v marks x → ∃ d log, (v.diagnose w.limit x).run marks = (.ok d, marks) ∧
      (v.message? w.limit x).run marks = (.ok (d.map (·.text)), marks) ∧
      (d = none → ∃ c, Json.canonical x = .ok c ∧ w.run arguments =
        .reported ⟨0, [placesLine "OK" paths, s!"CANON_SHA256={c.sha256}"], if o.verbose then log else []⟩) ∧
      ∀ tree, d = some tree → w.run arguments =
        .reported ⟨1, [placesLine "FAIL" paths, tree.text], if o.verbose then log else []⟩) ∧
    (∀ path entry x, FileEntry.value path entry = .ok x → ∃ c, Json.canonical x = .ok c) ∧
    Options.ofArguments ("--verbose" :: arguments) = .ok o.logged ∧
    ∀ more, Options.ofArguments more = .ok o.logged → (w.run arguments).SameButErrors (w.run more) := by
  rw [run_of_arguments w ho]
  refine ⟨fails_or_reaches w o, fun f hf => hf.outcome, fun paths v marks x hx => hx.reported,
    fun _ _ _ => FileEntry.canonical_of_value, ofArguments_verbose ho, fun more hmore => ?_⟩
  rw [run_of_arguments w hmore]
  exact runOptions_logged w o

def checkedOptions : Options := ⟨"/s", "/i", none, true, false⟩

/-- Braces everywhere are a schema and an object that meets it. A checker that asks for more than that finds fault
with them. -/
theorem run_reports_verdict_braces :
    (∃ c, Json.canonical (.obj []) = .ok c ∧ (worldOf [0x7b, 0x7d]).run ["--schema", "/s", "--path", "/i"] =
      .reported ⟨0, ["OK: schema=/s file=/i", s!"CANON_SHA256={c.sha256}"], []⟩) ∧
    (worldOf [0x7b, 0x7d]).run ["--schema", "/s", "--path", "/i", "--check-schema"] = .reported ⟨2, [], ["ERR: " ++
      "schema load failure: SCHEMA_INVALID_DRAFT: <root>: '$schema' is a required property"]⟩ := by
  constructor
  · have hx : (worldOf [0x7b, 0x7d]).Reaches plainOptions ⟨"/s", "/i"⟩ .anything [] (.obj []) :=
      ⟨rfl, ⟨.obj [], .null, rfl, rfl, rfl, rfl⟩, rfl⟩
    obtain ⟨_, _, hreaches, _⟩ := run_reports_verdict (worldOf [0x7b, 0x7d]) ofArguments_plain
    obtain ⟨d, _, hdiagnose, _, hpass, _⟩ := hreaches _ _ _ _ hx
    cases hdiagnose
    exact hpass rfl
  · have ho : Options.ofArguments ["--schema", "/s", "--path", "/i", "--check-schema"] = .ok checkedOptions := rfl
    have hf : (worldOf [0x7b, 0x7d]).Fails checkedOptions
        (.draft (.complaint (.invalid [] "'$schema' is a required property"))) := .draft rfl rfl rfl rfl
    obtain ⟨_, hfails, _⟩ := run_reports_verdict (worldOf [0x7b, 0x7d]) ho
    obtain ⟨text, log, hline, hrun⟩ | ⟨s, hline, _⟩ := hfails _ hf
    · rw [← Except.ok.inj hline] at hrun
      exact hrun
    · cases hline

/-! ### A name that is too long -/

/-- Longer than any name of a file. -/
def longName : List Char := List.replicate 300 'x'

def longOptions : Options := ⟨String.ofList longName, "/i", none, false, false⟩

/-- A place where `1` stands in all files that can be there. -/
def crampedWorld (checker : Checker) (limit : Nat) : World where
  place := ⟨['/'], ['/'], []⟩
  entry path := if path = String.ofList ('/' :: longName) then .nameTooLong else .file [0x31]
  checker := checker
  limit := limit

theorem ofArguments_longName :
    Options.ofArguments ["--schema", String.ofList longName, "--path", "/i"] = .ok longOptions := by
  rw [longOptions, longName, List.replicate_succ]
  generalize List.replicate 299 'x' = name
  have hname : (String.ofList ('x' :: name)).toList = 'x' :: name := String.toList_ofList
  rw [Options.ofArguments, List.map_cons, List.map_cons, hname]
  rfl

/-- A schema with a name that is too long stops the run, whatever the checker of drafts and the number of frames. -/
theorem long_name_escapes : longName.length = 300 ∧ ∀ checker limit,
    (crampedWorld checker limit).run ["--schema", String.ofList longName, "--path", "/i"] =
      .stopped (.nameTooLong (String.ofList ('/' :: longName))) := by
  refine ⟨List.length_replicate, fun checker limit => ?_⟩
  have hresolve : Path.resolve ⟨['/'], ['/'], []⟩ (String.ofList longName) = .ok (String.ofList ('/' :: longName)) := by
    have hname : ∀ c ∈ longName, c = 'x' := fun c hc => (List.mem_replicate.1 hc).2
    rw [longName, List.replicate_succ] at hname ⊢
    refine Path.resolve_name ?_ ?_
    · intro h
      exact absurd (hname _ h) (by decide)
    · intro h
      exact absurd (hname _ h) (by decide)
  have hp : (crampedWorld checker limit).paths longOptions = .ok ⟨String.ofList ('/' :: longName), "/i"⟩ := by
    rw [World.paths, World.path, crampedWorld, longOptions, hresolve]
    rfl
  have hs : (crampedWorld checker limit).document .schema (String.ofList ('/' :: longName)) =
      .error (.load (.nameTooLong (String.ofList ('/' :: longName)))) := by
    unfold World.document crampedWorld
    dsimp only
    rw [if_pos rfl]
    rfl
  obtain ⟨_, _, hline, _⟩ | ⟨s, hline, _, hrun⟩ := (World.Fails.schema hp hs).outcome
  · cases hline
  · cases hline
    rw [run_of_arguments _ ofArguments_longName, hrun]

end CommandLine

end Conformance
