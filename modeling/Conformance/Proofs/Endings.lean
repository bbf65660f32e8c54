import Conformance.CommandLine.Run
import Conformance.Proofs.Messages
import Conformance.Proofs.Verdict
/-!
# How a run of the command ends

A run opens up to three files, one after the other, and each stage only after the ones before it. It reports
with one of three exit codes, or stops for one of a few reasons. A file that is opened and cannot be read or
holds no JSON is reported with exit code 2. One that is no UTF-8 stops the run instead. What a run does with a text
that spells a surrogate alone is left open. Nothing is asked of the checker of drafts, nor of the number of frames.
-/

namespace Conformance.CommandLine

variable {w : World} {o : Options}

/-! ## Files of a run -/

/-- The name of a file is among the options. -/
def Options.Names (o : Options) (name : String) : Prop :=
  name = o.schema ∨ name = o.path ∨ o.definitions = some name

/-- The run opens the file at the path, as a document of the given role or as the input. -/
inductive World.Opens (w : World) (o : Options) : Option Role → String → Prop
  | schema {paths : Paths} (hp : w.paths o = .ok paths) : Opens w o (some .schema) paths.schema
  | definitions {paths : Paths} {schema : Value} {name path : String} (hp : w.paths o = .ok paths)
    (hs : w.document .schema paths.schema = .ok schema) (hn : o.definitions.filter (· ≠ "") = some name)
    (hr : w.path name = .ok path) : Opens w o (some .definitions) path
  | input {paths : Paths} {d : Documents} {v : Validator} {marks : List Mark} (hp : w.paths o = .ok paths)
    (hd : w.documents o paths = .ok d) (hc : (compileDocument 0 d.schema d.definitions).run [] = (.ok v, marks)) :
    Opens w o none paths.input

/-- Why a run can stop without an exit code of its own. -/
inductive World.Stops (w : World) (o : Options) : Stop → Prop
  | path {name : String} {e : PathError} (hn : o.Names name) (h : Path.resolve w.place name = .error e) :
    Stops w o (.path e)
  | nameTooLong {role : Role} {path : String} (ho : w.Opens o (some role) path)
    (he : w.entry path = .nameTooLong) : Stops w o (.nameTooLong path)
  | undecodable {role : Option Role} {path : String} {bytes : List UInt8} {e : Text.Utf8Error}
    (ho : w.Opens o role path) (he : w.entry path = .file bytes) (hb : NoText bytes) : Stops w o (.undecodable e)
  | checker {paths : Paths} {schema : Value} {kind message : String} (hp : w.paths o = .ok paths)
    (hs : w.document .schema paths.schema = .ok schema) (hc : o.checkSchema = true)
    (h : w.checker.check schema = .error (.complaint (.broken kind message))) : Stops w o (.checker kind message)
  | surrogate {role : Option Role} {path : String} {cs : List Char} (ho : w.Opens o role path)
    (he : w.entry path = .file (Text.encodeUtf8 cs)) (h : Json.SpellsSurrogate (Text.unifyLines cs)) :
    Stops w o (.surrogate path)

/-! ## Stages -/

/-- The stages up to the documents. -/
def World.started (w : World) (o : Options) : Except Failure (Paths × Documents) := do
  let paths ← w.paths o
  let d ← w.documents o paths
  pure (paths, d)

theorem runOptions_of_error {f : Failure} (h : w.started o = .error f) : w.runOptions o = conclude [] (.error f) := by
  unfold World.runOptions
  rw [← World.started, h]

section Started

variable {paths : Paths} {d : Documents} {marks : List Mark}

theorem runOptions_of_compile_error {e : SchemaError} (h : w.started o = .ok (paths, d))
    (hc : (compileDocument 0 d.schema d.definitions).run [] = (.error e, marks)) :
    ∃ log, w.runOptions o = conclude (if o.verbose then log else []) (.error (.compile e)) := by
  unfold World.runOptions
  rw [← World.started, h]
  simp only [hc]
  exact ⟨_, rfl⟩

theorem runOptions_of_compiled {v : Validator} (h : w.started o = .ok (paths, d))
    (hc : (compileDocument 0 d.schema d.definitions).run [] = (.ok v, marks)) :
    ∃ log, w.runOptions o =
      conclude (if o.verbose then log else []) (w.verdict paths.input v marks >>= report paths) := by
  unfold World.runOptions
  rw [← World.started, h]
  simp only [hc]
  exact ⟨_, rfl⟩

end Started

/-- A path that leads nowhere is one of the run's own. -/
theorem paths_error {f : Failure} (h : w.paths o = .error f) :
    ∃ name e, f = .path e ∧ o.Names name ∧ Path.resolve w.place name = .error e := by
  unfold World.paths at h
  rcases except_bind_error.1 h with h | ⟨_, _, h⟩
  · obtain ⟨e, he, rfl⟩ := mapError_error h
    exact ⟨o.schema, e, rfl, .inl rfl, he⟩
  rcases except_bind_error.1 h with h | ⟨_, _, h⟩
  · obtain ⟨e, he, rfl⟩ := mapError_error h
    exact ⟨o.path, e, rfl, .inr (.inl rfl), he⟩
  · cases h

/-- What the run gets from a file that it opens. -/
def World.opened (w : World) (role : Option Role) (path : String) : Except Failure Value :=
  match role with
  | some role => w.document role path
  | none => ((w.entry path).value path).mapError .input

/-- What can go wrong: with a path, a file that is opened, or the draft. -/
inductive World.Mishap (w : World) (o : Options) : Failure → Prop
  | path {name : String} {e : PathError} (hn : o.Names name) (h : Path.resolve w.place name = .error e) :
    Mishap w o (.path e)
  | file {role : Option Role} {path : String} {f : Failure} (ho : w.Opens o role path)
    (h : w.opened role path = .error f) : Mishap w o f
  | draft {paths : Paths} {schema : Value} {e : DraftError} (hp : w.paths o = .ok paths)
    (hs : w.document .schema paths.schema = .ok schema) (hc : o.checkSchema = true)
    (h : w.checker.check schema = .error e) : Mishap w o (.draft e)

/-- The definitions that the options name, if they do. -/
def World.named (w : World) (o : Options) : Except Failure Value :=
  match o.definitions.filter (· ≠ "") with
  | some name => do w.document .definitions (← w.path name)
  | none => pure .null

/-- The draft check, if it is asked for. -/
def World.drafted (w : World) (o : Options) (schema : Value) : Except Failure Unit :=
  if o.checkSchema then (w.checker.check schema).mapError .draft else pure ()

theorem documents_eq (paths : Paths) : w.documents o paths = (do
    let schema ← w.document .schema paths.schema
    let definitions ← w.named o
    let _ ← w.drafted o schema
    pure ⟨schema, definitions⟩) := by
  unfold World.documents World.named World.drafted
  refine bind_congr fun schema => ?_
  cases o.definitions.filter (· ≠ "") <;> cases o.checkSchema <;> simp

theorem documents_error {paths : Paths} {f : Failure} (hp : w.paths o = .ok paths)
    (h : w.documents o paths = .error f) : w.Mishap o f := by
  rw [documents_eq] at h
  rcases except_bind_error.1 h with h | ⟨schema, hs, h⟩
  · exact .file (.schema hp) h
  rcases except_bind_error.1 h with h | ⟨definitions, _, h⟩
  · unfold World.named at h
    split at h
    · next name hn =>
      rcases except_bind_error.1 h with h | ⟨path, hr, h⟩
      · obtain ⟨e, he, rfl⟩ := mapError_error h
        exact .path (.inr (.inr (Option.eq_some_of_filter_eq_some hn))) he
      · exact .file (.definitions hp hs hn hr) h
    · cases h
  rcases except_bind_error.1 h with h | ⟨_, _, h⟩
  · unfold World.drafted at h
    split at h
    · next hc =>
      obtain ⟨e, he, rfl⟩ := mapError_error h
      exact .draft hp hs hc he
    · cases h
  · cases h

theorem started_error {f : Failure} (h : w.started o = .error f) : w.Mishap o f := by
  rcases except_bind_error.1 h with h | ⟨paths, hp, h⟩
  · obtain ⟨name, e, rfl, hn, he⟩ := paths_error h
    exact .path hn he
  rcases except_bind_error.1 h with h | ⟨d, _, h⟩
  · exact documents_error hp h
  · cases h

theorem started_of_error {paths : Paths} {f : Failure} (hp : w.paths o = .ok paths)
    (hd : w.documents o paths = .error f) : w.started o = .error f :=
  except_bind_error.2 (.inr ⟨_, hp, except_bind_error.2 (.inl hd)⟩)

theorem started_of_documents {paths : Paths} {d : Documents} (hp : w.paths o = .ok paths)
    (hd : w.documents o paths = .ok d) : w.started o = .ok (paths, d) :=
  except_bind_ok.2 ⟨_, hp, except_bind_ok.2 ⟨_, hd, rfl⟩⟩

theorem conclude_of_stop {log : List String} {f : Failure} {s : Stop} (h : f.line = .error s) :
    conclude log (.error f) = .stopped s := by
  rw [conclude, h]

theorem conclude_of_line {log : List String} {f : Failure} {line : String} (h : f.line = .ok line) :
    conclude log (.error f) = .reported ⟨2, [], log ++ [line]⟩ := by
  rw [conclude, h]

/-- The run reports with one of its exit codes, or stops for one of the reasons. -/
def World.Ends (w : World) (o : Options) (outcome : Outcome) : Prop :=
  (∃ r, outcome = .reported r ∧ (r.exitCode = 0 ∨ r.exitCode = 1 ∨ r.exitCode = 2)) ∨
    ∃ s, outcome = .stopped s ∧ w.Stops o s

/-- What stops a run at a file: a document whose name is too long, bytes that spell no text, or a surrogate. -/
theorem stop_of_opened {role : Option Role} {path : String} {f : Failure} {s : Stop}
    (hf : w.opened role path = .error f) (hs : f.line = .error s) :
    (∃ r, role = some r ∧ w.entry path = .nameTooLong ∧ s = .nameTooLong path) ∨
    (∃ bytes e, w.entry path = .file bytes ∧ NoText bytes ∧ s = .undecodable e) ∨
      ∃ cs, w.entry path = .file (Text.encodeUtf8 cs) ∧ Json.SpellsSurrogate (Text.unifyLines cs) ∧
        s = .surrogate path := by
  cases role with
  | some role =>
    obtain ⟨e, he, rfl⟩ := mapError_error hf
    have hloads := role.load_loads path (w.entry path)
    rw [he] at hloads
    generalize w.entry path = entry at hloads
    cases hloads with
    | nameTooLong => cases hs; exact .inl ⟨role, rfl, rfl, rfl⟩
    | undecodable hb => cases hs; exact .inr (.inl ⟨_, _, rfl, hb, rfl⟩)
    | surrogate h => cases hs; exact .inr (.inr ⟨_, rfl, h, rfl⟩)
    | _ => cases hs
  | none =>
    obtain ⟨e, he, rfl⟩ := mapError_error hf
    have hreads := FileEntry.value_reads path (w.entry path)
    rw [he] at hreads
    generalize w.entry path = entry at hreads
    cases hreads with
    | undecodable hb => cases hs; exact .inr (.inl ⟨_, _, rfl, hb, rfl⟩)
    | surrogate h => cases hs; exact .inr (.inr ⟨_, rfl, h, rfl⟩)
    | _ => cases hs

theorem stops_of_mishap {f : Failure} {s : Stop} (h : w.Mishap o f) (hs : f.line = .error s) : w.Stops o s := by
  cases h with
  | path hn h => cases hs; exact .path hn h
  | file ho h =>
    obtain ⟨r, rfl, he, rfl⟩ | ⟨bytes, e, he, hb, rfl⟩ | ⟨cs, he, hcs, rfl⟩ := stop_of_opened h hs
    · exact .nameTooLong ho he
    · exact .undecodable ho he hb
    · exact .surrogate ho he hcs
  | @draft paths schema e hp hschema hc h =>
    cases e with
    | notObject => cases hs
    | complaint c =>
      cases c with
      | invalid _ _ => cases hs
      | broken _ _ => cases hs; exact .checker hp hschema hc h

/-! ### Compiling and checking -/

theorem writable_of_document {role : Role} {path : String} {v : Value} (h : w.document role path = .ok v) :
    v.Writable := by
  have hloads := role.load_loads path (w.entry path)
  rw [World.document] at h
  generalize w.entry path = entry at hloads h
  generalize role.load path entry = r at hloads h
  cases hloads with
  | value hv _ =>
    cases h
    exact FileEntry.writable_of_value hv
  | _ => cases h

theorem writable_of_named {v : Value} (h : w.named o = .ok v) : v.Writable := by
  unfold World.named at h
  split at h
  · obtain ⟨_, _, h⟩ := except_bind_ok.1 h
    exact writable_of_document h
  · cases h
    exact .null

/-- The error of documents that come from files has a message. -/
theorem line_of_compile {paths : Paths} {d : Documents} {e : SchemaError} {marks : List Mark}
    (hd : w.documents o paths = .ok d) (hc : (compileDocument 0 d.schema d.definitions).run [] = (.error e, marks)) :
    ∃ text, (Failure.compile e).line = .ok ("ERR: " ++ text) := by
  rw [documents_eq] at hd
  obtain ⟨schema, hs, hd⟩ := except_bind_ok.1 hd
  obtain ⟨definitions, hn, hd⟩ := except_bind_ok.1 hd
  obtain ⟨_, _, hd⟩ := except_bind_ok.1 hd
  cases hd
  obtain ⟨message, hm⟩ := compileDocument_hasMessage (writable_of_document hs) (writable_of_named hn) hc
  refine ⟨"schema compilation failure: " ++ message, ?_⟩
  rw [Failure.line, hm, ← String.append_assoc]
  rfl

/-- What documents compile to has a verdict on every value. -/
theorem verdict_of_compiled {paths : Paths} {schema definitions : Value} {v : Validator} {marks : List Mark}
    {x : Value} (hc : (compileDocument 0 schema definitions).run [] = (.ok v, marks))
    (hx : (w.entry paths.input).value paths.input = .ok x) :
    ∃ failure, (v.diagnose w.limit x).run marks = (.ok failure, marks) ∧
      (v.message? w.limit x).run marks = (.ok (failure.map (·.text)), marks) ∧
      w.verdict paths.input v marks = .ok ⟨x, failure⟩ := by
  have hfresh : ∀ m ∈ ([] : List Mark), m.scope ≠ 0 := List.forall_mem_nil _
  obtain ⟨_, hcompiled⟩ := Scope.compile_fresh hfresh hc
  have hdiagnose := Validator.diagnoseWithin_run w.limit (hcompiled.safe (List.Subset.refl _)) x
  have hcheck : (v.check w.limit x).run marks = _ := Validator.checkWithin_run hdiagnose
  refine ⟨_, hdiagnose, ?_, ?_⟩
  · rw [Validator.message?, run_bind_of_ok hcheck]
    rfl
  · rw [World.verdict, hx]
    show ((v.check w.limit x).run marks).1.mapError Failure.compile = _
    rw [hcheck]
    rfl

/-- A checker that finds fault with schemas that ask for no draft by name. -/
def askingChecker : Checker := fun entries =>
  if Entries.has "$schema" entries then pure () else throw (.invalid [] "'$schema' is a required property")

/-- A place where every path holds the same bytes. -/
def worldOf (bytes : List UInt8) : World := ⟨⟨['/'], ['/'], []⟩, fun _ => .file bytes, askingChecker, 1⟩

def plainOptions : Options := ⟨"/s", "/i", none, false, false⟩

theorem ofArguments_plain : Options.ofArguments ["--schema", "/s", "--path", "/i"] = .ok plainOptions := rfl

end Conformance.CommandLine
