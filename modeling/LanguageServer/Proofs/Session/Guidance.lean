import LanguageServer.Proofs.Session.Consultation
import LanguageServer.Proofs.Session.Question
import LanguageServer.Proofs.Symbol.Positions
import LanguageServer.Proofs.Uri.File
import LanguageServer.Protocol.Encode

/-! What the editor is told when nothing disturbs its question: help with the call at the cursor, and
the definition of the symbol there. -/

namespace LanguageServer

/-! ### Help with a call -/

/-- Help with a call as the editor gets it: one signature, which is the name with its parameters in
parentheses. The parameter at the cursor is marked in two places. If there are fewer parameters, it
is the last one. -/
structure Signature.Shows (help : Signature) (name : String) (parameters : List Symbol.Parameter)
    (commas : Nat) : Prop where
  label : help.label = name ++ "(" ++ ", ".intercalate (parameters.map (·.name)) ++ ")"
  listed : help.parameters = parameters
  active : help.active = min commas (parameters.length - 1)
  valid : parameters ≠ [] → help.active < parameters.length
  empty : parameters = [] → help.active = 0
  sent : ∃ signature, help.toJson.member? "signatures" = some (.array [signature]) ∧
    signature.member? "label" = some (.string help.label) ∧
    signature.member? "parameters" = some (.array (parameters.map Symbol.Parameter.toLabel)) ∧
    signature.member? "activeParameter" = some (Json.nat help.active) ∧
    help.toJson.member? "activeParameter" = some (Json.nat help.active)

theorem Symbol.shows_signatureOf (symbol : Symbol) (call : Call.Context) :
    (symbol.signatureOf call).Shows (String.ofList call.name) symbol.parameterList call.commas where
  label := rfl
  listed := rfl
  active := rfl
  valid any := by
    have positive := List.length_pos_iff.mpr any
    simp only [signatureOf, Call.activeParameter]
    omega
  empty nothing := by simp [signatureOf, Call.activeParameter, nothing]
  sent := by
    refine ⟨_, rfl, ?_, ?_, ?_, rfl⟩ <;>
      cases same : (symbol.signatureOf call).documentation <;> rfl

namespace Session

namespace Consultation

section Help

variable (consultation : Consultation) (session : Session)

/-- All that help with a call needs: a document that is open, a call before the cursor on a line that
there is, a definition of the called function in the text, a compiler and a file. -/
structure Helpable (position : Position) (document : Document) (call : Call.Context)
    (site : Call.Site) (executable file : Path) : Prop where
  present : session.documents.get? consultation.uri = some document
  opens : ∃ before, document.before? position = some before ∧ Call.context? before = some call
  found : Call.definition? document.text.toList call.name = some site
  located : consultation.host.locate (consultation.settings session consultation.uri) =
    some executable
  made : consultation.host.scratch session.nextOperation = some file

variable {consultation session}

theorem Helpable.about {position : Position} {document : Document} {call : Call.Context}
    {site : Call.Site} {executable file : Path}
    (helpable : consultation.Helpable session position document call site executable file) :
    session.inquiry? consultation.uri (.signature position) =
      some ⟨consultation.uri, .signature call, site.line + 1, site.column⟩ := by
  obtain ⟨present, ⟨before, stands, opens⟩, found, -, -⟩ := helpable
  simp [inquiry?, present, stands, opens, found]

theorem Helpable.course {position : Position} {document : Document} {call : Call.Context}
    {site : Call.Site} {executable file : Path} (asked : consultation.question = .signature position)
    (helpable : consultation.Helpable session position document call site executable file) :
    consultation.calls session = [⟨session.nextOperation, executable,
        Compiler.queryArguments file (site.line + 1) site.column, document.text⟩] ∧
      consultation.replies session = [(session.nextOperation,
        Inquiry.reply? ⟨consultation.uri, .signature call, site.line + 1, site.column⟩
          ((Compiler.symbol executable consultation.ending).map (withoutScratch file)))] := by
  have about := asked ▸ helpable.about
  cases consultation.course session with
  | asks inquiry other called named raised located present made calls replies =>
    obtain rfl := Option.some.inj (about.symm.trans raised)
    obtain rfl := Option.some.inj (helpable.present.symm.trans present)
    obtain rfl := Option.some.inj (helpable.located.symm.trans located)
    obtain rfl := Option.some.inj (helpable.made.symm.trans made)
    exact ⟨calls, replies⟩
  | ends missing calls replies =>
    have lacks := missing _ about
    simp [helpable.present, helpable.located, helpable.made] at lacks

variable (consultation session) in
/-- Only what has all it needs calls the compiler. -/
theorem helpable_or_idle {position : Position} (asked : consultation.question = .signature position) :
    (∃ document call site executable file,
        consultation.Helpable session position document call site executable file) ∨
      consultation.calls session = [] ∧
        consultation.replies session = [(session.nextOperation, none)] := by
  cases consultation.course session with
  | asks inquiry document executable file about located present made calls replies =>
    rw [asked] at about
    obtain ⟨found, before, call, site, same, stands, opens, defined, rfl⟩ :=
      inquiry_of_signature about
    obtain rfl := Option.some.inj (same.symm.trans present)
    exact .inl ⟨found, call, site, executable, file, same, ⟨before, stands, opens⟩, defined, located,
      made⟩
  | ends missing calls replies => exact .inr ⟨calls, replies⟩

end Help

end Consultation

/-- What the compiler has described, if the call has an output that says so. -/
theorem symbol_eq_ok {executable : Path} {ending : Compiler.Ending} {symbol : Symbol} :
    Compiler.symbol executable ending = .ok symbol ↔
      ∃ output, ending = .ok output ∧ Symbol.ofOutput output.stdout.toList = .ok symbol := by
  cases ending with
  | ok output => simp [Compiler.symbol]
  | error fault => simp [Compiler.symbol]

theorem symbol_eq_error (executable : Path) (ending : Compiler.Ending) :
    (∃ failure, Compiler.symbol executable ending = .error failure) ↔
      (∃ fault, ending = .error fault) ∨
        ∃ output failure, ending = .ok output ∧
          Symbol.ofOutput output.stdout.toList = .error failure := by
  cases ending with
  | ok output => simp [Compiler.symbol]
  | error fault => simp [Compiler.symbol]

theorem reply?_signature_isSome (uri : Uri) (call : Call.Context) (line column : Nat) (file : Path)
    (answer : Except Symbol.Failure Symbol) :
    (Inquiry.reply? ⟨uri, .signature call, line, column⟩
        (answer.map (withoutScratch file))).isSome = true ↔
      ∃ symbol, answer = .ok symbol := by
  cases answer with
  | ok symbol => simp [Inquiry.reply?, Except.map]
  | error failure => simp [Inquiry.reply?, Except.map]

/-- Help with a call, for a request that nothing disturbs. The compiler is called exactly if there is
all that a call needs, and then once, at the definition of the function. The request is answered once;
there is help exactly if the compiler was called and has described a symbol. -/
theorem signature_help_complete (session : Session) (host : Host) (uri : Uri) (position : Position)
    (answer : Option Json) (ending : Compiler.Ending) :
    let consultation : Consultation := ⟨host, uri, .signature position, answer, ending⟩
    (consultation.calls session ≠ [] ↔ ∃ document call site executable file,
      consultation.Helpable session position document call site executable file) ∧
    (∀ document call site executable file,
      consultation.Helpable session position document call site executable file →
      consultation.calls session = [⟨session.nextOperation, executable,
        ["--lsp-info", file, toString (site.line + 1), toString site.column], document.text⟩]) ∧
    ∃ reply, consultation.replies session = [(session.nextOperation, reply)] ∧
      (reply.isSome = true ↔ consultation.calls session ≠ [] ∧
        ∃ output symbol, ending = .ok output ∧ Symbol.ofOutput output.stdout.toList = .ok symbol) ∧
      ∀ document call site executable file output symbol,
        consultation.Helpable session position document call site executable file →
        ending = .ok output → Symbol.ofOutput output.stdout.toList = .ok symbol →
        ∃ help, reply = some (.signature help) ∧
          help.Shows (String.ofList call.name) symbol.parameterList call.commas := by
  intro consultation
  have course {document call site executable file}
      (helpable : consultation.Helpable session position document call site executable file) :=
    helpable.course rfl
  rcases consultation.helpable_or_idle session rfl with
    ⟨document, call, site, executable, file, helpable⟩ | ⟨uncalled, unanswered⟩
  · obtain ⟨called, replied⟩ := course helpable
    refine ⟨⟨fun _ => ⟨document, call, site, executable, file, helpable⟩, ?_⟩, ?_, _, replied, ?_, ?_⟩
    · intro _
      rw [called]
      exact List.cons_ne_nil _ _
    · intro document call site executable file helpable
      exact (course helpable).1
    · rw [called, reply?_signature_isSome]
      simp only [symbol_eq_ok, ne_eq, List.cons_ne_nil, not_false_eq_true, true_and]
      exact exists_comm
    · intro document call site executable file output symbol helpable ended described
      obtain ⟨-, same⟩ := course helpable
      have told := (List.cons.inj (replied.symm.trans same)).1
      have symbol_eq : Compiler.symbol executable ending = .ok symbol :=
        symbol_eq_ok.mpr ⟨output, ended, described⟩
      refine ⟨symbol.signatureOf call, ?_, symbol.shows_signatureOf call⟩
      rw [(Prod.mk.inj told).2, symbol_eq]
      rfl
  · -- without a call there is nothing to be shown, and nothing that a call needs
    have none_helpable {document call site executable file} :
        ¬ consultation.Helpable session position document call site executable file := by
      intro helpable
      have called := (course helpable).1
      rw [uncalled] at called
      cases called
    refine ⟨⟨fun called => absurd uncalled called, ?_⟩, ?_, none, unanswered, ?_, ?_⟩
    · rintro ⟨document, call, site, executable, file, helpable⟩
      exact absurd helpable none_helpable
    · intro document call site executable file helpable
      exact absurd helpable none_helpable
    · simp [uncalled]
    · intro document call site executable file output symbol helpable
      exact absurd helpable none_helpable

/-- A call in a document whose settings the editor has not been asked for. -/
def halfWritten : Session :=
  (fresh {}).after [.input ⟨fun _ => none, fun _ => none⟩
    (.start (.open ⟨"file:///a"⟩ "fn f(a, b)\n  f(\"(,)\", " 1)), .support true]

/-- The function that is called there. The compiler has found it in the file that it was given, in the
largest column. -/
def calledFunction : Symbol :=
  ⟨.function, "f", "", "", none, some [⟨"a", none⟩, ⟨"b", none⟩], none,
    some ⟨some "/tmp//./a.volta", 1, 4294967295⟩⟩

/-- What the compiler says about it. -/
def functionOutput : String :=
  String.ofList (Json.write (Symbol.envelope (.ok calledFunction)))

theorem functionOutput_describes :
    Symbol.ofOutput functionOutput.toList = .ok calledFunction := by
  let answer : Except Symbol.Failure Symbol := .ok calledFunction
  obtain ⟨isEnvelope, spelled⟩ := Symbol.envelope_form answer
  have fits : ∀ symbol, answer = .ok symbol → symbol.Fits := by
    intro symbol same location placed
    obtain rfl := Except.ok.inj same
    obtain rfl := Option.some.inj placed
    exact ⟨by decide, by decide⟩
  have plain := Symbol.ofOutput_spelled fits isEnvelope spelled [] [] (by simp) (by simp)
  rwa [List.nil_append, List.append_nil, ← @String.toList_ofList (Json.write _)] at plain

theorem signature_help_complete_pulled :
    let consultation : Consultation := ⟨⟨Settings.compiler?, fun _ => some "/tmp/a.volta"⟩,
      ⟨"file:///a"⟩, .signature ⟨1, 11⟩, some (.object [("compilerPath", .string "/b")]),
      .ok ⟨functionOutput, "", some 1⟩⟩
    consultation.Helpable halfWritten ⟨1, 11⟩ ⟨"fn f(a, b)\n  f(\"(,)\", ", 1⟩ ⟨['f'], 3, 1⟩ ⟨0, 3⟩ "/b"
        "/tmp/a.volta" ∧
      consultation.calls halfWritten = [⟨1, "/b", ["--lsp-info", "/tmp/a.volta", "1", "3"],
        "fn f(a, b)\n  f(\"(,)\", "⟩] ∧
      ∃ help, consultation.replies halfWritten = [(1, some (.signature help))] ∧
        help.Shows "f" [⟨"a", none⟩, ⟨"b", none⟩] 1 := by
  intro consultation
  have helpable : consultation.Helpable halfWritten ⟨1, 11⟩ ⟨"fn f(a, b)\n  f(\"(,)\", ", 1⟩
      ⟨['f'], 3, 1⟩ ⟨0, 3⟩ "/b" "/tmp/a.volta" := by
    refine ⟨?_, ⟨"  f(\"(,)\", ".toList, ?_, ?_⟩, ?_, ?_, ?_⟩ <;> decide +kernel
  obtain ⟨-, calls, reply, replied, -, shown⟩ := signature_help_complete halfWritten
    consultation.host ⟨"file:///a"⟩ ⟨1, 11⟩ consultation.answer consultation.ending
  obtain ⟨help, rfl, shows⟩ :=
    shown _ _ _ _ _ _ _ helpable rfl functionOutput_describes
  exact ⟨helpable, calls _ _ _ _ _ helpable, help, replied, shows⟩

end Session

/-! ### Going to a definition -/

/-- Where the definition of a symbol is shown that the compiler has described from a file with a copy
of the document's text. The file itself is never shown. -/
structure Target.Leads (target : Target) (symbol : Symbol) (uri : Uri) (position : Position)
    (scratch : Path) : Prop where
  level : target.range.start.line = target.range.stop.line
  ordered : target.range.start.character ≤ target.range.stop.character
  cursor : symbol.location = none → target = ⟨uri, ⟨position, position⟩⟩
  spans : ∀ location, symbol.location = some location →
    target.range = ⟨⟨location.line - 1, location.column⟩,
      ⟨location.line - 1, min (location.column + symbol.name.length) maxPosition⟩⟩
  same : ∀ location, symbol.location = some location →
    (∀ file, location.file = some file → Path.same file scratch = true ∨ Path.isAbsolute file = false) →
    target.uri = uri
  other : ∀ location file, symbol.location = some location → location.file = some file →
    Path.same file scratch = false → Path.isAbsolute file = true → Uri.ofPath? file = some target.uri
  hidden : ∀ shown, Uri.ofPath? scratch = some shown → target.uri = shown → uri = shown

namespace Symbol

variable (symbol : Symbol) (uri : Uri) (position : Position)

theorem target_of_none (nowhere : symbol.location = none) :
    symbol.target uri position = ⟨uri, ⟨position, position⟩⟩ := by
  unfold target
  rw [nowhere]

theorem target_of_some {location : Location} (placed : symbol.location = some location) :
    symbol.target uri position =
      ⟨(location.file.bind Uri.ofPath?).getD uri, ⟨⟨location.line - 1, location.column⟩,
        ⟨location.line - 1, min (location.column + symbol.name.length) maxPosition⟩⟩⟩ := by
  unfold target
  rw [placed]
  rfl

end Symbol

namespace Session

/-- The document that a file is shown as, unless it is the scratch file. -/
theorem ofPath?_filter (file : Option Path) (scratch : Path) (uri : Uri) :
    ((file.filter fun file => !Path.same file scratch).bind Uri.ofPath?).getD uri = uri ∨
      ∃ named, file = some named ∧ Path.same named scratch = false ∧
        Uri.ofPath? named =
          some (((file.filter fun file => !Path.same file scratch).bind Uri.ofPath?).getD uri) := by
  cases file with
  | none => exact .inl rfl
  | some named =>
    cases same : Path.same named scratch with
    | true => simp [Option.filter, same]
    | false =>
      cases shown : Uri.ofPath? named with
      | none => simp [Option.filter, same, shown]
      | some other => simp [Option.filter, same, shown]

theorem target_leads {symbol : Symbol} (fits : symbol.Fits) (uri : Uri) (position : Position)
    (scratch : Path) :
    ((withoutScratch scratch symbol).target uri position).Leads symbol uri position scratch := by
  cases placed : symbol.location with
  | none =>
    have nowhere : (withoutScratch scratch symbol).location = none := by
      simp [withoutScratch, placed]
    rw [Symbol.target_of_none _ _ _ nowhere]
    exact ⟨rfl, Nat.le_refl _, fun _ => rfl, by simp [placed], by simp [placed], by simp [placed],
      fun _ _ => id⟩
  | some location =>
    have somewhere : (withoutScratch scratch symbol).location = some
        { location with file := location.file.filter fun file => !Path.same file scratch } := by
      simp [withoutScratch, placed]
    rw [Symbol.target_of_some _ _ _ somewhere]
    have bounded : location.column ≤ maxPosition := Nat.le_of_lt_succ (fits location placed).2
    have shown := ofPath?_filter location.file scratch uri
    refine ⟨rfl, ?_, ?_, ?_, ?_, ?_, ?_⟩
    · exact Nat.le_min.mpr ⟨Nat.le_add_right _ _, bounded⟩
    · simp [placed]
    · intro other found
      obtain rfl := Option.some.inj (placed.symm.trans found)
      rfl
    · intro other found own
      obtain rfl := Option.some.inj (placed.symm.trans found)
      rcases shown with kept | ⟨named, names, apart, leads⟩
      · exact kept
      · rcases own named names with same | relative
        · exact absurd same (by simp [apart])
        · have absolute := Uri.ofPath?_isSome named
          rw [leads, relative] at absolute
          cases absolute
    · intro other file found names apart absolute
      obtain rfl := Option.some.inj (placed.symm.trans found)
      have known := Uri.ofPath?_isSome file
      rw [absolute] at known
      obtain ⟨foreign, leads⟩ := Option.isSome_iff_exists.mp known
      simp [names, Option.filter, apart, leads]
    · intro hidden covers reached
      rcases shown with kept | ⟨named, names, apart, leads⟩
      · exact kept.symm.trans reached
      · have same := Uri.same_of_ofPath? leads (covers.trans (congrArg some reached.symm))
        rw [apart] at same
        cases same

theorem reply?_definition_eq_none (uri : Uri) (position : Position) (line column : Nat) (file : Path)
    (answer : Except Symbol.Failure Symbol) :
    Inquiry.reply? ⟨uri, .definition position, line, column⟩ (answer.map (withoutScratch file)) =
        none ↔
      ∃ failure, answer = .error failure := by
  cases answer with
  | ok symbol => simp [Inquiry.reply?, Except.map]
  | error failure => simp [Inquiry.reply?, Except.map]

/-- Going to a definition, for a request about an open document that nothing disturbs. It is answered
once. There is no answer exactly if there is no compiler, no file for its copy of the text, no output
or no symbol in it. -/
theorem definition_shown_complete (session : Session) (host : Host) (uri : Uri) (position : Position)
    (answer : Option Json) (ending : Compiler.Ending) (document : Document)
    (present : session.documents.get? uri = some document) :
    let consultation : Consultation := ⟨host, uri, .definition position, answer, ending⟩
    ∃ reply, consultation.replies session = [(session.nextOperation, reply)] ∧
      (reply = none ↔ host.locate (consultation.settings session uri) = none ∨
        host.scratch session.nextOperation = none ∨ (∃ fault, ending = .error fault) ∨
        ∃ output failure, ending = .ok output ∧
          Symbol.ofOutput output.stdout.toList = .error failure) ∧
      ∀ executable file output symbol,
        host.locate (consultation.settings session uri) = some executable →
        host.scratch session.nextOperation = some file → ending = .ok output →
        Symbol.ofOutput output.stdout.toList = .ok symbol →
        consultation.calls session = [⟨session.nextOperation, executable,
          Compiler.queryArguments file (compilerLine position.line) position.character,
          document.text⟩] ∧
        ∃ target, reply = some (.definition target) ∧ target.Leads symbol uri position file := by
  intro consultation
  have about : session.inquiry? uri (.definition position) =
      some ⟨uri, .definition position, compilerLine position.line, position.character⟩ := rfl
  cases consultation.course session with
  | asks inquiry other executable file raised located found made calls replies =>
    obtain rfl := Option.some.inj (about.symm.trans raised)
    obtain rfl := Option.some.inj (present.symm.trans found)
    have located : host.locate (consultation.settings session uri) = some executable := located
    have made : host.scratch session.nextOperation = some file := made
    refine ⟨_, replies, ?_, ?_⟩
    · rw [reply?_definition_eq_none, symbol_eq_error]
      simp only [located, made, reduceCtorEq, false_or]
      rfl
    · intro compiler scratch output symbol finds makes ended described
      obtain rfl := Option.some.inj (located.symm.trans finds)
      obtain rfl := Option.some.inj (made.symm.trans makes)
      refine ⟨calls, _, ?_, target_leads (Symbol.fits_of_ofOutput described) uri position file⟩
      rw [symbol_eq_ok.mpr ⟨output, ended, described⟩]
      rfl
  | ends missing calls replies =>
    have lacks : host.locate (consultation.settings session uri) = none ∨
        host.scratch session.nextOperation = none := by
      rcases missing _ about with unlocated | absent | unmade
      · exact .inl unlocated
      · exact absurd (present.symm.trans absent) (Option.some_ne_none _)
      · exact .inr unmade
    refine ⟨none, replies, ?_, ?_⟩
    · rcases lacks with unlocated | unmade
      · exact iff_of_true rfl (.inl unlocated)
      · exact iff_of_true rfl (.inr (.inl unmade))
    · intro executable file output symbol finds makes
      rcases lacks with unlocated | unmade
      · exact absurd (finds.symm.trans unlocated) (Option.some_ne_none _)
      · exact absurd (makes.symm.trans unmade) (Option.some_ne_none _)

/-- The compiler names the file that it was given in another spelling, and the largest column. -/
theorem definition_shown_complete_scratch :
    let consultation : Consultation := ⟨⟨Settings.compiler?, fun _ => some "/tmp/a.volta"⟩,
      ⟨"file:///a"⟩, .definition ⟨1, 2⟩, some (.object [("compilerPath", .string "/b")]),
      .ok ⟨functionOutput, "", some 1⟩⟩
    halfWritten.documents.get? ⟨"file:///a"⟩ = some ⟨"fn f(a, b)\n  f(\"(,)\", ", 1⟩ ∧
      consultation.replies halfWritten = [(1, some (.definition
        ⟨⟨"file:///a"⟩, ⟨⟨0, 4294967295⟩, ⟨0, 4294967295⟩⟩⟩))] := by
  intro consultation
  have present : halfWritten.documents.get? ⟨"file:///a"⟩ =
      some ⟨"fn f(a, b)\n  f(\"(,)\", ", 1⟩ := by
    decide +kernel
  have located : consultation.host.locate (consultation.settings halfWritten ⟨"file:///a"⟩) =
      some "/b" := by
    decide +kernel
  obtain ⟨reply, replied, -, leads⟩ := definition_shown_complete halfWritten consultation.host
    ⟨"file:///a"⟩ ⟨1, 2⟩ consultation.answer consultation.ending _ present
  obtain ⟨-, ⟨uri, range⟩, rfl, shows⟩ :=
    leads "/b" "/tmp/a.volta" _ _ located rfl rfl functionOutput_describes
  obtain rfl : range = _ := shows.spans _ rfl
  obtain rfl : uri = _ := shows.same _ rfl (fun file names => .inl (by
    obtain rfl := Option.some.inj names
    decide +kernel))
  exact ⟨present, replied⟩

end Session

end LanguageServer
