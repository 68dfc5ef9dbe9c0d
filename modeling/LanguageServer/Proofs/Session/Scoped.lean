import LanguageServer.Proofs.Session.Cache
import LanguageServer.Proofs.Session.Configuration

/-! Changes of the configuration whose settings are asked for. The editor may answer differently for
each document, but a change compares only the compiler of the general answer with the one that was
found last, whatever that was for. If they differ, all documents come to be validated with the compiler
of their own settings. If they do not, none is validated. -/

namespace LanguageServer.Session

/-- A moment at which the editor can be asked for settings and gives one answer for each scope, with a
fixed way to the compiler. The configuration does not change, and nothing but questions is abandoned. -/
structure Moment.Steady (locator : Settings → Option Path) (editor : Option Uri → Option Json)
    (moment : Moment) : Prop where
  locates : ∀ host input, moment.impulse = .input host input → host.locate = locator
  supported : ∀ pulls, moment.impulse ≠ .support pulls
  general : ∀ settings, moment.impulse ≠ .general settings
  unchanged : ∀ host pushed, moment.impulse ≠ .input host (.start (.configure pushed))
  answers_scope : ∀ host id answer task, moment.impulse = .input host (.settings id answer) →
    moment.session.operations.get? id = some (.fetching task) → answer = editor (some task.uri)
  answers_general : ∀ host id answer general, moment.impulse = .input host (.settings id answer) →
    moment.session.operations.get? id = some (.reconfiguring general) → answer = editor none
  pursues : moment.Pursues

section Steady

variable {locator : Settings → Option Path} {editor : Option Uri → Option Json} {session : Session}
  {host : Host}

theorem steady_of_answer {id : OperationId} {answer : Option Json} (located : host.locate = locator)
    (scope : ∀ task, session.operations.get? id = some (.fetching task) →
      answer = editor (some task.uri))
    (general : ∀ general, session.operations.get? id = some (.reconfiguring general) →
      answer = editor none) :
    (⟨session, .input host (.settings id answer)⟩ : Moment).Steady locator editor := by
  refine ⟨?_, by simp, by simp, by simp, ?_, ?_, by simp [Moment.Pursues]⟩
  · rintro _ _ ⟨⟩
    exact located
  · rintro _ _ _ task ⟨⟩ waits
    exact scope task waits
  · rintro _ _ _ found ⟨⟩ waits
    exact general found waits

theorem steady_of_input {input : Input} (located : host.locate = locator)
    (silent : ∀ id answer, input ≠ .settings id answer)
    (unchanged : ∀ pushed, input ≠ .start (.configure pushed))
    (pursued : ∀ id, input ≠ .abandon id) :
    (⟨session, .input host input⟩ : Moment).Steady locator editor := by
  refine ⟨?_, by simp, by simp, ?_, ?_, ?_, ?_⟩
  · rintro _ _ ⟨⟩
    exact located
  · rintro _ pushed ⟨⟩
    exact unchanged pushed rfl
  · rintro _ id answer _ ⟨⟩
    exact absurd rfl (silent id answer)
  · rintro _ id answer _ ⟨⟩
    exact absurd rfl (silent id answer)
  · rintro _ id _ ⟨⟩
    exact absurd rfl (pursued id)

end Steady

/-! ### Settings that agree with the editor -/

/-- The settings that are kept for documents are those that the editor answers with. -/
structure Coherent (editor : Option Uri → Option Json) (general : Settings) (session : Session) :
    Prop where
  pulls : session.pulls = true
  same : session.general = general
  kept : ∀ uri settings, session.settings.get? uri = some settings →
    settings = layered general (editor (some uri))

theorem coherent_of_configured {moment : Moment} {host : Host} {pushed : Option Settings}
    (now : moment.impulse = .input host (.start (.configure pushed)))
    (pulls : moment.session.pulls = true) (editor : Option Uri → Option Json) :
    Coherent editor moment.after.general moment.after := by
  refine ⟨?_, rfl, ?_⟩
  · rcases moment.pulls_after with ⟨_, supports, -⟩ | same
    · rw [now] at supports
      cases supports
    · rw [same, pulls]
  · intro uri settings kept
    rw [moment.settings_after, Moment.entered, now] at kept
    cases kept

theorem Coherent.after {locator : Settings → Option Path} {editor : Option Uri → Option Json}
    {general : Settings} {moment : Moment} (steady : moment.Steady locator editor)
    (coherent : Coherent editor general moment.session) : Coherent editor general moment.after := by
  refine ⟨?_, ?_, ?_⟩
  · rcases moment.pulls_after with ⟨pulls, supports, -⟩ | same
    · exact absurd supports (steady.supported pulls)
    · rw [same, coherent.pulls]
  · rcases moment.general_after steady.general with ⟨host, pushed, configures⟩ | same
    · exact absurd configures (steady.unchanged host pushed)
    · rw [same, coherent.same]
  · intro uri settings kept
    rw [moment.settings_after] at kept
    rcases settings_enter _ _ uri settings kept with informed | ⟨before, -⟩
    · obtain ⟨id, host, answer, task, now, waits, rfl, rfl⟩ := Moment.answers_of_informed informed
      rw [coherent.same, steady.answers_scope host id answer task now waits]
    · exact coherent.kept uri settings before

theorem Coherent.run {locator : Settings → Option Path} {editor : Option Uri → Option Json}
    {general : Settings} {session : Session} (impulses : List Impulse)
    (steady : ∀ moment ∈ session.moments impulses, moment.Steady locator editor)
    (coherent : Coherent editor general session) :
    Coherent editor general (session.after impulses) := by
  induction impulses generalizing session with
  | nil => exact coherent
  | cons impulse rest ih =>
    obtain ⟨now, later⟩ := List.forall_mem_cons.mp steady
    exact ih later (Coherent.after now coherent)

/-- Every validation goes by what the editor answers for its document. -/
theorem Coherent.turn {locator : Settings → Option Path} {editor : Option Uri → Option Json}
    {general : Settings} {moment : Moment} (steady : moment.Steady locator editor)
    (coherent : Coherent editor general moment.session) {turn : Turn}
    (has : moment.turn? = some turn) :
    turn.executable = locator (layered general (editor (some turn.uri))) := by
  obtain ⟨basis, host, input, now, found⟩ := Moment.basis (Moment.lookup_of_turn has)
  have located : turn.executable = locator turn.settings := by
    rw [← steady.locates host input now]
    exact found
  rw [located]
  congr 1
  cases basis with
  | known uri scope settings =>
    obtain rfl := Option.some.inj scope
    rw [settings?, if_pos coherent.pulls] at settings
    exact coherent.kept turn.uri turn.settings settings
  | answered other id task answer answers waits scope settings =>
    have settings : turn.settings = layered moment.session.general answer := settings
    rw [settings, coherent.same, steady.answers_scope other id answer task answers waits,
      Option.some.inj scope]
  | pushed other pushed configures off scope settings => cases scope
  | pulled other id general answer answers waits scope settings => cases scope

/-! ### The answer to the change -/

theorem Moment.reconfiguring_configured {moment : Moment} {host : Host} {pushed : Option Settings}
    (now : moment.impulse = .input host (.start (.configure pushed)))
    (pulls : moment.session.pulls = true) :
    moment.after.operations.get? moment.session.nextOperation =
      some (.reconfiguring moment.after.general) := by
  rw [general_configured now]
  simp only [after, react, now, step, start, configure, draw, pulls, if_true]
  exact Table.get?_put_self ..

/-- A change of the configuration waits until the editor answers. -/
theorem Moment.reconfiguring_after {moment : Moment} (numbered : moment.session.Numbered)
    (pursues : moment.Pursues) {change : OperationId} {general : Settings}
    (waits : moment.session.operations.get? change = some (.reconfiguring general)) :
    (∃ host answer, moment.impulse = .input host (.settings change answer)) ∨
      moment.after.operations.get? change = some (.reconfiguring general) := by
  have drawn := numbered.below waits
  have unendable : ∀ cause, ¬ moment.Endable change cause := by
    rintro cause (⟨rfl, -⟩ | ⟨standing, stands, -⟩)
    · exact absurd drawn (Nat.lt_irrefl _)
    · rw [standing?, waits] at stands
      cases stands
  -- A change that waits for the editor goes on with its answer alone.
  by_cases joined : moment.Apart change
  · rcases joined with rfl | ⟨stage, found, inquires⟩ | ⟨host, answer, -, now, -⟩
    · exact absurd drawn (Nat.lt_irrefl _)
    · rw [waits] at found
      obtain rfl := Option.some.inj found
      cases inquires
    · exact .inl ⟨host, answer, now⟩
  · right
    rcases moment.stage_untouched numbered drawn unendable joined with
      same | released | ⟨-, ⟨count, returning⟩ | ⟨host, now⟩⟩
    · rw [same, waits]
    · rw [released, waits]
      rfl
    · rw [waits] at returning
      cases returning
    · exact (pursues host change _ now waits).elim

/-- A change of the configuration still waits for the editor, or has been answered. -/
theorem answered_run {session : Session} (numbered : session.Numbered) {change : OperationId}
    {general : Settings}
    (waits : session.operations.get? change = some (.reconfiguring general))
    (impulses : List Impulse) (pursues : ∀ moment ∈ session.moments impulses, moment.Pursues) :
    (session.after impulses).operations.get? change = some (.reconfiguring general) ∨
      ∃ before answered rest host answer,
        session.moments impulses = before ++ answered :: rest ∧
          answered.impulse = .input host (.settings change answer) ∧
          answered.session.operations.get? change = some (.reconfiguring general) := by
  induction impulses generalizing session with
  | nil => exact .inl waits
  | cons impulse impulses ih =>
    obtain ⟨now, later⟩ := List.forall_mem_cons.mp pursues
    rcases Moment.reconfiguring_after numbered now waits with ⟨host, answer, answers⟩ | still
    · exact .inr ⟨[], ⟨session, impulse⟩, _, host, answer, rfl, answers, waits⟩
    · have next := Moment.numbered_after ⟨session, impulse⟩ numbered
      rcases ih next still later with ends | ⟨before, answered, rest, host, answer, split, found⟩
      · exact .inl ends
      · exact .inr ⟨⟨session, impulse⟩ :: before, answered, rest, host, answer,
          congrArg (List.cons _) split, found⟩

/-! ### From the answer on -/

/-- All that holds from the moment on at which a change has started its validations. -/
structure Refreshed (locator : Settings → Option Path) (editor : Option Uri → Option Json)
    (general : Settings) (past : List Moment) (session : Session) : Prop where
  numbered : session.Numbered
  tidy : session.books.Tidy
  coherent : Coherent editor general session
  validity : ∀ uri, session.isOpen uri = true → Validity
    (fun turn => turn.executable = locator (layered general (editor (some uri)))) past session uri

section Refreshed

variable {locator : Settings → Option Path} {editor : Option Uri → Option Json} {general : Settings}
  {past : List Moment}

theorem Refreshed.after {moment : Moment} (steady : moment.Steady locator editor)
    (refreshed : Refreshed locator editor general past moment.session) :
    Refreshed locator editor general (past ++ [moment]) moment.after := by
  obtain ⟨numbered, tidy, coherent, validity⟩ := refreshed
  refine ⟨moment.numbered_after numbered, tidy_react _ _ tidy, coherent.after steady, ?_⟩
  intro uri isOpen
  refine Moment.validity_after numbered tidy steady.pursues ?_ (validity uri) isOpen
  rintro turn has rfl
  exact coherent.turn steady has

theorem Refreshed.run {session : Session} (impulses : List Impulse)
    (steady : ∀ moment ∈ session.moments impulses, moment.Steady locator editor)
    (refreshed : Refreshed locator editor general past session) :
    Refreshed locator editor general (past ++ session.moments impulses)
      (session.after impulses) := by
  induction impulses generalizing past session with
  | nil => simpa using refreshed
  | cons impulse rest ih =>
    obtain ⟨now, later⟩ := List.forall_mem_cons.mp steady
    have further := ih later (Refreshed.after now refreshed)
    simpa using further

end Refreshed

/-! ### The gate of an answered change -/

/-- The moment at which the editor answers to a change of the configuration, after a run. -/
structure Answered (locator : Settings → Option Path) (editor : Option Uri → Option Json)
    (general : Settings) (change : OperationId) (past : List Moment) (moment : Moment) : Prop where
  numbered : moment.session.Numbered
  attributed : moment.session.Attributed
  tidy : moment.session.books.Tidy
  coherent : Coherent editor general moment.session
  compared : moment.session.compiler = foundLast past
  reacts : ∃ host : Host, host.locate = locator ∧ moment.session.react moment.impulse =
    moment.session.reconfigured host change (layered general (editor none))
  apart : moment.Apart change
  drawn : change < moment.session.nextOperation
  steady : moment.Steady locator editor
  documents : moment.after.documents = moment.session.documents

namespace Answered

variable {locator : Settings → Option Path} {editor : Option Uri → Option Json} {general : Settings}
  {change : OperationId} {past : List Moment} {moment : Moment}

theorem same (answered : Answered locator editor general change past moment)
    (same : foundLast past = locator (layered general (editor none))) :
    moment.effects = [.done change (.count 0)] := by
  obtain ⟨host, rfl, reacts⟩ := answered.reacts
  have ends := reconfigured_same moment.session host (layered general (editor none)) change
    (answered.compared.trans same)
  rw [Moment.effects, reacts, ends]

variable (differs : foundLast past ≠ locator (layered general (editor none)))
include differs

theorem account (answered : Answered locator editor general change past moment) {uri : Uri}
    (isOpen : moment.session.isOpen uri = true) :
    ∃ pending, Account change moment.session.documents.keys [] moment.after pending [] := by
  obtain ⟨host, rfl, reacts⟩ := answered.reacts
  refine account_of_reconfigured moment.session host (layered general (editor none))
    answered.attributed rfl rfl answered.apart answered.drawn ?_ isOpen ?_
  · rw [answered.compared]
    exact differs
  · rw [Moment.after, reacts]

theorem refreshed (answered : Answered locator editor general change past moment)
    (run : List Moment) : Refreshed locator editor general run moment.after := by
  refine ⟨moment.numbered_after answered.numbered, tidy_react _ _ answered.tidy,
    answered.coherent.after answered.steady, ?_⟩
  intro uri isOpen
  have before : moment.session.isOpen uri = true := by
    rw [← isOpen, Session.isOpen, Session.isOpen, answered.documents]
  obtain ⟨pending, account⟩ := answered.account differs before
  obtain ⟨id, stands⟩ := account.preparing ((Table.mem_keys ..).mpr before)
  exact .preparing id _ stands

/-- The change has returned the number of open documents once no operation is under way. -/
theorem returns (answered : Answered locator editor general change past moment)
    (impulses : List Impulse)
    (pursues : ∀ other ∈ moment.after.moments impulses, other.Pursues)
    (rests : ∀ id, (moment.after.after impulses).operations.get? id = none) :
    ∃ returned ∈ moment :: moment.after.moments impulses,
      returned.effects = [.done change (.count moment.session.documents.keys.length)] := by
  cases present : moment.session.documents.keys with
  | nil =>
    obtain ⟨host, rfl, reacts⟩ := answered.reacts
    refine ⟨moment, List.mem_cons_self .., ?_⟩
    rw [Moment.effects, reacts, reconfigured, if_neg (answered.compared ▸ differs)]
    dsimp only
    rw [present]
    rfl
  | cons uri uris =>
    have member : uri ∈ moment.session.documents.keys := present ▸ List.mem_cons_self ..
    obtain ⟨pending, account⟩ := answered.account differs ((Table.mem_keys ..).mp member)
    have numbered := moment.numbered_after answered.numbered
    rw [← present]
    cases revalidation_run numbered account impulses pursues with
    | returned returns =>
      obtain ⟨during, returned, rest, split, done, -⟩ := returns
      refine ⟨returned, List.mem_cons_of_mem _ ?_, done⟩
      rw [split]
      exact List.mem_append_right _ (List.mem_cons_self ..)
    | waiting waiting remaining waits lively each =>
      rw [rests change] at waits
      cases waits

end Answered

/-- As long as the editor is steady, a change of the configuration that asks it is answered before no
operation is under way. -/
theorem answered_at_rest {locator : Settings → Option Path} {editor : Option Uri → Option Json}
    {general : Settings} {impulses : List Impulse} {earlier later : List Moment} {changing : Moment}
    {host : Host} {pushed : Option Settings}
    (split : (fresh general).moments impulses = earlier ++ changing :: later)
    (now : changing.impulse = .input host (.start (.configure pushed)))
    (pulls : changing.session.pulls = true)
    (steady : ∀ moment ∈ later, moment.Steady locator editor)
    (rests : ∀ id, ((fresh general).after impulses).operations.get? id = none) :
    ∃ before answered rest answerer answer, later = before ++ answered :: rest ∧
      answered.impulse = .input answerer (.settings changing.session.nextOperation answer) ∧
      Answered locator editor (pushed.getD changing.session.general) changing.session.nextOperation
        (earlier ++ changing :: before) answered := by
  obtain ⟨first, next, starts, reached, remaining, ending⟩ := moments_cut _ _ _ _ _ split
  have numbered : changing.session.Numbered := reached ▸ numbered_run general first
  have waits := Moment.reconfiguring_configured now pulls
  have coherent := coherent_of_configured now pulls editor
  rw [Moment.general_configured now] at waits coherent
  rcases answered_run (changing.numbered_after numbered) waits next
    (fun moment member => (steady moment (remaining ▸ member)).pursues) with
    still | ⟨before, answered, rest, answerer, answer, cut, answers, asked⟩
  · rw [← ending, rests] at still
    cases still
  refine ⟨before, answered, rest, answerer, answer, remaining ▸ cut, answers, ?_⟩
  have whole : (fresh general).moments impulses =
      (earlier ++ changing :: before) ++ answered :: rest := by
    rw [split, ← remaining, cut]
    simp
  obtain ⟨past, -, runs, found, -⟩ := moments_cut _ _ _ _ _ whole
  obtain ⟨during, -, meanwhile, kept, -⟩ := moments_cut _ _ _ _ _ cut
  have listed : ∀ moment ∈ before ++ answered :: rest, moment.Steady locator editor := by
    rw [← cut, remaining]
    exact steady
  have steadily := listed answered (List.mem_append_right _ (List.mem_cons_self ..))
  refine ⟨?_, ?_, ?_, ?_, ?_, ?_, ?_, ?_, steadily, ?_⟩
  · exact found ▸ numbered_run general past
  · exact found ▸ attributed_run general past
  · exact found ▸ tidy_run general past
  · have steadyBefore : ∀ moment ∈ changing.after.moments during, moment.Steady locator editor := by
      rw [meanwhile]
      exact fun moment member => listed moment (List.mem_append_left _ member)
    exact kept ▸ coherent.run during steadyBefore
  · rw [found, ← runs]
    exact compiler_run general past
  · refine ⟨answerer, steadily.locates _ _ answers, ?_⟩
    rw [← steadily.answers_general _ _ _ _ answers asked]
    simp only [react, answers, step, asked]
  · exact .inr (.inr ⟨answerer, answer, _, answers, asked⟩)
  · exact (found ▸ numbered_run general past : answered.session.Numbered).below asked
  · rw [answered.documents_after.1, Moment.entered, answers]
    simp only [entry, asked]
    rfl

/-- A change of the configuration that asks the editor is answered before no operation is under way. If
the general answer leads to the compiler that was found last, the change returns 0 and starts nothing.
Otherwise it returns the number of open documents, and the latest validation of each open document
found the compiler that the editor's answer for this document leads to. -/
theorem pulled_configuration_revalidates (locator : Settings → Option Path)
    (editor : Option Uri → Option Json) (general : Settings) (impulses : List Impulse)
    (earlier later : List Moment) (changing : Moment) (host : Host) (pushed : Option Settings)
    (split : (fresh general).moments impulses = earlier ++ changing :: later)
    (now : changing.impulse = .input host (.start (.configure pushed)))
    (pulls : changing.session.pulls = true)
    (steady : ∀ moment ∈ later, moment.Steady locator editor)
    (rests : ∀ id, ((fresh general).after impulses).operations.get? id = none) :
    let session := (fresh general).after impulses
    let compiler scope := locator (layered (pushed.getD changing.session.general) (editor scope))
    ∃ before answered rest, later = before ++ answered :: rest ∧
      (∃ host answer,
        answered.impulse = .input host (.settings changing.session.nextOperation answer)) ∧
      (foundLast (earlier ++ changing :: before) = compiler none →
        answered.effects = [.done changing.session.nextOperation (.count 0)]) ∧
      (foundLast (earlier ++ changing :: before) ≠ compiler none →
        (∃ returned ∈ answered :: rest, returned.effects =
          [.done changing.session.nextOperation (.count answered.session.documents.keys.length)]) ∧
        ∀ uri executable, session.isOpen uri = true → compiler (some uri) = some executable →
          ValidatedWith ((fresh general).moments impulses) session uri executable) := by
  intro session compiler
  obtain ⟨before, moment, rest, answerer, answer, cut, answers, answered⟩ :=
    answered_at_rest split now pulls steady rests
  refine ⟨before, moment, rest, cut, ⟨answerer, answer, answers⟩, answered.same, ?_⟩
  intro differs
  have whole : (fresh general).moments impulses =
      (earlier ++ changing :: before) ++ moment :: rest := by
    rw [split, cut]
    simp
  obtain ⟨-, final, -, -, rfl, finish⟩ := moments_cut _ _ _ _ _ whole
  have steadily : ∀ other ∈ moment.after.moments final, other.Steady locator editor := by
    intro other member
    refine steady other ?_
    rw [cut]
    exact List.mem_append_right _ (List.mem_cons_of_mem _ member)
  refine ⟨answered.returns differs final (fun other member => (steadily other member).pursues)
    (finish ▸ rests), ?_⟩
  intro uri executable isOpen found
  have refreshed := (answered.refreshed differs ((earlier ++ changing :: before) ++ [moment])).run
    final steadily
  rw [List.append_assoc, List.singleton_append, ← whole, ← finish] at refreshed
  cases refreshed.validity uri isOpen with
  | latest turn latest good => exact latest.validatedWith (good.trans found)
  | preparing id cause waits =>
    rw [standing?, rests id] at waits
    cases waits

/-- An answer of the editor that names a compiler. -/
def naming (path : Path) : Option Json :=
  some (.object [("compilerPath", .string path)])

/-- A document is validated with one compiler, and a change of the configuration leads to another in
general and to a third for the document. -/
def revisedRun (host : Host) (uri : Uri) (output : Compiler.Output) : List Impulse :=
  [.support true, .input host (.start (.open uri "let" 1)), .input host (.settings 0 (naming "/x")),
    .input host (.ended 0 (.ok output)), .input host (.start (.configure none)),
    .input host (.settings 1 (naming "/z")), .input host (.turn 2),
    .input host (.settings 2 (naming "/y")), .input host (.ended 2 (.ok output)),
    .input host (.turn 1)]

theorem pulled_configuration_revalidates_revised :
    let host : Host := ⟨Settings.compilerPath, fun _ => some "/tmp/a.volta"⟩
    let impulses := revisedRun host ⟨"file:///a"⟩ ⟨"", "", some 0⟩
    let editor := fun scope : Option Uri => naming (if scope.isNone then "/z" else "/y")
    let run := (fresh {}).moments impulses
    let session := (fresh {}).after impulses
    (∀ moment ∈ run.drop 5, moment.Steady Settings.compilerPath editor) ∧
      (∀ id, session.operations.get? id = none) ∧ foundLast (run.take 5) = some "/x" ∧
      Settings.compilerPath (layered {} (editor none)) = some "/z" ∧
      ValidatedWith run session ⟨"file:///a"⟩ "/y" := by
  intro host impulses editor run session
  -- The session after the change, of which only the stages of two operations are looked at.
  obtain ⟨middle, reached⟩ : ∃ middle, middle = (fresh {}).after (impulses.take 5) := ⟨_, rfl⟩
  have tail : run.drop 5 = middle.moments (impulses.drop 5) := by
    rw [reached]
    rfl
  have asks : middle.operations.get? 1 = some (.reconfiguring {}) := by
    rw [reached]
    decide +kernel
  have fetches : ((middle.react (.input host (.settings 1 (naming "/z")))).1.react
      (.input host (.turn 2))).1.operations.get? 2 =
      some (.fetching (.validate ⟨"file:///a"⟩ (.change 1))) := by
    rw [reached]
    decide +kernel
  have steady : ∀ moment ∈ run.drop 5, moment.Steady Settings.compilerPath editor := by
    rw [tail]
    simp only [impulses, revisedRun, List.drop_succ_cons, List.drop_zero, moments_cons, moments_nil,
      List.forall_mem_cons]
    refine ⟨steady_of_answer rfl ?_ fun _ _ => rfl, ?_, steady_of_answer rfl (fun _ _ => rfl) ?_, ?_,
      ?_, by simp⟩
    · intro task waits
      rw [asks] at waits
      cases waits
    · exact steady_of_input rfl (by simp) (by simp) (by simp)
    · intro general waits
      rw [fetches] at waits
      cases waits
    · exact steady_of_input rfl (by simp) (by simp) (by simp)
    · exact steady_of_input rfl (by simp) (by simp) (by simp)
  have still : ∀ id, session.operations.get? id = none := Table.get?_of_isEmpty (by decide +kernel)
  have found : foundLast (run.take 5) = some "/x" := by decide +kernel
  have general : Settings.compilerPath (layered {} (editor none)) = some "/z" := by decide +kernel
  obtain ⟨before, answered, rest, cut, ⟨answerer, answer, answers⟩, -, validates⟩ :=
    pulled_configuration_revalidates Settings.compilerPath editor {} impulses (run.take 4)
      (run.drop 5) _ host none rfl rfl rfl steady still
  have first : before = [] := by
    clear validates
    cases before with
    | nil => rfl
    | cons head other =>
      have member : answered ∈ run.drop 6 := by
        have rest := congrArg (List.drop 1) cut
        rw [List.drop_drop] at rest
        rw [rest]
        exact List.mem_append_right _ (List.mem_cons_self ..)
      have listed : answered ∈ [_, _, _, _] := member
      simp only [List.mem_cons, List.not_mem_nil, or_false] at listed
      rcases listed with rfl | rfl | rfl | rfl <;> cases answers
  subst first
  have differs : some "/x" ≠ some "/z" := by decide
  rw [← found, ← general] at differs
  have isOpen : session.isOpen ⟨"file:///a"⟩ = true := by decide +kernel
  have named : Settings.compilerPath (layered {} (editor (some ⟨"file:///a"⟩))) = some "/y" := by
    decide +kernel
  exact ⟨steady, still, found, general, (validates differs).2 _ _ isOpen named⟩

/-- A document is validated, and a change of the configuration leads to the same compiler in general. -/
def overlookedRun (host : Host) (uri : Uri) (output : Compiler.Output) : List Impulse :=
  [.support true, .input host (.start (.open uri "let" 1)), .input host (.settings 0 (naming "/x")),
    .input host (.ended 0 (.ok output)), .input host (.start (.configure none)),
    .input host (.settings 1 (naming "/x"))]

/-- A change that leads to another compiler for a document alone leaves it as it was validated. -/
theorem scoped_change_overlooked :
    let host : Host := ⟨Settings.compilerPath, fun _ => some "/tmp/a.volta"⟩
    let impulses := overlookedRun host ⟨"file:///a"⟩ ⟨"", "", some 0⟩
    let editor := fun scope : Option Uri => naming (if scope.isNone then "/x" else "/y")
    let run := (fresh {}).moments impulses
    let session := (fresh {}).after impulses
    (∀ moment ∈ run.drop 5, moment.Steady Settings.compilerPath editor) ∧
      (∀ id, session.operations.get? id = none) ∧ session.isOpen ⟨"file:///a"⟩ = true ∧
      Settings.compilerPath (layered session.general (editor (some ⟨"file:///a"⟩))) = some "/y" ∧
      ¬ ValidatedWith run session ⟨"file:///a"⟩ "/y" := by
  intro host impulses editor run session
  have isOpen : session.isOpen ⟨"file:///a"⟩ = true := by decide +kernel
  have named : Settings.compilerPath (layered session.general (editor (some ⟨"file:///a"⟩))) =
      some "/y" := by decide +kernel
  refine ⟨?_, ?_, isOpen, named, ?_⟩
  · intro moment member
    have listed : moment ∈ [_] := member
    obtain rfl := List.mem_singleton.mp listed
    refine steady_of_answer rfl ?_ fun _ _ => rfl
    intro task waits
    cases waits
  · exact Table.get?_of_isEmpty (by decide +kernel)
  · rintro ⟨earlier, moment, later, turn, split, has, -, found, -⟩
    have never : run.all (fun moment => moment.turn?.bind Turn.executable != some "/y") = true := by
      decide +kernel
    have member : moment ∈ run := split ▸ List.mem_append_right _ (List.mem_cons_self ..)
    have other := List.all_eq_true.mp never moment member
    rw [has, Option.bind_some, found] at other
    simp at other

end LanguageServer.Session
