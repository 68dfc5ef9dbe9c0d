import LanguageServer.Proofs.Call.Definition
import LanguageServer.Proofs.Session.Custody
import LanguageServer.Proofs.Session.Provenance

/-! Questions, from the moment at which they are asked to the call of the compiler. The place that a
question is about is found in the text that its document has at the first of these moments, and the
compiler is given the text that it has at the second. Between them lies a request for settings, or
nothing. -/

namespace LanguageServer.Session

/-! ### Parts that pose no question -/

/-- No question stands anywhere that did not stand there before. -/
def PosesNone (base result : Session) : Prop :=
  ∀ id stage, result.operations.get? id = some stage → stage.Inquires →
    base.operations.get? id = some stage

section Parts

variable {base result : Session} {id : OperationId}

theorem posesNone_put (stage : Stage) (apart : ¬ stage.Inquires)
    (entered : result.operations = base.operations.put id stage) : PosesNone base result := by
  intro other entry waits inquires
  rw [entered, Table.get?_put] at waits
  split at waits
  · obtain rfl := Option.some.inj waits
    exact absurd inquires apart
  · exact waits

theorem posesNone_erase (gone : result.operations = base.operations.erase id) :
    PosesNone base result := by
  intro other entry waits _
  rw [gone, Table.get?_erase] at waits
  split at waits
  · cases waits
  · exact waits

theorem Stage.Inquires.of_released {stage : Stage} (inquires : stage.released.Inquires) :
    stage.released = stage := by
  cases stage with
  | revalidating waiting count => cases inquires
  | _ => rfl

theorem posesNone_settle {cause : Cause}
    (ends : result.operations = cause.settle (base.operations.erase id)) :
    PosesNone base result := by
  intro other entry waits inquires
  rw [ends, get?_settle, Table.get?_erase] at waits
  by_cases same : other = id
  · rw [if_pos same] at waits
    split at waits <;> cases waits
  · rw [if_neg same] at waits
    split at waits
    · obtain ⟨before, found, rfl⟩ := Option.map_eq_some_iff.mp waits
      rw [inquires.of_released]
      exact found
    · exact waits

theorem posesNone_fanOut (change : OperationId) (uris : List Uri) :
    PosesNone base (base.fanOut change uris).1 := by
  intro other entry waits inquires
  rcases get?_fanOut base change uris waits with before | ⟨-, uri, -, rfl⟩
  · exact before
  · cases inquires

theorem posesNone_check (host : Host) (uri : Uri) (cause : Cause) (settings : Settings) :
    PosesNone base (base.check host id uri cause settings).1 := by
  rcases check_cases host base id uri cause settings with
    ⟨executable, file, document, -, -, -, waits, -⟩ | ⟨ends, -⟩
  · exact posesNone_put (.checking _) not_false waits
  · exact posesNone_settle ends

theorem posesNone_validate (host : Host) (uri : Uri) (cause : Cause) :
    PosesNone base (base.validate host id uri cause).1 := by
  unfold validate
  split
  · exact posesNone_check host uri cause _
  · exact posesNone_put (.fetching (.validate uri cause)) not_false rfl

theorem posesNone_reconfigured (host : Host) (settings : Settings) :
    PosesNone base (base.reconfigured host id settings).1 := by
  unfold reconfigured
  dsimp only
  split
  · exact posesNone_erase rfl
  · split
    · exact posesNone_erase rfl
    · intro other stage waits inquires
      have before := posesNone_fanOut _ _ other stage waits inquires
      exact posesNone_put (.revalidating _ _) not_false rfl other stage before inquires

end Parts

/-! ### How a question comes to stand where it does -/

/-- A question that is asked in a moment, with the number of the operation and the place that the
question is about. -/
structure Moment.Raises (moment : Moment) (id : OperationId) (inquiry : Inquiry) : Prop where
  asks : ∃ host uri question, moment.impulse = .input host (.start (.ask uri question)) ∧
    moment.session.inquiry? uri question = some inquiry
  new : id = moment.session.nextOperation

/-- How a question can come to a stage in a moment. -/
inductive Moment.Poses (moment : Moment) (id : OperationId) : Stage → Prop
  | wonders (inquiry : Inquiry) (raises : moment.Raises id inquiry)
      (unknown : moment.session.settings? inquiry.uri = none) :
      Poses moment id (.fetching (.inquire inquiry))
  | asks (inquiry : Inquiry) (executable file : Path) (raises : moment.Raises id inquiry) :
      Poses moment id (.asking inquiry executable file)
  | resumes (inquiry : Inquiry) (executable file : Path) (host : Host) (answer : Option Json)
      (now : moment.impulse = .input host (.settings id answer))
      (waits : moment.session.operations.get? id = some (.fetching (.inquire inquiry))) :
      Poses moment id (.asking inquiry executable file)

namespace Moment

variable {moment : Moment} {id : OperationId} {stage : Stage}

theorem stage_of_query {base : Session} {asker : OperationId} (host : Host) (inquiry : Inquiry)
    (settings : Settings)
    (waits : (base.query host asker inquiry settings).1.operations.get? id = some stage) :
    base.operations.get? id = some stage ∨
      id = asker ∧ ∃ executable file, stage = .asking inquiry executable file := by
  rcases query_cases host base asker inquiry settings with ⟨executable, file, text, put, -⟩ | ⟨gone, -⟩
  · rw [put, Table.get?_put] at waits
    split at waits
    · rename_i same
      exact .inr ⟨same, executable, file, (Option.some.inj waits).symm⟩
    · exact .inl waits
  · rw [gone, Table.get?_erase] at waits
    split at waits
    · cases waits
    · exact .inl waits

theorem poses_ask (session : Session) (host : Host) (uri : Uri) (question : Question)
    (waits : (⟨session, .input host (.start (.ask uri question))⟩ : Moment).after.operations.get? id =
      some stage) (inquires : stage.Inquires) :
    session.operations.get? id = some stage ∨
      (⟨session, .input host (.start (.ask uri question))⟩ : Moment).Poses id stage := by
  cases asked : session.draw.1.inquiry? uri question with
  | none =>
    simp only [after, react, step, start, ask, asked] at waits
    exact .inl (posesNone_erase rfl id stage waits inquires)
  | some inquiry =>
    have raises : id = session.nextOperation →
        (⟨session, .input host (.start (.ask uri question))⟩ : Moment).Raises id inquiry :=
      fun new => ⟨⟨host, uri, question, rfl, asked⟩, new⟩
    cases known : session.draw.1.settings? inquiry.uri with
    | none =>
      simp only [after, react, step, start, ask, asked, inquire, known, suspend] at waits
      rw [Table.get?_put] at waits
      split at waits
      · rename_i new
        obtain rfl := Option.some.inj waits
        exact .inr (.wonders inquiry (raises new) known)
      · exact .inl waits
    | some settings =>
      simp only [after, react, step, start, ask, asked, inquire, known] at waits
      rcases stage_of_query host inquiry settings waits with before | ⟨new, executable, file, rfl⟩
      · exact .inl before
      · exact .inr (.asks inquiry executable file (raises new))

theorem poses_start (session : Session) (host : Host) (request : Request)
    (waits : (⟨session, .input host (.start request)⟩ : Moment).after.operations.get? id = some stage)
    (inquires : stage.Inquires) :
    session.operations.get? id = some stage ∨
      (⟨session, .input host (.start request)⟩ : Moment).Poses id stage := by
  cases request with
  | ask uri question => exact poses_ask session host uri question waits inquires
  | «open» uri text version =>
    left
    by_cases known : session.validated.contains uri = true
    · simpa only [after, react, step, start, opened, draw, known, if_true] using waits
    · simp only [after, react, step, start, opened, draw, known, Bool.false_eq_true, if_false] at waits
      have before := posesNone_validate host uri .asked id stage waits inquires
      exact before
  | change uri text version =>
    left
    simp only [after, react, step, start, changed, draw] at waits
    cases found : session.documents.get? uri <;> simpa only [found] using waits
  | close uri => exact .inl waits
  | shutdown => exact .inl waits
  | validate uri =>
    have waits : (session.draw.1.validate host session.nextOperation uri .asked).1.operations.get?
        id = some stage := waits
    have before := posesNone_validate host uri .asked id stage waits inquires
    exact .inl before
  | configure settings =>
    left
    by_cases pulls : session.pulls = true
    · simp only [after, react, step, start, configure, draw, pulls, if_true] at waits
      exact posesNone_put (.reconfiguring _) not_false rfl id stage waits inquires
    · simp only [after, react, step, start, configure, draw, pulls, Bool.false_eq_true,
        if_false] at waits
      have before := posesNone_reconfigured host _ id stage waits inquires
      exact before

theorem poses_settings (session : Session) (host : Host) (asker : OperationId) (answer : Option Json)
    (waits : (⟨session, .input host (.settings asker answer)⟩ : Moment).after.operations.get? id =
      some stage) (inquires : stage.Inquires) :
    session.operations.get? id = some stage ∨
      (⟨session, .input host (.settings asker answer)⟩ : Moment).Poses id stage := by
  cases stood : session.operations.get? asker with
  | none =>
    simp only [after, react, step, stood] at waits
    exact .inl waits
  | some old =>
    simp only [after, react, step, stood] at waits
    cases old with
    | fetching task =>
      have keeps := operations_keep session task.uri (layered session.general answer)
      cases task with
      | validate uri cause =>
        have before := posesNone_check host uri cause _ id stage waits inquires
        exact .inl (keeps ▸ before)
      | inquire inquiry =>
        rcases stage_of_query host inquiry _ waits with before | ⟨rfl, executable, file, rfl⟩
        · exact .inl (keeps ▸ before)
        · exact .inr (.resumes inquiry executable file host answer rfl stood)
    | reconfiguring general => exact .inl (posesNone_reconfigured host _ id stage waits inquires)
    | _ => exact .inl waits

/-- A question stands where it stood, or has just come there. -/
theorem poses_of_inquires (moment : Moment) (waits : moment.after.operations.get? id = some stage)
    (inquires : stage.Inquires) :
    moment.session.operations.get? id = some stage ∨ moment.Poses id stage := by
  obtain ⟨session, impulse⟩ := moment
  cases impulse with
  | support pulls => exact .inl waits
  | general settings => exact .inl waits
  | input host input =>
    cases input with
    | start request => exact poses_start session host request waits inquires
    | settings asker answer => exact poses_settings session host asker answer waits inquires
    | ended asker ending =>
      left
      simp only [after, react, step] at waits
      split at waits
      · exact posesNone_settle (checked_cases ..).1 id stage waits inquires
      · exact posesNone_erase (answered_cases ..).1 id stage waits inquires
      · exact waits
    | rested uri ticket =>
      left
      simp only [after, react, step] at waits
      split at waits
      · exact waits
      · have before := posesNone_validate host uri .rest id stage waits inquires
        exact before
    | turn asker =>
      left
      simp only [after, react, step] at waits
      split at waits
      · exact posesNone_validate host _ _ id stage waits inquires
      · exact posesNone_erase rfl id stage waits inquires
      · exact waits
    | abandon asker =>
      left
      simp only [after, react, step] at waits
      have gone : ∀ middle : Session, middle.operations = session.operations →
          (middle.finish asker).operations.get? id = some stage →
          session.operations.get? id = some stage := by
        intro middle same found
        exact same ▸ posesNone_erase rfl id stage found inquires
      split at waits <;> exact gone _ rfl waits

/-- A call of the compiler checks a file, or it is that of a question that is asked now or has waited
for the settings of its document. The compiler is given the text that the document has now. -/
theorem call_cases (numbered : moment.session.Numbered) {call : Invocation}
    (calls : call ∈ moment.calls) :
    (∃ file, call.arguments = Compiler.checkArguments file) ∨
      ∃ inquiry file version, moment.Poses call.id (.asking inquiry call.executable file) ∧
        call.arguments = Compiler.queryArguments file inquiry.line inquiry.column ∧
        moment.after.documents.get? inquiry.uri = some ⟨call.contents, version⟩ := by
  cases moment.keeping numbered with
  | keeps unused silent files holds => simp [silent] at calls
  | frees id file stops silent had files holds => simp [silent] at calls
  | makes host input made uri document now unstopped found fresh only without files holds about
      present text =>
    rw [only] at calls
    obtain rfl := List.mem_singleton.mp calls
    have notIdle : ¬ Idle moment.effects := by
      intro idle
      rw [Moment.calls, invocations_of_idle idle] at only
      cases only
    have single : ∀ effect, moment.effects = [effect] → effect.call? = some call := by
      intro effect alone
      rw [Moment.calls, alone, invocations, List.filterMap_cons] at only
      cases called : effect.call? with
      | none => simp [called] at only
      | some other => simpa [called] using only
    cases moment.deed numbered with
    | rests same idle => exact absurd idle notIdle
    | concludes ended cause endable ends idle => exact absurd idle notIdle
    | ends ended apart gone idle => exact absurd idle notIdle
    | leaves host left now gone idle => exact absurd idle notIdle
    | fansOut change base uris apart drawn number every waits result queues =>
      exact absurd (queues ▸ idle_fanOut base change uris) notIdle
    | prepares begun uri cause entitled pulled waits fetches => cases single _ fetches
    | wonders begun inquiry apart pulled waits fetches => cases single _ fetches
    | pulls general pulled number waits fetches => cases single _ fetches
    | returns change count waits gone done => cases single _ done
    | checks turn executable file document has entitled waits stored called =>
      obtain rfl := Option.some.inj (single _ called)
      exact .inl ⟨file, rfl⟩
    | asks id inquiry executable file contents apart waits called =>
      right
      obtain rfl := Option.some.inj (single _ called)
      have stands : moment.after.operations.get? id = some (.asking inquiry executable file) := by
        rw [waits, Table.get?_put_self]
      have same : inquiry.uri = uri := by
        rw [subject?, stands] at about
        exact Option.some.inj about
      subst same
      refine ⟨inquiry, file, document.version, ?_, rfl, ?_⟩
      · rcases poses_of_inquires moment stands trivial with before | poses
        · rw [file?, before] at without
          cases without
        · exact poses
      · rw [present]
        exact congrArg (fun lined => some (Document.mk lined document.version)) (Lined.ext_text text)

end Moment

/-! ### From the asking of a question to its call -/

theorem Moment.number_of_ask {moment : Moment} {host : Host} {uri : Uri} {question : Question}
    (now : moment.impulse = .input host (.start (.ask uri question))) :
    moment.after.nextOperation = moment.session.nextOperation + 1 := by
  simp only [after, react, now, step, start]
  exact (clears_ask ..).number

section Runs

variable {general : Settings} {impulses : List Impulse} {first last : Nat} {asked called : Moment}

theorem number_lt_of_ask {host : Host} {uri : Uri} {question : Question}
    (here : ((fresh general).moments impulses)[first]? = some asked)
    (now : asked.impulse = .input host (.start (.ask uri question)))
    (there : ((fresh general).moments impulses)[last]? = some called) (earlier : first < last) :
    asked.session.nextOperation < called.session.nextOperation := by
  obtain ⟨-, between, -, -, -, reached⟩ := moments_between here there earlier
  have grows := numbers_run asked.after (asked.numbered_after (numbered_at here)) between
  rw [← reached, Moment.number_of_ask now] at grows
  exact grows

theorem ask_unique {host otherHost : Host} {uri otherUri : Uri} {question otherQuestion : Question}
    (here : ((fresh general).moments impulses)[first]? = some asked)
    (there : ((fresh general).moments impulses)[last]? = some called)
    (now : asked.impulse = .input host (.start (.ask uri question)))
    (again : called.impulse = .input otherHost (.start (.ask otherUri otherQuestion)))
    (same : asked.session.nextOperation = called.session.nextOperation) : first = last := by
  rcases Nat.lt_trichotomy first last with earlier | equal | later
  · exact absurd same (Nat.ne_of_lt (number_lt_of_ask here now there earlier))
  · exact equal
  · exact absurd same (Nat.ne_of_gt (number_lt_of_ask there again here later))

/-- Every question that waits for settings has been asked, and the settings were not known then. -/
theorem wondering_began (general : Settings) (impulses : List Impulse) {id : OperationId}
    {inquiry : Inquiry}
    (waits : ((fresh general).after impulses).operations.get? id = some (.fetching (.inquire inquiry))) :
    ∃ (first : Nat) (asked : Moment), ((fresh general).moments impulses)[first]? = some asked ∧
      asked.Raises id inquiry ∧ asked.session.settings? inquiry.uri = none := by
  refine run_induction (motive := fun past session => ∀ id inquiry,
    session.operations.get? id = some (.fetching (.inquire inquiry)) →
      ∃ (first : Nat) (asked : Moment), past[first]? = some asked ∧ asked.Raises id inquiry ∧
        asked.session.settings? inquiry.uri = none) ?_ [] (fresh general) ?_ impulses id inquiry waits
  · intro past session impulse began id inquiry waits
    rcases Moment.poses_of_inquires ⟨session, impulse⟩ waits trivial with before | poses
    · obtain ⟨first, asked, here, raised⟩ := began id inquiry before
      obtain ⟨inside, -⟩ := List.getElem?_eq_some_iff.mp here
      exact ⟨first, asked, (List.getElem?_append_left inside).trans here, raised⟩
    · cases poses with
      | wonders _ raises unknown => exact ⟨past.length, _, by simp, raises, unknown⟩
  · intro id inquiry waits
    cases waits

/-- Every call that asks about a place goes back to a question. It is made when the question is asked,
unless the settings of the document are not known then. -/
theorem call_of_question {call : Invocation}
    (there : ((fresh general).moments impulses)[last]? = some called) (calls : call ∈ called.calls)
    (mode : call.arguments.head? = some "--lsp-info") :
    ∃ (first : Nat) (asked : Moment) (inquiry : Inquiry) (file : Path) (version : Int),
      ((fresh general).moments impulses)[first]? = some asked ∧ asked.Raises call.id inquiry ∧
        (first = last ∨ first < last ∧ asked.session.settings? inquiry.uri = none) ∧
        call.arguments = Compiler.queryArguments file inquiry.line inquiry.column ∧
        called.after.documents.get? inquiry.uri = some ⟨call.contents, version⟩ := by
  rcases Moment.call_cases (numbered_at there) calls with
    ⟨file, checks⟩ | ⟨inquiry, file, version, poses, arguments, present⟩
  · simp [checks, Compiler.checkArguments] at mode
  · cases poses with
    | asks _ _ _ raises =>
      exact ⟨last, called, inquiry, file, version, there, raises, .inl rfl, arguments, present⟩
    | resumes _ _ _ host answer now waits =>
      obtain ⟨before, rest, split, place, reached⟩ := moment_at_place there
      rw [reached] at waits
      obtain ⟨first, asked, here, raises, unknown⟩ := wondering_began general before waits
      obtain ⟨inside, -⟩ := List.getElem?_eq_some_iff.mp here
      refine ⟨first, asked, inquiry, file, version, ?_, raises, .inr ⟨?_, unknown⟩, arguments,
        present⟩
      · rw [split, moments_append, List.getElem?_append_left inside]
        exact here
      · rw [length_moments, place] at inside
        exact inside

end Runs

/-! ### Documents that are left alone -/

/-- The document that an impulse opens, changes or closes, if it does. -/
def Impulse.edited? : Impulse → Option Uri
  | .input _ (.start (.open uri _ _)) => some uri
  | .input _ (.start (.change uri _ _)) => some uri
  | .input _ (.start (.close uri)) => some uri
  | _ => none

theorem Moment.document_unedited (moment : Moment) {uri : Uri}
    (unedited : moment.impulse.edited? ≠ some uri) :
    moment.after.documents.get? uri = moment.session.documents.get? uri := by
  rw [moment.documents_after.1, entered]
  obtain ⟨session, impulse⟩ := moment
  have different : ∀ other : Uri, some other ≠ some uri → uri ≠ other := by
    rintro other differs rfl
    exact differs rfl
  cases impulse with
  | support pulls => rfl
  | general settings => rfl
  | input host input =>
    cases input with
    | start request =>
      cases request with
      | «open» other text version => exact Table.get?_put_of_ne _ _ (different other unedited)
      | change other text version =>
        simp only [entry, Books.enter]
        split
        · rfl
        · exact Table.get?_put_of_ne _ _ (different other unedited)
      | close other => exact Table.get?_erase_of_ne _ (different other unedited)
      | _ => rfl
    | settings id answer =>
      simp only [entry]
      split
      · simp only [Books.enter]
        split <;> rfl
      · rfl
    | _ => rfl

/-- A document that is not edited from one place of a run to another is the same there. -/
theorem document_kept {session : Session} {impulses : List Impulse} {first last : Nat}
    {one other : Moment} {uri : Uri} (here : (session.moments impulses)[first]? = some one)
    (there : (session.moments impulses)[last]? = some other) (order : first ≤ last)
    (quiet : ∀ place moment, first ≤ place → place ≤ last →
      (session.moments impulses)[place]? = some moment → moment.impulse.edited? ≠ some uri) :
    other.after.documents.get? uri = one.session.documents.get? uri := by
  induction last, order using Nat.le_induction generalizing other with
  | base =>
    obtain rfl := Option.some.inj (here.symm.trans there)
    exact one.document_unedited (quiet first one (Nat.le_refl _) (Nat.le_refl _) here)
  | succ last order ih =>
    obtain ⟨inside, -⟩ := List.getElem?_eq_some_iff.mp there
    have present := List.getElem?_eq_getElem (Nat.lt_of_succ_lt inside)
    rw [other.document_unedited (quiet _ other (Nat.le_succ_of_le order) (Nat.le_refl _) there),
      moments_next present there]
    exact ih present fun place moment above below =>
      quiet place moment above (Nat.le_succ_of_le below)

/-! ### Help with a call -/

/-- What help with a call asks about: the definition that the text has of the called function. -/
theorem inquiry_of_signature {session : Session} {uri : Uri} {position : Position} {inquiry : Inquiry}
    (about : session.inquiry? uri (.signature position) = some inquiry) :
    ∃ document before call site, session.documents.get? uri = some document ∧
      document.before? position = some before ∧ Call.context? before = some call ∧
      Call.definition? document.text.toList call.name = some site ∧
      inquiry = ⟨uri, .signature call, site.line + 1, site.column⟩ := by
  simp only [inquiry?, Option.bind_eq_bind, Option.bind_eq_some_iff] at about
  obtain ⟨document, present, before, stands, call, opens, site, found, same⟩ := about
  exact ⟨document, before, call, site, present, stands, opens, found, (Option.some.inj same).symm⟩

/-- Help with a call asks the compiler about the place where the called function was defined when the
help was asked for, and gives it the text that the document has at the call. So the name stands at
that place of the text unless the document has been edited in between, while its settings were
requested. -/
theorem signature_asked_at_definition {general : Settings} {impulses : List Impulse}
    {first last : Nat} {asked called : Moment} {host : Host} {uri : Uri} {position : Position}
    {call : Invocation} (here : ((fresh general).moments impulses)[first]? = some asked)
    (now : asked.impulse = .input host (.start (.ask uri (.signature position))))
    (there : ((fresh general).moments impulses)[last]? = some called) (calls : call ∈ called.calls)
    (same : call.id = asked.session.nextOperation)
    (mode : call.arguments.head? = some "--lsp-info") :
    ∃ document before target site file version,
      asked.session.documents.get? uri = some document ∧ document.before? position = some before ∧
      Call.context? before = some target ∧
      Call.definition? document.text.toList target.name = some site ∧
      Call.NamedAt document.text.toList target.name site ∧
      call.arguments = Compiler.queryArguments file (site.line + 1) site.column ∧
      called.after.documents.get? uri = some ⟨call.contents, version⟩ ∧
      first ≤ last ∧ (asked.session.settings? uri ≠ none → first = last) ∧
      ((∀ place moment, first < place → place ≤ last →
          ((fresh general).moments impulses)[place]? = some moment →
          moment.impulse.edited? ≠ some uri) →
        Call.NamedAt call.contents.toList target.name site) := by
  obtain ⟨origin, raiser, inquiry, file, version, began, raises, meanwhile, arguments, present⟩ :=
    call_of_question there calls mode
  obtain ⟨⟨_, _, _, origin_now, about⟩, new⟩ := raises
  obtain rfl : origin = first := ask_unique began here origin_now now (new.symm.trans same)
  obtain rfl : raiser = asked := Option.some.inj (began.symm.trans here)
  rw [now] at origin_now
  cases origin_now
  obtain ⟨document, before, target, site, known, stands, opens, found, rfl⟩ :=
    inquiry_of_signature about
  have named := Call.named_of_definition found
  have order : origin ≤ last := by
    rcases meanwhile with rfl | ⟨earlier, -⟩
    · exact Nat.le_refl _
    · exact Nat.le_of_lt earlier
  refine ⟨document, before, target, site, file, version, known, stands, opens, found, named,
    arguments, present, order, ?_, ?_⟩
  · intro settled
    rcases meanwhile with equal | ⟨-, unknown⟩
    · exact equal
    · exact absurd unknown settled
  · intro quiet
    have kept : called.after.documents.get? uri = raiser.session.documents.get? uri := by
      apply document_kept here there order
      intro place moment above below met
      rcases Nat.eq_or_lt_of_le above with rfl | later
      · obtain rfl := Option.some.inj (here.symm.trans met)
        rw [now]
        exact nofun
      · exact quiet place moment later below met
    rw [present, known] at kept
    rw [← congrArg (·.text) (Option.some.inj kept)] at named
    exact named

/-- Help with a call is asked for while the settings of the document are requested, and a document is
changed before they arrive. -/
def awaitedRun (host : Host) (uri : Uri) (change : Request) (answer : Option Json) : List Impulse :=
  [.support true, .input host (.start (.open uri "fn f()\nf(" 1)),
    .input host (.start (.ask uri (.signature ⟨1, 2⟩))), .input host (.start change),
    .input host (.settings 1 answer)]

theorem signature_asked_at_definition_awaited :
    let run := (fresh {}).moments (awaitedRun ⟨Settings.compiler?, fun _ => some "/tmp/a.volta"⟩
      ⟨"file:///a"⟩ (.change ⟨"file:///b"⟩ "" 2) (some (.object [("compilerPath", .string "/b")])))
    ∃ called call name site file, run[4]? = some called ∧ call ∈ called.calls ∧ call.id = 1 ∧
      call.arguments = Compiler.queryArguments file (site.line + 1) site.column ∧
      Call.NamedAt call.contents.toList name site := by
  intro run
  have here : run[2]? = some ⟨_, _⟩ := rfl
  have there : run[4]? = some ⟨_, _⟩ := rfl
  obtain ⟨document, before, target, site, file, version, -, -, -, -, -, arguments, -, -, -, kept⟩ :=
    signature_asked_at_definition here rfl there (List.mem_singleton.mpr rfl) rfl rfl
  refine ⟨_, _, target.name, site, file, there, List.mem_singleton.mpr rfl, rfl, arguments, kept ?_⟩
  intro place moment later below met
  obtain rfl | rfl : place = 3 ∨ place = 4 := by omega
  · obtain rfl := Option.some.inj met
    decide
  · obtain rfl := Option.some.inj met
    decide

/-- If the definition moves while the settings of its document are requested, the compiler is asked
about a place of the new text where the name does not stand. -/
theorem definition_moved_meanwhile :
    let run := (fresh {}).moments (awaitedRun ⟨Settings.compiler?, fun _ => some "/tmp/a.volta"⟩
      ⟨"file:///a"⟩ (.change ⟨"file:///a"⟩ "\nfn f()\nf(" 2)
      (some (.object [("compilerPath", .string "/b")])))
    run[4]?.map Moment.calls = some [⟨1, "/b", Compiler.queryArguments "/tmp/a.volta" 1 3,
        "\nfn f()\nf("⟩] ∧
      ¬ Call.NamedAt "\nfn f()\nf(".toList "f".toList ⟨0, 3⟩ ∧
      Call.NamedAt "\nfn f()\nf(".toList "f".toList ⟨1, 3⟩ := by
  intro run
  refine ⟨rfl, ?_, ?_⟩ <;> decide

end LanguageServer.Session
