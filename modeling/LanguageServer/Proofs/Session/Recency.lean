import LanguageServer.Proofs.Session.Revalidation
import LanguageServer.Proofs.Session.Settling

/-! The latest validation of a document. As long as nothing but questions is abandoned, an open
document has one, or another is about to replace it. -/

namespace LanguageServer.Session

/-! ### Open documents -/

theorem contains_enter (books : Books) (entry : Entry) (uri : Uri)
    (present : (books.enter entry).documents.contains uri = true) :
    (∃ document, entry = .opened uri document) ∨
      (entry ≠ .closed uri ∧ books.documents.contains uri = true) := by
  cases entry with
  | opened other document =>
    rcases (Table.contains_put ..).mp present with rfl | known
    · exact .inl ⟨document, rfl⟩
    · exact .inr ⟨by simp, known⟩
  | changed other text version =>
    right
    refine ⟨by simp, ?_⟩
    cases known : books.documents.get? other with
    | none =>
      simp only [Books.enter, known] at present
      exact present
    | some document =>
      simp only [Books.enter, known] at present
      rcases (Table.contains_put ..).mp present with rfl | before
      · exact (Table.contains_iff ..).mpr ⟨document, known⟩
      · exact before
  | closed other =>
    obtain ⟨different, known⟩ := (Table.contains_erase ..).mp present
    refine .inr ⟨?_, known⟩
    rintro ⟨⟩
    exact different rfl
  | informed other settings =>
    simp only [Books.enter] at present
    split at present <;> exact .inr ⟨by simp, present⟩
  | _ => exact .inr ⟨by simp, present⟩

theorem nodup_keys_enter (books : Books) (entry : Entry) (distinct : books.documents.keys.Nodup) :
    (books.enter entry).documents.keys.Nodup := by
  cases entry with
  | opened uri document => exact Table.nodup_keys_put _ _ _ distinct
  | closed uri => exact Table.nodup_keys_erase _ _ distinct
  | changed uri text version =>
    simp only [Books.enter]
    split
    · exact distinct
    · exact Table.nodup_keys_put _ _ _ distinct
  | informed uri settings =>
    simp only [Books.enter]
    split <;> exact distinct
  | _ => exact distinct

/-- No document is open twice. -/
theorem nodup_keys_run (general : Settings) (impulses : List Impulse) :
    ((fresh general).after impulses).documents.keys.Nodup := by
  refine after_induction (motive := fun session => session.documents.keys.Nodup) ?_
    (fresh general) List.nodup_nil impulses
  intro session impulse distinct
  have documents := (Moment.documents_after ⟨session, impulse⟩).1
  exact documents ▸ nodup_keys_enter session.books _ distinct

/-! ### The latest turn -/

/-- The validation of a document that had its turn last, since it was last closed. -/
def LatestTurn (past : List Moment) (uri : Uri) (turn : Turn) : Prop :=
  ∃ earlier moment later, past = earlier ++ moment :: later ∧ moment.turn? = some turn ∧
    turn.uri = uri ∧ moment.after.isOpen uri = true ∧
    ∀ other ∈ later, ¬ other.Closes uri ∧ ∀ next, other.turn? = some next → next.uri ≠ uri

/-- The latest validation of a document looked for the compiler and found an executable. It is the one
that drew the latest revision of the document, and it called this executable if it got a file. -/
def ValidatedWith (past : List Moment) (session : Session) (uri : Uri) (executable : Path) : Prop :=
  ∃ earlier moment later turn, past = earlier ++ moment :: later ∧ moment.turn? = some turn ∧
    turn.uri = uri ∧ turn.executable = some executable ∧
    session.latest.get? uri = some moment.after.revision ∧
    (∀ file, turn.file = some file → ∃ text,
      moment.effects = [.call turn.id executable (Compiler.checkArguments file) text]) ∧
    ∀ other ∈ later, ∀ next, other.turn? = some next → next.uri ≠ uri

theorem latest_run {session : Session} {uri : Uri} (impulses : List Impulse)
    (undisturbed : ∀ moment ∈ session.moments impulses, ¬ moment.Closes uri ∧
      ∀ turn, moment.turn? = some turn → turn.uri ≠ uri) :
    (session.after impulses).latest.get? uri = session.latest.get? uri := by
  induction impulses generalizing session with
  | nil => rfl
  | cons impulse rest ih =>
    obtain ⟨⟨unclosed, unturned⟩, later⟩ := List.forall_mem_cons.mp undisturbed
    have kept := Moment.latest_undisturbed (Moment.not_drawsFor unturned) unclosed
    exact (ih later).trans kept

theorem LatestTurn.validatedWith {general : Settings} {impulses : List Impulse} {uri : Uri}
    {turn : Turn} (latest : LatestTurn ((fresh general).moments impulses) uri turn)
    {executable : Path} (found : turn.executable = some executable) :
    ValidatedWith ((fresh general).moments impulses) ((fresh general).after impulses) uri
      executable := by
  obtain ⟨earlier, moment, later, split, has, rfl, isOpen, since⟩ := latest
  obtain ⟨before, rest, -, -, remaining, reached⟩ := moments_cut _ _ _ _ _ split
  have drawn : moment.after.revision = moment.session.revision + 1 ∧ ∀ file, turn.file = some file →
      ∃ text, moment.effects = [.call turn.id executable (Compiler.checkArguments file) text] := by
    cases moment.upshot has with
    | skipped missing kept gone =>
      rcases missing with missing | missing
      · rw [missing] at found
        cases found
      · obtain ⟨document, present⟩ := (Table.contains_iff ..).mp isOpen
        rw [missing] at present
        cases present
    | failed missing drawn gone =>
      refine ⟨drawn, fun file made => ?_⟩
      rw [missing] at made
      cases made
    | called called file document located made stored drawn checks calls =>
      refine ⟨drawn, fun other same => ⟨document.text, ?_⟩⟩
      obtain rfl := Option.some.inj (located.symm.trans found)
      obtain rfl := Option.some.inj (made.symm.trans same)
      exact calls
  have draws : moment.Draws turn.id turn.uri moment.after.revision := by
    refine ⟨⟨turn, has, rfl, rfl⟩, ?_, rfl⟩
    rw [drawn.1]
    exact Nat.lt_succ_self _
  refine ⟨earlier, moment, later, turn, split, has, rfl, found, ?_, drawn.2,
    fun other member => (since other member).2⟩
  rw [reached, latest_run rest (remaining ▸ since)]
  exact (Moment.after_draw draws).2.1

theorem LatestTurn.append {past : List Moment} {moment : Moment} {uri : Uri} {turn : Turn}
    (latest : LatestTurn past uri turn)
    (unclosed : ¬ moment.Closes uri)
    (unturned : ∀ turn, moment.turn? = some turn → turn.uri ≠ uri) :
    LatestTurn (past ++ [moment]) uri turn := by
  obtain ⟨earlier, turned, later, split, has, same, isOpen, since⟩ := latest
  refine ⟨earlier, turned, later ++ [moment], by simp [split], has, same, isOpen, ?_⟩
  intro other member
  rcases List.mem_append.mp member with before | now
  · exact since other before
  · obtain rfl := List.mem_singleton.mp now
    exact ⟨unclosed, unturned⟩

/-! ### A document has a latest turn, or is about to have one -/

/-- The latest turn of a document is good, or another validation of it has yet to begin. -/
inductive Validity (good : Turn → Prop) (past : List Moment) (session : Session) (uri : Uri) : Prop
  | latest (turn : Turn) (latest : LatestTurn past uri turn) (good : good turn)
  | preparing (id : OperationId) (cause : Cause)
      (waits : session.standing? id = some (.preparing uri cause))

namespace Moment

variable {moment : Moment} {uri : Uri}

/-- A document that is open was so before, or a validation of it has just begun. -/
theorem open_after (tidy : moment.session.books.Tidy)
    (unturned : ∀ turn, moment.turn? = some turn → turn.uri ≠ uri)
    (isOpen : moment.after.isOpen uri = true) :
    (moment.session.isOpen uri = true ∧ ¬ moment.Closes uri) ∨
      ∃ id cause, moment.after.standing? id = some (.preparing uri cause) := by
  rw [Session.isOpen, moment.documents_after.1] at isOpen
  rcases contains_enter _ _ uri isOpen with ⟨document, entered⟩ | ⟨unclosed, before⟩
  · have source := entry_source moment.session moment.impulse
    rw [entered] at source
    obtain ⟨host, now⟩ := source
    by_cases known : moment.session.validated.contains uri = true
    · refine .inl ⟨(tidy.validated uri).mp (List.contains_iff_mem.mp known), ?_⟩
      rintro ⟨other, closes⟩
      rw [now] at closes
      cases closes
    · right
      let base := moment.session.prepared (.start (.open uri document.text document.version))
      have begins : moment.turn? = base.beginning? host moment.session.nextOperation uri .asked := by
        simp only [turn?, now, Session.turn?, known, Bool.false_eq_true, if_false]
        rfl
      have validates : moment.after =
          (base.validate host moment.session.nextOperation uri .asked).1 := by
        simp only [after, react, now, step, start, opened, draw, known, Bool.false_eq_true, if_false]
        rfl
      cases begun : base.beginning? host moment.session.nextOperation uri .asked with
      | none => exact ⟨_, _, validates ▸ standing?_validate_self begun⟩
      | some turn =>
        obtain ⟨settings, rfl, -⟩ := validate_of_beginning base begun
        exact absurd rfl (unturned _ (begins.trans begun))
  · exact .inl ⟨before, mt (moment.entry_eq_closed_iff uri).mpr unclosed⟩

/-- A validation that has yet to begin goes on so until it has its turn. -/
theorem preparing_after (numbered : moment.session.Numbered) (pursues : moment.Pursues)
    (unturned : ∀ turn, moment.turn? = some turn → turn.uri ≠ uri) {id : OperationId} {cause : Cause}
    (waits : moment.session.standing? id = some (.preparing uri cause)) :
    moment.after.standing? id = some (.preparing uri cause) := by
  cases moment.shift numbered id with
  | stays same => exact same.trans waits
  | begins undrawn other cause begun =>
    rw [numbered.standing undrawn] at waits
    cases waits
  | turns turn has same =>
    subst same
    have prepares := standing_of_turn numbered has waits
    obtain ⟨rfl, -⟩ := Standing.preparing.inj prepares
    exact absurd rfl (unturned turn has)
  | ends host ending check now was gone =>
    rw [standing?_eq_checking.mpr was] at waits
    cases waits
  | leaves host now gone =>
    obtain ⟨stage, found, stands⟩ := Option.bind_eq_some_iff.mp waits
    rw [(pursues host id stage now found).standing] at stands
    cases stands

theorem validity_after {good : Turn → Prop} {past : List Moment} (numbered : moment.session.Numbered)
    (tidy : moment.session.books.Tidy) (pursues : moment.Pursues)
    (turns : ∀ turn, moment.turn? = some turn → turn.uri = uri → good turn)
    (before : moment.session.isOpen uri = true → Validity good past moment.session uri)
    (isOpen : moment.after.isOpen uri = true) :
    Validity good (past ++ [moment]) moment.after uri := by
  by_cases turned : ∃ turn, moment.turn? = some turn ∧ turn.uri = uri
  · obtain ⟨turn, has, same⟩ := turned
    refine .latest turn ⟨past, moment, [], rfl, has, same, isOpen, ?_⟩ (turns turn has same)
    simp
  have unturned : ∀ turn, moment.turn? = some turn → turn.uri ≠ uri :=
    fun turn has same => turned ⟨turn, has, same⟩
  -- Without a turn, the document was open before and stays as it was, unless it has just been opened.
  rcases open_after tidy unturned isOpen with ⟨known, unclosed⟩ | ⟨id, cause, waits⟩
  · cases before known with
    | latest turn latest good => exact .latest turn (latest.append unclosed unturned) good
    | preparing id cause waits =>
      exact .preparing id cause (preparing_after numbered pursues unturned waits)
  · exact .preparing id cause waits

end Moment

end LanguageServer.Session
