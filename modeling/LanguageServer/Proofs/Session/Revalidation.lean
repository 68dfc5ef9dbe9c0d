import LanguageServer.Proofs.Session.Deed

/-! How a change of the configuration waits for the validations that it started. It counts them down,
and as long as none of them is abandoned the count is that of the validations still under way on its
behalf. So when it returns, each document that it found open has had exactly one. -/

namespace LanguageServer.Session

/-- Nothing but questions is abandoned. -/
def Moment.Pursues (moment : Moment) : Prop :=
  ∀ host id stage, moment.impulse = .input host (.abandon id) →
    moment.session.operations.get? id = some stage → stage.Inquires

/-! ### The validations of a change -/

/-- Where a validation stands that is under way on behalf of a change of the configuration. -/
def service? (session : Session) (change id : OperationId) : Option Standing :=
  (session.standing? id).filter (·.cause = .change change)

theorem service?_eq_some {session : Session} {change id : OperationId} {standing : Standing} :
    session.service? change id = some standing ↔
      session.standing? id = some standing ∧ standing.cause = .change change := by
  simp [service?, Option.filter_eq_some_iff]

/-- The validation that has its turn in a moment on behalf of a change of the configuration. -/
def Moment.turnFor? (moment : Moment) (change : OperationId) : Option Turn :=
  moment.turn?.filter (·.cause = .change change)

theorem Moment.turnFor?_eq_some {moment : Moment} {change : OperationId} {turn : Turn} :
    moment.turnFor? change = some turn ↔
      moment.turn? = some turn ∧ turn.cause = .change change := by
  simp [turnFor?, Option.filter_eq_some_iff]

/-- The validations that have their turn in a run on behalf of a change of the configuration. -/
def turnsFor (change : OperationId) (moments : List Moment) : List Turn :=
  moments.filterMap (·.turnFor? change)

/-- A change of the configuration has started its validations, or has come to its end. -/
def Launched (session : Session) (change : OperationId) : Prop :=
  change < session.nextOperation ∧ ∀ stage, session.operations.get? change = some stage →
    ∃ waiting count, stage = .revalidating waiting count

namespace Launched

variable {session : Session} {change id : OperationId}

theorem of_waits (numbered : session.Numbered) {waiting count : Nat}
    (waits : session.operations.get? change = some (.revalidating waiting count)) :
    session.Launched change := by
  refine ⟨numbered.below waits, ?_⟩
  intro stage found
  rw [waits] at found
  exact ⟨waiting, count, (Option.some.inj found).symm⟩

theorem ne_of_standing (launched : session.Launched change) {standing : Standing}
    (stands : session.standing? id = some standing) : change ≠ id := by
  rintro rfl
  obtain ⟨stage, waits, stage_stands⟩ := Option.bind_eq_some_iff.mp stands
  obtain ⟨waiting, count, rfl⟩ := launched.2 stage waits
  cases stage_stands

theorem ne_of_endable {moment : Moment} (launched : moment.session.Launched change) {cause : Cause}
    (endable : moment.Endable id cause) : change ≠ id := by
  rcases endable with ⟨rfl, -⟩ | ⟨standing, stands, -⟩
  · exact Nat.ne_of_lt launched.1
  · exact launched.ne_of_standing stands

theorem ne_of_apart {moment : Moment} (launched : moment.session.Launched change)
    (apart : moment.Apart id) : change ≠ id := by
  rcases apart with rfl | ⟨stage, waits, inquires⟩ | ⟨-, -, general, -, waits⟩
  · exact Nat.ne_of_lt launched.1
  · rintro rfl
    obtain ⟨waiting, count, rfl⟩ := launched.2 stage waits
    cases inquires
  · rintro rfl
    obtain ⟨waiting, count, same⟩ := launched.2 _ waits
    cases same

end Launched

namespace Moment

variable {moment : Moment}

/-- A change of the configuration that has started its validations starts no more. -/
theorem launched_after (numbered : moment.session.Numbered) {change : OperationId}
    (launched : moment.session.Launched change) : moment.after.Launched change := by
  refine ⟨Nat.lt_of_lt_of_le launched.1 (moment.number_le_after numbered), ?_⟩
  intro stage waits
  have unendable : ∀ cause, ¬ moment.Endable change cause :=
    fun cause endable => launched.ne_of_endable endable rfl
  have joined : ¬ moment.Apart change := fun apart => launched.ne_of_apart apart rfl
  rcases moment.stage_untouched numbered launched.1 unendable joined with
    same | released | ⟨gone, -⟩
  · exact launched.2 stage (same ▸ waits)
  · rw [released] at waits
    obtain ⟨before, found, rfl⟩ := Option.map_eq_some_iff.mp waits
    obtain ⟨waiting, count, rfl⟩ := launched.2 before found
    exact ⟨waiting - 1, count, rfl⟩
  · rw [gone] at waits
    cases waits

/-- A validation on behalf of a change was so before, or the change has just started it. -/
theorem service_after (numbered : moment.session.Numbered) {change id : OperationId}
    {standing : Standing} (serves : moment.after.service? change id = some standing) :
    (∃ before, moment.session.service? change id = some before) ∨ moment.after.Launched change := by
  obtain ⟨stands, caused⟩ := service?_eq_some.mp serves
  have put : ∀ {other entered},
      moment.after.operations = moment.session.operations.put other entered →
      (∀ standing, entered.standing? = some standing → standing.cause = .change change →
        ∃ before, moment.session.service? change other = some before) →
      ∃ before, moment.session.service? change id = some before := by
    intro other entered entry known
    rw [standing?_put entry] at stands
    split at stands
    · rename_i same
      exact same ▸ known standing stands caused
    · exact ⟨standing, service?_eq_some.mpr ⟨stands, caused⟩⟩
  have begun : ∀ {other uri cause}, moment.Entitled other uri cause → cause = .change change →
      ∃ before, moment.session.service? change other = some before := by
    rintro other uri cause (⟨-, asked | rest⟩ | waits) same
    · rw [asked] at same
      cases same
    · rw [rest] at same
      cases same
    · exact ⟨_, service?_eq_some.mpr ⟨waits, same⟩⟩
  have kept : ∀ {other : OperationId},
      (if id = other then none else moment.session.standing? id) = some standing →
      ∃ before, moment.session.service? change id = some before := by
    intro other stood
    split at stood
    · cases stood
    · exact ⟨standing, service?_eq_some.mpr ⟨stood, caused⟩⟩
  cases moment.deed numbered with
  | rests same idle =>
    rw [standing?, same, ← standing?] at stands
    exact .inl ⟨standing, service?_eq_some.mpr ⟨stands, caused⟩⟩
  | prepares other uri cause entitled pulled entered fetches =>
    refine .inl (put entered ?_)
    rintro _ ⟨⟩ same
    exact begun entitled same
  | checks turn executable file document has entitled entered stored calls =>
    refine .inl (put entered ?_)
    rintro _ ⟨⟩ same
    exact begun entitled same
  | concludes other cause endable ends idle =>
    exact .inl (kept ((standing?_settle ends id).symm.trans stands))
  | wonders other inquiry apart pulled entered fetches =>
    exact .inl (put entered (by simp [Stage.standing?]))
  | asks other inquiry executable file text apart entered calls =>
    exact .inl (put entered (by simp [Stage.standing?]))
  | pulls general pulled number entered fetches =>
    exact .inl (put entered (by simp [Stage.standing?]))
  | ends other apart gone idle => exact .inl (kept ((standing?_erase gone id).symm.trans stands))
  | returns other count returning gone done =>
    exact .inl (kept ((standing?_erase gone id).symm.trans stands))
  | leaves host other now gone idle =>
    exact .inl (kept ((standing?_erase gone id).symm.trans stands))
  | fansOut other base uris apart drawn number every entered result queues =>
    obtain ⟨stage, waits, stage_stands⟩ := Option.bind_eq_some_iff.mp stands
    rw [result] at waits
    rcases get?_fanOut base other uris waits with before | ⟨above, uri, -, rfl⟩
    · rw [entered, Table.get?_put] at before
      split at before
      · obtain rfl := Option.some.inj before
        cases stage_stands
      · left
        refine ⟨standing, service?_eq_some.mpr ⟨?_, caused⟩⟩
        rw [standing?, before]
        exact stage_stands
    · obtain rfl := Option.some.inj stage_stands
      obtain rfl := Cause.change.inj caused
      have returning : moment.after.operations.get? other =
          some (.revalidating uris.length uris.length) := by
        rw [result, fanOut_below base other uris drawn, entered]
        exact Table.get?_put_self ..
      exact .inr (.of_waits (moment.numbered_after numbered) returning)

end Moment

/-- Validations on behalf of a change are under way only once it has started them. -/
def Attributed (session : Session) : Prop :=
  ∀ change id standing, session.service? change id = some standing → session.Launched change

theorem Attributed.after (moment : Moment) (numbered : moment.session.Numbered)
    (attributed : moment.session.Attributed) : moment.after.Attributed := by
  intro change id standing serves
  rcases Moment.service_after numbered serves with ⟨before, served⟩ | launched
  · exact Moment.launched_after numbered (attributed change id before served)
  · exact launched

theorem attributed_run (general : Settings) (impulses : List Impulse) :
    ((fresh general).after impulses).Attributed := by
  refine (after_induction (motive := fun session => session.Numbered ∧ session.Attributed)
    ?_ (fresh general) ⟨numbered_fresh general, ?_⟩ impulses).2
  · rintro session impulse ⟨numbered, attributed⟩
    exact ⟨Moment.numbered_after ⟨session, impulse⟩ numbered,
      Attributed.after ⟨session, impulse⟩ numbered attributed⟩
  · intro change id standing serves
    cases serves

/-! ### What a moment does to the validations of a change -/

section Moved

variable {session result : Session} {id change : OperationId} {standing : Option Standing}

theorem service?_moved
    (moved : ∀ other, result.standing? other = if other = id then standing else session.standing? other)
    (other : OperationId) :
    result.service? change other =
      if other = id then standing.filter (·.cause = .change change)
      else session.service? change other := by
  rw [service?, moved]
  split <;> rfl

theorem service?_unmoved
    (moved : ∀ other, result.standing? other = if other = id then standing else session.standing? other)
    (same : standing.filter (·.cause = .change change) = session.service? change id)
    (other : OperationId) : result.service? change other = session.service? change other := by
  rw [service?_moved moved]
  split
  · rename_i here
    rw [same, here]
  · rfl

end Moved

theorem service?_of_standing {session : Session} {change id : OperationId}
    (none : session.standing? id = none) : session.service? change id = .none := by
  rw [service?, none]
  rfl

namespace Moment

variable {moment : Moment} {change : OperationId}

theorem service?_of_endable (numbered : moment.session.Numbered) {id : OperationId} {cause : Cause}
    (endable : moment.Endable id cause) (other : cause ≠ .change change) :
    moment.session.service? change id = none := by
  rcases endable with ⟨rfl, -⟩ | ⟨standing, stands, same⟩
  · exact service?_of_standing (numbered.standing (Nat.le_refl _))
  · rw [service?, stands, Option.filter_some, if_neg]
    simpa [same] using other

/-- What a moment does to the validations that a change of the configuration waits for. -/
inductive Service (moment : Moment) (change : OperationId) : Prop
  | rests (unturned : moment.turnFor? change = none)
      (same : ∀ id, moment.after.service? change id = moment.session.service? change id)
      (kept : moment.after.operations.get? change = moment.session.operations.get? change)
  /-- One of them has its turn and calls the compiler. -/
  | begins (turn : Turn) (check : Check) (has : moment.turnFor? change = some turn)
      (stood : moment.session.service? change turn.id = some (.preparing turn.uri (.change change)))
      (moved : ∀ id, moment.after.service? change id =
        if id = turn.id then some (.checking check) else moment.session.service? change id)
      (kept : moment.after.operations.get? change = moment.session.operations.get? change)
  /-- One of them has its turn and comes to its end at once. -/
  | skips (turn : Turn) (has : moment.turnFor? change = some turn)
      (stood : moment.session.service? change turn.id = some (.preparing turn.uri (.change change)))
      (moved : ∀ id, moment.after.service? change id =
        if id = turn.id then none else moment.session.service? change id)
      (released : moment.after.operations.get? change =
        (moment.session.operations.get? change).map Stage.released)
  /-- The call of one of them has ended. -/
  | ends (id : OperationId) (check : Check) (unturned : moment.turnFor? change = none)
      (stood : moment.session.service? change id = some (.checking check))
      (moved : ∀ other, moment.after.service? change other =
        if other = id then none else moment.session.service? change other)
      (released : moment.after.operations.get? change =
        (moment.session.operations.get? change).map Stage.released)
  /-- The change returns. -/
  | returns (count : Nat)
      (waits : moment.session.operations.get? change = some (.revalidating 0 count))
      (done : moment.effects = [.done change (.count count)])

theorem service_of_turn {turn : Turn} (launched : moment.session.Launched change)
    (has : moment.turnFor? change = some turn) : moment.Service change := by
  obtain ⟨turned, caused⟩ := turnFor?_eq_some.mp has
  have waits : moment.session.standing? turn.id = some (.preparing turn.uri (.change change)) := by
    rcases turn_entitled turned with ⟨-, asked | rest⟩ | waits
    · rw [asked] at caused
      cases caused
    · rw [rest] at caused
      cases caused
    · rw [waits, caused]
  have stood := service?_eq_some.mpr ⟨waits, rfl⟩
  have different := launched.ne_of_standing waits
  rcases turn_operations turned with ⟨check, entered, same⟩ | ends
  · have serves : (some (Standing.checking check)).filter (·.cause = .change change) =
        some (.checking check) := by
      rw [Option.filter_some, if_pos]
      exact decide_eq_true (same.trans caused)
    refine .begins turn check has stood ?_ ?_
    · intro id
      rw [service?_moved (standing?_put entered), Stage.standing?, serves]
    · rw [entered, Table.get?_put_of_ne _ _ different]
  · refine .skips turn has stood ?_ ?_
    · intro id
      rw [service?_moved (standing?_settle ends)]
      rfl
    · rw [ends, get?_settle, if_pos caused, Table.get?_erase_of_ne _ different]

theorem service_of_concludes (numbered : moment.session.Numbered)
    (launched : moment.session.Launched change) (pursues : moment.Pursues)
    (unturned : moment.turnFor? change = none) {id : OperationId} {cause : Cause}
    (endable : moment.Endable id cause)
    (ends : moment.after.operations = cause.settle (moment.session.operations.erase id)) :
    moment.Service change := by
  have different := launched.ne_of_endable endable
  by_cases mine : cause = .change change
  · subst mine
    obtain ⟨standing, stands, caused⟩ : ∃ standing, moment.session.standing? id = some standing ∧
        standing.cause = .change change := by
      rcases endable with ⟨-, asked | rest⟩ | under
      · cases asked
      · cases rest
      · exact under
    have gone : moment.after.standing? id = none := by
      rw [standing?_settle ends, if_pos rfl]
    -- A validation that has not had its turn cannot end, so its call has ended.
    obtain ⟨check, rfl⟩ : ∃ check, standing = .checking check := by
      cases moment.shift numbered id with
      | stays same =>
        rw [same, stands] at gone
        cases gone
      | begins undrawn uri cause waits =>
        rw [numbered.standing undrawn] at stands
        cases stands
      | turns turn has same =>
        subst same
        obtain rfl := standing_of_turn numbered has stands
        rw [turnFor?_eq_some.mpr ⟨has, caused⟩] at unturned
        cases unturned
      | ends host ending check now was _ =>
        exact ⟨check, Option.some.inj (stands.symm.trans (standing?_eq_checking.mpr was))⟩
      | leaves host now _ =>
        obtain ⟨stage, waits, stage_stands⟩ := Option.bind_eq_some_iff.mp stands
        rw [(pursues host id stage now waits).standing] at stage_stands
        cases stage_stands
    refine .ends id check unturned (service?_eq_some.mpr ⟨stands, caused⟩) ?_ ?_
    · intro other
      rw [service?_moved (standing?_settle ends)]
      rfl
    · rw [ends, get?_settle, if_pos rfl, Table.get?_erase_of_ne _ different]
  · refine .rests unturned (service?_unmoved (standing?_settle ends) ?_) ?_
    · rw [service?_of_endable numbered endable mine]
      rfl
    · rw [ends, get?_settle, if_neg mine, Table.get?_erase_of_ne _ different]

theorem service_of_fansOut (launched : moment.session.Launched change)
    (unturned : moment.turnFor? change = none) (numbered : moment.session.Numbered)
    {id : OperationId} {base : Session} {uris : List Uri} (apart : moment.Apart id)
    (number : moment.session.nextOperation ≤ base.nextOperation) {count : Nat}
    (entered : base.operations = moment.session.operations.put id (.revalidating count count))
    (result : moment.after = (base.fanOut id uris).1) : moment.Service change := by
  have different := launched.ne_of_apart apart
  have base_standing : ∀ other, base.standing? other = moment.session.standing? other := by
    intro other
    rw [standing?_put entered]
    split
    · rename_i same
      rw [same, apart.standing numbered]
      rfl
    · rfl
  refine .rests unturned ?_ ?_
  · intro other
    rcases Nat.lt_or_ge other base.nextOperation with below | above
    · rw [service?, standing?, result, fanOut_below base id uris below, ← standing?, base_standing]
      rfl
    · -- The validations that have just been made ready serve another change.
      rw [service?_of_standing (numbered.standing (Nat.le_trans number above))]
      refine Option.eq_none_iff_forall_ne_some.mpr fun standing serves => ?_
      obtain ⟨stands, caused⟩ := service?_eq_some.mp serves
      obtain ⟨stage, waits, stage_stands⟩ := Option.bind_eq_some_iff.mp stands
      rw [result] at waits
      rcases get?_fanOut base id uris waits with before | ⟨-, uri, -, rfl⟩
      · have stood := base_standing other
        rw [numbered.standing (Nat.le_trans number above), standing?, before] at stood
        cases stage_stands.symm.trans stood
      · obtain rfl := Option.some.inj stage_stands
        exact different (Cause.change.inj caused).symm
  · rw [result, fanOut_below base id uris (Nat.lt_of_lt_of_le launched.1 number), entered,
      Table.get?_put_of_ne _ _ different]

theorem service (numbered : moment.session.Numbered) (pursues : moment.Pursues)
    (launched : moment.session.Launched change) : moment.Service change := by
  cases turned : moment.turnFor? change with
  | some turn => exact service_of_turn launched turned
  | none =>
    -- Any other operation leaves the validations of the change alone.
    have erased : ∀ {id}, change ≠ id → moment.session.standing? id = none →
        moment.after.operations = moment.session.operations.erase id → moment.Service change := by
      intro id different free gone
      refine .rests turned (service?_unmoved (standing?_erase gone) ?_) ?_
      · exact (service?_of_standing free).symm
      · rw [gone, Table.get?_erase_of_ne _ different]
    have put : ∀ {id stage}, change ≠ id → moment.session.standing? id = none →
        moment.after.operations = moment.session.operations.put id stage → stage.standing? = none →
        moment.Service change := by
      intro id stage different free entered none
      refine .rests turned (service?_unmoved (standing?_put entered) ?_) ?_
      · rw [none, service?_of_standing free]
        rfl
      · rw [entered, Table.get?_put_of_ne _ _ different]
    cases moment.deed numbered with
    | rests same idle =>
      refine .rests turned ?_ (by rw [same])
      intro id
      rw [service?, standing?, same]
      rfl
    | prepares id uri cause entitled pulled entered fetches =>
      refine .rests turned (service?_unmoved (standing?_put entered) ?_) ?_
      · rcases entitled with ⟨rfl, cause⟩ | waits
        · rw [service?_of_standing (numbered.standing (Nat.le_refl _))]
          rcases cause with rfl | rfl <;> simp [Stage.standing?, Standing.cause]
        · rw [service?, waits]
          rfl
      · rw [entered, Table.get?_put_of_ne _ _ (launched.ne_of_endable entitled.endable)]
    | checks turn executable file document has entitled entered stored calls =>
      have mine : turn.cause ≠ .change change := by
        intro caused
        rw [turnFor?_eq_some.mpr ⟨has, caused⟩] at turned
        cases turned
      refine .rests turned (service?_unmoved (standing?_put entered) ?_) ?_
      · rw [service?_of_endable numbered entitled.endable mine]
        simp [Stage.standing?, Standing.cause, Turn.check, mine]
      · rw [entered, Table.get?_put_of_ne _ _ (launched.ne_of_endable entitled.endable)]
    | concludes id cause endable ends idle =>
      exact service_of_concludes numbered launched pursues turned endable ends
    | wonders id inquiry apart pulled entered fetches =>
      exact put (launched.ne_of_apart apart) (apart.standing numbered) entered rfl
    | asks id inquiry executable file text apart entered calls =>
      exact put (launched.ne_of_apart apart) (apart.standing numbered) entered rfl
    | pulls general pulled number entered fetches =>
      exact put (Nat.ne_of_lt launched.1) (numbered.standing (Nat.le_refl _)) entered rfl
    | ends id apart gone idle =>
      exact erased (launched.ne_of_apart apart) (apart.standing numbered) gone
    | fansOut id base uris apart drawn number every entered result queues =>
      exact service_of_fansOut launched turned numbered apart number entered result
    | returns id count waits gone done =>
      by_cases mine : change = id
      · subst mine
        exact .returns count waits done
      · refine erased mine ?_ gone
        rw [standing?, waits]
        rfl
    | leaves host id now gone idle =>
      cases waits : moment.session.operations.get? id with
      | none =>
        have same : ∀ key, moment.after.operations.get? key = moment.session.operations.get? key := by
          intro key
          rw [gone, Table.get?_erase]
          split
          · rename_i here
            rw [here, waits]
          · rfl
        refine .rests turned ?_ (same change)
        intro key
        rw [service?, standing?, same]
        rfl
      | some stage =>
        have apart : moment.Apart id := 
          .inr (.inl ⟨stage, waits, pursues host id stage now waits⟩)
        exact erased (launched.ne_of_apart apart) (apart.standing numbered) gone

end Moment

/-! ### The account of a change -/

/-- What a change of the configuration has started and not yet finished: validations of documents that
have yet to begin, and calls that have yet to end. All others have had their turn. -/
structure Account (change : OperationId) (uris : List Uri) (past : List Moment) (session : Session)
    (pending : List (Uri × OperationId)) (running : List OperationId) : Prop where
  waits : session.operations.get? change =
    some (.revalidating (pending.length + running.length) uris.length)
  pending_nodup : pending.Nodup
  running_nodup : running.Nodup
  mem_pending : ∀ uri id, (uri, id) ∈ pending ↔
    session.service? change id = some (.preparing uri (.change change))
  mem_running : ∀ id, id ∈ running ↔
    ∃ check, session.service? change id = some (.checking check)
  turned : ((turnsFor change past).map Turn.uri ++ pending.map Prod.fst).Perm uris

namespace Account

variable {change : OperationId} {uris : List Uri} {past : List Moment} {session : Session}
  {moment : Moment} {pending : List (Uri × OperationId)} {running : List OperationId}

theorem turnsFor_append (moment : Moment) : turnsFor change (past ++ [moment]) =
    turnsFor change past ++ (moment.turnFor? change).toList := by
  rw [turnsFor, List.filterMap_append]
  cases turned : moment.turnFor? change <;> simp [turnsFor, turned]

theorem turned_begins (account : Account change uris past moment.session pending running) {turn : Turn}
    (has : moment.turnFor? change = some turn)
    (stood : moment.session.service? change turn.id = some (.preparing turn.uri (.change change))) :
    ((turnsFor change (past ++ [moment])).map Turn.uri ++
      (pending.erase (turn.uri, turn.id)).map Prod.fst).Perm uris := by
  have member := (account.mem_pending turn.uri turn.id).mpr stood
  have split : (pending.map Prod.fst).Perm
      (turn.uri :: (pending.erase (turn.uri, turn.id)).map Prod.fst) :=
    (List.perm_cons_erase member).map Prod.fst
  rw [turnsFor_append, has]
  simp only [Option.toList_some, List.map_append, List.map_cons, List.map_nil, List.append_assoc,
    List.cons_append, List.nil_append]
  exact (List.Perm.append_left _ split.symm).trans account.turned

theorem mem_pending_erase (account : Account change uris past moment.session pending running)
    {turn : Turn} {standing : Option Standing}
    (stood : moment.session.service? change turn.id = some (.preparing turn.uri (.change change)))
    (moved : ∀ id, moment.after.service? change id =
      if id = turn.id then standing else moment.session.service? change id)
    (other : ∀ uri, standing ≠ some (.preparing uri (.change change))) (uri : Uri) (id : OperationId) :
    (uri, id) ∈ pending.erase (turn.uri, turn.id) ↔
      moment.after.service? change id = some (.preparing uri (.change change)) := by
  rw [account.pending_nodup.mem_erase_iff, account.mem_pending, moved]
  by_cases same : id = turn.id
  · subst same
    rw [if_pos rfl, stood]
    simp only [ne_eq, Prod.mk.injEq, Option.some.injEq, Standing.preparing.injEq, and_true, other uri,
      iff_false, not_and]
    exact fun different equal => different equal.symm
  · simp [same]

/-- What a moment makes of the account, unless the change returns. -/
theorem after (account : Account change uris past moment.session pending running)
    (numbered : moment.session.Numbered) (pursues : moment.Pursues) :
    (∃ pending running, Account change uris (past ++ [moment]) moment.after pending running) ∨
      moment.effects = [.done change (.count uris.length)] ∧ pending = [] ∧ running = [] := by
  -- A validation moves from the pending to the running ones, or leaves the lists. The count goes down
  -- in the second case only.
  have launched := Launched.of_waits numbered account.waits
  have unturned : moment.turnFor? change = none →
      turnsFor change (past ++ [moment]) = turnsFor change past := by
    intro none
    rw [turnsFor_append, none]
    exact List.append_nil _
  cases moment.service numbered pursues launched with
  | rests idle same kept =>
    left
    refine ⟨pending, running, kept.trans account.waits, account.pending_nodup,
      account.running_nodup, ?_, ?_, ?_⟩
    · intro uri id
      rw [same]
      exact account.mem_pending uri id
    · intro id
      rw [same]
      exact account.mem_running id
    · rw [unturned idle]
      exact account.turned
  | begins turn check has stood moved kept =>
    have member := (account.mem_pending turn.uri turn.id).mpr stood
    have fresh : turn.id ∉ running := by
      intro runs
      obtain ⟨check, checks⟩ := (account.mem_running turn.id).mp runs
      rw [stood] at checks
      cases checks
    left
    refine ⟨pending.erase (turn.uri, turn.id), turn.id :: running, ?_,
      account.pending_nodup.erase _, List.nodup_cons.mpr ⟨fresh, account.running_nodup⟩,
      account.mem_pending_erase stood moved (by simp), ?_, account.turned_begins has stood⟩
    · have positive := List.length_pos_of_mem member
      rw [kept, account.waits, List.length_erase_of_mem member, List.length_cons]
      congr 2
      omega
    · intro id
      rw [List.mem_cons, account.mem_running, moved]
      by_cases same : id = turn.id <;> simp [same]
  | skips turn has stood moved released =>
    have member := (account.mem_pending turn.uri turn.id).mpr stood
    left
    refine ⟨pending.erase (turn.uri, turn.id), running, ?_, account.pending_nodup.erase _,
      account.running_nodup, account.mem_pending_erase stood moved (by simp), ?_,
      account.turned_begins has stood⟩
    · have positive := List.length_pos_of_mem member
      rw [released, account.waits, List.length_erase_of_mem member]
      simp only [Option.map_some, Stage.released]
      congr 2
      omega
    · intro id
      rw [account.mem_running, moved]
      by_cases same : id = turn.id
      · simp [same, stood]
      · simp [same]
  | ends id check idle stood moved released =>
    have member : id ∈ running := (account.mem_running id).mpr ⟨check, stood⟩
    left
    refine ⟨pending, running.erase id, ?_, account.pending_nodup, account.running_nodup.erase _,
      ?_, ?_, ?_⟩
    · have positive := List.length_pos_of_mem member
      rw [released, account.waits, List.length_erase_of_mem member]
      simp only [Option.map_some, Stage.released]
      congr 2
      omega
    · intro uri other
      rw [account.mem_pending, moved]
      by_cases same : other = id
      · simp [same, stood]
      · simp [same]
    · intro other
      rw [account.running_nodup.mem_erase_iff, account.mem_running, moved]
      by_cases same : other = id <;> simp [same]
    · rw [unturned idle]
      exact account.turned
  | returns count waits done =>
    right
    rw [account.waits] at waits
    obtain ⟨none, rfl⟩ := Stage.revalidating.inj (Option.some.inj waits)
    obtain ⟨first, second⟩ := Nat.add_eq_zero_iff.mp none
    exact ⟨done, List.length_eq_zero_iff.mp first, List.length_eq_zero_iff.mp second⟩

end Account

/-- The validations of all open documents that a change of the configuration starts. -/
theorem account_of_fansOut {moment : Moment} (attributed : moment.session.Attributed)
    {change : OperationId} {base : Session} {uris : List Uri}
    (apart : moment.Apart change) (drawn : change < base.nextOperation)
    (waits : base.operations =
      moment.session.operations.put change (.revalidating uris.length uris.length))
    (result : moment.after = (base.fanOut change uris).1) :
    Account change uris [] moment.after (uris.zipIdx base.nextOperation) [] := by
  -- The change has started nothing before, so all that serves it has one of the new numbers.
  have before : ∀ id, moment.session.service? change id = none := by
    intro id
    refine Option.eq_none_iff_forall_ne_some.mpr fun standing serves => ?_
    exact (attributed change id standing serves).ne_of_apart apart rfl
  have base_service : ∀ id, base.service? change id = none := by
    intro id
    rw [service?_moved (standing?_put waits), before]
    split <;> rfl
  have above : ∀ place, (base.fanOut change uris).1.service? change (base.nextOperation + place) =
      uris[place]?.map fun uri => .preparing uri (.change change) := by
    intro place
    have free := base_service (base.nextOperation + place)
    rw [service?, standing?] at free
    rw [service?, standing?, fanOut_above]
    cases uris[place]? with
    | none => exact free
    | some uri => simp [Stage.standing?, Standing.cause]
  have below : ∀ id, id < base.nextOperation →
      (base.fanOut change uris).1.service? change id = none := by
    intro id small
    rw [service?, standing?, fanOut_below base change uris small]
    exact base_service id
  refine ⟨?_, ?_, List.nodup_nil, ?_, ?_, ?_⟩
  · rw [result, fanOut_below base change uris drawn, waits, Table.get?_put_self]
    simp
  · have numbers : ((uris.zipIdx base.nextOperation).map Prod.snd).Nodup := by
      rw [List.zipIdx_map_snd]
      exact List.nodup_range'
    refine List.Pairwise.of_map Prod.snd ?_ numbers
    exact fun _ _ different same => different (congrArg Prod.snd same)
  · intro uri id
    rw [List.mk_mem_zipIdx_iff_le_and_getElem?_sub, result]
    rcases Nat.lt_or_ge id base.nextOperation with small | large
    · simp [below id small, Nat.not_le_of_lt small]
    · obtain ⟨place, rfl⟩ := Nat.exists_eq_add_of_le large
      simp [above]
  · intro id
    rw [result]
    rcases Nat.lt_or_ge id base.nextOperation with small | large
    · simp [below id small]
    · obtain ⟨place, rfl⟩ := Nat.exists_eq_add_of_le large
      simp [above]
  · simp [turnsFor, List.zipIdx_map_fst]

section Gate

variable {moment : Moment} {change : OperationId} (base : Session) (host : Host) (settings : Settings)

/-- A change of the configuration that leads to another compiler starts its validations. -/
theorem account_of_reconfigured (attributed : moment.session.Attributed)
    (operations : base.operations = moment.session.operations)
    (documents : base.documents = moment.session.documents)
    (apart : moment.Apart change) (drawn : change < base.nextOperation)
    (differs : base.compiler ≠ host.locate settings) {uri : Uri}
    (isOpen : moment.session.isOpen uri = true)
    (result : moment.after = (base.reconfigured host change settings).1) :
    ∃ pending, Account change moment.session.documents.keys [] moment.after pending [] := by
  have nonempty : base.documents.keys.isEmpty = false := by
    have member := (Table.mem_keys moment.session.documents uri).mpr isOpen
    rw [documents]
    exact List.isEmpty_eq_false_iff.mpr (List.ne_nil_of_mem member)
  simp only [reconfigured, differs, if_false, nonempty, Bool.false_eq_true] at result
  rw [documents] at result
  refine ⟨_, account_of_fansOut attributed apart ?_ ?_ result⟩
  · exact drawn
  · rw [← operations]
    rfl

theorem reconfigured_same (change : OperationId) (same : base.compiler = host.locate settings) :
    base.reconfigured host change settings = (base.finish change, [.done change (.count 0)]) := by
  rw [reconfigured, if_pos same]

end Gate

/-! ### From the start of the validations to the return -/

/-- A change of the configuration has returned the number of some documents. Each of them has had one
validation before, and none of these was still under way. -/
def Returns (change : OperationId) (uris : List Uri) (moments : List Moment) : Prop :=
  ∃ during returned rest, moments = during ++ returned :: rest ∧
    returned.effects = [.done change (.count uris.length)] ∧
    ((turnsFor change during).map Turn.uri).Perm uris ∧
    ∀ id, returned.session.service? change id = none

/-- How far a change of the configuration has come with the validations of some documents. -/
inductive Revalidation (change : OperationId) (uris : List Uri) (moments : List Moment)
    (session : Session) : Prop
  | returned (returns : Returns change uris moments)
  /-- It waits for one that is under way, or can return. None has had two turns. -/
  | waiting (waiting : Nat) (remaining : List Uri)
      (waits : session.operations.get? change = some (.revalidating waiting uris.length))
      (lively : waiting = 0 ∨ ∃ id standing, session.service? change id = some standing)
      (each : ((turnsFor change moments).map Turn.uri ++ remaining).Perm uris)

namespace Account

variable {change : OperationId} {uris : List Uri} {past : List Moment} {session : Session}
  {pending : List (Uri × OperationId)} {running : List OperationId}

theorem waiting (account : Account change uris past session pending running) :
    Revalidation change uris past session := by
  refine .waiting _ _ account.waits ?_ account.turned
  cases pending with
  | cons head rest =>
    have serves := (account.mem_pending head.1 head.2).mp (List.mem_cons_self ..)
    exact .inr ⟨_, _, serves⟩
  | nil =>
    cases running with
    | nil => exact .inl rfl
    | cons id rest =>
      obtain ⟨check, serves⟩ := (account.mem_running id).mp (List.mem_cons_self ..)
      exact .inr ⟨_, _, serves⟩

theorem none_serves (account : Account change uris past session [] []) (id : OperationId) :
    session.service? change id = none := by
  refine Option.eq_none_iff_forall_ne_some.mpr fun standing serves => ?_
  obtain ⟨-, caused⟩ := service?_eq_some.mp serves
  cases standing with
  | preparing uri cause =>
    obtain rfl : cause = .change change := caused
    exact List.not_mem_nil ((account.mem_pending uri id).mpr serves)
  | checking check => exact List.not_mem_nil ((account.mem_running id).mpr ⟨check, serves⟩)

end Account

theorem Returns.append {change : OperationId} {uris : List Uri} {moments : List Moment}
    (returns : Returns change uris moments) (moment : Moment) :
    Returns change uris (moments ++ [moment]) := by
  obtain ⟨during, returned, rest, rfl, found⟩ := returns
  exact ⟨during, returned, rest ++ [moment], by simp, found⟩

/-- A change of the configuration that has started its validations returns, or waits for them. -/
theorem revalidation_run {change : OperationId} {uris : List Uri} {session : Session}
    (numbered : session.Numbered) {pending : List (Uri × OperationId)} {running : List OperationId}
    (account : Account change uris [] session pending running) (impulses : List Impulse)
    (pursues : ∀ moment ∈ session.moments impulses, moment.Pursues) :
    Revalidation change uris (session.moments impulses) (session.after impulses) := by
  have progress := run_induction (motive := fun past session => (∀ moment ∈ past, moment.Pursues) →
    session.Numbered ∧ (Returns change uris past ∨
      ∃ pending running, Account change uris past session pending running)) ?_ [] session ?_ impulses
  · rcases (progress pursues).2 with returns | ⟨pending, running, account⟩
    · exact .returned returns
    · exact account.waiting
  · intro past session impulse before pursues
    obtain ⟨numbered, progress⟩ := before fun moment member =>
      pursues moment (List.mem_append_left _ member)
    have now := pursues ⟨session, impulse⟩ (List.mem_append_right _ (List.mem_singleton_self _))
    refine ⟨Moment.numbered_after ⟨session, impulse⟩ numbered, ?_⟩
    rcases progress with returns | ⟨pending, running, account⟩
    · exact .inl (returns.append _)
    · rcases Account.after account numbered now with further | ⟨done, rfl, rfl⟩
      · exact .inr further
      · refine .inl ⟨past, _, [], rfl, done, ?_, account.none_serves⟩
        simpa using account.turned
  · exact fun _ => ⟨numbered, .inr ⟨pending, running, account⟩⟩

end LanguageServer.Session
