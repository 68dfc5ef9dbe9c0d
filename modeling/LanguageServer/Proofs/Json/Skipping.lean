import LanguageServer.Proofs.Json.Soundness

/-! A value that is skipped is one of the grammar. The skipping has no stack but a list of what
encloses the place it is at. What is still to come at a place has to end each of these from the inside
out; one step of the skipping takes something from the front of it. -/

namespace LanguageServer.Json

open Reader

/-! ### Loops -/

/-- What the last turn of a loop establishes, and each turn carries back, holds of the whole loop.
Every turn takes some of the text, so that the loop does not stop for want of turns. -/
theorem iterateFor_induction {step : σ → Reader (Option σ)}
    {motive : σ → List Char → σ → List Char → Prop}
    (stop : ∀ state text rest, step state text = .ok (none, rest) → motive state text state rest)
    (next : ∀ state text later between result rest, step state text = .ok (some later, between) →
      motive later between result rest → motive state text result rest)
    (shrinks : ∀ state text later between, step state text = .ok (some later, between) →
      between.length < text.length)
    {count : Nat} {state result : σ} {text rest : List Char} (enough : text.length < count)
    (read : iterateFor step count state text = .ok (result, rest)) :
    motive state text result rest := by
  induction count generalizing state text with
  | zero => exact absurd enough (Nat.not_lt_zero _)
  | succ count ih =>
    rw [iterateFor] at read
    dsimp only at read
    split at read
    · cases read
    · rename_i stopped
      cases read
      exact stop _ _ _ stopped
    · rename_i later between went
      have shorter := shrinks _ _ _ _ went
      exact next _ _ _ _ _ _ went (ih (by omega) read)

theorem iterate_induction {step : σ → Reader (Option σ)}
    {motive : σ → List Char → σ → List Char → Prop}
    (stop : ∀ state text rest, step state text = .ok (none, rest) → motive state text state rest)
    (next : ∀ state text later between result rest, step state text = .ok (some later, between) →
      motive later between result rest → motive state text result rest)
    (shrinks : ∀ state text later between, step state text = .ok (some later, between) →
      between.length < text.length)
    {state result : σ} {text rest : List Char}
    (read : iterate step state text = .ok (result, rest)) : motive state text result rest :=
  iterateFor_induction stop next shrinks (Nat.lt_succ_self _) read

/-! ### What is still to come -/

/-- A text begins with entries of a list or object. -/
def Enclosing.Entries : Enclosing → Bool → List Char → List Char → Prop
  | .list, first, text, rest => ∃ items, WrittenItems first items text rest
  | .object, first, text, rest => ∃ members, WrittenMembers first members text rest

/-- A text ends all that encloses a place, after a value there. -/
inductive Closes : List Enclosing → List Char → List Char → Prop
  | done {rest : List Char} : Closes [] rest rest
  | within {inner : Enclosing} {around : List Enclosing} {text after more rest : List Char}
      (entries : inner.Entries false text after) (gap : Spaced after (inner.closing :: more))
      (further : Closes around more rest) : Closes (inner :: around) text rest

/-- A text ends a list or object from one of its entries on, and all that encloses it. -/
def Enclosing.Ends (inner : Enclosing) (around : List Enclosing) (first : Bool)
    (text rest : List Char) : Prop :=
  ∃ after more, inner.Entries first text after ∧ Spaced after (inner.closing :: more) ∧
    Closes around more rest

/-- What is to come where the skipping stands. -/
def Skip.Completes : Skip → List Char → List Char → Prop
  | .value around, text, rest =>
    ∃ start tree after, Spaced text start ∧ Written tree start after ∧ Closes around after rest
  | .opened inner around, text, rest => inner.Ends around true text rest
  | .ended around, text, rest => Closes around text rest

/-- A step of the skipping takes some of the text, and what completes the place it leads to completes
the place it comes from. -/
structure Skip.Leads (state : Skip) (text : List Char) (later : Skip) (between : List Char) : Prop where
  shorter : between.length < text.length
  completes : ∀ rest, later.Completes between rest → state.Completes text rest

/-! ### Steps -/

theorem colon_eq_ok {text rest : List Char} {value : Unit} (read : colon text = .ok (value, rest)) :
    Spaced text (':' :: rest) := by
  obtain ⟨c, tail, reader, spaced, found, further⟩ := token_some rfl read
  split at found
  · rename_i absurdity
    cases absurdity
  · rename_i same
    obtain rfl := Option.some.inj same
    subst found
    cases further
    exact spaced
  · subst found
    exact absurd further fail_ne_ok

theorem skipKey_eq_ok {text rest : List Char} {value : Unit}
    (read : skipKey text = .ok (value, rest)) :
    ∃ key colon, Spaced text ('"' :: key ++ '"' :: colon) ∧ IsCharacters key ∧
      Spaced colon (':' :: rest) := by
  obtain ⟨c, tail, reader, spaced, found, further⟩ := token_some rfl read
  split at found
  · rename_i absurdity
    cases absurdity
  · rename_i same
    obtain rfl := Option.some.inj same
    subst found
    obtain ⟨_, more, keyRead, colonRead⟩ := bind_eq_ok (advance_bind '"' tail ▸ further)
    obtain ⟨key, rfl, chars⟩ := skipString_eq_ok keyRead
    exact ⟨key, more, spaced, chars, colon_eq_ok colonRead⟩
  · subst found
    exact absurd further fail_ne_ok

theorem leads_of_written {around : List Enclosing} {text start between : List Char} {tree : Tree}
    (spaced : Spaced text start) (written : Written tree start between) :
    (Skip.value around).Leads text (.ended around) between := by
  have before := spaced.length_le
  have within := written.length_lt
  exact ⟨by omega, fun rest closes => ⟨start, tree, between, spaced, written, closes⟩⟩

theorem skipStart_leads {around : List Enclosing} {text between : List Char} {later : Skip}
    (read : skipStart around text = .ok (later, between)) :
    (Skip.value around).Leads text later between := by
  obtain ⟨c, tail, reader, spaced, found, further⟩ := token_some rfl read
  have before := spaced.length_le
  split at found
  · rename_i absurdity
    cases absurdity
  · rename_i same
    obtain rfl := Option.some.inj same
    subst found
    obtain ⟨rfl, rfl⟩ := word_eq_ok further
    exact leads_of_written spaced .null
  · rename_i same
    obtain rfl := Option.some.inj same
    subst found
    obtain ⟨rfl, rfl⟩ := word_eq_ok further
    exact leads_of_written spaced .yes
  · rename_i same
    obtain rfl := Option.some.inj same
    subst found
    obtain ⟨rfl, rfl⟩ := word_eq_ok further
    exact leads_of_written spaced .no
  · rename_i same
    obtain rfl := Option.some.inj same
    subst found
    obtain ⟨_, more, stringRead, finished⟩ := bind_eq_ok (advance_bind '"' tail ▸ further)
    obtain ⟨word, rfl, chars⟩ := skipString_eq_ok stringRead
    obtain ⟨rfl, rfl⟩ := pure_eq_ok finished
    exact leads_of_written spaced (.string chars)
  · rename_i same
    obtain rfl := Option.some.inj same
    subst found
    obtain ⟨rfl, rfl⟩ := pure_eq_ok (advance_bind '[' tail ▸ further)
    refine ⟨before, ?_⟩
    rintro rest ⟨after, more, ⟨items, listed⟩, gap, closes⟩
    exact ⟨'[' :: tail, .array items, more, spaced, .array listed gap, closes⟩
  · rename_i same
    obtain rfl := Option.some.inj same
    subst found
    obtain ⟨rfl, rfl⟩ := pure_eq_ok (advance_bind '{' tail ▸ further)
    refine ⟨before, ?_⟩
    rintro rest ⟨after, more, ⟨members, listed⟩, gap, closes⟩
    exact ⟨'{' :: tail, .object members, more, spaced, .object listed gap, closes⟩
  · rename_i same
    obtain rfl := Option.some.inj same
    split at found
    · rename_i minus
      subst minus found
      obtain ⟨_, more, numberRead, finished⟩ := bind_eq_ok (advance_bind '-' tail ▸ further)
      obtain ⟨word, rfl, unsigned⟩ := skipNumber_eq_ok numberRead
      obtain ⟨rfl, rfl⟩ := pure_eq_ok finished
      exact leads_of_written spaced (.number (.negative unsigned))
    · split at found
      · subst found
        obtain ⟨_, more, numberRead, finished⟩ := bind_eq_ok further
        obtain ⟨word, split, unsigned⟩ := skipNumber_eq_ok numberRead
        obtain ⟨rfl, rfl⟩ := pure_eq_ok finished
        rw [split] at spaced
        exact leads_of_written spaced (.number (.positive unsigned))
      · subst found
        exact absurd further fail_ne_ok

/-- After what separates it, an entry and all that is to come ends its list or object. -/
theorem skipEntry_ends {inner : Enclosing} {around : List Enclosing} {text between : List Char}
    {later : Skip} (read : skipEntry inner around text = .ok (later, between)) :
    between.length < text.length ∧ ∀ rest, later.Completes between rest →
      ∀ first before, Separated first before text → inner.Ends around first before rest := by
  cases inner with
  | list =>
    have leads := skipStart_leads read
    refine ⟨leads.shorter, ?_⟩
    intro rest completes first before separated
    obtain ⟨start, tree, after, spaced, written, closes⟩ := leads.completes rest completes
    cases closes with
    | within entries gap further =>
      obtain ⟨items, listed⟩ := entries
      exact ⟨_, _, ⟨tree :: items, .cons (separated.trans spaced) written listed⟩, gap, further⟩
  | object =>
    obtain ⟨_, more, keyRead, finished⟩ := bind_eq_ok read
    obtain ⟨rfl, rfl⟩ := pure_eq_ok finished
    obtain ⟨key, afterKey, spacedKey, chars, spacedColon⟩ := skipKey_eq_ok keyRead
    refine ⟨?_, ?_⟩
    · have toKey := spacedKey.length_le
      have toColon := spacedColon.length_le
      simp only [List.length_cons, List.length_append] at toKey toColon
      omega
    · rintro rest ⟨start, tree, after, spaced, written, closes⟩ first before separated
      cases closes with
      | within entries gap further =>
        obtain ⟨members, listed⟩ := entries
        exact ⟨_, _, ⟨(key, tree) :: members, .cons (separated.trans spacedKey) chars
          ⟨_, spacedColon, spaced⟩ written listed⟩, gap, further⟩

theorem Enclosing.entries_nil (inner : Enclosing) (first : Bool) (text : List Char) :
    inner.Entries first text text := by
  cases inner with
  | list => exact ⟨[], .nil⟩
  | object => exact ⟨[], .nil⟩

/-- A step leads on, unless the value that is skipped has ended. -/
theorem Skip.step_eq_ok {state : Skip} {text between : List Char} {result : Option Skip}
    (read : state.step text = .ok (result, between)) :
    (∃ later, some later = result ∧ state.Leads text later between) ∨
      none = result ∧ state.Completes text between := by
  cases state with
  | value around =>
    obtain ⟨later, started, same⟩ := map_eq_ok read
    exact .inl ⟨later, same, skipStart_leads started⟩
  | opened inner around =>
    obtain ⟨c, tail, reader, spaced, found, further⟩ := token_some rfl read
    have before := spaced.length_le
    left
    dsimp only at found
    split at found
    · rename_i closing
      subst found closing
      obtain ⟨same, rfl⟩ := pure_eq_ok (advance_bind inner.closing tail ▸ further)
      refine ⟨.ended around, same, before, ?_⟩
      intro rest closes
      exact ⟨text, tail, inner.entries_nil true text, spaced, closes⟩
    · subst found
      obtain ⟨later, entered, same⟩ := map_eq_ok further
      obtain ⟨shorter, ends⟩ := skipEntry_ends entered
      refine ⟨later, same, by omega, ?_⟩
      intro rest completes
      exact ends rest completes true text spaced
  | ended around =>
    cases around with
    | nil =>
      obtain ⟨same, rfl⟩ := pure_eq_ok read
      exact .inr ⟨same, .done⟩
    | cons inner around =>
      obtain ⟨c, tail, reader, spaced, found, further⟩ := token_some rfl read
      have before := spaced.length_le
      rw [List.length_cons] at before
      left
      dsimp only at found
      split at found
      · rename_i comma
        subst found comma
        obtain ⟨later, entered, same⟩ := map_eq_ok (advance_bind ',' tail ▸ further)
        obtain ⟨shorter, ends⟩ := skipEntry_ends entered
        refine ⟨later, same, by omega, ?_⟩
        intro rest completes
        obtain ⟨after, more, entries, gap, closes⟩ :=
          ends rest completes false text ⟨tail, spaced, .refl tail⟩
        exact .within entries gap closes
      · split at found
        · rename_i closing
          subst found closing
          obtain ⟨same, rfl⟩ := pure_eq_ok (advance_bind inner.closing tail ▸ further)
          refine ⟨.ended around, same, before, ?_⟩
          intro rest closes
          exact .within (inner.entries_nil false text) spaced closes
        · subst found
          exact absurd further fail_ne_ok

/-- What is skipped is a value, with space before it. -/
theorem skip_eq_ok {text rest : List Char} {value : Unit}
    (read : Reader.skip text = .ok (value, rest)) :
    ∃ start tree, Spaced text start ∧ Written tree start rest := by
  obtain ⟨result, looped, -⟩ := map_eq_ok read
  have completes : (Skip.value []).Completes text rest := by
    refine iterate_induction (motive := fun state text _ rest => state.Completes text rest)
      ?_ ?_ ?_ looped
    · intro state text rest stopped
      obtain ⟨later, absurdity, -⟩ | ⟨-, completes⟩ := Skip.step_eq_ok stopped
      · cases absurdity
      · exact completes
    · intro state text later between _ rest went completes
      obtain ⟨_, ⟨⟩, leads⟩ | ⟨absurdity, -⟩ := Skip.step_eq_ok went
      · exact leads.completes rest completes
      · cases absurdity
    · intro state text later between went
      obtain ⟨_, ⟨⟩, leads⟩ | ⟨absurdity, -⟩ := Skip.step_eq_ok went
      · exact leads.shorter
      · cases absurdity
  obtain ⟨start, tree, after, spaced, written, closes⟩ := completes
  cases closes
  exact ⟨start, tree, spaced, written⟩

end LanguageServer.Json
