import LanguageServer.Proofs.Symbol.Acceptance
import LanguageServer.Proofs.Symbol.RoundTrip

/-! Positions in what the compiler answers. Whatever it prints, a symbol that is read from it has
positions of 32 bits. -/

namespace LanguageServer

namespace Json.Record

variable {record : Record σ α} {good : σ → Prop}

/-- An update of the fields of a record that leaves them good if they were. -/
def Maintains (good : σ → Prop) (_ : String) (update : σ → σ) (_ : Tree) : Prop :=
  ∀ state, good state → good (update state)

theorem Gathers.maintained {state result : σ} {members : List (List Char × Tree)}
    (gathers : record.Gathers (Maintains good) state members result) (start : good state) :
    good result := by
  induction gathers with
  | nil => exact start
  | skipped _ _ _ ih => exact ih start
  | filled _ _ _ maintains _ ih => exact ih (maintains _ start)

theorem Aligns.maintained {fields : List (Field σ)} {state result : σ} {items : List Tree}
    (aligns : Aligns (Maintains good) fields state items result) (start : good state) :
    good result := by
  induction aligns with
  | nil => exact start
  | item maintains _ ih => exact ih (maintains _ start)
  | absent _ _ ih => exact ih start

/-- What every field keeps and the empty record has, all records that are read have. -/
theorem sound_maintained (good : σ → Prop) {fine : α → Prop} (start : good record.empty)
    (each : ∀ field ∈ record.fields, Sound field.read (Maintains good field.key))
    (built : ∀ state made, good state → record.build state = .ok made → fine made) :
    Sound record.read fun made _ => fine made := by
  refine (sound_read each).mono ?_
  rintro made tree ⟨state, fills, makes⟩
  refine built state made ?_ makes
  cases fills with
  | object gathers => exact gathers.maintained start
  | array aligns => exact aligns.maintained start

end Json.Record

namespace Symbol

open Json Json.Record

/-- The positions of a location that have been read fit in 32 bits. -/
def LocationFields.Fit (state : LocationFields) : Prop :=
  (∀ line ∈ state.line, line < Nat.pow 2 32) ∧ ∀ column ∈ state.column, column < Nat.pow 2 32

theorem Location.sound_fits : Sound Location.record.read fun location _ => location.Fits := by
  refine sound_maintained LocationFields.Fit ?_ ?_ ?_
  · simp [LocationFields.Fit, Location.record]
  · intro field member
    simp only [Location.record, List.mem_cons, List.not_mem_nil, or_false] at member
    rcases member with rfl | rfl | rfl
    · refine ((sound_optional sound_string).map _).mono ?_
      rintro _ tree ⟨value, rfl, -⟩ state fit
      exact fit
    · refine (sound_word.map _).mono ?_
      rintro _ tree ⟨value, rfl, _, -, -, -, small⟩ state fit
      exact ⟨by simpa using small, fit.2⟩
    · refine (sound_word.map _).mono ?_
      rintro _ tree ⟨value, rfl, _, -, -, -, small⟩ state fit
      exact ⟨fit.1, by simpa using small⟩
  · rintro ⟨file, line, column⟩ location ⟨lineFits, columnFits⟩ made
    cases line with
    | none => cases made
    | some line =>
      cases column with
      | none => cases made
      | some column =>
        cases made
        exact ⟨lineFits line rfl, columnFits column rfl⟩

/-- The location of a symbol that has been read fits in 32 bits. -/
def SymbolFields.Fit (state : SymbolFields) : Prop :=
  ∀ location, state.location.join = some location → location.Fits

theorem sound_fits : Sound record.read fun symbol _ => symbol.Fits := by
  refine sound_maintained SymbolFields.Fit ?_ ?_ ?_
  · simp [SymbolFields.Fit, record]
  · intro field member
    simp only [record, List.mem_cons, List.not_mem_nil, or_false] at member
    -- only the last field touches the location
    have apart : ∀ {β : Type} {reader : Reader β} {means : β → Tree → Prop}
        {change : β → SymbolFields → SymbolFields} (key : String), Sound reader means →
        (∀ value state, (change value state).location = state.location) →
        Sound (do let value ← reader; return change value) (Maintains SymbolFields.Fit key) := by
      intro β reader means change key sound same
      refine (sound.map change).mono ?_
      rintro _ tree ⟨value, rfl, -⟩ state fit location found
      exact fit location (same value state ▸ found)
    rcases member with rfl | rfl | rfl | rfl | rfl | rfl | rfl | rfl
    · exact apart _ Kind.sound_read fun _ _ => rfl
    · exact apart _ sound_string fun _ _ => rfl
    · exact apart _ sound_string fun _ _ => rfl
    · exact apart _ sound_string fun _ _ => rfl
    · exact apart _ (sound_optional sound_string) fun _ _ => rfl
    · exact apart _ (sound_optional (sound_list Parameter.sound_read)) fun _ _ => rfl
    · exact apart _ (sound_optional sound_string) fun _ _ => rfl
    · refine ((sound_optional Location.sound_fits).map _).mono ?_
      rintro _ tree ⟨value, rfl, given⟩ state fit location found
      obtain rfl : value = some location := found
      exact given
  · rintro ⟨kind, name, _, _, _, _, _, location⟩ symbol fit made
    cases kind with
    | none => cases made
    | some kind =>
      cases name with
      | none => cases made
      | some name =>
        cases made
        exact fit

theorem Envelope.sound_fits :
    Sound Envelope.record.read fun envelope _ => ∀ symbol ∈ envelope.result, symbol.Fits := by
  refine sound_maintained
    (fun state : EnvelopeFields => ∀ symbol, state.result.join = some symbol → symbol.Fits) ?_ ?_ ?_
  · simp [Envelope.record]
  · intro field member
    simp only [Envelope.record, List.mem_cons, List.not_mem_nil, or_false] at member
    rcases member with rfl | rfl | rfl
    · refine (sound_boolean.map _).mono ?_
      rintro _ tree ⟨value, rfl, -⟩ state fit
      exact fit
    · refine ((sound_optional Symbol.sound_fits).map _).mono ?_
      rintro _ tree ⟨value, rfl, given⟩ state fit symbol found
      obtain rfl : value = some symbol := found
      exact given
    · refine ((sound_optional Failure.sound_read).map _).mono ?_
      rintro _ tree ⟨value, rfl, -⟩ state fit
      exact fit
  · intro state envelope fit made symbol found
    obtain ⟨-, result, -⟩ := Envelope.build_eq_ok made
    exact fit symbol (result.trans found)

/-- Whatever the compiler prints, the positions of a symbol that is read from it fit in 32 bits. -/
theorem fits_of_ofOutput {output : List Char} {symbol : Symbol}
    (answer : ofOutput output = .ok symbol) : symbol.Fits := by
  unfold ofOutput at answer
  split at answer
  · rename_i envelope read
    obtain ⟨tree, -, fits⟩ := all_eq_ok Envelope.sound_fits read
    refine fits symbol ?_
    unfold Envelope.answer at answer
    split at answer
    · obtain rfl := Except.ok.inj answer
      rfl
    · cases answer
    · cases answer
    · cases answer
  · cases answer

end Symbol

end LanguageServer
