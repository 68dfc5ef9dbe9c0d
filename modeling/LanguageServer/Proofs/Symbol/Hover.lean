import Mathlib.Data.List.Basic
import LanguageServer.Symbol.Presentation
import LanguageServer.Proofs.Text.Trim

/-! What the hover text depends on. A symbol can be reduced to what there is to say about it, which
does not change its hover text; and for a symbol that is reduced, each part that it has is one part of
the text. -/

namespace LanguageServer.Symbol

open Text

/-! ### Reduction -/

/-- A symbol with all its documentation texts changed in the same way. -/
def rephrased (change : String → Option String) (symbol : Symbol) : Symbol :=
  { symbol with
    documentation := symbol.documentation.bind change
    parameters := symbol.parameters.map fun parameters => parameters.map fun parameter =>
      { parameter with documentation := parameter.documentation.bind change }
    returns := symbol.returns.bind change }

/-- A symbol without the white space around its documentation texts. -/
def withTrimmedTexts : Symbol → Symbol :=
  rephrased fun text => some (trimmed text)

/-- A text that is not blank. -/
def unlessBlank (text : String) : Option String :=
  if text.toList.all isBlank then none else some text

/-- A symbol without its blank documentation texts. -/
def withoutBlankTexts : Symbol → Symbol :=
  rephrased unlessBlank

/-- A symbol without the parameters that are not documented. -/
def withoutUndocumented (symbol : Symbol) : Symbol :=
  { symbol with
    parameters := symbol.parameters.map fun parameters => parameters.filter (·.documentation.isSome) }

/-- A symbol that lists no parameters if it has none to list. -/
def withoutEmptyList (symbol : Symbol) : Symbol :=
  { symbol with parameters := symbol.parameters.filter (!·.isEmpty) }

/-- What there is to say about a symbol. -/
def essence (symbol : Symbol) : Symbol :=
  symbol.withTrimmedTexts.withoutBlankTexts.withoutUndocumented.withoutEmptyList

/-- A text that is not empty and has no white space around it. -/
def Speaks (text : String) : Prop :=
  text ≠ "" ∧ IsTrimmed text.toList text.toList

/-- A symbol all of whose parts say something. -/
structure Concise (symbol : Symbol) : Prop where
  documentation : ∀ text, symbol.documentation = some text → Speaks text
  listed : ∀ parameters, symbol.parameters = some parameters → parameters ≠ []
  parameters : ∀ parameters, symbol.parameters = some parameters → ∀ parameter ∈ parameters,
    ∃ text, parameter.documentation = some text ∧ Speaks text
  returns : ∀ text, symbol.returns = some text → Speaks text

/-! ### Texts -/

theorem spoken?_eq_ite (text : String) :
    spoken? text = if trimmed text = "" then none else some (trimmed text) := by
  simp [spoken?, String.isEmpty_iff]

theorem trimmed_eq_empty {text : String} :
    trimmed text = "" ↔ ∀ c ∈ text.toList, isBlank c = true := by
  rw [← trim_eq_nil, trimmed, ← String.toList_inj, String.toList_ofList]
  rfl

theorem trimmed_trimmed (text : String) : trimmed (trimmed text) = trimmed text := by
  rw [trimmed, trimmed, String.toList_ofList, trim_trim]

theorem spoken?_trimmed (text : String) : (some (trimmed text)).bind spoken? = spoken? text := by
  rw [Option.bind_some, spoken?_eq_ite, spoken?_eq_ite, trimmed_trimmed]

theorem spoken?_unlessBlank (text : String) : (unlessBlank text).bind spoken? = spoken? text := by
  unfold unlessBlank
  split
  · rename_i blank
    rw [spoken?_eq_ite, if_pos (trimmed_eq_empty.mpr (List.all_eq_true.mp blank)), Option.bind_none]
  · rw [Option.bind_some]

theorem Speaks.spoken? {text : String} (speaks : Speaks text) : spoken? text = some text := by
  obtain ⟨nonempty, isTrimmed⟩ := speaks
  have same : trimmed text = text := by
    rw [trimmed, ← isTrimmed.eq_trim, String.ofList_toList]
  rw [spoken?_eq_ite, same, if_neg nonempty]

theorem speaks_of_unlessBlank {text words : String} (kept : unlessBlank (trimmed text) = some words) :
    Speaks words := by
  unfold unlessBlank at kept
  split at kept
  · cases kept
  · rename_i notBlank
    obtain rfl := Option.some.inj kept
    refine ⟨?_, ?_⟩
    · intro empty
      rw [empty] at notBlank
      exact notBlank rfl
    · rw [trimmed, String.toList_ofList]
      exact (isTrimmed_trim text.toList).again

/-! ### The hover text of the essence -/

/-- The hover text depends on the symbol only through what each of its parts makes of it. -/
theorem hover_congr {symbol other : Symbol} (headline : other.headline = symbol.headline)
    (signature : other.signature = symbol.signature)
    (documentation : other.documentation.bind spoken? = symbol.documentation.bind spoken?)
    (parameters : other.parameterList.filterMap Parameter.entry? =
      symbol.parameterList.filterMap Parameter.entry?)
    (returns : other.returns.bind spoken? = symbol.returns.bind spoken?) :
    other.hover = symbol.hover := by
  rw [hover, hover, headline, signatureBlock?, signatureBlock?, signature, documentation,
    parameterBlock?, parameterBlock?, parameters, returnsBlock?, returnsBlock?, returns]

theorem hover_rephrased (change : String → Option String)
    (keeps : ∀ text, (change text).bind spoken? = spoken? text) (symbol : Symbol) :
    (symbol.rephrased change).hover = symbol.hover := by
  have each : ∀ text : Option String, (text.bind change).bind spoken? = text.bind spoken? := by
    intro text
    rw [Option.bind_assoc]
    simp only [keeps]
  refine hover_congr rfl rfl (each _) ?_ (each _)
  have listed : (symbol.rephrased change).parameterList = symbol.parameterList.map fun parameter =>
      { parameter with documentation := parameter.documentation.bind change } := by
    simp only [parameterList, rephrased]
    cases symbol.parameters <;> rfl
  rw [listed, List.filterMap_map]
  congr 1
  funext parameter
  simp only [Function.comp, Parameter.entry?, each]

theorem hover_withTrimmedTexts (symbol : Symbol) : symbol.withTrimmedTexts.hover = symbol.hover :=
  hover_rephrased (fun text => some (trimmed text)) spoken?_trimmed symbol

theorem hover_withoutBlankTexts (symbol : Symbol) :
    symbol.withoutBlankTexts.hover = symbol.hover :=
  hover_rephrased unlessBlank spoken?_unlessBlank symbol

theorem hover_withoutUndocumented (symbol : Symbol) :
    symbol.withoutUndocumented.hover = symbol.hover := by
  refine hover_congr rfl rfl rfl ?_ rfl
  have listed : symbol.withoutUndocumented.parameterList =
      symbol.parameterList.filter (·.documentation.isSome) := by
    simp only [parameterList, withoutUndocumented]
    cases symbol.parameters <;> rfl
  rw [listed, List.filterMap_filter]
  congr 1
  funext parameter
  cases documented : parameter.documentation <;> simp [Parameter.entry?, documented]

theorem hover_withoutEmptyList (symbol : Symbol) : symbol.withoutEmptyList.hover = symbol.hover := by
  refine hover_congr rfl rfl rfl ?_ rfl
  have listed : symbol.withoutEmptyList.parameterList = symbol.parameterList := by
    simp only [parameterList, withoutEmptyList]
    match symbol.parameters with
    | none => rfl
    | some [] => rfl
    | some (_ :: _) => rfl
  rw [listed]

theorem hover_essence (symbol : Symbol) : symbol.essence.hover = symbol.hover := by
  rw [essence, hover_withoutEmptyList, hover_withoutUndocumented, hover_withoutBlankTexts,
    hover_withTrimmedTexts]

/-! ### The essence is concise -/

theorem speaks_essence {text : Option String} {words : String}
    (said : (text.bind fun text => some (trimmed text)).bind unlessBlank = some words) :
    Speaks words := by
  cases text with
  | none => cases said
  | some text =>
    rw [Option.bind_some, Option.bind_some] at said
    exact speaks_of_unlessBlank said

theorem concise_essence (symbol : Symbol) : symbol.essence.Concise := by
  refine ⟨fun text said => speaks_essence said, ?_, ?_, fun text said => speaks_essence said⟩
  · intro parameters same empty
    have kept := (Option.filter_eq_some_iff.mp same).2
    rw [empty] at kept
    cases kept
  · intro parameters same parameter member
    obtain ⟨filtered, -⟩ := Option.filter_eq_some_iff.mp same
    obtain ⟨listed, rephrased, rfl⟩ := Option.map_eq_some_iff.mp filtered
    obtain ⟨inside, documented⟩ := List.mem_filter.mp member
    obtain ⟨text, same⟩ := Option.isSome_iff_exists.mp documented
    obtain ⟨former, earlier, rfl⟩ := Option.map_eq_some_iff.mp rephrased
    obtain ⟨changed, within, rfl⟩ := List.mem_map.mp inside
    obtain ⟨first, -, rfl⟩ := Option.map_eq_some_iff.mp earlier
    obtain ⟨original, -, rfl⟩ := List.mem_map.mp within
    exact ⟨text, same, speaks_essence same⟩

/-! ### The hover text of a concise symbol -/

/-- The item about a documented parameter. -/
def Parameter.item (parameter : Parameter) : String :=
  "- `" ++ parameter.name ++ "`: " ++ parameter.documentation.getD ""

/-- A part of the hover text for each part of a symbol that is there. -/
def sections (symbol : Symbol) : List String :=
  ["**" ++ symbol.kind.name ++ "** `" ++ symbol.name ++ "`: `" ++ symbol.type ++ "`"] ++
    (if symbol.signature = "" then [] else ["```volta\n" ++ symbol.signature ++ "\n```"]) ++
    symbol.documentation.toList ++
    (symbol.parameters.map fun parameters =>
      "**Parameters:**\n" ++ "\n".intercalate (parameters.map Parameter.item)).toList ++
    (symbol.returns.map fun text => "**Returns:** " ++ text).toList

theorem filterMap_id_toList (head : String) (first second third fourth : Option String) :
    [some head, first, second, third, fourth].filterMap id =
      [head] ++ first.toList ++ second.toList ++ third.toList ++ fourth.toList := by
  cases first <;> cases second <;> cases third <;> cases fourth <;> rfl

theorem entry?_of_speaks {parameter : Parameter}
    (documented : ∃ text, parameter.documentation = some text ∧ Speaks text) :
    parameter.entry? = some parameter.item := by
  obtain ⟨text, same, speaks⟩ := documented
  rw [Parameter.entry?, same, Option.bind_some, speaks.spoken?, Parameter.item, same]
  rfl

theorem bind_spoken? {text : Option String} (speaks : ∀ words, text = some words → Speaks words) :
    text.bind spoken? = text := by
  cases text with
  | none => rfl
  | some words => rw [Option.bind_some, (speaks words rfl).spoken?]

theorem Concise.parameterBlock?_eq {symbol : Symbol} (concise : symbol.Concise) :
    symbol.parameterBlock? = symbol.parameters.map fun parameters =>
      "**Parameters:**\n" ++ "\n".intercalate (parameters.map Parameter.item) := by
  cases same : symbol.parameters with
  | none =>
    rw [parameterBlock?, parameterList, same]
    rfl
  | some parameters =>
    have entries : parameters.filterMap Parameter.entry? = parameters.map Parameter.item := by
      apply List.filterMap_eq_map_iff_forall_eq_some.mpr
      intro parameter member
      exact entry?_of_speaks (concise.parameters _ same parameter member)
    rw [parameterBlock?, parameterList, same, Option.getD_some, entries]
    cases parameters with
    | nil => exact absurd rfl (concise.listed _ same)
    | cons parameter parameters => rfl

theorem Concise.hover_eq {symbol : Symbol} (concise : symbol.Concise) :
    symbol.hover = "\n\n".intercalate symbol.sections := by
  have signature : symbol.signatureBlock?.toList =
      if symbol.signature = "" then [] else ["```volta\n" ++ symbol.signature ++ "\n```"] := by
    simp only [signatureBlock?, String.isEmpty_iff]
    split <;> rfl
  rw [hover, filterMap_id_toList, signature, bind_spoken? concise.documentation,
    concise.parameterBlock?_eq, returnsBlock?, bind_spoken? concise.returns]
  rfl

/-- The hover text depends only on what there is to say about a symbol: it stays the same when texts are
trimmed, when blank texts, parameters without documentation or an empty list of parameters are left out,
and when all of this is done. Then every part says something, and the hover text has one part for each
that is there. -/
theorem hover_of_essence (symbol : Symbol) :
    symbol.withTrimmedTexts.hover = symbol.hover ∧ symbol.withoutBlankTexts.hover = symbol.hover ∧
      symbol.withoutUndocumented.hover = symbol.hover ∧
      symbol.withoutEmptyList.hover = symbol.hover ∧ symbol.essence.hover = symbol.hover ∧
      symbol.essence.Concise ∧
      symbol.essence.hover = "\n\n".intercalate symbol.essence.sections := by
  have concise := concise_essence symbol
  exact ⟨hover_withTrimmedTexts symbol, hover_withoutBlankTexts symbol,
    hover_withoutUndocumented symbol, hover_withoutEmptyList symbol, hover_essence symbol, concise,
    concise.hover_eq⟩

/-- A blank text and a blank item are not there at all. -/
example :
    hover ⟨.function, "f", "int", "", some " \u3000", some [⟨"a", some "\t"⟩], some " r\n", none⟩ =
      "**function** `f`: `int`\n\n**Returns:** r" := by
  decide +kernel

end LanguageServer.Symbol
