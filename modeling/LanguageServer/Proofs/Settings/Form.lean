import LanguageServer.Settings
import LanguageServer.Proofs.Json.Natural

/-! The forms in which settings are sent. Settings are read from a value exactly if it has one of the
forms, and then they are what the form says; all other values are refused as a whole. -/

namespace LanguageServer

/-! ### Members of objects -/

namespace Json

/-- The value that an object has under a key: that of the first member with the key. -/
def Holds (members : List (String × Json)) (key : String) (value : Json) : Prop :=
  ∃ front back, members = front ++ (key, value) :: back ∧ key ∉ front.map (·.1)

theorem member?_eq_some {members : List (String × Json)} {key : String} {value : Json} :
    (Json.object members).member? key = some value ↔ Holds members key value := by
  rw [member?, Option.map_eq_some_iff]
  constructor
  · rintro ⟨⟨found, _⟩, first, rfl⟩
    obtain ⟨same, front, back, split, before⟩ := List.find?_eq_some_iff_append.mp first
    obtain rfl : found = key := by simpa using same
    refine ⟨front, back, split, ?_⟩
    intro again
    obtain ⟨member, within, same⟩ := List.mem_map.mp again
    simpa [same] using before member within
  · rintro ⟨front, back, split, before⟩
    refine ⟨(key, value), ?_, rfl⟩
    apply List.find?_eq_some_iff_append.mpr
    refine ⟨by simp, front, back, split, ?_⟩
    intro member within
    have other : member.1 ≠ key := fun same => before (same ▸ List.mem_map_of_mem within)
    simpa using other

theorem member?_eq_none {members : List (String × Json)} {key : String} :
    (Json.object members).member? key = none ↔ key ∉ members.map (·.1) := by
  rw [member?, Option.map_eq_none_iff, List.find?_eq_none, List.mem_map]
  constructor
  · rintro none ⟨member, within, same⟩
    exact none member within (beq_iff_eq.mpr same)
  · intro missing member within same
    exact missing ⟨member, within, beq_iff_eq.mp same⟩

end Json

namespace Settings

open Json

/-! ### Forms -/

/-- A limit as a value: an integer, and no double, that fits in 64 bits. -/
def IsLimit (limit : Nat) (json : Json) : Prop :=
  json = Json.nat limit ∧ limit < Nat.pow 2 64

def IsPath (path : Option String) (json : Json) : Prop :=
  json = match path with
    | some path => .string path
    | none => .null

/-- What an object says under a key: what its value stands for, or the default if it has none. -/
inductive Given (members : List (String × Json)) (key : String) (form : α → Json → Prop)
    (default : α) : α → Prop
  | present {json : Json} {value : α} (holds : Holds members key json) (formed : form value json) :
      Given members key form default value
  | absent (missing : key ∉ members.map (·.1)) : Given members key form default default

/-- The keys for the limit, each with the other one. -/
def limitKeys : List (String × String) :=
  [("maxDiagnostics", "maxNumberOfProblems"), ("maxNumberOfProblems", "maxDiagnostics")]

/-- A value stands for settings: an object that has at most one of the keys for the limit, or a list
of a limit and a path, which may end before either. Other keys of an object say nothing. -/
inductive Describes : Json → Settings → Prop
  | object {members : List (String × Json)} {key other : String} {limit : Nat} {path : Option String}
      (keys : (key, other) ∈ limitKeys) (single : other ∉ members.map (·.1))
      (limited : Given members key IsLimit 100 limit)
      (located : Given members "compilerPath" IsPath none path) :
      Describes (.object members) ⟨limit, path⟩
  | nothing : Describes (.array []) ⟨100, none⟩
  | limit {first : Json} {limit : Nat} (limited : IsLimit limit first) :
      Describes (.array [first]) ⟨limit, none⟩
  | both {first second : Json} {limit : Nat} {path : Option String} (limited : IsLimit limit first)
      (located : IsPath path second) : Describes (.array [first, second]) ⟨limit, path⟩

/-- The part of a notice of a change that has the settings: the section of their own, or all of it if
there is none. -/
inductive IsSection : Json → Json → Prop
  | named {members : List (String × Json)} {part : Json} (holds : Holds members "volta" part) :
      IsSection (.object members) part
  | whole {value : Json}
      (missing : ∀ members, value = .object members → "volta" ∉ members.map (·.1)) :
      IsSection value value

/-! ### Fields -/

theorem count?_eq_some {json : Json} {limit : Nat} :
    count? json = some limit ↔ IsLimit limit json := by
  constructor
  · intro read
    unfold count? at read
    split at read
    · rename_i value
      split at read
      · rename_i fits
        obtain rfl := Option.some.inj read
        have same : (value.toNat : Int) = value := Int.toNat_of_nonneg fits.1
        refine ⟨by rw [Json.nat, same], ?_⟩
        exact Int.ofNat_lt.mp (same.symm ▸ fits.2)
      · cases read
    · cases read
  · rintro ⟨rfl, small⟩
    have fits : (0 : Int) ≤ limit ∧ (limit : Int) < Int.pow 2 64 :=
      ⟨Int.natCast_nonneg limit, Int.ofNat_lt.mpr small⟩
    rw [Json.nat, count?, if_pos fits, Int.toNat_natCast]

theorem path?_eq_some {json : Json} {path : Option String} :
    path? json = some path ↔ IsPath path json := by
  cases json <;> cases path <;> simp [path?, IsPath]

theorem field?_eq_some {read : Json → Option α} {form : α → Json → Prop}
    (exact : ∀ {json value}, read json = some value ↔ form value json)
    {members : List (String × Json)} {key : String} {default value : α} :
    field? read default ((Json.object members).member? key) = some value ↔
      Given members key form default value := by
  cases found : (Json.object members).member? key with
  | none =>
    have missing := member?_eq_none.mp found
    rw [field?, Option.some.injEq]
    constructor
    · rintro rfl
      exact .absent missing
    · intro given
      cases given with
      | present holds _ =>
        rw [member?_eq_some.mpr holds] at found
        cases found
      | absent _ => rfl
  | some json =>
    rw [field?, exact]
    constructor
    · intro formed
      exact .present (member?_eq_some.mp found) formed
    · intro given
      cases given with
      | present holds formed =>
        rw [member?_eq_some.mpr holds] at found
        exact Option.some.inj found ▸ formed
      | absent missing =>
        rw [member?_eq_none.mpr missing] at found
        cases found

theorem made_eq_some {limit : Option Nat} {path : Option (Option String)} {settings : Settings} :
    (do let limit ← limit; let path ← path; return ⟨limit, path⟩) = some settings ↔
      limit = some settings.maxDiagnostics ∧ path = some settings.compilerPath := by
  cases limit <;> cases path <;> cases settings <;> simp

/-! ### Values -/

/-- Where one key for the limit is not there, the limit is under the other one. -/
theorem ofJson?_of_single {members : List (String × Json)} {key other : String}
    (keys : (key, other) ∈ limitKeys) (single : other ∉ members.map (·.1)) :
    ofJson? (.object members) = do
      let limit ← field? count? 100 ((Json.object members).member? key)
      let path ← field? path? none ((Json.object members).member? "compilerPath")
      return ⟨limit, path⟩ := by
  have missing := member?_eq_none.mpr single
  rw [ofJson?]
  simp only [limitKeys, List.mem_cons, Prod.mk.injEq, List.not_mem_nil, or_false] at keys
  rcases keys with ⟨rfl, rfl⟩ | ⟨rfl, rfl⟩
  · rw [missing]
    cases (Json.object members).member? "maxDiagnostics" <;> rfl
  · rw [missing]
    cases (Json.object members).member? "maxNumberOfProblems" <;> rfl

theorem ofJson?_of_both {members : List (String × Json)} {first second : Json}
    (one : (Json.object members).member? "maxDiagnostics" = some first)
    (two : (Json.object members).member? "maxNumberOfProblems" = some second) :
    ofJson? (.object members) = none := by
  rw [ofJson?, one, two]

theorem ofJson?_object {members : List (String × Json)} {settings : Settings} :
    ofJson? (.object members) = some settings ↔ Describes (.object members) settings := by
  constructor
  · intro read
    have described : ∀ key other, (key, other) ∈ limitKeys →
        (Json.object members).member? other = none → Describes (.object members) settings := by
      intro key other keys missing
      have single := member?_eq_none.mp missing
      rw [ofJson?_of_single keys single, made_eq_some] at read
      exact .object keys single ((field?_eq_some count?_eq_some).mp read.1)
        ((field?_eq_some path?_eq_some).mp read.2)
    cases two : (Json.object members).member? "maxNumberOfProblems" with
    | none => exact described _ _ (.head _) two
    | some second =>
      cases one : (Json.object members).member? "maxDiagnostics" with
      | none => exact described _ _ (.tail _ (.head _)) one
      | some first =>
        rw [ofJson?_of_both one two] at read
        cases read
  · intro describes
    cases describes with
    | object keys single limited located =>
      rw [ofJson?_of_single keys single, made_eq_some]
      exact ⟨(field?_eq_some count?_eq_some).mpr limited, (field?_eq_some path?_eq_some).mpr located⟩

theorem ofJson?_array {items : List Json} {settings : Settings} :
    ofJson? (.array items) = some settings ↔ Describes (.array items) settings := by
  obtain ⟨limit, path⟩ := settings
  match items with
  | [] =>
    refine made_eq_some.trans ⟨?_, ?_⟩
    · rintro ⟨⟨⟩, ⟨⟩⟩
      exact .nothing
    · rintro ⟨⟩
      exact ⟨rfl, rfl⟩
  | [first] =>
    refine made_eq_some.trans ⟨?_, ?_⟩
    · rintro ⟨limited, ⟨⟩⟩
      exact .limit (count?_eq_some.mp limited)
    · rintro ⟨⟩
      rename_i limited
      exact ⟨count?_eq_some.mpr limited, rfl⟩
  | [first, second] =>
    refine made_eq_some.trans ⟨?_, ?_⟩
    · rintro ⟨limited, located⟩
      exact .both (count?_eq_some.mp limited) (path?_eq_some.mp located)
    · rintro ⟨⟩
      rename_i limited located
      exact ⟨count?_eq_some.mpr limited, path?_eq_some.mpr located⟩
  | first :: second :: third :: more =>
    have long : ¬ (first :: second :: third :: more).length ≤ 2 := by simp
    rw [ofJson?, if_neg long]
    exact ⟨by simp, by rintro ⟨⟩⟩

theorem ofJson?_eq_some {value : Json} {settings : Settings} :
    ofJson? value = some settings ↔ Describes value settings := by
  cases value with
  | object members => exact ofJson?_object
  | array items => exact ofJson?_array
  | null => exact ⟨by simp [ofJson?], by rintro ⟨⟩⟩
  | bool value => exact ⟨by simp [ofJson?], by rintro ⟨⟩⟩
  | number value => exact ⟨by simp [ofJson?], by rintro ⟨⟩⟩
  | string value => exact ⟨by simp [ofJson?], by rintro ⟨⟩⟩

/-! ### Changes -/

theorem isSection_iff {value part : Json} :
    IsSection value part ↔ part = (value.member? "volta").getD value := by
  constructor
  · intro isSection
    cases isSection with
    | named holds => rw [member?_eq_some.mpr holds, Option.getD_some]
    | whole missing =>
      have absent : value.member? "volta" = none := by
        cases value with
        | object members => exact member?_eq_none.mpr (missing members rfl)
        | _ => rfl
      rw [absent, Option.getD_none]
  · rintro rfl
    cases found : value.member? "volta" with
    | none =>
      refine .whole ?_
      rintro members rfl
      exact member?_eq_none.mp found
    | some part =>
      cases value with
      | object members => exact .named (member?_eq_some.mp found)
      | _ => cases found

theorem ofChange?_of_isSection {value part : Json} (isSection : IsSection value part) :
    ofChange? value = ofJson? part := by
  obtain rfl := isSection_iff.mp isSection
  unfold ofChange?
  cases value.member? "volta" <;> rfl

/-! ### Settings as an object -/

theorem Given.limit_lt {members : List (String × Json)} {key : String} {limit : Nat}
    (limited : Given members key IsLimit 100 limit) : limit < Nat.pow 2 64 := by
  cases limited with
  | present holds isLimit => exact isLimit.2
  | absent missing => decide

/-- No limit that is read is larger than 64 bits allow. -/
theorem Describes.limit_lt {value : Json} {settings : Settings} (describes : Describes value settings) :
    settings.maxDiagnostics < Nat.pow 2 64 := by
  cases describes with
  | object keys single limited located => exact limited.limit_lt
  | nothing => decide
  | limit limited => exact limited.2
  | both limited located => exact limited.2

theorem describes_toJson {settings : Settings} (small : settings.maxDiagnostics < Nat.pow 2 64) :
    Describes settings.toJson settings := by
  have isPath : IsPath settings.compilerPath
      ((settings.compilerPath.map Json.string).getD .null) := by
    unfold IsPath
    cases settings.compilerPath <;> rfl
  refine .object (.head _) (by simp) ?_ ?_
  · exact .present ⟨[], _, rfl, by simp⟩ ⟨rfl, small⟩
  · exact .present ⟨[_], [], rfl, by simp⟩ isPath

theorem ofJson?_toJson (settings : Settings) :
    ofJson? settings.toJson = some settings ↔ settings.maxDiagnostics < Nat.pow 2 64 :=
  ofJson?_eq_some.trans ⟨Describes.limit_lt, describes_toJson⟩

/-- Settings are read exactly from the values that stand for them. A change has one part with the
settings, and they are read from it. Settings whose limit fits in 64 bits are read back from what they
are as an object, also where it is the section of a change. And a text is a limit exactly if it is
written in digits alone: it has no sign, no point and no exponent. -/
theorem settings_read_exactly (value : Json) (settings : Settings) :
    (ofJson? value = some settings ↔ Describes value settings) ∧
      (∃ part, (∀ other, IsSection value other ↔ other = part) ∧ ofChange? value = ofJson? part) ∧
      (ofJson? settings.toJson = some settings ↔ settings.maxDiagnostics < Nat.pow 2 64) ∧
      (ofChange? (.object [("volta", settings.toJson)]) = some settings ↔
        settings.maxDiagnostics < Nat.pow 2 64) ∧
      ∀ text limit, (∃ json, Json.ofText text = .ok json ∧ IsLimit limit json) ↔
        ∃ tree, IsText tree text.toList ∧ tree.Numbers limit := by
  have wrapped : ofChange? (.object [("volta", settings.toJson)]) = ofJson? settings.toJson :=
    ofChange?_of_isSection (.named ⟨[], [], rfl, by simp⟩)
  refine ⟨ofJson?_eq_some,
    ⟨_, fun _ => isSection_iff, ofChange?_of_isSection (isSection_iff.mpr rfl)⟩,
    ofJson?_toJson settings, wrapped ▸ ofJson?_toJson settings, ?_⟩
  intro text limit
  rw [← ofText_eq_nat]
  constructor
  · rintro ⟨json, read, rfl, -⟩
    exact read
  · intro read
    obtain ⟨tree, -, digits, -, -, -, small⟩ := ofText_eq_nat.mp read
    exact ⟨_, read, rfl, small⟩

/-- Both keys for the limit are too many, even if they agree. -/
example : ofJson? (.object [("maxDiagnostics", Json.nat 5), ("maxNumberOfProblems", Json.nat 5)]) =
    none := by
  decide +kernel

end Settings

end LanguageServer
