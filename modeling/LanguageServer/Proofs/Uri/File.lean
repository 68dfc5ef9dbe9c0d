import Mathlib.Data.List.Basic
import LanguageServer.Uri.Basic

/-! Names of files. Two paths have the same name only if they are the same, component by component:
the components can be read back, since no component puts a slash into the name and percent codes can
be undone. -/

namespace LanguageServer.Uri

/-! ### Percent codes -/

theorem hexValue?_hexDigit (value : Nat) (small : value < 16) :
    hexValue? (hexDigit value) = some value := by
  have every : ∀ digit : Fin 16, hexValue? (hexDigit digit) = some digit.val := by decide
  exact every ⟨value, small⟩

theorem hexDigit_ne_slash (value : Nat) (small : value < 16) : hexDigit value ≠ '/' := by
  have every : ∀ digit : Fin 16, hexDigit digit ≠ '/' := by decide
  exact every ⟨value, small⟩

def bytes (text : List Char) : List UInt8 :=
  text.flatMap String.utf8EncodeChar

theorem bytes_injective : Function.Injective bytes := by
  intro one other same
  have encoded : one.utf8Encode = other.utf8Encode := congrArg List.toByteArray same
  have decoded := congrArg ByteArray.utf8Decode? encoded
  rw [List.utf8Decode?_utf8Encode, List.utf8Decode?_utf8Encode] at decoded
  exact congrArg Array.toList (Option.some.inj decoded)

theorem percentDecode_byte (byte : UInt8) (rest : List Char) :
    percentDecode (percentByte byte ++ rest) = byte :: percentDecode rest := by
  have size := byte.toNat_lt
  have high := hexValue?_hexDigit (byte.toNat / 16) (by omega)
  have low := hexValue?_hexDigit (byte.toNat % 16) (by omega)
  have whole : 16 * (byte.toNat / 16) + byte.toNat % 16 = byte.toNat := Nat.div_add_mod ..
  simp only [percentByte, List.cons_append, List.nil_append, percentDecode, high, low, whole]
  rw [UInt8.ofNat_toNat]

theorem percentDecode_bytes (coded : List UInt8) (rest : List Char) :
    percentDecode (coded.flatMap percentByte ++ rest) = coded ++ percentDecode rest := by
  induction coded with
  | nil => rfl
  | cons byte coded ih =>
    rw [List.flatMap_cons, List.append_assoc, percentDecode_byte, ih]
    rfl

theorem percentDecode_plain {c : Char} (plain : c ≠ '%') (rest : List Char) :
    percentDecode (c :: rest) = String.utf8EncodeChar c ++ percentDecode rest := by
  rw [percentDecode]
  exact fun _ _ _ percent => absurd percent plain

theorem percentDecode_encode (text : List Char) :
    percentDecode (percentEncode componentSet text) = bytes text := by
  induction text with
  | nil => rfl
  | cons c rest ih =>
    have first : percentEncode componentSet (c :: rest) =
        percentEncode componentSet [c] ++ percentEncode componentSet rest := by
      simp [percentEncode]
    have coded : bytes (c :: rest) = String.utf8EncodeChar c ++ bytes rest := List.flatMap_cons
    rw [first, coded, ← ih]
    simp only [percentEncode, List.flatMap_cons, List.flatMap_nil, List.append_nil]
    split
    · exact percentDecode_bytes ..
    · rename_i kept
      refine percentDecode_plain ?_ _
      rintro rfl
      exact kept (by decide)

theorem percentEncode_injective : Function.Injective (percentEncode componentSet) := by
  intro one other same
  apply bytes_injective
  rw [← percentDecode_encode, ← percentDecode_encode, same]

/-- No component puts a slash into the name. -/
theorem slash_notMem_encode (text : List Char) : '/' ∉ percentEncode componentSet text := by
  intro member
  obtain ⟨c, -, inside⟩ := List.mem_flatMap.mp member
  split at inside
  · obtain ⟨byte, -, inside⟩ := List.mem_flatMap.mp inside
    have size := byte.toNat_lt
    have high := hexDigit_ne_slash (byte.toNat / 16) (by omega)
    have low := hexDigit_ne_slash (byte.toNat % 16) (by omega)
    simp only [percentByte, List.mem_cons, List.not_mem_nil, or_false] at inside
    rcases inside with absurdity | same | same
    · exact absurd absurdity (by decide)
    · exact high same.symm
    · exact low same.symm
  · rename_i kept
    obtain rfl := List.mem_singleton.mp inside
    exact kept (by decide)

/-! ### Components -/

/-- The components of a path as they stand in its name. -/
def trail (names : List String) : List Char :=
  (names.map fun name => '/' :: percentEncode componentSet name.toList).flatten

/-- A part without slashes ends where the next one begins. -/
theorem trail_head {one other : List Char} (free : '/' ∉ one) (without : '/' ∉ other)
    (names others : List String) (same : one ++ trail names = other ++ trail others) :
    one = other ∧ trail names = trail others := by
  have stops : ∀ (part : List Char) (names : List String), '/' ∉ part →
      (part ++ trail names).takeWhile (· ≠ '/') = part := by
    intro part names free
    have all : ∀ c ∈ part, decide (c ≠ '/') = true := by
      intro c member
      exact decide_eq_true fun slash => free (slash ▸ member)
    rw [List.takeWhile_append_of_pos all]
    cases names with
    | nil => simp [trail]
    | cons name names => simp [trail]
  have heads : one = other := by
    rw [← stops one names free, ← stops other others without, same]
  subst heads
  exact ⟨rfl, List.append_cancel_left same⟩

theorem trail_injective : Function.Injective trail := by
  intro names others same
  induction names generalizing others with
  | nil =>
    cases others with
    | nil => rfl
    | cons name others => simp [trail] at same
  | cons name names ih =>
    cases others with
    | nil => simp [trail] at same
    | cons other others =>
      have begins : percentEncode componentSet name.toList ++ trail names =
          percentEncode componentSet other.toList ++ trail others := (List.cons.inj same).2
      obtain ⟨first, rest⟩ := trail_head (slash_notMem_encode _) (slash_notMem_encode _) _ _ begins
      rw [String.toList_injective (percentEncode_injective first), ih rest]

theorem ne_empty_of_mem_components {path : Path} {name : String} (member : name ∈ path.components) :
    name ≠ "" := by
  rintro rfl
  simp only [Path.components, List.mem_map] at member
  obtain ⟨part, inside, empty⟩ := member
  have blank : part = [] := by simpa using congrArg String.toList empty
  subst blank
  split at inside
  · simp at inside
  · simp at inside

theorem trail_ne_root {path : Path} : trail path.components ≠ ['/'] := by
  intro root
  cases names : path.components with
  | nil =>
    rw [names] at root
    cases root
  | cons name rest =>
    have nonempty := ne_empty_of_mem_components (names ▸ List.mem_cons_self : name ∈ path.components)
    rw [names] at root
    have begins : percentEncode componentSet name.toList ++ trail rest = [] ++ trail [] :=
      (List.cons.inj root).2
    obtain ⟨first, -⟩ := trail_head (slash_notMem_encode _) List.not_mem_nil _ _ begins
    have blank : name.toList = [] := percentEncode_injective first
    exact nonempty (String.toList_injective blank)

theorem ofPath?_isSome (path : Path) : (ofPath? path).isSome = path.isAbsolute := by
  unfold ofPath?
  split
  · rename_i absolute
    rw [absolute]
    split <;> rfl
  · rename_i relative
    exact (Bool.eq_false_iff.mpr relative).symm

theorem ofPath?_eq_some {path : Path} {uri : Uri} (named : ofPath? path = some uri) :
    path.isAbsolute = true ∧ uri.text.toList = "file://".toList ++
      (if path.components = [] then ['/'] else trail path.components) := by
  unfold ofPath? at named
  split at named
  · rename_i absolute
    refine ⟨absolute, ?_⟩
    split at named
    · rename_i root
      rw [if_pos root, ← Option.some.inj named]
      rfl
    · rename_i below
      rw [if_neg below, ← Option.some.inj named]
      simp [trail]
  · cases named

/-- Paths with the same name are the same, component by component. -/
theorem same_of_ofPath? {path other : Path} {uri : Uri} (one : ofPath? path = some uri)
    (two : ofPath? other = some uri) : Path.same path other = true := by
  obtain ⟨absolute, spelled⟩ := ofPath?_eq_some one
  obtain ⟨rooted, again⟩ := ofPath?_eq_some two
  have bodies := List.append_cancel_left (spelled.symm.trans again)
  have components : path.components = other.components := by
    split at bodies
    · rename_i root
      split at bodies
      · rename_i otherRoot
        rw [root, otherRoot]
      · exact absurd bodies.symm trail_ne_root
    · split at bodies
      · exact absurd bodies trail_ne_root
      · exact trail_injective bodies
  simp [Path.same, absolute, rooted, components]

end LanguageServer.Uri
