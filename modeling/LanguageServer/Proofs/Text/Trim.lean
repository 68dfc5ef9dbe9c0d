import Mathlib.Data.List.TakeWhile
import LanguageServer.Text.Blank

/-! What trimming leaves of a text. -/

namespace LanguageServer.Text

/-- What remains of a text without the white space at its ends. -/
structure IsTrimmed (text inner : List Char) : Prop where
  split : ∃ left right, text = left ++ inner ++ right ∧
    (∀ c ∈ left, isBlank c = true) ∧ ∀ c ∈ right, isBlank c = true
  first : ∀ c, inner.head? = some c → isBlank c = false
  last : ∀ c, inner.getLast? = some c → isBlank c = false

theorem isTrimmed_trim (text : List Char) : IsTrimmed text (trim text) := by
  have front := List.takeWhile_append_dropWhile (p := isBlank) (l := text)
  have back := List.takeWhile_append_dropWhile (p := isBlank) (l := (trimStart text).reverse)
  have split : trimStart text =
      trim text ++ ((trimStart text).reverse.takeWhile isBlank).reverse := by
    have reversed := congrArg List.reverse back
    rw [List.reverse_append, List.reverse_reverse] at reversed
    exact reversed.symm
  have notBlank : ∀ (list : List Char) c, (list.dropWhile isBlank).head? = some c →
      isBlank c = false := by
    intro list c first
    have none := List.head?_dropWhile_not isBlank list
    rw [first] at none
    simpa using none
  refine ⟨⟨text.takeWhile isBlank, ((trimStart text).reverse.takeWhile isBlank).reverse, ?_, ?_, ?_⟩,
    ?_, ?_⟩
  · rw [List.append_assoc, ← split]
    exact front.symm
  · intro c membership
    exact List.mem_takeWhile_imp membership
  · intro c membership
    exact List.mem_takeWhile_imp (List.mem_reverse.mp membership)
  · intro c first
    apply notBlank text
    change (trimStart text).head? = some c
    rw [split, List.head?_append, first]
    rfl
  · intro c last
    rw [trim, trimEnd, List.getLast?_reverse] at last
    exact notBlank _ c last

theorem trimStart_of_blank {left : List Char} (blank : ∀ c ∈ left, isBlank c = true)
    (text : List Char) : trimStart (left ++ text) = trimStart text :=
  List.dropWhile_append_of_pos blank

theorem dropWhile_of_first {text : List Char} (first : ∀ c, text.head? = some c → isBlank c = false) :
    text.dropWhile isBlank = text := by
  cases text with
  | nil => rfl
  | cons c rest => simp [first c rfl]

/-- There is only one way to trim a text. -/
theorem IsTrimmed.eq_trim {text inner : List Char} (trimmed : IsTrimmed text inner) :
    inner = trim text := by
  obtain ⟨⟨left, right, rfl, leftBlank, rightBlank⟩, first, last⟩ := trimmed
  have rightReverse : ∀ c ∈ right.reverse, isBlank c = true :=
    fun c membership => rightBlank c (List.mem_reverse.mp membership)
  rw [trim, List.append_assoc, trimStart_of_blank leftBlank]
  cases inner with
  | nil =>
    have none : trimStart right = [] := List.dropWhile_eq_nil_iff.mpr rightBlank
    rw [List.nil_append, none]
    rfl
  | cons c rest =>
    have kept : trimStart (c :: rest ++ right) = c :: rest ++ right := by
      apply dropWhile_of_first
      intro other same
      exact first other same
    have ended : (c :: rest).reverse.dropWhile isBlank = (c :: rest).reverse := by
      apply dropWhile_of_first
      intro other same
      exact last other (by rw [← same, List.head?_reverse])
    rw [kept, trimEnd, List.reverse_append, List.dropWhile_append_of_pos rightReverse, ended,
      List.reverse_reverse]

theorem IsTrimmed.again {text inner : List Char} (trimmed : IsTrimmed text inner) :
    IsTrimmed inner inner :=
  ⟨⟨[], [], by simp, by simp, by simp⟩, trimmed.first, trimmed.last⟩

theorem trim_trim (text : List Char) : trim (trim text) = trim text :=
  (isTrimmed_trim text).again.eq_trim.symm

theorem trim_eq_nil {text : List Char} : trim text = [] ↔ ∀ c ∈ text, isBlank c = true := by
  constructor
  · intro empty
    obtain ⟨⟨left, right, split, leftBlank, rightBlank⟩, -, -⟩ := isTrimmed_trim text
    rw [empty, List.append_nil] at split
    intro c member
    rw [split] at member
    rcases List.mem_append.mp member with before | after
    · exact leftBlank c before
    · exact rightBlank c after
  · intro blank
    have trimmed : IsTrimmed text [] := ⟨⟨text, [], by simp, blank, by simp⟩, by simp, by simp⟩
    exact trimmed.eq_trim.symm

end LanguageServer.Text
