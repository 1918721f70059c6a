import Mathlib.Data.List.DropRight
import VeiledPool.Text.Class
import VeiledPool.Text.Written

/-! # Trimming

Trimming takes away all blanks at the ends of a text and nothing else, and what is left
is the only part of the text that neither starts nor ends with a blank and has only
blanks around it. Zeros behind a fraction are trimmed in the same way.
-/

namespace VeiledPool.Text

variable {text body : List Char} {c : Char}

theorem rdropWhile_append {p : Char → Bool} {after : List Char}
    (ends : ∀ c ∈ body.getLast?, p c = false) (dropped : ∀ c ∈ after, p c = true) :
    (body ++ after).rdropWhile p = body := by
  have tail : ∀ c ∈ after.reverse, p c = true := by simpa using dropped
  calc (body ++ after).rdropWhile p
      = body.rdropWhile p := by
        rw [List.rdropWhile, List.reverse_append, List.dropWhile_append_of_pos tail]
        rfl
    _ = body := by
        refine List.rdropWhile_eq_self_iff.2 fun some => ?_
        simp [ends _ (List.getLast_mem_getLast? some)]

theorem dropWhile_append {p : Char → Bool} {before : List Char}
    (dropped : ∀ c ∈ before, p c = true) (starts : ∀ c ∈ text.head?, p c = false) :
    (before ++ text).dropWhile p = text := by
  rw [List.dropWhile_append_of_pos dropped]
  cases text with
  | nil => rfl
  | cons c rest => simp [starts c rfl]

theorem getLast?_rdropWhile {p : Char → Bool} :
    ∀ c ∈ (text.rdropWhile p).getLast?, p c = false := by
  intro c last
  obtain ⟨some, rfl⟩ := List.mem_getLast?_eq_getLast last
  simpa using List.rdropWhile_last_not p text some

theorem trimBlanks_eq (text : List Char) :
    trimBlanks text = (text.dropWhile isBlank).rdropWhile isBlank := rfl

/-- A text and what it is without the blanks at its ends. -/
structure Bare (text body : List Char) : Prop where
  padded : ∃ before after, text = before ++ (body ++ after) ∧
    (∀ c ∈ before, isBlank c = true) ∧ ∀ c ∈ after, isBlank c = true
  starts : ∀ c ∈ body.head?, isBlank c = false
  ends : ∀ c ∈ body.getLast?, isBlank c = false

theorem bare_trimBlanks (text : List Char) : Bare text (trimBlanks text) where
  padded := by
    refine ⟨text.takeWhile isBlank, (text.dropWhile isBlank).rtakeWhile isBlank, ?_, ?_, ?_⟩
    · rw [trimBlanks_eq, List.rdropWhile_append_rtakeWhile, List.takeWhile_append_dropWhile]
    · exact fun c inside => List.mem_takeWhile_imp inside
    · exact fun c inside => List.mem_rtakeWhile_imp inside
  starts := by
    intro c first
    obtain ⟨rest, whole⟩ := List.rdropWhile_prefix isBlank (text.dropWhile isBlank)
    have head : (text.dropWhile isBlank).head? = some c := by
      rw [← whole, List.head?_append]
      exact Option.or_eq_some_iff.2 (.inl first)
    simpa [head] using List.head?_dropWhile_not isBlank text
  ends := getLast?_rdropWhile

theorem bare_self (visible : ∀ c ∈ text, isBlank c = false) : Bare text text where
  padded := ⟨[], [], by simp⟩
  starts c first := visible c (List.mem_of_mem_head? first)
  ends c last := visible c (List.mem_of_mem_getLast? last)

theorem bare_iff : Bare text body ↔ body = trimBlanks text := by
  constructor
  · rintro ⟨⟨before, after, rfl, blankBefore, blankAfter⟩, starts, ends⟩
    cases body with
    | nil =>
      have blank : ∀ c ∈ before ++ ([] ++ after), isBlank c = true := by
        simpa [or_imp, forall_and] using ⟨blankBefore, blankAfter⟩
      rw [trimBlanks, List.dropWhile_eq_nil_iff.2 blank]
      rfl
    | cons c rest =>
      have front : (before ++ (c :: rest ++ after)).dropWhile isBlank = c :: rest ++ after :=
        dropWhile_append blankBefore (by simpa using starts)
      rw [trimBlanks, front]
      exact (rdropWhile_append ends blankAfter).symm
  · rintro rfl
    exact bare_trimBlanks text

theorem trimEnd_append_replicate (ends : c ∉ body.getLast?) (count : Nat) :
    trimEnd c (body ++ List.replicate count c) = body := by
  refine rdropWhile_append (fun d last => ?_) (by simp [List.mem_replicate])
  rw [beq_eq_false_iff_ne]
  rintro rfl
  exact ends last

theorem exists_eq_trimEnd_append (c : Char) (text : List Char) :
    ∃ count, text = trimEnd c text ++ List.replicate count c := by
  have same : ∀ d ∈ text.rtakeWhile (· == c), d = c := by
    intro d inside
    simpa using List.mem_rtakeWhile_imp inside
  refine ⟨(text.rtakeWhile (· == c)).length, ?_⟩
  rw [← List.eq_replicate_of_mem same]
  exact List.rdropWhile_append_rtakeWhile.symm

theorem not_mem_getLast?_trimEnd (c : Char) (text : List Char) :
    c ∉ (trimEnd c text).getLast? := by
  intro last
  have other := getLast?_rdropWhile c last
  simp at other

theorem not_isBlank_of_isDigit (plain : c.isDigit = true) : isBlank c = false := by
  have range : 48 ≤ c.toNat ∧ c.toNat ≤ 57 := Char.isDigit_iff_toNat.1 plain
  simp [isBlank, inRanges, blankRanges]
  omega

end VeiledPool.Text
