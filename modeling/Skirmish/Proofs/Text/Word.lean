import Skirmish.Proofs.Text.Utf8.Canonical
import Skirmish.Text.Blank
import Skirmish.Text.Lowercase

/-!
# Words of a line

`trim`, `splitWord` and `lowercase` on a line of words and whitespace. Whitespace around the line
and its amount between words do not matter. `lowercase` of ASCII changes letters only, and no
character but a period becomes one that starts with a period.

Results:

* `trim_append`: whitespace before a text goes, and what is behind its last word is trimmed by
  itself;
* `splitWord_append`, `splitWord_of_blank`: the first word of a text;
* `lowercase_of_ascii`, `head?_lowercase`: a word in lower case.
-/

namespace Skirmish.Text

variable {c : Char} {cs rest gap word : List Char}

/-! ## Trimming -/

theorem trimEnd_prefix (cs : List Char) : trimEnd cs <+: cs := by
  induction cs with
  | nil => exact List.nil_prefix
  | cons c rest ih =>
    unfold trimEnd
    split
    · split
      · exact List.nil_prefix
      · exact List.prefix_cons_iff.mpr (.inr ⟨[], rfl, List.nil_prefix⟩)
    · exact List.prefix_cons_iff.mpr (.inr ⟨_, rfl, ih⟩)

theorem mem_head?_of_trimEnd (first : c ∈ (trimEnd cs).head?) : c ∈ cs.head? := by
  obtain ⟨more, eq⟩ := trimEnd_prefix cs
  rw [← eq, List.head?_append]
  exact Option.mem_def.mpr (by rw [Option.mem_def.mp first, Option.some_or])

/-- `trimEnd` stops at a character that is no whitespace. -/
theorem trimEnd_append_cons (plain : isBlank c = false) (cs rest : List Char) :
    trimEnd (cs ++ c :: rest) = cs ++ c :: trimEnd rest := by
  have kept : trimEnd (c :: rest) = c :: trimEnd rest := by
    rw [trimEnd]
    cases trimEnd rest <;> simp [plain]
  induction cs with
  | nil => exact kept
  | cons d more ih =>
    rw [List.cons_append, trimEnd, ih]
    cases more <;> rfl

theorem dropWhile_isBlank_append (blank : ∀ b ∈ gap, isBlank b = true)
    (starts : ∀ b ∈ cs.head?, isBlank b = false) : (gap ++ cs).dropWhile isBlank = cs := by
  rw [List.dropWhile_append_of_pos blank]
  cases cs with
  | nil => rfl
  | cons c rest => rw [List.dropWhile_cons_of_neg (by simpa using starts)]

theorem trim_append (blank : ∀ b ∈ gap, isBlank b = true) (some_ : word ≠ [])
    (first : isBlank (word.head some_) = false) (last : isBlank (word.getLast some_) = false)
    (rest : List Char) : trim (gap ++ (word ++ rest)) = word ++ trimEnd rest := by
  have starts : ∀ b ∈ (word ++ rest).head?, isBlank b = false := by
    rw [List.head?_append, List.head?_eq_some_head some_]
    simpa using first
  rw [trim, dropWhile_isBlank_append blank starts, ← List.dropLast_concat_getLast some_,
    List.append_assoc, List.append_assoc]
  exact trimEnd_append_cons last _ rest

/-- A trimmed text does not start with whitespace. -/
theorem isBlank_eq_false_of_trim (trimmed : trim cs = c :: rest) : isBlank c = false := by
  obtain ⟨more, eq⟩ := trimEnd_prefix (cs.dropWhile isBlank)
  rw [← trim, trimmed] at eq
  have first := List.head?_dropWhile_not isBlank cs
  rw [← eq] at first
  simpa using first

/-! ## The first word -/

theorem splitWord_of_blank (blank : ∀ b ∈ gap, isBlank b = true) (cs : List Char) :
    splitWord (gap ++ cs) = splitWord cs := by
  rw [splitWord, splitWord, List.dropWhile_append_of_pos blank]

/-- A word at the start is the first word, if whitespace follows or nothing. -/
theorem splitWord_append (whole : ∀ c ∈ word, isBlank c = false) (some_ : word ≠ [])
    (ends : ∀ b ∈ rest.head?, isBlank b = true) : splitWord (word ++ rest) = (word, rest) := by
  have starts : (word ++ rest).dropWhile isBlank = word ++ rest := by
    cases word with
    | nil => exact absurd rfl some_
    | cons c more => simp [whole c List.mem_cons_self]
  have plain : ∀ c ∈ word, (!isBlank c) = true := fun c hc => by rw [whole c hc]; rfl
  simp only [splitWord, starts]
  rw [List.takeWhile_append_of_pos plain, List.dropWhile_append_of_pos plain]
  cases rest with
  | nil => simp
  | cons b more =>
    have blank : isBlank b = true := ends b rfl
    simp [blank]

/-! ## Lower case -/

theorem lowercaseAfter_of_ascii (before : List Char) (ascii : ∀ c ∈ cs, c.toNat < 0x80) :
    lowercaseAfter before cs = cs.map Char.toLower := by
  induction cs generalizing before with
  | nil => rfl
  | cons c rest ih =>
    have small : c.toNat < 0x80 := ascii c List.mem_cons_self
    have other : c ≠ 'Σ' := by
      rintro rfl
      exact absurd small (by decide)
    rw [lowercaseAfter, if_neg other, lowercaseChar, if_pos small,
      ih _ fun d hd => ascii d (List.mem_cons_of_mem _ hd)]
    rfl

/-- On ASCII `lowercase` is `Char.toLower` of each character. -/
theorem lowercase_of_ascii (ascii : ∀ c ∈ cs, c.toNat < 0x80) :
    lowercase cs = cs.map Char.toLower :=
  lowercaseAfter_of_ascii [] ascii

/-- `Char.toLower` adds 32 to the ASCII capitals and keeps everything else. -/
theorem toLower_cases (c : Char) :
    65 ≤ c.toNat ∧ c.toNat ≤ 90 ∧ c.toLower.toNat = c.toNat + 32 ∨ c.toLower = c := by
  unfold Char.toLower
  split
  · rename_i capital
    have least : 65 ≤ c.toNat := UInt32.le_iff_toNat_le.mp capital.1
    have most : c.toNat ≤ 90 := UInt32.le_iff_toNat_le.mp capital.2
    refine .inl ⟨least, most, ?_⟩
    show (c.val + 32).toNat = c.toNat + 32
    have sum : (c.val + 32).toNat = (c.toNat + 32) % 2 ^ 32 := UInt32.toNat_add ..
    omega
  · exact .inr rfl

theorem toNat_lt_of_toLower (small : c.toLower.toNat < 0x80) : c.toNat < 0x80 := by
  rcases toLower_cases c with ⟨-, most, -⟩ | same
  · omega
  · rwa [same] at small

theorem toLower_of_isBlank (blank : isBlank c = true) : c.toLower = c := by
  refine (toLower_cases c).resolve_left fun ⟨least, most, _⟩ => ?_
  simp only [isBlank, Bool.or_eq_true, Bool.and_eq_true, decide_eq_true_eq, beq_iff_eq] at blank
  omega

/-- All lower-case forms of `lowerRuns` lie above the period. -/
theorem lt_of_mem_lowerRuns : ∀ run ∈ lowerRuns, (46 : Int) < run.first + run.shift := by
  decide +kernel

theorem ofNat_ne_period {n : Nat} (behind : 46 < n) : Char.ofNat n ≠ '.' := by
  intro eq
  have code : (Char.ofNat n).val.toNat = 46 := congrArg Char.toNat eq
  by_cases valid : n.isValidChar
  · rw [Utf8.val_ofNat valid] at code
    omega
  · rw [Char.ofNat, dif_neg valid] at code
    cases code

theorem toLower_eq_period_iff (c : Char) : c.toLower = '.' ↔ c = '.' := by
  have period : '.'.toNat = 46 := rfl
  rcases toLower_cases c with ⟨least, -, shift⟩ | same
  · refine iff_of_false (fun eq => ?_) fun eq => ?_
    · rw [eq] at shift
      omega
    · rw [eq] at least
      omega
  · rw [same]

/-- `lowercaseChar` starts with a period iff the character is one. -/
theorem head?_lowercaseChar (c : Char) : (lowercaseChar c).head? = some '.' ↔ c = '.' := by
  unfold lowercaseChar
  split
  · rename_i ascii
    rw [List.head?_cons, Option.some.injEq, toLower_eq_period_iff]
  · rename_i beyond
    have other : c ≠ '.' := by
      rintro rfl
      exact beyond (by decide)
    refine iff_of_false ?_ other
    split
    · simp
    split
    · rename_i run found
      have covers : run.covers c.toNat = true := by simpa using List.find?_some found
      have behind := lt_of_mem_lowerRuns run (List.mem_of_find?_eq_some found)
      simp only [LowerRun.covers, Bool.and_eq_true, decide_eq_true_eq] at covers
      simpa using ofNat_ne_period (by omega)
    · simpa using other

theorem lowercaseChar_ne_nil (c : Char) : lowercaseChar c ≠ [] := by
  unfold lowercaseChar
  repeat' split
  all_goals exact List.cons_ne_nil _ _

/-- `lowercase` of a word starts with a period iff the word does. -/
theorem head?_lowercase (c : Char) (rest : List Char) :
    (lowercase (c :: rest)).head? = some '.' ↔ c = '.' := by
  rw [lowercase, lowercaseAfter]
  split
  · rename_i sigma
    subst sigma
    rw [lowercaseSigma]
    split <;> simp
  · rw [← head?_lowercaseChar c, List.head?_append,
      List.head?_eq_some_head (lowercaseChar_ne_nil c), Option.some_or]

end Skirmish.Text
