import Skirmish.PlayerName
import Skirmish.Proofs.Text.Utf8

/-!
# What a name may be

`validate_name` of the roster (`isValid`) and `valid_name` of the client (`isEntered`) both want a
single word of at most `Rules.maxNameBytes`. Only `isValid` also excludes control characters.

Results:

* `ne_empty`, `utf8ByteSize_le`, `isBlank_eq_false`: what `isValid` makes sure of;
* `isValid_iff`, `isEntered_eq_isValid_iff`: the two checks side by side.
-/

namespace Skirmish.PlayerName

variable {name : String}

/-- `isValid` is `isEntered` without control characters. -/
theorem isValid_iff :
    isValid name = true ↔
      isEntered name = true ∧ ∀ c ∈ name.toList, Text.isControl c = false := by
  simp only [isValid, isEntered, Bool.and_eq_true, List.all_eq_true, Bool.not_eq_true']
  constructor
  · rintro ⟨short, plain⟩
    exact ⟨⟨short, fun c hc => (plain c hc).1⟩, fun c hc => (plain c hc).2⟩
  · rintro ⟨⟨short, whole⟩, plain⟩
    exact ⟨short, fun c hc => ⟨whole c hc, plain c hc⟩⟩

/-- The checks differ iff the name `isEntered` and has a control character. -/
theorem isEntered_eq_isValid_iff :
    isEntered name = isValid name ↔
      ¬(isEntered name = true ∧ ∃ c ∈ name.toList, Text.isControl c = true) := by
  rw [Bool.eq_iff_iff, isValid_iff]
  simp

/-- Eight characters beyond the first plane make a name: each has four bytes, and none of them is
whitespace or a control character. -/
theorem isValid_of_astral {cs : List Char} (some_ : cs ≠ []) (few : cs.length ≤ 8)
    (astral : ∀ c ∈ cs, 0x10000 ≤ c.toNat) : isValid (String.ofList cs) = true := by
  have filled : String.ofList cs ≠ "" := by
    intro none
    have empty := congrArg String.toList none
    rw [String.toList_ofList] at empty
    exact some_ empty
  have short : (Text.Utf8.encode cs).length ≤ 32 := by
    have bytes := Text.Utf8.length_encode_le cs
    omega
  have plain : ∀ c ∈ cs, Text.isBlank c = false ∧ Text.isControl c = false := by
    intro c hc
    have high := astral c hc
    constructor
    · simp [Text.isBlank]
      omega
    · simp [Text.isControl]
      omega
  simp only [isValid, Text.Utf8.size, String.toList_ofList]
  simpa [filled, short, Rules.maxNameBytes] using plain

/-! ## Names that the server takes -/

theorem ne_empty (valid : isValid name = true) : name ≠ "" := by
  simp only [isValid, Bool.and_eq_true, decide_eq_true_eq] at valid
  exact valid.1.1

/-- A name that `isValid` has at most `Rules.maxNameBytes` bytes. -/
theorem utf8ByteSize_le (valid : isValid name = true) : name.utf8ByteSize ≤ 32 := by
  simp only [isValid, Bool.and_eq_true, decide_eq_true_eq] at valid
  rw [← Text.Utf8.size_eq]
  exact valid.1.2

theorem isBlank_eq_false (valid : isValid name = true) :
    ∀ c ∈ name.toList, Text.isBlank c = false := by
  intro c hc
  simp only [isValid, Bool.and_eq_true, List.all_eq_true] at valid
  have plain := (valid.2 c hc).1
  simpa using plain

end Skirmish.PlayerName
