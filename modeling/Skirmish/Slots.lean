import Std.Data.TreeMap

/-!
# Where a key stands in a list

A search tree that gives for each key its slot, the position in a list of keys. As long as no key
comes twice it answers as a search of the list from the front would (`getElem?_ofKeys`), and a key
added at the end of the list is one insertion (`ofKeys_concat`).
-/

namespace Skirmish

/-- The index of a roster: the slot of each key. -/
abbrev Slots (κ : Type) [Ord κ] :=
  Std.TreeMap κ Nat

namespace Slots

variable {κ : Type} [Ord κ]

/-- The index that gives for each key of a list its position; the last one, if a key comes twice. -/
def ofKeys (keys : List κ) : Slots κ :=
  keys.zipIdx.foldl (fun slots entry => slots.insert entry.1 entry.2) ∅

theorem ofKeys_concat (keys : List κ) (k : κ) :
    ofKeys (keys ++ [k]) = (ofKeys keys).insert k keys.length := by
  simp [ofKeys, List.zipIdx_append]

variable [Std.TransOrd κ] [Std.LawfulEqOrd κ] [DecidableEq κ]

theorem getElem?_foldl_insert (keys : List κ) (distinct : keys.Nodup) (start : Nat)
    (slots : Slots κ) (k : κ) :
    ((keys.zipIdx start).foldl (fun slots entry => slots.insert entry.1 entry.2) slots)[k]? =
      ((keys.idxOf? k).map (start + ·)).or slots[k]? := by
  induction keys generalizing start slots with
  | nil => simp
  | cons x rest ih =>
    have ⟨fresh, restDistinct⟩ := List.nodup_cons.mp distinct
    simp only [List.zipIdx_cons, List.foldl_cons, ih restDistinct, Std.TreeMap.getElem?_insert,
      Std.compare_eq_iff_eq, List.idxOf?_cons, beq_iff_eq]
    by_cases h : x = k
    · -- the key is here, and nowhere further on
      subst h
      simp [List.idxOf?_eq_none_iff.mpr fresh]
    · simp only [h, if_false]
      cases rest.idxOf? k <;> simp; omega

theorem getElem?_ofKeys {keys : List κ} (distinct : keys.Nodup) (k : κ) :
    (ofKeys keys)[k]? = keys.idxOf? k := by
  simp [ofKeys, getElem?_foldl_insert keys distinct]

end Slots

end Skirmish
