import Gharsathi.DartStrings
import Mathlib.Data.List.DropRight

/-!
# Lengths, matches and trimming

What a text field is checked with: the length in UTF-16 code units, a search
for one character of a class, a prefix, and `trim`, which takes white space
off both ends.
-/

namespace DartText

open DartStrings

/-- `s.length`. -/
def length (s : String) : Nat := (codeUnits s).length

/-- A search for the regular expression of one class of characters. -/
def hasMatch (isInClass : Char → Bool) (s : String) : Bool := s.toList.any isInClass

/-- `s.startsWith(start)`. -/
def startsWith (s start : String) : Bool := start.toList.isPrefixOf s.toList

/-- The white space of Unicode and the byte order mark. -/
def isWhitespace (c : Char) : Bool :=
  let n := c.toNat
  decide (0x9 ≤ n ∧ n ≤ 0xD) || n == 0x20 || n == 0x85 || n == 0xA0 || n == 0x1680 ||
    decide (0x2000 ≤ n ∧ n ≤ 0x200A) || n == 0x2028 || n == 0x2029 || n == 0x202F ||
    n == 0x205F || n == 0x3000 || n == 0xFEFF

/-- `s.trim()`. -/
def trim (s : String) : String :=
  String.ofList ((s.toList.dropWhile isWhitespace).rdropWhile isWhitespace)

theorem length_eq_sum (s : String) :
    length s = (s.toList.map (fun c => (encodeChar c).length)).sum := by
  rw [length, codeUnits, List.length_flatMap]

theorem encodeChar_of_lt {c : Char} (h : c.toNat < 0x10000) : (encodeChar c).length = 1 := by
  rw [encodeChar, if_pos h]
  rfl

/-- A text of characters of the basic plane is as long as it has characters. -/
theorem length_of_basic {s : String} (h : ∀ c ∈ s.toList, c.toNat < 0x10000) :
    length s = s.toList.length := by
  have hones : s.toList.map (fun c => (encodeChar c).length) = s.toList.map (fun _ => 1) :=
    List.map_congr_left (fun c hc => encodeChar_of_lt (h c hc))
  rw [length_eq_sum, hones]
  simp

theorem startsWith_iff (s start : String) :
    startsWith s start = true ↔ ∃ rest, s.toList = start.toList ++ rest := by
  rw [startsWith, List.isPrefixOf_iff_prefix]
  constructor
  · rintro ⟨rest, h⟩
    exact ⟨rest, h.symm⟩
  · rintro ⟨rest, h⟩
    exact ⟨rest, h.symm⟩

theorem hasMatch_false_iff (isInClass : Char → Bool) (s : String) :
    hasMatch isInClass s = false ↔ ∀ c ∈ s.toList, isInClass c = false := by
  simp [hasMatch]

/-- A text that was trimmed has nothing left to trim. -/
@[simp] theorem trim_trim (s : String) : trim (trim s) = trim s := by
  have hfront : ∀ cs : List Char, ((cs.dropWhile isWhitespace).rdropWhile isWhitespace).dropWhile
      isWhitespace = (cs.dropWhile isWhitespace).rdropWhile isWhitespace := by
    intro cs
    rw [List.dropWhile_eq_self_iff]
    intro hpos
    have hstart := List.rdropWhile_prefix isWhitespace (cs.dropWhile isWhitespace)
    rw [hstart.getElem hpos]
    exact List.dropWhile_get_zero_not isWhitespace cs _
  unfold trim
  rw [String.toList_ofList, hfront, List.rdropWhile_idempotent]

example : trim "\t Abc 1\n" = "Abc 1" := by decide

end DartText
