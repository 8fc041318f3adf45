import Gharsathi.DartValues
import Mathlib.Data.List.Sort
import Mathlib.Data.Rat.Cast.Defs
import Mathlib.Data.List.Permutation

/-!
# Comparing, sorting and joining strings

Dart compares strings by their UTF-16 code units, which is not the order of the
characters themselves. Two different strings never compare equal, so sorting a
list of strings has one result however the sort treats ties. Joining two
strings at a separator that occurs in neither can be undone. What the programs
here use about the text of a number is that parsing it gives the number back.
-/

namespace DartStrings

/-- The UTF-16 encoding of one character: one unit, or a surrogate pair. -/
def encodeChar (c : Char) : List Nat :=
  if c.toNat < 0x10000 then [c.toNat]
  else [0xD800 + (c.toNat - 0x10000) / 0x400, 0xDC00 + (c.toNat - 0x10000) % 0x400]

def codeUnits (s : String) : List Nat := s.toList.flatMap encodeChar

/-- `s.compareTo(t)`. -/
def compareTo (s t : String) : Ordering := compare (codeUnits s) (codeUnits t)

def atMost (s t : String) : Prop := (compareTo s t).isLE = true

instance (s t : String) : Decidable (atMost s t) :=
  inferInstanceAs (Decidable ((compareTo s t).isLE = true))

/-- `strings.sort()`. -/
def sort (strings : List String) : List String := strings.insertionSort atMost

/-- `strings.join(separator)`. -/
def join (separator : String) (strings : List String) : String := separator.intercalate strings

section Encoding

/-- A character is no surrogate, so its encoding ends where it says. -/
theorem encodeChar_append_inj {c d : Char} {xs ys : List Nat}
    (h : encodeChar c ++ xs = encodeChar d ++ ys) : c = d ∧ xs = ys := by
  have hc : c.toNat < 0xD800 ∨ (0xDFFF < c.toNat ∧ c.toNat < 0x110000) := c.valid
  have hd : d.toNat < 0xD800 ∨ (0xDFFF < d.toNat ∧ d.toNat < 0x110000) := d.valid
  unfold encodeChar at h
  by_cases hsc : c.toNat < 0x10000
  · by_cases hsd : d.toNat < 0x10000
    · rw [if_pos hsc, if_pos hsd] at h
      obtain ⟨hval, htail⟩ := List.cons.inj h
      exact ⟨Char.toNat_inj.mp hval, htail⟩
    · rw [if_pos hsc, if_neg hsd] at h
      obtain ⟨hval, _⟩ := List.cons.inj h
      omega
  · by_cases hsd : d.toNat < 0x10000
    · rw [if_neg hsc, if_pos hsd] at h
      obtain ⟨hval, _⟩ := List.cons.inj h
      omega
    · rw [if_neg hsc, if_neg hsd] at h
      obtain ⟨hhigh, h⟩ := List.cons.inj h
      obtain ⟨hlow, htail⟩ := List.cons.inj h
      exact ⟨Char.toNat_inj.mp (by omega), htail⟩

theorem codeUnits_inj {s t : String} (h : codeUnits s = codeUnits t) : s = t := by
  have hlists : ∀ cs ds : List Char, cs.flatMap encodeChar = ds.flatMap encodeChar → cs = ds := by
    intro cs
    induction cs with
    | nil =>
      intro ds h
      cases ds with
      | nil => rfl
      | cons d ds =>
        rw [List.flatMap_nil, List.flatMap_cons] at h
        unfold encodeChar at h
        split at h <;> cases h
    | cons c cs ih =>
      intro ds h
      cases ds with
      | nil =>
        rw [List.flatMap_nil, List.flatMap_cons] at h
        unfold encodeChar at h
        split at h <;> cases h
      | cons d ds =>
        rw [List.flatMap_cons, List.flatMap_cons] at h
        obtain ⟨rfl, htail⟩ := encodeChar_append_inj h
        rw [ih ds htail]
  exact String.toList_injective (hlists _ _ h)

end Encoding

section Sorting

theorem compareTo_swap (s t : String) : compareTo s t = (compareTo t s).swap :=
  Std.OrientedOrd.eq_swap

instance : Std.Total atMost where
  total s t := by
    unfold atMost
    rw [compareTo_swap]
    cases compareTo t s
    · exact Or.inr rfl
    · exact Or.inl rfl
    · exact Or.inl rfl

instance : IsTrans String atMost where
  trans _ _ _ hst htu := Std.TransOrd.isLE_trans (α := List Nat) hst htu

instance : Std.Antisymm atMost where
  antisymm _ _ hst hts :=
    codeUnits_inj (Std.compare_eq_iff_eq.mp (@Std.OrientedCmp.isLE_antisymm _ compare _ _ _ hst hts))

theorem sort_perm (strings : List String) : (sort strings).Perm strings :=
  List.perm_insertionSort atMost strings

/-- The sorted list does not depend on the order the strings came in. -/
theorem sort_eq_of_perm {xs ys : List String} (h : xs.Perm ys) : sort xs = sort ys :=
  ((sort_perm xs).trans (h.trans (sort_perm ys).symm)).eq_of_pairwise'
    (List.pairwise_insertionSort atMost xs) (List.pairwise_insertionSort atMost ys)

theorem sort_pair (s t : String) : sort [s, t] = [s, t] ∨ sort [s, t] = [t, s] :=
  List.perm_pair.mp (sort_perm [s, t])

end Sorting

section Joining

/-- A list is cut at a separator that does not occur before it. -/
theorem append_cons_inj {α : Type} {a b c d : List α} {x : α} (ha : x ∉ a) (hc : x ∉ c)
    (h : a ++ x :: b = c ++ x :: d) : a = c ∧ b = d := by
  rcases List.append_eq_append_iff.mp h with ⟨m, rfl, hm⟩ | ⟨m, rfl, hm⟩
  · cases m with
    | nil => simpa using hm
    | cons y m =>
      obtain ⟨rfl, _⟩ := List.cons.inj hm
      simp at hc
  · cases m with
    | nil => simpa using hm.symm
    | cons y m =>
      obtain ⟨rfl, _⟩ := List.cons.inj hm
      simp at ha

theorem join_pair (separator s t : String) : join separator [s, t] = s ++ separator ++ t := by
  simp [join, String.intercalate_cons_cons, String.intercalate_singleton]

theorem join_pair_inj {x : Char} {s t u v : String} (hs : x ∉ s.toList) (hu : x ∉ u.toList)
    (h : join (String.singleton x) [s, t] = join (String.singleton x) [u, v]) :
    s = u ∧ t = v := by
  rw [join_pair, join_pair] at h
  have hlists := congrArg String.toList h
  simp only [String.toList_append, String.toList_singleton, List.append_assoc,
    List.singleton_append] at hlists
  obtain ⟨hsu, htv⟩ := append_cons_inj hs hu hlists
  exact ⟨String.toList_injective hsu, String.toList_injective htv⟩

end Joining

section Numbers

open DartDouble DartValues

/-- `double.tryParse`; the empty text is no number. -/
structure DoubleParser (K : Type) where
  tryParse : String → Option (Double K)
  tryParse_empty : tryParse "" = none

/-- `double.toString` and `double.tryParse`, with what is used about them. -/
structure DoubleText (K : Type) extends DoubleParser K where
  toString : Double K → String
  tryParse_toString : ∀ x, tryParse (toString x) = some x

/-- `double.parse`. -/
def DoubleParser.parse {K : Type} (T : DoubleParser K) (text : String) : Result (Double K) :=
  match T.tryParse text with
  | none => .error .formatException
  | some x => .ok x

/-- An integral number as Dart writes it; the part after the dot is the
denominator less one, which is `0` for these. -/
def quotientToString : Double ℚ → String
  | .nan => "NaN"
  | .posInf => "Infinity"
  | .negInf => "-Infinity"
  | .fin q => (if q.num < 0 then "-" else "") ++ q.num.natAbs.repr ++ "." ++ (q.den - 1).repr

/-- The number written as `whole.rest`, where `rest + 1` is the denominator. -/
def tryParseDigits (digits : List Char) : ℚ :=
  let whole := digits.takeWhile (fun c => decide (c ≠ '.'))
  let rest := (digits.dropWhile (fun c => decide (c ≠ '.'))).tail
  (Nat.ofDigitChars 10 whole 0 : ℚ) / (Nat.ofDigitChars 10 rest 0 + 1 : ℕ)

def quotientTryParse (s : String) : Option (Double ℚ) :=
  if s = "" then none
  else if s = "NaN" then some .nan
  else if s = "Infinity" then some .posInf
  else if s = "-Infinity" then some .negInf
  else
    match s.toList with
    | '-' :: digits => some (.fin (-tryParseDigits digits))
    | digits => some (.fin (tryParseDigits digits))

theorem dot_not_mem_repr (n : Nat) : '.' ∉ n.repr.toList := by
  rw [Nat.toList_repr]
  intro h
  have hdigit := Nat.isDigit_of_mem_toDigits (by decide) (by decide) h
  exact absurd hdigit (by decide)

theorem dash_not_mem_repr (n : Nat) : '-' ∉ n.repr.toList := by
  rw [Nat.toList_repr]
  intro h
  have hdigit := Nat.isDigit_of_mem_toDigits (by decide) (by decide) h
  exact absurd hdigit (by decide)

theorem tryParseDigits_repr (n d : Nat) :
    tryParseDigits (n.repr.toList ++ '.' :: d.repr.toList) = (n : ℚ) / (d + 1 : ℕ) := by
  have hwhole : ∀ c ∈ n.repr.toList, decide (c ≠ '.') = true := by
    intro c hc
    rw [decide_eq_true_eq]
    rintro rfl
    exact dot_not_mem_repr n hc
  unfold tryParseDigits
  rw [List.takeWhile_append_of_pos hwhole, List.dropWhile_append_of_pos hwhole]
  simp [Nat.toList_repr, Nat.ofDigitChars_ten_toDigits]

theorem quotientTryParse_toString (x : Double ℚ) : quotientTryParse (quotientToString x) = some x := by
  cases x with
  | nan => rfl
  | posInf => rfl
  | negInf => rfl
  | fin q =>
    have hdot : ∀ s : String, '.' ∉ s.toList → quotientToString (.fin q) ≠ s := by
      rintro s hs rfl
      exact hs (by simp [quotientToString])
    unfold quotientTryParse
    rw [if_neg (hdot _ (by decide)), if_neg (hdot _ (by decide)), if_neg (hdot _ (by decide)),
      if_neg (hdot _ (by decide))]
    have hden : ((q.den - 1 + 1 : ℕ) : ℚ) = q.den := by
      rw [Nat.sub_add_cancel q.den_pos]
    by_cases hneg : q.num < 0
    · have hlist : (quotientToString (.fin q)).toList =
          '-' :: (q.num.natAbs.repr.toList ++ '.' :: (q.den - 1).repr.toList) := by
        simp [quotientToString, hneg]
      have hnum : ((q.num.natAbs : ℕ) : ℚ) = -q.num := by
        rw [Nat.cast_natAbs, abs_of_neg hneg, Int.cast_neg]
      rw [hlist]
      simp only [tryParseDigits_repr, hden, hnum]
      rw [neg_div, neg_neg, Rat.num_div_den]
    · have hlist : (quotientToString (.fin q)).toList =
          q.num.natAbs.repr.toList ++ '.' :: (q.den - 1).repr.toList := by
        simp [quotientToString, hneg]
      have hnum : ((q.num.natAbs : ℕ) : ℚ) = q.num := by
        rw [Nat.cast_natAbs, abs_of_nonneg (not_lt.mp hneg)]
      rw [hlist]
      split
      · rename_i digits hdash
        have hmem : '-' ∈ q.num.natAbs.repr.toList ++ '.' :: (q.den - 1).repr.toList := by
          rw [hdash]
          exact List.mem_cons_self
        rcases List.mem_append.mp hmem with h | h
        · exact absurd h (dash_not_mem_repr _)
        · rcases List.mem_cons.mp h with h | h
          · cases h
          · exact absurd h (dash_not_mem_repr _)
      · rw [tryParseDigits_repr, hden, hnum, Rat.num_div_den]

/-- Texts of rational numbers; an integral one reads as Dart writes it. -/
def rationalText : DoubleText ℚ where
  toString := quotientToString
  tryParse := quotientTryParse
  tryParse_toString := quotientTryParse_toString
  tryParse_empty := rfl

example : rationalText.toString (.fin 9000) = "9000.0" := by decide

end Numbers

end DartStrings
