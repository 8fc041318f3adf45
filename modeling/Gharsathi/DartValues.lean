import Gharsathi.DartDouble

/-!
# Dynamic values

Values of Dart's type `dynamic` as they occur in documents and in route
arguments, the errors that using them can raise, and the implicit casts from
`dynamic` to a static type. Reading a missing key of a map gives null; a cast
that fails is an error, also where the source writes no `as`.
-/

namespace DartValues

open DartDouble

inductive Value (K : Type) where
  | null
  | int (n : Int)
  | double (x : Double K)
  | str (s : String)
  | timestamp (t : Int)
  | list (xs : List (Value K))
  | map (entries : List (String × Value K))

/-- A `Map<String, dynamic>`, its entries in insertion order. -/
abbrev Map (K : Type) := List (String × Value K)

inductive DartError where
  | typeError
  | noSuchMethod
  | rangeError
  | formatException
  | badState (field : String)
  | lateInitialization (field : String)
  | invalidDocumentPath (id : String)
  deriving DecidableEq, Repr

abbrev Result (α : Type) := Except DartError α

/-- A computation that awaits another one succeeds when both do. -/
theorem bind_eq_ok {α β : Type} {x : Result α} {f : α → Result β} {b : β} :
    (x >>= f) = .ok b ↔ ∃ a, x = .ok a ∧ f a = .ok b := by
  cases x with
  | error e => simp [bind, Except.bind]
  | ok a => simp [bind, Except.bind]

theorem pure_eq_ok {α : Type} {a b : α} : (pure a : Result α) = .ok b ↔ a = b := by
  simp [pure, Except.pure]

/-- `x!`. -/
def nullCheck {α : Type} : Option α → Result α
  | none => .error .typeError
  | some x => .ok x

/-- Reading a late variable. -/
def late {α : Type} (name : String) : Option α → Result α
  | none => .error (.lateInitialization name)
  | some x => .ok x

theorem late_eq_ok {α : Type} {name : String} {x : Option α} {y : α} :
    late name x = .ok y ↔ x = some y := by
  cases x with
  | none => simp [late]
  | some x => simp [late]

namespace Map
variable {K : Type}

/-- `m[key]`. -/
def get : Map K → String → Value K
  | [], _ => .null
  | (k, v) :: m, key => if k = key then v else get m key

def containsKey (m : Map K) (key : String) : Bool :=
  m.any (fun entry => decide (entry.1 = key))

@[simp] theorem get_nil (key : String) : get ([] : Map K) key = .null := rfl

@[simp] theorem get_cons (k : String) (v : Value K) (m : Map K) (key : String) :
    get ((k, v) :: m) key = if k = key then v else get m key := rfl

@[simp] theorem containsKey_cons (k : String) (v : Value K) (m : Map K) (key : String) :
    containsKey ((k, v) :: m) key = (decide (k = key) || containsKey m key) := rfl

/-- A key that is not there reads as null. -/
theorem containsKey_of_get {m : Map K} {key : String} (h : get m key ≠ .null) :
    containsKey m key = true := by
  induction m with
  | nil => exact absurd rfl h
  | cons entry m ih =>
    obtain ⟨k, v⟩ := entry
    rw [containsKey_cons, Bool.or_eq_true, decide_eq_true_eq]
    by_cases hk : k = key
    · exact Or.inl hk
    · rw [get_cons, if_neg hk] at h
      exact Or.inr (ih h)

end Map

namespace Value
section Casts
variable {K : Type}

def isNull : Value K → Bool
  | null => true
  | _ => false

/-- `v ?? d`. -/
def orElse (v d : Value K) : Value K :=
  match v with
  | null => d
  | _ => v

/-- `v[key]` on a dynamic receiver. -/
def index (v : Value K) (key : String) : Result (Value K) :=
  match v with
  | map entries => .ok (Map.get entries key)
  | null => .error .noSuchMethod
  | _ => .error .typeError

/-- `v[i]` on a dynamic receiver that is expected to be a list. -/
def elementAt (v : Value K) (i : Nat) : Result (Value K) :=
  match v with
  | list xs =>
    match xs[i]? with
    | some x => .ok x
    | none => .error .rangeError
  | null => .error .noSuchMethod
  | _ => .error .typeError

/-- Cast to `String?`. -/
def asStringOrNull : Value K → Result (Option String)
  | null => .ok none
  | str s => .ok (some s)
  | _ => .error .typeError

/-- Cast to `String`. -/
def asString : Value K → Result String
  | str s => .ok s
  | _ => .error .typeError

/-- Cast to `double?`. -/
def asDoubleOrNull : Value K → Result (Option (Double K))
  | null => .ok none
  | double x => .ok (some x)
  | _ => .error .typeError

/-- Cast to `double`. -/
def asDouble : Value K → Result (Double K)
  | double x => .ok x
  | _ => .error .typeError

/-- Cast to `Map<String, dynamic>?`. -/
def asMapOrNull : Value K → Result (Option (Map K))
  | null => .ok none
  | map entries => .ok (some entries)
  | _ => .error .typeError

/-- Cast to `Map<String, dynamic>`. -/
def asMap : Value K → Result (Map K)
  | map entries => .ok entries
  | _ => .error .typeError

/-- Cast to `List`. -/
def asList : Value K → Result (List (Value K))
  | list xs => .ok xs
  | _ => .error .typeError

/-- `List<String>.from(v)`. -/
def asStringList : Value K → Result (List String)
  | list xs => xs.mapM asString
  | _ => .error .typeError

/-- `(v as num).toDouble()`. -/
def numToDouble [IntCast K] : Value K → Result (Double K)
  | int n => .ok (.fin n)
  | double x => .ok x
  | _ => .error .typeError

def ofStringOrNull : Option String → Value K
  | none => null
  | some s => str s

def ofDoubleOrNull : Option (Double K) → Value K
  | none => null
  | some x => double x

def ofMapOrNull : Option (Map K) → Value K
  | none => null
  | some m => map m

def ofStrings (xs : List String) : Value K := list (xs.map str)

def ofStringsOrNull : Option (List String) → Value K
  | none => null
  | some xs => ofStrings xs

end Casts

section Lemmas
variable {K : Type}

@[simp] theorem asStringOrNull_ofStringOrNull (s : Option String) :
    asStringOrNull (ofStringOrNull s : Value K) = .ok s := by
  cases s <;> rfl

theorem ofStringOrNull_some (s : String) : ofStringOrNull (some s) = (str s : Value K) := rfl

theorem ofMapOrNull_some (m : Map K) : ofMapOrNull (some m) = map m := rfl

@[simp] theorem numToDouble_ofDoubleOrNull [IntCast K] (x : Double K) :
    numToDouble (ofDoubleOrNull (some x)) = .ok x := rfl

@[simp] theorem asStringList_ofStrings (xs : List String) :
    asStringList (ofStrings xs : Value K) = .ok xs := by
  change (xs.map str).mapM (asString (K := K)) = .ok xs
  induction xs with
  | nil => rfl
  | cons x xs ih =>
    rw [List.map_cons, List.mapM_cons, ih]
    rfl

theorem asStringOrNull_eq_ok_iff {v : Value K} {s : Option String} :
    v.asStringOrNull = .ok s ↔ v = ofStringOrNull s := by
  cases v with
  | null => cases s <;> simp [asStringOrNull, ofStringOrNull]
  | str t => cases s <;> simp [asStringOrNull, ofStringOrNull]
  | _ => cases s <;> simp [asStringOrNull, ofStringOrNull]

theorem asDoubleOrNull_eq_ok_iff {v : Value K} {x : Option (Double K)} :
    v.asDoubleOrNull = .ok x ↔ v = ofDoubleOrNull x := by
  cases v with
  | null => cases x <;> simp [asDoubleOrNull, ofDoubleOrNull]
  | double y => cases x <;> simp [asDoubleOrNull, ofDoubleOrNull]
  | _ => cases x <;> simp [asDoubleOrNull, ofDoubleOrNull]

theorem asString_eq_ok_iff {v : Value K} {s : String} : v.asString = .ok s ↔ v = str s := by
  cases v <;> simp [asString]

theorem asList_eq_ok_iff {v : Value K} {xs : List (Value K)} : v.asList = .ok xs ↔ v = list xs := by
  cases v <;> simp [asList]

theorem mapM_asString_eq_ok_iff {vs : List (Value K)} {xs : List String} :
    vs.mapM asString = .ok xs ↔ vs = xs.map str := by
  induction vs generalizing xs with
  | nil =>
    rw [List.mapM_nil, pure_eq_ok, eq_comm, eq_comm (a := [])]
    exact List.map_eq_nil_iff.symm
  | cons v vs ih =>
    simp only [List.mapM_cons, bind_eq_ok, asString_eq_ok_iff, ih, pure_eq_ok]
    cases xs with
    | nil => simp
    | cons x xs => simp

theorem asStringList_eq_ok_iff {v : Value K} {xs : List String} :
    v.asStringList = .ok xs ↔ v = ofStrings xs := by
  cases v with
  | list vs => simp [asStringList, ofStrings, mapM_asString_eq_ok_iff]
  | _ => simp [asStringList, ofStrings]

theorem index_eq_ok_iff {v w : Value K} {key : String} :
    v.index key = .ok w ↔ ∃ entries, v = map entries ∧ Map.get entries key = w := by
  cases v <;> simp [index]

@[simp] theorem asString_str (s : String) : asString (str s : Value K) = .ok s := rfl

@[simp] theorem orElse_null (d : Value K) : orElse null d = d := rfl

@[simp] theorem orElse_str (s : String) (d : Value K) : orElse (str s) d = str s := rfl

@[simp] theorem orElse_double (x : Double K) (d : Value K) : orElse (double x) d = double x := rfl

theorem orElse_list (xs : List (Value K)) (d : Value K) : orElse (list xs) d = list xs := rfl

@[simp] theorem orElse_ofStrings (xs : List String) (d : Value K) :
    orElse (ofStrings xs) d = ofStrings xs := rfl

@[simp] theorem index_map (m : Map K) (key : String) : index (map m) key = .ok (Map.get m key) := rfl

end Lemmas
end Value

end DartValues
